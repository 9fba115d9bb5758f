import AuthGate.Log.Record
import AuthGate.Unicode.Printable

/-! Which records of the log are written. A filter is a list of directives such as
`auth_proxy=debug`, each of which sets a level for the parts of the program with a name that begins
so; the longest such name decides. -/
namespace AuthGate
open Text

/-- A level for some records. A level of zero writes none of them. -/
structure LogDirective where
  part : Option String := none
  inSpan : Bool := false
  fields : List (String × Bool) := []
  level : Nat := LogLevel.trace.rank
  deriving DecidableEq, Repr

namespace LogDirective

def levelNames : List (String × Nat) :=
  [("off", 0), ("error", 1), ("warn", 2), ("info", 3), ("debug", 4), ("trace", 5)]

/-- A number as it may stand for a level, possibly with a plus sign. -/
def levelNumber? (text : List Char) : Option Nat :=
  let digits := match text with
    | '+' :: digits => digits
    | digits => digits
  (digitsValue? 10 digits).filter (· ≤ LogLevel.trace.rank)

/-- A level by its number or its name in any case. -/
def level? (text : List Char) : Option Nat :=
  match levelNumber? text with
  | some level => some level
  | none =>
    if text.isEmpty then some LogLevel.error.rank
    else levelNames.lookup (String.ofList (text.map lower))

/-- Where the reading of a directive stands, with the position at which the current piece begins. -/
inductive Scan where
  | start
  | name (position : Nat)
  | span (position : Nat)
  | field (position : Nat)
  | fieldsClosed
  | spanClosed
  | level (position : Nat)
  deriving DecidableEq, Repr

def piece (text : List Char) (first last : Nat) : List Char := (text.drop first).take (last - first)

def isNameStart (c : Char) : Bool :=
  c == '-' || c == ':' || c == '_' || Unicode.isAlphanumeric c

/-- The name of a field and whether a value is asked of it. -/
def field (text : List Char) : String × Bool :=
  match splitFirst (· == '=') text with
  | (name, value) => (String.ofList name, value.isSome)

def scanChar (text : List Char) (directive : LogDirective) (position : Nat) (c : Char) :
    Scan → Option (LogDirective × Scan)
  | .start =>
    if c = '[' then some (directive, .span (position + 1))
    else if isNameStart c then some (directive, .name position)
    else none
  | .name first =>
    let named := { directive with part := some (String.ofList (piece text first position)) }
    if c = '=' then some (named, .level (position + 1))
    else if c = '[' then some (named, .span (position + 1))
    else some (directive, .name first)
  | .span first =>
    if c = ']' then some ({ directive with inSpan := true }, .spanClosed)
    else if c = '\x7b' then
      some ({ directive with inSpan := !(piece text first position).isEmpty }, .field (position + 1))
    else some (directive, .span first)
  | .field first =>
    if c = '\x7d' then
      let content := piece text first position
      if content.isEmpty then none
      else some ({ directive with fields := directive.fields ++ [field content] }, .fieldsClosed)
    else some (directive, .field first)
  | .fieldsClosed => if c = ']' then some (directive, .spanClosed) else none
  | .spanClosed => if c = '=' then some (directive, .level (position + 1)) else none
  | .level first => some (directive, .level first)

/-- The end of a text. A name alone is a level, if it is the name of one, and a part otherwise. -/
def scanEnd (text : List Char) (directive : LogDirective) : Scan → Option LogDirective
  | .name first =>
    let last := text.drop first
    match if last.isEmpty then none else level? last with
    | some level => some { directive with level }
    | none => some { directive with part := some (String.ofList last) }
  | .level first =>
    let last := text.drop first
    if last.isEmpty then some directive
    else (level? last).map fun level => { directive with level }
  | .spanClosed => some directive
  | _ => none

/-- Read a directive. The blanks around it are passed over, though positions count from its first
character. -/
def parse (text : List Char) : Option LogDirective := do
  let scanned := (trimWhile Unicode.isBlank text).zipIdx
  let (directive, scan) ← scanned.foldlM
    (fun (directive, scan) (c, position) => scanChar text directive position c scan)
    ({}, Scan.start)
  scanEnd text directive scan

/-- Directives that a record alone can meet. -/
def isStatic (directive : LogDirective) : Bool :=
  !directive.inSpan && !directive.fields.any (·.2)

def matchesPart (directive : LogDirective) (record : LogRecord) : Bool :=
  match directive.part with
  | none => true
  | some part => part.toList.isPrefixOf record.part.toList

/-- The directive speaks of the record: of its part, and of fields that it has. -/
def concerns (directive : LogDirective) (record : LogRecord) : Bool :=
  let names := "message" :: record.values.map (·.1)
  directive.isStatic && directive.matchesPart record
    && directive.fields.all fun field => names.contains field.1

/-- The longer its part and the more its fields, the more a directive says. -/
def saysAtLeast (first second : LogDirective) : Bool :=
  let size (directive : LogDirective) : Nat :=
    (directive.part.map fun part => part.utf8ByteSize + 1).getD 0
  size second < size first
    || (size first == size second && second.fields.length ≤ first.fields.length)

end LogDirective

structure LogFilter where
  directives : List LogDirective
  deriving DecidableEq, Repr

namespace LogFilter

/-- Without any directive only errors are written. -/
def ofDirectives (directives : List LogDirective) : LogFilter :=
  ⟨if directives.isEmpty then [{ level := LogLevel.error.rank }] else directives⟩

/-- The directives of a text, between commas. -/
def pieces (text : String) : List (List Char) :=
  (text.toList.splitOn ',').filter (!·.isEmpty)

/-- Read a filter, all of whose directives have to be well formed. -/
def parse (text : String) : Option LogFilter :=
  ((pieces text).mapM LogDirective.parse).map ofDirectives

/-- Read a filter without the directives that are malformed. -/
def parseLenient (text : String) : LogFilter :=
  ofDirectives ((pieces text).filterMap LogDirective.parse)

/-- The level of the program's own parts. -/
def ofLevel (level : String) : LogFilter :=
  parseLenient ("auth_proxy=" ++ level ++ ",tower_http=" ++ level)

/-- The directive that decides about a record; the last of those that say as much. -/
def deciding (filter : LogFilter) (record : LogRecord) : Option LogDirective :=
  (filter.directives.filter (·.concerns record)).foldl
    (fun best directive =>
      match best with
      | none => some directive
      | some other => if directive.saysAtLeast other then some directive else some other)
    none

def admits (filter : LogFilter) (record : LogRecord) : Bool :=
  match filter.deciding record with
  | none => false
  | some directive => record.level.rank ≤ directive.level

end LogFilter
end AuthGate
