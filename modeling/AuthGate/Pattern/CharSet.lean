import AuthGate.Unicode.Category
import AuthGate.Unicode.Folding
import AuthGate.Unicode.Property
import AuthGate.Unicode.Script

namespace AuthGate.Pattern
open Text Unicode

inductive CharSet where
  | ranges (table : Ranges)
  | union (left right : CharSet)
  | intersection (left right : CharSet)
  | difference (left right : CharSet)
  | symmetricDifference (left right : CharSet)
  | complement (set : CharSet)
  | anyCase (set : CharSet)
  | anyAsciiCase (set : CharSet)
  deriving DecidableEq, Repr

namespace CharSet

def empty : CharSet := .ranges []

def single (c : Char) : CharSet := .ranges [(c.toNat, c.toNat)]

/-- The letters of ASCII that differ in case alone. -/
def sameButAsciiCase (code : Nat) : List Nat :=
  let c := Char.ofNat code
  if isAscii c then [(lower c).toNat, (upper c).toNat] else [code]

def containsCode : CharSet → Nat → Bool
  | .ranges table, c => table.contains c
  | .union left right, c => left.containsCode c || right.containsCode c
  | .intersection left right, c => left.containsCode c && right.containsCode c
  | .difference left right, c => left.containsCode c && !right.containsCode c
  | .symmetricDifference left right, c => left.containsCode c != right.containsCode c
  | .complement set, c => !set.containsCode c
  | .anyCase set, c => (sameButCase c).any set.containsCode
  | .anyAsciiCase set, c => (sameButAsciiCase c).any set.containsCode

def contains (set : CharSet) (c : Char) : Bool := set.containsCode c.toNat

/-- All characters but line feed, or but both characters that end lines. -/
def withinLine (carriageReturn : Bool) : CharSet :=
  .complement (.ranges (if carriageReturn then [(10, 10), (13, 13)] else [(10, 10)]))

def all : CharSet := .ranges [(0, 0x10FFFF)]

def unions : List CharSet → CharSet
  | [] => .empty
  | [set] => set
  | set :: sets => .union set (unions sets)

/-- Decimal digits, blanks and the characters of words, in ASCII alone or everywhere. -/
def digits (unicode : Bool) : CharSet := .ranges (if unicode then decimalNumber else [(48, 57)])

def blanks (unicode : Bool) : CharSet :=
  .ranges (if unicode then whiteSpace else [(9, 13), (32, 32)])

def wordChars (unicode : Bool) : CharSet :=
  if unicode then
    unions ([alphabetic, nonspacingMark, spacingMark, enclosingMark, decimalNumber,
      connectorPunctuation, joinControl].map .ranges)
  else .ranges [(48, 57), (65, 90), (95, 95), (97, 122)]

/-- The classes of ASCII that have names. -/
def named? (name : String) : Option CharSet :=
  let table : List (String × Ranges) :=
    [("alnum", [(48, 57), (65, 90), (97, 122)]), ("alpha", [(65, 90), (97, 122)]),
      ("ascii", [(0, 127)]), ("blank", [(9, 9), (32, 32)]), ("cntrl", [(0, 31), (127, 127)]),
      ("digit", [(48, 57)]), ("graph", [(33, 126)]), ("lower", [(97, 122)]),
      ("print", [(32, 126)]), ("punct", [(33, 47), (58, 64), (91, 96), (123, 126)]),
      ("space", [(9, 13), (32, 32)]), ("upper", [(65, 90)]),
      ("word", [(48, 57), (65, 90), (95, 95), (97, 122)]),
      ("xdigit", [(48, 57), (65, 70), (97, 102)])]
  (table.lookup name).map .ranges

/-- Names of properties are compared without case, blanks and joiners, and without `is` in front. -/
def normalName (name : List Char) : String :=
  let kept := (name.map lower).filter fun c => !(c == ' ' || c == '_' || c == '-') && isAscii c
  match kept with
  | 'i' :: 's' :: rest => if rest = ['c'] then "isc" else String.ofList rest
  | _ => String.ofList kept

def find? (table : List Property) (name : String) : Option CharSet :=
  (table.find? (·.names.contains name)).map (.ranges ·.ranges)

def category? (name : String) : Option CharSet :=
  if name = "any" then some .all
  else if name = "assigned" then some (.complement (.ranges unassigned))
  else if name = "ascii" then some (.ranges [(0, 127)])
  else
    match categoryGroups.find? (·.1.contains name) with
    | some (_, members) => some (unions (members.filterMap (find? categories)))
    | none => find? categories name

/-- The set that a property without a value names. -/
def property? (name : List Char) : Option CharSet :=
  let normal := normalName name
  (find? properties normal).or ((category? normal).or (find? scripts normal))

/-- The set of characters that have a value of a property. -/
def valued? (name value : List Char) : Option CharSet :=
  let property := normalName name
  if ["gc", "generalcategory"].contains property then category? (normalName value)
  else if ["sc", "script", "scx", "scriptextensions"].contains property then
    find? scripts (normalName value)
  else none

end CharSet
end AuthGate.Pattern
