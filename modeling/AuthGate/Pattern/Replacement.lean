import AuthGate.Pattern.Parser
import AuthGate.Pattern.Search

/-! Replacing the first match of a pattern by a text that may refer to its groups. -/
namespace AuthGate
open Text

/-- Why a text is not a pattern. -/
inductive PatternError where
  | malformed
  | tooLarge
  deriving DecidableEq, Repr

def PatternError.message : PatternError → String
  | .malformed => "regex parse error"
  | .tooLarge => "Compiled regex exceeds size limit of 10485760 bytes."

/-- A pattern that is ready to be searched for. The groups are numbered from one; zero is the whole
match. -/
structure Pattern where
  groups : Nat
  names : List (String × Nat)
  program : Array Pattern.Instruction

namespace Pattern

def sizeLimit : Nat := 10485760

def parse (text : String) : Except PatternError Pattern :=
  match read? text with
  | none => .error .malformed
  | some parsed =>
    if parsed.node.weight > sizeLimit then .error .tooLarge
    else .ok ⟨parsed.groups, parsed.names, (compile (.group 0 parsed.node) ++ [Instruction.accept]).toArray⟩

/-- The first match in a text: where each group begins and ends. -/
structure Match where
  slots : Slots

def Match.span? (found : Match) (group : Nat) : Option (Nat × Nat) := do
  let start ← (found.slots[2 * group]?).join
  let stop ← (found.slots[2 * group + 1]?).join
  return (start, stop)

/-- The part of the text that a group matched; a group that took no part is empty. -/
def Match.groupText (found : Match) (text : List Char) (group : Nat) : List Char :=
  match found.span? group with
  | some (start, stop) => (text.take stop).drop start
  | none => []

def find? (pattern : Pattern) (text : List Char) : Option Match :=
  (search pattern.program pattern.groups text).map Match.mk

/-- A part of a replacement. -/
inductive Template where
  | literal (text : List Char)
  | group (number : Nat)
  | named (name : String)
  deriving DecidableEq, Repr

namespace Template

def isNameChar (c : Char) : Bool := isAlphanum c || c == '_'

/-- A reference is a number if it reads as one; a plus sign in front of it is accepted. -/
def ofReference (name : List Char) : Template :=
  let digits := match name with
    | '+' :: rest => rest
    | _ => name
  match digitsValue? 10 digits with
  | some number => if number < 18446744073709551616 then .group number else .named (String.ofList name)
  | none => .named (String.ofList name)

/-- The reference behind a dollar sign, and the number of characters that it takes. -/
def reference? (rest : List Char) : Option (Template × Nat) :=
  match rest with
  | [] => none
  | '\x7b' :: inside =>
    match splitFirst (· == '\x7d') inside with
    | (name, some _) => some (ofReference name, name.length + 2)
    | (_, none) => none
  | _ =>
    let name := rest.takeWhile isNameChar
    if name.isEmpty then none else some (ofReference name, name.length)

/-- Read a replacement; a dollar sign that refers to nothing stands for itself, and so does a doubled
one. `skipped` counts the characters of the last reference that are still to be passed over. -/
def read (skipped : Nat) : List Char → List Template
  | [] => []
  | c :: rest =>
    match skipped with
    | skipped + 1 => read skipped rest
    | 0 =>
      if c = '$' then
        if rest.head? = some '$' then .literal ['$'] :: read 1 rest
        else
          match reference? rest with
          | some (template, length) => template :: read length rest
          | none => .literal ['$'] :: read 0 rest
      else .literal [c] :: read 0 rest

end Template

/-- The text that a part of a replacement stands for. A name that no group has is empty. -/
def expandPart (pattern : Pattern) (found : Match) (text : List Char) : Template → List Char
  | .literal chars => chars
  | .group number => found.groupText text number
  | .named name =>
    match pattern.names.lookup name with
    | some number => found.groupText text number
    | none => []

def expand (pattern : Pattern) (found : Match) (text replacement : List Char) : List Char :=
  (Template.read 0 replacement).flatMap (pattern.expandPart found text)

/-- Replace the first match; `none` if there is none. -/
def replaceFirst? (pattern : Pattern) (replacement text : List Char) : Option (List Char) := do
  let found ← pattern.find? text
  let (start, stop) ← found.span? 0
  return text.take start ++ pattern.expand found text replacement ++ text.drop stop

end Pattern
end AuthGate
