import AuthGate.Text.Ascii

/-! Sets of characters as sorted ranges of code points, and the text in which tables of them are
written: `41-5A 5F 100-104/2` is the range from 41 to 5A, the single 5F and every second code point
from 100 to 104, in base sixteen. -/
namespace AuthGate.Unicode
open Text

/-- Sorted ranges of code points, both ends included. -/
abbrev Ranges := List (Nat × Nat)

def Ranges.contains : Ranges → Nat → Bool
  | [], _ => false
  | (low, high) :: rest, code =>
    if code < low then false else code ≤ high || Ranges.contains rest code

/-- The words of a line, which single blanks separate. -/
def words (line : String) : List (List Char) := line.toList.splitOn ' '

def code (digits : List Char) : Nat := (digitsValue? 16 digits).getD 0

/-- A range or a single code point. -/
def span (word : List Char) : Nat × Nat :=
  match splitFirst (· == '-') word with
  | (low, some high) => (code low, code high)
  | (single, none) => (code single, code single)

/-- The ranges that one word of a table stands for. -/
def spans (word : List Char) : Ranges :=
  match splitFirst (· == '/') word with
  | (range, some _) =>
    let (low, high) := span range
    (List.range ((high - low) / 2 + 1)).map fun i => (low + 2 * i, low + 2 * i)
  | (range, none) => [span range]

/-- Read a table of ranges. -/
def Ranges.ofLines (lines : List String) : Ranges := (lines.flatMap words).flatMap spans

/-- A set of characters with the names that it goes by, in lower case and without joiners. -/
structure Property where
  names : List String
  ranges : Ranges

def Property.ofLines (names : String) (lines : List String) : Property :=
  ⟨(words names).map String.ofList, .ofLines lines⟩

end AuthGate.Unicode
