import AuthGate.Unicode.Ranges

/-! Tables that replace characters by others. `41-5A>61` shifts a whole range, `100-12E|101` every
second character of it, and `3F0=3B1` gives the same text for each character; the code points of a
longer text are joined by low lines. -/
namespace AuthGate.Unicode
open Text

/-- How a range of characters is replaced. -/
inductive Shift where
  | same
  | each
  | alternate
  deriving DecidableEq, Repr

structure Replacement where
  range : Nat × Nat
  shift : Shift
  target : List Nat
  deriving DecidableEq, Repr

namespace Replacement

def ofWord (word : List Char) : Replacement :=
  let shift :=
    if word.contains '=' then Shift.same else if word.contains '|' then .alternate else .each
  match splitFirst (fun c => c == '=' || c == '|' || c == '>') word with
  | (range, some target) => ⟨span range, shift, (target.splitOn '_').map code⟩
  | (range, none) => ⟨span range, shift, []⟩

def table (lines : List String) : List Replacement := (lines.flatMap words).map ofWord

/-- The text for a character of the range. -/
def image? (entry : Replacement) (c : Nat) : Option (List Nat) :=
  if c < entry.range.1 || entry.range.2 < c then none
  else
    let offset := c - entry.range.1
    match entry.shift with
    | .same => some entry.target
    | .each => some (entry.target.mapIdx fun i t => if i = 0 then t + offset else t)
    | .alternate => if offset % 2 = 0 then some (entry.target.map (· + offset)) else none

/-- The characters that are replaced by a single one. -/
def sources (entry : Replacement) (target : Nat) : List Nat :=
  match entry.target with
  | [first] =>
    let c := entry.range.1 + (target - first)
    if entry.shift ≠ .same && first ≤ target && entry.image? c == some [target] then [c] else []
  | _ => []

end Replacement
end AuthGate.Unicode
