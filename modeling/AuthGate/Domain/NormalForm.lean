import AuthGate.Domain.CompositionTable

/-! The composed normal form of a text: characters are taken apart, combining marks are put in
order, and what can be composed is composed again. -/
namespace AuthGate.Domain
open Text Unicode

/-- A character and the code points that it comes apart into. -/
def decompositionEntry (word : List Char) : Nat × List Nat :=
  match splitFirst (· == '>') word with
  | (source, some target) => (code source, (target.splitOn '_').map code)
  | (source, none) => (code source, [])

def compositions : List (Nat × List Nat) := (compositionLines.flatMap words).map decompositionEntry

def decompositions : List (Nat × List Nat) :=
  (decompositionLines.flatMap words).map decompositionEntry

def combiningClasses : List ((Nat × Nat) × Nat) :=
  (combiningLines.flatMap words).map fun word =>
    match splitFirst (· == ':') word with
    | (range, some number) => (span range, code number)
    | (range, none) => (span range, 0)

/-- The class of a mark; characters that start a new group have class zero. -/
def combiningClass (c : Nat) : Nat :=
  ((combiningClasses.find? fun entry => entry.1.1 ≤ c && c ≤ entry.1.2).map (·.2)).getD 0

namespace Hangul

def first : Nat := 0xAC00
def count : Nat := 11172
def leading : Nat := 0x1100
def vowel : Nat := 0x1161
def trailing : Nat := 0x11A7

/-- The letters of a syllable. -/
def decompose? (c : Nat) : Option (List Nat) :=
  if first ≤ c && c < first + count then
    let index := c - first
    let letters := [leading + index / 588, vowel + index % 588 / 28]
    some (if index % 28 = 0 then letters else letters ++ [trailing + index % 28])
  else none

def compose? (a b : Nat) : Option Nat :=
  if leading ≤ a && a < leading + 19 && vowel ≤ b && b < vowel + 21 then
    some (first + ((a - leading) * 21 + (b - vowel)) * 28)
  else if first ≤ a && a < first + count && (a - first) % 28 == 0
      && trailing < b && b < trailing + 28 then
    some (a + (b - trailing))
  else none

end Hangul

/-- How deep decompositions are nested in each other. -/
def decompositionDepth : Nat := 8

def decomposeCode : Nat → Nat → List Nat
  | 0, c => [c]
  | fuel + 1, c =>
    match Hangul.decompose? c with
    | some letters => letters
    | none =>
      match (compositions.lookup c).or (decompositions.lookup c) with
      | some parts => parts.flatMap (decomposeCode fuel)
      | none => [c]

/-- Put a mark behind the marks of its own and of lower classes; the list is reversed. -/
def insertMark (mark : Nat × Nat) : List (Nat × Nat) → List (Nat × Nat)
  | [] => [mark]
  | other :: rest =>
    if other.2 > mark.2 && mark.2 != 0 then other :: insertMark mark rest
    else mark :: other :: rest

/-- Code points with their classes, marks in order. -/
def reorder (codes : List Nat) : List (Nat × Nat) :=
  (codes.foldl (fun done c => insertMark (c, combiningClass c) done) []).reverse

def composePair? (a b : Nat) : Option Nat :=
  (Hangul.compose? a b).or ((compositions.find? fun entry => entry.2 == [a, b]).map (·.1))

/-- Compose each group from its start; `pending` holds the marks left behind it, last one first. -/
def composeFrom (start : Option Nat) (pending : List (Nat × Nat)) : List (Nat × Nat) → List Nat
  | [] => start.toList ++ (pending.map (·.1)).reverse
  | (c, level) :: rest =>
    match start with
    | none =>
      if level = 0 then composeFrom (some c) [] rest else c :: composeFrom none [] rest
    | some head =>
      let reachable := match pending with
        | [] => true
        | (_, last) :: _ => last < level
      match if reachable then composePair? head c else none with
      | some composed => composeFrom (some composed) pending rest
      | none =>
        if level = 0 then head :: (pending.map (·.1)).reverse ++ composeFrom (some c) [] rest
        else composeFrom (some head) ((c, level) :: pending) rest

/-- The composed normal form. -/
def composed (text : List Char) : List Char :=
  let codes := text.flatMap fun c => decomposeCode decompositionDepth c.toNat
  (composeFrom none [] (reorder codes)).map Char.ofNat

end AuthGate.Domain
