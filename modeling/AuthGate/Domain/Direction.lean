import AuthGate.Domain.DirectionTable
import AuthGate.Domain.NormalForm

namespace AuthGate.Domain
open Text Unicode

def labelled (lines : List String) : List ((Nat × Nat) × String) :=
  (lines.flatMap words).map fun word =>
    match splitFirst (· == ':') word with
    | (range, some label) => (span range, String.ofList label)
    | (range, none) => (span range, "")

def directions : List ((Nat × Nat) × String) := labelled directionLines

def joinings : List ((Nat × Nat) × String) := labelled joiningLines

def labelOf (table : List ((Nat × Nat) × String)) (other : String) (c : Char) : String :=
  ((table.find? fun entry => entry.1.1 ≤ c.toNat && c.toNat ≤ entry.1.2).map (·.2)).getD other

def direction (c : Char) : String := labelOf directions "L" c

def joining (c : Char) : String := labelOf joinings "U" c

/-- A domain with a character that runs from right to left obeys the rules of direction. -/
def isRightToLeft (c : Char) : Bool := ["R", "AL", "AN"].contains (direction c)

/-- The rules of direction for one label. -/
def directionAllowed (label : List Char) : Bool :=
  let classes := label.map direction
  let last := ((classes.reverse.dropWhile (· == "NSM")).head?).getD ""
  match classes.head? with
  | none => true
  | some first =>
    if first == "R" || first == "AL" then
      classes.all (["R", "AL", "AN", "EN", "ES", "CS", "ET", "ON", "BN", "NSM"].contains ·)
        && ["R", "AL", "EN", "AN"].contains last
        && !(classes.contains "EN" && classes.contains "AN")
    else if first == "L" then
      classes.all (["L", "EN", "ES", "CS", "ET", "ON", "BN", "NSM"].contains ·)
        && ["L", "EN"].contains last
    else false

def isVirama (c : Char) : Bool := combiningClass c.toNat == 9

/-- The first character beyond those that are transparent for joining. -/
def joinedTo (chars : List Char) (classes : List String) : Bool :=
  match chars.dropWhile (joining · == "T") with
  | [] => false
  | c :: _ => classes.contains (joining c)

/-- A joiner stands behind a virama; the one that separates may also stand between joining letters.
`before` is reversed. -/
def joinersAllowed (before : List Char) : List Char → Bool
  | [] => true
  | c :: rest =>
    let behindVirama := (before.head?.map isVirama).getD false
    let allowed :=
      if c.toNat = 0x200D then behindVirama
      else if c.toNat = 0x200C then
        behindVirama || (joinedTo before ["L", "D"] && joinedTo rest ["R", "D"])
      else true
    allowed && joinersAllowed (c :: before) rest

end AuthGate.Domain
