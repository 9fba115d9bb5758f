import AuthGate.Domain.Direction
import AuthGate.Domain.MappingTable
import AuthGate.Domain.Punycode
import AuthGate.Unicode.Printable

/-! Domain names. The written name is mapped to lower case and normal form, and each label beyond
ASCII is replaced by its punycode. -/
namespace AuthGate.Domain
open Text Unicode

/-- Characters of ASCII that no host name holds. -/
def isForbidden (c : Char) : Bool :=
  c ≤ ' ' || c.toNat = 0x7F || "%#/:<>?@[\\]^|".toList.contains c

/-- The replacement of a character, if it has one. -/
def replacement? (c : Char) : Option (List Char) :=
  (replacements.findSome? (·.image? c.toNat)).map (·.map Char.ofNat)

/-- A character as it is read in a domain name; `none` if no name holds it. -/
def readChar (c : Char) : Option (List Char) :=
  if refused.contains c.toNat then none
  else if leftOut.contains c.toNat then some []
  else some ((replacement? c).getD [c])

/-- A character that is read as itself. -/
def isPlain (c : Char) : Bool := readChar c == some [c]

/-- What every label in its readable form obeys. -/
def labelAllowed (label : List Char) : Bool :=
  !((label.head?.map isMark).getD false)
    && label.all isPlain && composed label == label && joinersAllowed [] label

def encodedMark : List Char := ['x', 'n', '-', '-']

/-- The readable form of a label. Punycode has to spell an allowed label beyond ASCII. -/
def readable? (label : List Char) : Option (List Char) :=
  match dropPrefix? encodedMark label with
  | none => if labelAllowed label then some label else none
  | some digits =>
    match Punycode.decode? digits with
    | none => none
    | some decoded =>
      if decoded.all isAscii || !labelAllowed decoded then none else some decoded

def encodeLabel (label : List Char) : List Char :=
  if label.all isAscii then label else encodedMark ++ Punycode.encode label

/-- A name that needs no tables: in ASCII and without a label in punycode. -/
def isSimple (name : List Char) : Bool :=
  name.all isAscii
    && ((name.map lower).splitOn '.').all fun label => (dropPrefix? encodedMark label).isNone

/-- The name in ASCII that a written name stands for. -/
def toAscii? (name : List Char) : Option (List Char) := do
  if isSimple name then
    let lowered := name.map lower
    if lowered.any isForbidden then none else some lowered
  else
    let labels := (composed (← name.mapM readChar).flatten).splitOn '.'
    let shown ← labels.mapM readable?
    let ruled := shown.flatten.any isRightToLeft
    if (labels ++ shown).flatten.any isForbidden || (ruled && !shown.all directionAllowed) then none
    else some (['.'].intercalate (labels.map encodeLabel))

end AuthGate.Domain
