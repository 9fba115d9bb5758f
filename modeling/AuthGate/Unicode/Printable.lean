import AuthGate.Unicode.Category
import AuthGate.Unicode.Property

/-! Characters that show by themselves: all but those without a shape and those that join the one
before them. -/
namespace AuthGate.Unicode

/-- Controls, formats, surrogates, private and unassigned code points, and separators other than
the blank. -/
def isShapeless (c : Char) : Bool :=
  c != ' ' && [control, format, surrogate, privateUse, unassigned, spaceSeparator, lineSeparator,
    paragraphSeparator].any (·.contains c.toNat)

def isPrintable (c : Char) : Bool := !isShapeless c && !graphemeExtend.contains c.toNat

def isMark (c : Char) : Bool :=
  [nonspacingMark, spacingMark, enclosingMark].any (·.contains c.toNat)

def isAlphanumeric (c : Char) : Bool :=
  [alphabetic, decimalNumber, letterNumber, otherNumber].any (·.contains c.toNat)

/-- Characters that separate words. -/
def isBlank (c : Char) : Bool := whiteSpace.contains c.toNat

end AuthGate.Unicode
