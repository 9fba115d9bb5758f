import AuthGate.Text.Ascii

/-! Percent-encoding. Each part of a URL has a set of characters that it cannot hold as they are. -/
namespace AuthGate.Percent
open Text

/-- Controls and everything beyond printable ASCII. -/
def inControls (c : Char) : Bool := c < ' ' || '~' < c

def inFragment (c : Char) : Bool := inControls c || " \"<>`".toList.contains c

def inQuery (c : Char) : Bool := inControls c || " \"#<>".toList.contains c

/-- The query of a URL of the web cannot hold an apostrophe either. -/
def inSpecialQuery (c : Char) : Bool := inQuery c || c == '\''

def inPath (c : Char) : Bool := inFragment c || "#?\x7b\x7d".toList.contains c

def inUserinfo (c : Char) : Bool := inPath c || "/:;=@[\\]^|".toList.contains c

def escapeByte (b : UInt8) : List Char := '%' :: hexByte b

/-- Escape the characters of a set. -/
def encode (set : Char → Bool) (text : List Char) : List Char :=
  text.flatMap fun c => if set c then (String.utf8EncodeChar c).flatMap escapeByte else [c]

/-- Replace each well-formed escape by its byte and keep everything else. -/
def decode : List UInt8 → List UInt8
  | [] => []
  | [b] => [b]
  | [b, c] => [b, c]
  | b :: high :: low :: rest =>
    if b = 0x25 then
      match hexValue? (Char.ofNat high.toNat), hexValue? (Char.ofNat low.toNat) with
      | some h, some l => UInt8.ofNat (16 * h + l) :: decode rest
      | _, _ => b :: decode (high :: low :: rest)
    else b :: decode (high :: low :: rest)

end AuthGate.Percent
