/-! Characters of ASCII, bytes, and the few list operations that every grammar of this library
shares. -/
namespace AuthGate.Text

def isUpper (c : Char) : Bool := 'A' ≤ c && c ≤ 'Z'

def isLower (c : Char) : Bool := 'a' ≤ c && c ≤ 'z'

def isAlpha (c : Char) : Bool := isUpper c || isLower c

def isDigit (c : Char) : Bool := '0' ≤ c && c ≤ '9'

def isAlphanum (c : Char) : Bool := isAlpha c || isDigit c

def isAscii (c : Char) : Bool := c.toNat < 128

/-- Upper case for the letters of ASCII; every other character is kept. -/
def upper (c : Char) : Char := if isLower c then Char.ofNat (c.toNat - 32) else c

/-- Lower case for the letters of ASCII; every other character is kept. -/
def lower (c : Char) : Char := if isUpper c then Char.ofNat (c.toNat + 32) else c

/-- The value of a digit in a base of at most sixteen. -/
def digitValue? (base : Nat) (c : Char) : Option Nat :=
  let value :=
    if isDigit c then some (c.toNat - '0'.toNat)
    else if 'a' ≤ c && c ≤ 'f' then some (c.toNat - 'a'.toNat + 10)
    else if 'A' ≤ c && c ≤ 'F' then some (c.toNat - 'A'.toNat + 10)
    else none
  value.filter (· < base)

def hexValue? (c : Char) : Option Nat := digitValue? 16 c

/-- The number that a list of digits of a base spells; the empty list spells none. -/
def digitsValue? (base : Nat) (digits : List Char) : Option Nat :=
  if digits.isEmpty then none
  else digits.foldlM (fun value c => (digitValue? base c).map (base * value + ·)) 0

/-- The digit for a value below sixteen, in upper case. -/
def hexDigit (value : Nat) : Char :=
  if value < 10 then Char.ofNat ('0'.toNat + value) else Char.ofNat ('A'.toNat + (value - 10))

/-- Both digits of a byte, in upper case. -/
def hexByte (byte : UInt8) : List Char :=
  [hexDigit (byte.toNat / 16), hexDigit (byte.toNat % 16)]

/-- Digits of a number in base sixteen, in lower case and without leading zeros. -/
def hexNumber (value : Nat) : String := String.ofList (Nat.toDigits 16 value)

/-- The bytes of a text in UTF-8. -/
def utf8 (text : List Char) : List UInt8 := text.flatMap String.utf8EncodeChar

/-- The text that bytes spell in UTF-8, if they spell one. -/
def ofUtf8? (bytes : List UInt8) : Option String := String.fromUTF8? ⟨bytes.toArray⟩

/-- A character of ASCII as a byte. -/
def byte (c : Char) : UInt8 := UInt8.ofNat c.toNat

/-- Bytes as characters of the same number. -/
def ofBytes (bytes : List UInt8) : List Char := bytes.map fun b => Char.ofNat b.toNat

def dropEndWhile (drop : α → Bool) (items : List α) : List α :=
  (items.reverse.dropWhile drop).reverse

def trimWhile (drop : α → Bool) (items : List α) : List α :=
  dropEndWhile drop (items.dropWhile drop)

/-- The rest of a list behind a given beginning. -/
def dropPrefix? [DecidableEq α] : List α → List α → Option (List α)
  | [], items => some items
  | _ :: _, [] => none
  | expected :: more, item :: items =>
    if expected = item then dropPrefix? more items else none

/-- A list occurs in another one as it is. -/
def occursIn [BEq α] (part : List α) : List α → Bool
  | [] => part.isEmpty
  | item :: items => part.isPrefixOf (item :: items) || occursIn part items

/-- The items before the first one that passes the test, and the items behind it if there is one. -/
def splitFirst (found : α → Bool) : List α → List α × Option (List α)
  | [] => ([], none)
  | item :: items =>
    if found item then ([], some items)
    else
      let (before, behind) := splitFirst found items
      (item :: before, behind)

end AuthGate.Text
