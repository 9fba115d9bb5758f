import AuthGate.Text.Ascii

namespace AuthGate
open Text

def isValueByte (b : UInt8) : Bool := (0x20 ≤ b && b != 0x7F) || b == 0x09

/-- A byte that shows as a character of ASCII, or a blank or tab. -/
def isVisibleByte (b : UInt8) : Bool := (0x20 ≤ b && b ≤ 0x7E) || b == 0x09

structure HeaderValue where
  bytes : List UInt8
  valid : bytes.all isValueByte = true
  deriving DecidableEq

namespace HeaderValue

instance : Repr HeaderValue := ⟨fun value _ => repr value.bytes⟩

def ofBytes? (bytes : List UInt8) : Option HeaderValue :=
  if h : bytes.all isValueByte = true then some ⟨bytes, h⟩ else none

/-- The value that a text stands for, in UTF-8. -/
def ofText? (text : String) : Option HeaderValue := ofBytes? (utf8 text.toList)

/-- What is said of bytes that are no value. -/
def problem : String := "failed to parse header value"

/-- The text of a value in visible ASCII; any other value has none. -/
def text? (value : HeaderValue) : Option String :=
  if value.bytes.all isVisibleByte then some (String.ofList (ofBytes value.bytes)) else none

/-- Values in one, with a separator between them. -/
def joinBytes (separator : List UInt8) : List HeaderValue → List UInt8
  | [] => []
  | [value] => value.bytes
  | value :: values => value.bytes ++ separator ++ joinBytes separator values

end HeaderValue
end AuthGate
