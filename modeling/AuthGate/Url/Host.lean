import AuthGate.Address.Ip

/-! The host of a URL: a name or an address, with the readings that the dotted form allows and the
one text that each is written with. -/
namespace AuthGate
open Text

inductive Host where
  | name (text : String)
  | ip (address : Ip)
  deriving DecidableEq, Repr

namespace Host

/-- The text of a host as it stands in a URL. -/
def text : Host → String
  | .name text => text
  | .ip (.v4 address) => Ip.dotted (Ip.octets address)
  | .ip (.v6 pieces) => "[" ++ Ip.compressed pieces ++ "]"

/-- The number in a part of an IPv4 address, in base ten, eight or sixteen. A mark of base sixteen
that nothing follows is zero. -/
def ipv4Number? (part : List Char) : Option Nat :=
  match part with
  | '0' :: 'x' :: digits | '0' :: 'X' :: digits =>
    if digits.isEmpty then some 0 else digitsValue? 16 digits
  | '0' :: d :: digits => digitsValue? 8 (d :: digits)
  | _ => digitsValue? 10 part

/-- The parts of a dotted text, without the empty one behind a last dot. -/
def dottedParts (text : List Char) : List (List Char) :=
  let parts := text.splitOn '.'
  if parts.getLast? = some [] then parts.dropLast else parts

/-- A name that ends in a number has to be an IPv4 address. -/
def endsInNumber (text : List Char) : Bool :=
  match (dottedParts text).getLast? with
  | none => false
  | some last => (!last.isEmpty && last.all isDigit) || (ipv4Number? last).isSome

/-- Read an IPv4 address: the last part fills all bytes that the others leave. -/
def ipv4? (text : List Char) : Option UInt32 := do
  let parts := dottedParts text
  if parts.length > 4 then none
  else
    let numbers ← parts.mapM ipv4Number?
    let last ← numbers.getLast?
    let leading := numbers.dropLast
    if last ≥ Nat.pow 256 (4 - leading.length) || leading.any (· > 255) then none
    else
      let high := leading.foldl (fun value number => 256 * value + number) 0
      return UInt32.ofNat (high * Nat.pow 256 (4 - leading.length) + last)

end Host
end AuthGate
