import AuthGate.Address.Ip

namespace AuthGate
open Text

structure SocketAddress where
  ip : Ip
  port : Nat
  deriving DecidableEq, Repr

namespace SocketAddress

/-- A decimal number below a bound; leading zeros are allowed. -/
def number? (bound : Nat) (digits : List Char) : Option Nat :=
  (digitsValue? 10 digits).filter (· < bound)

/-- An address of version six, possibly with the number of its zone. -/
def zoned? (text : List Char) : Option Ip :=
  match splitFirst (· == '%') text with
  | (address, none) => (Ip.v6? address).map .v6
  | (address, some zone) =>
    match number? (4294967296) zone with
    | some _ => (Ip.v6? address).map .v6
    | none => none

/-- Read an address with a port; one of version six stands in brackets. -/
def parse (text : String) : Option SocketAddress := do
  match text.toList with
  | '[' :: rest =>
    match splitFirst (· == ']') rest with
    | (address, some (':' :: port)) => return ⟨← zoned? address, ← number? 65536 port⟩
    | _ => none
  | chars =>
    match splitFirst (· == ':') chars with
    | (address, some port) =>
      let octets ← Ip.octets? address
      return ⟨.v4 (Ip.ofOctets octets), ← number? 65536 port⟩
    | (_, none) => none

/-- The text of a socket address. -/
def text (address : SocketAddress) : String :=
  let host := match address.ip with
    | .v4 _ => address.ip.text
    | .v6 _ => "[" ++ address.ip.text ++ "]"
  host ++ ":" ++ toString address.port

end SocketAddress
end AuthGate
