import AuthGate.Text.Ascii

namespace AuthGate
open Text

inductive Ip where
  | v4 (address : UInt32)
  | v6 (pieces : List UInt16)
  deriving DecidableEq, Repr

namespace Ip

def octets (address : UInt32) : List Nat :=
  [address.toNat / 16777216, address.toNat / 65536 % 256, address.toNat / 256 % 256,
    address.toNat % 256]

def dotted (octets : List Nat) : String := String.intercalate "." (octets.map toString)

/-- The first longest run of at least two zeros: its position and length. -/
def zeroRun (pieces : List UInt16) : Option (Nat × Nat) :=
  let runFrom (start : Nat) : Nat := ((pieces.drop start).takeWhile (· == 0)).length
  (List.range pieces.length).foldl
    (fun best start =>
      let length := runFrom start
      match best with
      | some (_, longest) => if length > longest then some (start, length) else best
      | none => if length ≥ 2 then some (start, length) else none)
    none

def joinPieces (pieces : List UInt16) : String :=
  String.intercalate ":" (pieces.map fun piece => hexNumber piece.toNat)

def compressed (pieces : List UInt16) : String :=
  match zeroRun pieces with
  | none => joinPieces pieces
  | some (start, length) =>
    joinPieces (pieces.take start) ++ "::" ++ joinPieces (pieces.drop (start + length))

/-- An address that stands for one of version four ends in its dotted form. -/
def text : Ip → String
  | .v4 address => dotted (octets address)
  | .v6 pieces =>
    match pieces with
    | [0, 0, 0, 0, 0, 0xFFFF, high, low] =>
      "::ffff:" ++ dotted [high.toNat / 256, high.toNat % 256, low.toNat / 256, low.toNat % 256]
    | _ => compressed pieces

/-- A decimal byte without leading zeros. -/
def octet? (digits : List Char) : Option Nat :=
  if digits.length > 1 && digits.head? == some '0' then none
  else (digitsValue? 10 digits).filter (· < 256)

/-- Read a dotted address of four decimal bytes. -/
def octets? (text : List Char) : Option (List Nat) :=
  match (text.splitOn '.').mapM octet? with
  | some octets => if octets.length = 4 then some octets else none
  | none => none

/-- The two pieces that a dotted address stands for at the end of an IPv6 address. -/
def dottedPieces? (text : List Char) : Option (List UInt16) :=
  match octets? text with
  | some [a, b, c, d] => some [UInt16.ofNat (256 * a + b), UInt16.ofNat (256 * c + d)]
  | _ => none

def piece? (digits : List Char) : Option UInt16 :=
  if digits.length > 4 then none else (digitsValue? 16 digits).map UInt16.ofNat

/-- Pieces between colons; the last may be a dotted address where that is allowed. -/
def pieces? (dotted : Bool) (text : List Char) : Option (List UInt16) :=
  if text.isEmpty then some []
  else
    let parts := text.splitOn ':'
    match parts.getLast? with
    | none => none
    | some last =>
      if dotted && last.contains '.' then do
        return (← parts.dropLast.mapM piece?) ++ (← dottedPieces? last)
      else parts.mapM piece?

/-- Split a text at its first double colon. -/
def splitDoubleColon : List Char → Option (List Char × List Char)
  | ':' :: ':' :: rest => some ([], rest)
  | c :: rest => (splitDoubleColon rest).map fun (before, behind) => (c :: before, behind)
  | [] => none

/-- Read an IPv6 address: eight pieces, or fewer with a double colon for the missing zeros. -/
def v6? (text : List Char) : Option (List UInt16) := do
  match splitDoubleColon text with
  | none =>
    let pieces ← pieces? true text
    if pieces.length = 8 then some pieces else none
  | some (before, behind) =>
    let left ← pieces? false before
    let right ← pieces? true behind
    if left.length + right.length > 7 then none
    else some (left ++ List.replicate (8 - left.length - right.length) 0 ++ right)

def ofOctets (octets : List Nat) : UInt32 :=
  UInt32.ofNat (octets.foldl (fun value octet => 256 * value + octet) 0)

def parse (text : List Char) : Option Ip :=
  match octets? text with
  | some octets => some (.v4 (ofOctets octets))
  | none => (v6? text).map .v6

end Ip
end AuthGate
