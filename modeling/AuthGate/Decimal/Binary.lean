import AuthGate.Text.Ascii

/-! Binary numbers of 53 significant bits: the one nearest to a decimal, and the shortest decimal that
is read back as the same number. -/
namespace AuthGate

/-- A number `mantissa * 2 ^ exponent` with a sign, or one beyond the finite ones. -/
inductive Binary where
  | finite (negative : Bool) (mantissa : Nat) (exponent : Int)
  | infinite (negative : Bool)
  | undefined
  deriving DecidableEq, Repr

namespace Binary

def mantissaBits : Nat := 53
def leastExponent : Int := -1074
def greatestExponent : Int := 971

/-- A power that may be a fraction, as numerator and denominator. -/
def power (base : Nat) (exponent : Int) : Nat × Nat :=
  if exponent ≥ 0 then (Nat.pow base exponent.toNat, 1) else (1, Nat.pow base (-exponent).toNat)

/-- The nearest whole number to a quotient; a half goes to the even neighbour. -/
def roundedQuotient (numerator denominator : Nat) : Nat :=
  let floor := numerator / denominator
  let twice := 2 * (numerator % denominator)
  if twice > denominator || (twice == denominator && floor % 2 == 1) then floor + 1 else floor

/-- The mantissa of a quotient for a given exponent. -/
def mantissaAt (numerator denominator : Nat) (exponent : Int) : Nat :=
  let (up, down) := power 2 exponent
  roundedQuotient (numerator * down) (denominator * up)

/-- The number nearest to `digits * 10 ^ exponent`. -/
def ofDecimal (negative : Bool) (digits : Nat) (exponent : Int) : Binary :=
  let size : Int := (Nat.toDigits 10 digits).length + exponent
  if digits = 0 || size < -400 then .finite negative 0 0
  else if size > 400 then .infinite negative
  else
    let (up, down) := power 10 exponent
    let numerator := digits * up
    let guess : Int := (numerator.log2 : Int) - (down.log2 : Int) - mantissaBits
    let fits (e : Int) : Bool := mantissaAt numerator down e < Nat.pow 2 mantissaBits
    let exponent := max leastExponent (if fits guess then guess else if fits (guess + 1) then guess + 1
      else guess + 2)
    if exponent > greatestExponent then .infinite negative
    else .finite negative (mantissaAt numerator down exponent) exponent

/-- A decimal `digits * 10 ^ exponent`. -/
structure Decimal where
  digits : Nat
  exponent : Int

/-- The better of the two decimals around a number on a grid, if it is read back as the number.
`value`, `low` and `high` are the number and the ends of what is read back as it, over one
denominator. -/
def onGrid? (value low high denominator : Nat) (closed : Bool) (grid : Int) : Option Decimal :=
  let (up, down) := power 10 grid
  let unit := denominator * up
  let floor := value * down / unit
  let inside (n : Nat) : Bool :=
    if closed then low * down ≤ n * unit && n * unit ≤ high * down
    else low * down < n * unit && n * unit < high * down
  let below := value * down - floor * unit
  let above := (floor + 1) * unit - value * down
  let preferred := if below ≤ above then [floor, floor + 1] else [floor + 1, floor]
  (preferred.find? inside).map fun n => ⟨n, grid⟩

/-- The shortest decimal that is read back as the number; of those, the nearest. -/
def shortest (mantissa : Nat) (exponent : Int) : Decimal :=
  let (up, down) := power 2 (exponent - 2)
  let value := 4 * mantissa * up
  let edge := mantissa = Nat.pow 2 (mantissaBits - 1) && exponent > leastExponent
  let low := (4 * mantissa - (if edge then 1 else 2)) * up
  let high := (4 * mantissa + 2) * up
  let size : Int := (Nat.toDigits 10 (value / down)).length
  let start := if value ≥ down then size else size - ((Nat.toDigits 10 (down / value)).length : Int)
  ((List.range 20).findSome? fun (i : Nat) =>
    onGrid? value low high down (mantissa % 2 == 0) (start + 1 - (i : Int))).getD ⟨mantissa, 0⟩

/-- A decimal in positional notation, with at least one digit on each side of the point. -/
def positional (decimal : Decimal) : String :=
  let digits := Nat.toDigits 10 decimal.digits
  if decimal.exponent ≥ 0 then
    String.ofList (digits ++ List.replicate decimal.exponent.toNat '0') ++ ".0"
  else
    let places := (-decimal.exponent).toNat
    let padded := List.replicate (places + 1 - digits.length) '0' ++ digits
    String.ofList (padded.take (padded.length - places) ++ '.' :: padded.drop (padded.length - places))

def text : Binary → String
  | .finite negative mantissa exponent =>
    (if negative then "-" else "") ++
      (if mantissa = 0 then "0.0" else positional (shortest mantissa exponent))
  | .infinite negative => if negative then "-inf" else "inf"
  | .undefined => "NaN"

end Binary
end AuthGate
