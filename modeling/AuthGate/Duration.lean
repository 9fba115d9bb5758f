import AuthGate.Text.Ascii

namespace AuthGate
open Text

structure Duration where
  micros : Nat
  deriving DecidableEq, Repr

namespace Duration

def ofMillis (millis : Nat) : Duration := ⟨1000 * millis⟩

def ofSecs (secs : Nat) : Duration := ⟨1000000 * secs⟩

/-- The digits of a fraction in a fixed number of places, without the zeros at its end. -/
def fractionDigits (places value : Nat) : List Char :=
  let digits := Nat.toDigits 10 value
  dropEndWhile (· == '0') (List.replicate (places - digits.length) '0' ++ digits)

/-- A number of units that each have a power of ten of microseconds. -/
def inUnits (micros places : Nat) (unit : String) : String :=
  let fraction := fractionDigits places (micros % Nat.pow 10 places)
  toString (micros / Nat.pow 10 places)
    ++ (if fraction.isEmpty then "" else "." ++ String.ofList fraction) ++ unit

/-- The text in the largest unit of which there is at least one. -/
def text (duration : Duration) : String :=
  if duration.micros = 0 then "0ns"
  else if duration.micros < 1000 then inUnits duration.micros 0 "µs"
  else if duration.micros < 1000000 then inUnits duration.micros 3 "ms"
  else inUnits duration.micros 6 "s"

end Duration
end AuthGate
