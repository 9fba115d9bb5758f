import AuthGate.Toml.Text
import AuthGate.Toml.Value

namespace AuthGate.Toml
open Text

/-- Digits of a base, with single low lines between them. -/
def digitRun (base : Nat) : List Char → Option (List Char × List Char)
  | [] => none
  | c :: '_' :: rest =>
    if (digitValue? base c).isNone then none
    else (digitRun base rest).map fun (digits, behind) => (c :: digits, behind)
  | c :: rest =>
    if (digitValue? base c).isNone then none
    else if (rest.head?.bind (digitValue? base)).isSome then
      (digitRun base rest).map fun (digits, behind) => (c :: digits, behind)
    else some ([c], rest)

/-- A whole number in base ten without leading zeros. -/
def wholeDigits : List Char → Option (List Char × List Char)
  | '0' :: rest => some (['0'], rest)
  | rest => digitRun 10 rest

def sign : List Char → Bool × List Char
  | '+' :: rest => (false, rest)
  | '-' :: rest => (true, rest)
  | rest => (false, rest)

def integer? (negative : Bool) (value : Nat) : Option Value :=
  let number : Int := if negative then -value else value
  if -9223372036854775808 ≤ number && number ≤ 9223372036854775807 then some (.integer number) else none

/-- The exponent of a number, if one follows. -/
def exponent? : List Char → Option (Int × List Char)
  | c :: rest =>
    if c = 'e' || c = 'E' then do
      let (negative, rest) := sign rest
      let (digits, behind) ← digitRun 10 rest
      let value ← digitsValue? 10 digits
      return (if negative then -value else value, behind)
    else some (0, c :: rest)
  | [] => some (0, [])

/-- A number with digits behind the point or an exponent; one that is too large is refused unless it
is negative. -/
def float? (negative : Bool) (whole places : List Char) (rest : List Char) :
    Option (Value × List Char) := do
  let (exponent, behind) ← exponent? rest
  let digits ← digitsValue? 10 (whole ++ places)
  let number := Binary.ofDecimal negative digits (exponent - places.length)
  if number = .infinite false then none else return (.float number, behind)

/-- A number without a mark of its base. -/
def decimal? (negative : Bool) (rest : List Char) : Option (Value × List Char) := do
  let (whole, behind) ← wholeDigits rest
  match behind with
  | '.' :: behind =>
    let (places, behind) ← digitRun 10 behind
    float? negative whole places behind
  | 'e' :: _ | 'E' :: _ => float? negative whole [] behind
  | _ => return (← integer? negative (← digitsValue? 10 whole), behind)

def based? (base : Nat) (rest : List Char) : Option (Value × List Char) := do
  let (digits, behind) ← digitRun base rest
  return (← integer? false (← digitsValue? base digits), behind)

def number? (rest : List Char) : Option (Value × List Char) :=
  match rest with
  | '0' :: 'x' :: behind => based? 16 behind
  | '0' :: 'o' :: behind => based? 8 behind
  | '0' :: 'b' :: behind => based? 2 behind
  | _ =>
    match sign rest with
    | (negative, 'i' :: 'n' :: 'f' :: behind) => some (.float (.infinite negative), behind)
    | (_, 'n' :: 'a' :: 'n' :: behind) => some (.float .undefined, behind)
    | (negative, digits) => decimal? negative digits

/-- A number of a fixed count of digits. -/
def fixed? (count : Nat) (rest : List Char) : Option (Nat × List Char) :=
  let digits := rest.take count
  if digits.length = count && digits.all isDigit then
    (digitsValue? 10 digits).map (·, rest.drop count)
  else none

def within? (low high : Nat) (rest : List Char) : Option (Nat × List Char) :=
  (fixed? 2 rest).filter fun (value, _) => low ≤ value && value ≤ high

def expect? (c : Char) : List Char → Option (List Char)
  | [] => none
  | next :: rest => if next = c then some rest else none

def daysOf (year month : Nat) : Nat :=
  if month = 2 then
    if year % 4 = 0 && (year % 100 != 0 || year % 400 = 0) then 29 else 28
  else if [4, 6, 9, 11].contains month then 30
  else 31

/-- Whether a text begins like a time of day or like a date decides that it is to be read as one. -/
def looksLikeTime (rest : List Char) : Bool :=
  match within? 0 23 rest with
  | some (_, ':' :: _) => true
  | _ => false

def looksLikeDate (rest : List Char) : Bool :=
  match fixed? 4 rest with
  | some (_, '-' :: _) => true
  | _ => false

def time? (rest : List Char) : Option (List Char) := do
  let (_, rest) ← within? 0 23 rest
  let (_, rest) ← within? 0 59 (← expect? ':' rest)
  let (_, rest) ← within? 0 60 (← expect? ':' rest)
  match rest with
  | '.' :: c :: behind => return if isDigit c then behind.dropWhile isDigit else rest
  | _ => return rest

def zone? (rest : List Char) : Option (List Char) :=
  match rest with
  | c :: behind =>
    if c = 'Z' || c = 'z' then some behind
    else if c = '+' || c = '-' then do
      let (_, behind) ← within? 0 23 behind
      let (_, behind) ← within? 0 59 (← expect? ':' behind)
      return behind
    else some rest
  | [] => some rest

def date? (rest : List Char) : Option (List Char) := do
  let (year, rest) ← fixed? 4 rest
  let (month, rest) ← within? 1 12 (← expect? '-' rest)
  let (day, rest) ← within? 1 31 (← expect? '-' rest)
  if day > daysOf year month then none
  else
    match rest with
    | c :: behind =>
      if (c == 'T' || c == 't' || c == ' ') && looksLikeTime behind then zone? (← time? behind)
      else return rest
    | [] => return rest

/-- A number, a date or a time. -/
def numberOrMoment? (rest : List Char) : Option (Value × List Char) :=
  if looksLikeDate rest then (date? rest).map (.moment, ·)
  else if looksLikeTime rest then (time? rest).map (.moment, ·)
  else number? rest

end AuthGate.Toml
