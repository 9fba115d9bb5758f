import AuthGate.Text.Ascii

/-! Punycode: a text of any characters written with letters, digits and hyphens. The characters of
ASCII come first; behind the last hyphen each further character is written as a distance. -/
namespace AuthGate.Domain.Punycode
open Text

def base : Nat := 36
def tMin : Nat := 1
def tMax : Nat := 26
def skew : Nat := 38
def damp : Nat := 700
def initialBias : Nat := 72
def initialCode : Nat := 128

def digit (value : Nat) : Char :=
  if value < 26 then Char.ofNat ('a'.toNat + value) else Char.ofNat ('0'.toNat + (value - 26))

def digitValue? (c : Char) : Option Nat :=
  if isLower c then some (c.toNat - 'a'.toNat)
  else if isDigit c then some (c.toNat - '0'.toNat + 26)
  else none

/-- Scale a distance down until it falls into the range where one digit is likely to suffice. -/
def settle : Nat → Nat → Nat → Nat
  | 0, _, k => k
  | fuel + 1, delta, k =>
    if delta > (base - tMin) * tMax / 2 then settle fuel (delta / (base - tMin)) (k + base)
    else k + (base - tMin + 1) * delta / (delta + skew)

/-- The bias for the next distance. -/
def adapt (delta count : Nat) (first : Bool) : Nat :=
  let scaled := if first then delta / damp else delta / 2
  let spread := scaled + scaled / count
  settle spread spread 0

def threshold (k bias : Nat) : Nat := min tMax (max tMin (k - bias))

/-- A distance in digits of growing weight. -/
def distance (bias : Nat) : Nat → Nat → Nat → List Char
  | 0, _, _ => []
  | fuel + 1, k, q =>
    let t := threshold k bias
    if q < t then [digit q]
    else digit (t + (q - t) % (base - t)) :: distance bias fuel (k + base) ((q - t) / (base - t))

structure Encoder where
  delta : Nat
  bias : Nat
  handled : Nat
  next : Nat
  output : List Char

def Encoder.visit (basic code : Nat) (encoder : Encoder) (c : Nat) : Encoder :=
  if c < code then { encoder with delta := encoder.delta + 1 }
  else if c = code then
    { encoder with
      delta := 0
      bias := adapt encoder.delta (encoder.handled + 1) (encoder.handled == basic)
      handled := encoder.handled + 1
      output := encoder.output ++ distance encoder.bias (encoder.delta + 1) base encoder.delta }
  else encoder

/-- Write all occurrences of one further character. -/
def Encoder.insert (codes : List Nat) (basic : Nat) (encoder : Encoder) (code : Nat) : Encoder :=
  let start :=
    { encoder with delta := encoder.delta + (code - encoder.next) * (encoder.handled + 1) }
  let done := codes.foldl (Encoder.visit basic code) start
  { done with delta := done.delta + 1, next := code + 1 }

def encode (text : List Char) : List Char :=
  let basic := text.filter isAscii
  let codes := text.map Char.toNat
  let further := (codes.filter (· ≥ initialCode)).mergeSort.eraseDups
  let start : Encoder :=
    ⟨0, initialBias, basic.length, initialCode, basic ++ if basic.isEmpty then [] else ['-']⟩
  (further.foldl (Encoder.insert codes basic.length) start).output

structure Decoder where
  position : Nat
  previous : Nat
  weight : Nat
  k : Nat
  code : Nat
  bias : Nat
  output : List Char

def Decoder.step (decoder : Decoder) (c : Char) : Option Decoder := do
  let value ← digitValue? c
  let position := decoder.position + value * decoder.weight
  let t := threshold decoder.k decoder.bias
  if value < t then
    let count := decoder.output.length + 1
    let code := decoder.code + position / count
    let place := position % count
    if h : code.isValidChar then
      return {
        position := place + 1
        previous := place + 1
        weight := 1
        k := base
        code
        bias := adapt (position - decoder.previous) count (decoder.previous == 0)
        output := decoder.output.insertIdx place (Char.ofNatAux code h) }
    else none
  else
    return { decoder with position, weight := decoder.weight * (base - t), k := decoder.k + base }

/-- The text before the last hyphen and the digits behind it. -/
def parts (text : List Char) : List Char × List Char :=
  match splitFirst (· == '-') text.reverse with
  | (digits, some (c :: basic)) => ((c :: basic).reverse, digits.reverse)
  | _ => ([], text)

def decode? (text : List Char) : Option (List Char) := do
  let (basic, digits) := parts text
  let last ← digits.foldlM Decoder.step ⟨0, 0, 1, base, initialCode, initialBias, basic⟩
  if last.k = base then some last.output else none

end AuthGate.Domain.Punycode
