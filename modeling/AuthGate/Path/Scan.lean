import AuthGate.Path

/-! Decoding as one pass over the bytes of a path. What stands behind a percent sign is taken without
regard to where characters begin and end, and that the result is a text is only found out at the end. -/
namespace AuthGate.Path
open Text

/-- Where a pass stands: the index of the next byte, and the bytes that are written so far. -/
structure Scan where
  position : Nat := 0
  written : List UInt8 := []
  deriving DecidableEq, Repr

/-- Why a pass ends without a text: a byte is read where there is none, the path is refused, or the bytes
that have been written spell no text. -/
inductive ScanFault where
  | outOfBounds
  | refused (cause : PathError)
  | noText
  deriving DecidableEq, Repr

/-- The byte with a number in base sixteen. The number can have a plus sign. -/
def readHex? (number : String) : Option UInt8 :=
  let digits := if number.toList.head? = some '+' then number.toList.tail else number.toList
  ((digitsValue? 16 digits).filter (· < 256)).map UInt8.ofNat

/-- Upper case for the letters of ASCII; every other byte is kept. -/
def upperByte (b : UInt8) : UInt8 := if 0x61 ≤ b && b ≤ 0x7A then b - 0x20 else b

/-- The byte that two bytes behind a percent sign stand for. -/
def readEscape? (escape : List UInt8) : Option UInt8 := (ofUtf8? escape).bind readHex?

/-- What is written for an escape: its byte, if that is an unreserved character, and otherwise the escape
in upper case. -/
def respell (value : UInt8) (escape : List UInt8) : List UInt8 :=
  if isUnreserved (Char.ofNat value.toNat) then [value] else byte '%' :: escape.map upperByte

namespace Scan

/-- The two bytes behind a position, if there are two. -/
def escapeAt? (bytes : List UInt8) (position : Nat) : Option (List UInt8) :=
  if position + 3 ≤ bytes.length then some ((bytes.drop (position + 1)).take 2) else none

/-- Pass over one byte, or over one escape. -/
def step (bytes : List UInt8) (scan : Scan) : Except ScanFault Scan :=
  match bytes[scan.position]? with
  | none => .error .outOfBounds
  | some b =>
    if b ≠ byte '%' then .ok ⟨scan.position + 1, scan.written ++ [b]⟩
    else
      match escapeAt? bytes scan.position with
      | none => .error (.refused .badEscape)
      | some escape =>
        match readEscape? escape with
        | none => .error (.refused .badEscape)
        | some value =>
          if isSeparator (Char.ofNat value.toNat) then .error (.refused .encodedSeparator)
          else .ok ⟨scan.position + 3, scan.written ++ respell value escape⟩

theorem position_of_step {bytes : List UInt8} {scan next : Scan} (stepped : scan.step bytes = .ok next) :
    next.position = scan.position + 1 ∨ next.position = scan.position + 3 := by
  unfold step at stepped
  split at stepped
  · cases stepped
  · split at stepped
    · cases stepped
      exact .inl rfl
    · split at stepped
      · cases stepped
      · split at stepped
        · cases stepped
        · split at stepped
          · cases stepped
          · cases stepped
            exact .inr rfl

/-- Go ahead while there are bytes. -/
def run (bytes : List UInt8) (scan : Scan) : Except ScanFault Scan :=
  if scan.position < bytes.length then
    match _ : scan.step bytes with
    | .error fault => .error fault
    | .ok next => run bytes next
  else .ok scan
termination_by bytes.length - scan.position
decreasing_by
  rcases position_of_step ‹_› with one | three <;> omega

end Scan

/-- The text that a path is decoded to in one pass. -/
def scan (path : String) : Except ScanFault String := do
  let last ← Scan.run (utf8 path.toList) {}
  match ofUtf8? last.written with
  | some text => return text
  | none => throw .noText

end AuthGate.Path
