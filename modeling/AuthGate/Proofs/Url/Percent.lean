import AuthGate.Proofs.Text.Ascii
import AuthGate.Url.Percent

namespace AuthGate.Percent
open Text

/-- The characters that escapes are written with. -/
def escapeChars : List Char := "%0123456789ABCDEF".toList

theorem mem_escapeByte {b : UInt8} {c : Char} (member : c ∈ escapeByte b) : c ∈ escapeChars := by
  have digits : ∀ value < 16, hexDigit value ∈ escapeChars := by decide
  have bound : b.toNat < 256 := b.toNat_lt
  unfold escapeByte hexByte at member
  rcases List.mem_cons.mp member with rfl | digit
  · decide
  · have either : c = hexDigit (b.toNat / 16) ∨ c = hexDigit (b.toNat % 16) := by
      simpa using digit
    rcases either with rfl | rfl
    · exact digits _ (by omega)
    · exact digits _ (by omega)

theorem inControls_of_beyond {c : Char} (beyond : 128 ≤ c.toNat) : inControls c = true := by
  have aboveTilde : '~' < c := by
    have codes : ('~' : Char).toNat < c.toNat := Nat.lt_of_lt_of_le (by decide) beyond
    exact codes
  simp [inControls, aboveTilde]

/-- What is encoded belongs to a class that has the characters of escapes and those of ASCII that
are kept. -/
theorem encode_belongs {set belongs : Char → Bool}
    (escapes : ∀ c ∈ escapeChars, belongs c = true)
    (kept : ∀ code < 128, set (Char.ofNat code) = true ∨ belongs (Char.ofNat code) = true)
    (controls : ∀ c, inControls c = true → set c = true) (text : List Char) :
    ∀ c ∈ encode set text, belongs c = true := by
  intro c member
  obtain ⟨original, _, encoded⟩ := List.mem_flatMap.mp member
  split at encoded
  · obtain ⟨b, _, escaped⟩ := List.mem_flatMap.mp encoded
    exact escapes c (mem_escapeByte escaped)
  · rename_i unescaped
    rw [List.mem_singleton.mp encoded]
    have ascii : original.toNat < 128 := by
      by_contra beyond
      exact unescaped (controls _ (inControls_of_beyond (Nat.le_of_not_lt beyond)))
    have either : set original = true ∨ belongs original = true :=
      ascii_forall (P := fun c => set c = true ∨ belongs c = true) kept ascii
    exact either.resolve_left unescaped

end AuthGate.Percent
