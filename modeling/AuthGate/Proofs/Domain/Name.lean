import AuthGate.Domain.Basic
import AuthGate.Proofs.Text.Ascii
import AuthGate.Proofs.Text.Lists

namespace AuthGate.Domain
open Text

namespace Punycode

/-- The characters that distances are written with. -/
def digitChars : List Char := "abcdefghijklmnopqrstuvwxyz0123456789".toList

theorem digit_mem {value : Nat} (small : value < base) : digit value ∈ digitChars := by
  have each : ∀ value < 36, digit value ∈ digitChars := by decide
  exact each value small

theorem threshold_lt_base (k bias : Nat) : threshold k bias < base := by
  have least : threshold k bias ≤ tMax := Nat.min_le_left _ _
  exact Nat.lt_of_le_of_lt least (by decide)

theorem mem_distance {bias fuel k q : Nat} {c : Char} (member : c ∈ distance bias fuel k q) :
    c ∈ digitChars := by
  have below := threshold_lt_base k bias
  induction fuel generalizing k q with
  | zero => cases member
  | succ fuel ih =>
    unfold distance at member
    simp only at member
    split at member
    · rename_i last
      rw [List.mem_singleton.mp member]
      exact digit_mem (Nat.lt_trans last below)
    · rcases List.mem_cons.mp member with rfl | later
      · apply digit_mem
        have rest := Nat.mod_lt (q - threshold k bias) (Nat.sub_pos_of_lt below)
        omega
      · exact ih later (threshold_lt_base _ _)

/-- What has been written so far is in a class of characters. -/
def Encoder.Writes (belongs : Char → Prop) (encoder : Encoder) : Prop :=
  ∀ c ∈ encoder.output, belongs c

variable {belongs : Char → Prop}

theorem Encoder.Writes.visit {basic code : Nat} {encoder : Encoder}
    (digits : ∀ c ∈ digitChars, belongs c) (written : encoder.Writes belongs) (c : Nat) :
    (encoder.visit basic code c).Writes belongs := by
  unfold Encoder.visit
  split
  · exact written
  · split
    · intro other member
      rcases List.mem_append.mp member with before | distance
      · exact written other before
      · exact digits other (mem_distance distance)
    · exact written

theorem Encoder.Writes.insert {codes : List Nat} {basic : Nat} {encoder : Encoder}
    (digits : ∀ c ∈ digitChars, belongs c) (written : encoder.Writes belongs) (code : Nat) :
    (encoder.insert codes basic code).Writes belongs := by
  unfold Encoder.insert
  have all : (codes.foldl (Encoder.visit basic code)
      { encoder with delta := encoder.delta + (code - encoder.next) * (encoder.handled + 1) }).Writes
        belongs :=
    List.foldlRecOn codes _ written fun _ before c _ => before.visit digits c
  exact all

theorem mem_encode {text : List Char} {c : Char} (member : c ∈ encode text) :
    (c ∈ text ∧ isAscii c = true) ∨ c = '-' ∨ c ∈ digitChars := by
  unfold encode at member
  simp only at member
  refine List.foldlRecOn (motive := Encoder.Writes fun c =>
    (c ∈ text ∧ isAscii c = true) ∨ c = '-' ∨ c ∈ digitChars) _ _ ?_ ?_ c member
  · intro c member
    rcases List.mem_append.mp member with basic | hyphen
    · exact .inl (List.mem_filter.mp basic)
    · split at hyphen
      · cases hyphen
      · exact .inr (.inl (List.mem_singleton.mp hyphen))
  · intro encoder written code _
    exact written.insert (fun c digit => .inr (.inr digit)) code

end Punycode

/-- The characters of host names in ASCII. -/
def isNameChar (c : Char) : Bool := isAscii c && !isForbidden c

theorem isAscii_lower {c : Char} (ascii : isAscii c = true) : isAscii (lower c) = true := by
  have small : c.toNat < 128 := by simpa [isAscii] using ascii
  exact ascii_forall (P := fun c => isAscii (lower c) = true) (by decide) small

/-- What holds of each code of ASCII that names may have holds of their characters. -/
theorem isNameChar_forall {P : Char → Prop}
    (each : ∀ code < 128, isNameChar (Char.ofNat code) = true → P (Char.ofNat code)) {c : Char}
    (named : isNameChar c = true) : P c := by
  have ascii : c.toNat < 128 := by
    have small := (Bool.and_eq_true_iff.mp named).1
    simpa [isAscii] using small
  exact ascii_forall (P := fun c => isNameChar c = true → P c) each ascii named

theorem isNameChar_of_encodeLabel {label : List Char} {c : Char}
    (proper : ∀ c ∈ label, isForbidden c = false) (member : c ∈ encodeLabel label) :
    isNameChar c = true := by
  have digits : ∀ c ∈ Punycode.digitChars, isNameChar c = true := List.all_eq_true.mp (by decide)
  have mark : ∀ c ∈ encodedMark, isNameChar c = true := List.all_eq_true.mp (by decide)
  unfold encodeLabel at member
  split at member
  · rename_i ascii
    simp [isNameChar, List.all_eq_true.mp ascii c member, proper c member]
  · rcases List.mem_append.mp member with marked | encoded
    · exact mark c marked
    · rcases Punycode.mem_encode encoded with ⟨inside, ascii⟩ | rfl | digit
      · simp [isNameChar, ascii, proper c inside]
      · decide
      · exact digits c digit

/-- A domain name in ASCII has no forbidden character. -/
theorem isNameChar_of_toAscii? {name host : List Char} (read : toAscii? name = some host) :
    ∀ c ∈ host, isNameChar c = true := by
  unfold toAscii? at read
  split at read
  · rename_i simple
    simp only at read
    split at read
    · cases read
    · rename_i proper
      cases read
      intro c member
      obtain ⟨original, inside, rfl⟩ := List.mem_map.mp member
      have ascii := List.all_eq_true.mp (Bool.and_eq_true_iff.mp simple).1 original inside
      have allowed : isForbidden (lower original) = false := by
        cases forbidden : isForbidden (lower original) with
        | false => rfl
        | true => exact absurd (List.any_eq_true.mpr ⟨_, member, forbidden⟩) proper
      simp [isNameChar, isAscii_lower ascii, allowed]
  · obtain ⟨characters, _, rest⟩ := Option.bind_eq_some_iff.mp read
    obtain ⟨shown, _, rest⟩ := Option.bind_eq_some_iff.mp rest
    simp only at rest
    split at rest
    · cases rest
    · rename_i proper
      cases rest
      intro c member
      rcases mem_intercalate member with dot | ⟨part, encoded, inside⟩
      · rw [List.mem_singleton.mp dot]
        decide
      · obtain ⟨label, listed, rfl⟩ := List.mem_map.mp encoded
        refine isNameChar_of_encodeLabel ?_ inside
        intro other present
        cases forbidden : isForbidden other with
        | false => rfl
        | true =>
          refine absurd ?_ proper
          rw [Bool.or_eq_true, List.any_eq_true]
          exact .inl ⟨other, List.mem_flatten.mpr
            ⟨label, List.mem_append_left _ listed, present⟩, forbidden⟩

end AuthGate.Domain
