import AuthGate.Text.Ascii
import Mathlib.Data.List.Basic

namespace AuthGate.Text

/-- What holds of each code of ASCII holds of its characters. -/
theorem ascii_forall {P : Char → Prop} (each : ∀ code < 128, P (Char.ofNat code)) {c : Char}
    (ascii : c.toNat < 128) : P c := by
  have here := each c.toNat ascii
  rwa [Char.ofNat_toNat] at here

/-- Ranges that end with a character of ASCII hold no other characters. -/
theorem not_le_of_beyond {c : Char} (beyond : ¬ c.toNat < 128) (last : Char)
    (small : last.toNat < 128) : ¬ c ≤ last :=
  fun below => beyond (Nat.lt_of_le_of_lt below small)

/-- A character of ASCII is one byte. -/
theorem utf8EncodeChar_of_ascii {c : Char} (ascii : c.toNat < 128) :
    String.utf8EncodeChar c = [UInt8.ofNat c.toNat] := by
  have small : c.val.toNat ≤ 127 := Nat.le_of_lt_succ ascii
  simp only [String.utf8EncodeChar, small, if_true]
  rfl

/-- Every other character has large bytes alone. -/
theorem large_of_mem_utf8EncodeChar {c : Char} (beyond : 128 ≤ c.toNat) :
    ∀ b ∈ String.utf8EncodeChar c, 128 ≤ b.toNat := by
  have notSmall : ¬ c.val.toNat ≤ 127 := by
    have same : c.val.toNat = c.toNat := rfl
    omega
  intro b member
  simp only [String.utf8EncodeChar, notSmall, if_false] at member
  split at member
  all_goals try split at member
  all_goals
    simp only [List.mem_cons, List.not_mem_nil, or_false] at member
    rcases member with rfl | rfl | rfl | rfl <;> simp only [UInt8.toNat_ofNat'] <;> omega

theorem toNat_ofNat_of_ascii {code : Nat} (ascii : code < 128) :
    (Char.ofNat code).toNat = code := by
  have all : ∀ code < 128, (Char.ofNat code).toNat = code := by decide
  exact all code ascii

/-- Bytes of ASCII spell a text that is written with the same bytes. -/
theorem utf8_ofBytes {bytes : List UInt8} (ascii : ∀ b ∈ bytes, b.toNat < 128) :
    utf8 (ofBytes bytes) = bytes := by
  have single : ∀ b ∈ bytes, String.utf8EncodeChar (Char.ofNat b.toNat) = [b] := by
    intro b member
    have code := toNat_ofNat_of_ascii (ascii b member)
    rw [utf8EncodeChar_of_ascii (by rw [code]; exact ascii b member), code, UInt8.ofNat_toNat]
  rw [utf8, ofBytes, List.flatMap_map, List.flatMap_congr single]
  simp

/-- A text of ASCII is spelled by bytes of the same numbers. -/
theorem ofBytes_utf8 {text : List Char} (ascii : ∀ c ∈ text, c.toNat < 128) :
    ofBytes (utf8 text) = text := by
  induction text with
  | nil => rfl
  | cons c rest ih =>
    have code := ascii c List.mem_cons_self
    have first : ofBytes (String.utf8EncodeChar c) = [c] := by
      rw [utf8EncodeChar_of_ascii code]
      have same : (UInt8.ofNat c.toNat).toNat = c.toNat := by
        rw [UInt8.toNat_ofNat']
        omega
      simp [ofBytes, same]
    have later := ih fun other member => ascii other (List.mem_cons_of_mem _ member)
    have parts : ofBytes (utf8 (c :: rest)) = ofBytes (String.utf8EncodeChar c) ++ ofBytes (utf8 rest) := by
      simp [utf8, ofBytes]
    rw [parts, first, later, List.singleton_append]

theorem utf8_cons (c : Char) (text : List Char) :
    utf8 (c :: text) = String.utf8EncodeChar c ++ utf8 text := List.flatMap_cons

theorem utf8_append (first second : List Char) :
    utf8 (first ++ second) = utf8 first ++ utf8 second := List.flatMap_append

/-- Bytes are read as the text that is written with them, if there is one. -/
theorem ofUtf8?_eq_some_iff {bytes : List UInt8} {text : String} :
    ofUtf8? bytes = some text ↔ utf8 text.toList = bytes := by
  have written : (utf8 text.toList).toByteArray = text.toByteArray := String.utf8Encode_toList
  have array : bytes.toByteArray = ⟨bytes.toArray⟩ := by
    rw [← List.data_toByteArray]
  unfold ofUtf8? String.fromUTF8?
  rw [← List.toByteArray_inj, written, ← array]
  constructor
  · intro read
    obtain ⟨valid, same⟩ := Option.dite_none_right_eq_some.mp read
    cases Option.some.inj same
    rfl
  · intro same
    have valid : bytes.toByteArray.IsValidUTF8 := same ▸ text.isValidUTF8
    rw [dif_pos valid]
    exact congrArg some (String.toByteArray_inj.mp same.symm)

end AuthGate.Text
