import AuthGate.Header.Basic
import AuthGate.Proofs.Text.Ascii
import AuthGate.Proofs.Text.Lists

namespace AuthGate
open Text

namespace HeaderValue

/-- The characters that a value holds: no controls, the tab apart. -/
def isTextChar (c : Char) : Bool := (' ' ≤ c && c != '\x7f') || c == '\t'

/-- A text that a value holds. -/
def Holds (text : String) : Prop := ∀ c ∈ text.toList, isTextChar c = true

instance (text : String) : Decidable (Holds text) :=
  decidable_of_iff (text.toList.all isTextChar = true) List.all_eq_true

theorem isValueByte_of_large {b : UInt8} (large : 128 ≤ b.toNat) : isValueByte b = true := by
  have aboveBlank : (0x20 : UInt8) ≤ b := UInt8.le_iff_toNat_le.mpr (Nat.le_trans (by decide) large)
  have notDelete : b ≠ 0x7F := by
    rintro rfl
    exact absurd large (by decide)
  simp [isValueByte, aboveBlank, notDelete]

theorem isTextChar_of_beyond {c : Char} (beyond : 128 ≤ c.toNat) : isTextChar c = true := by
  have aboveBlank : ' ' ≤ c := by
    have codes : (' ' : Char).toNat ≤ c.toNat := Nat.le_trans (by decide) beyond
    exact codes
  have notDelete : c ≠ '\x7f' := by
    rintro rfl
    exact absurd beyond (by decide)
  simp [isTextChar, aboveBlank, notDelete]

/-- A value holds the characters of a class if it holds those of ASCII. -/
theorem isTextChar_of_class {belongs : Char → Bool}
    (each : ∀ code < 128, belongs (Char.ofNat code) = true → isTextChar (Char.ofNat code) = true)
    {c : Char} (member : belongs c = true) : isTextChar c = true := by
  by_cases ascii : c.toNat < 128
  · exact ascii_forall (P := fun c => belongs c = true → isTextChar c = true) each ascii member
  · exact isTextChar_of_beyond (Nat.le_of_not_lt ascii)

theorem all_isValueByte (c : Char) :
    (String.utf8EncodeChar c).all isValueByte = isTextChar c := by
  by_cases ascii : c.toNat < 128
  · have single : isValueByte (UInt8.ofNat c.toNat) = isTextChar c :=
      ascii_forall (P := fun c => isValueByte (UInt8.ofNat c.toNat) = isTextChar c)
        (by decide) ascii
    simpa [utf8EncodeChar_of_ascii ascii] using single
  · have beyond : 128 ≤ c.toNat := Nat.le_of_not_lt ascii
    rw [isTextChar_of_beyond beyond]
    exact List.all_eq_true.mpr fun b member =>
      isValueByte_of_large (large_of_mem_utf8EncodeChar beyond b member)

theorem bytes_of_ofText? {text : String} {value : HeaderValue} (read : ofText? text = some value) :
    value.bytes = utf8 text.toList := by
  unfold ofText? ofBytes? at read
  split at read
  · cases read
    rfl
  · cases read

/-- The texts that are values. -/
theorem exists_ofText?_iff {text : String} :
    (∃ value, ofText? text = some value) ↔ Holds text := by
  have bytes : (utf8 text.toList).all isValueByte = text.toList.all isTextChar := by
    simp only [utf8, List.all_flatMap, all_isValueByte]
  unfold ofText? ofBytes?
  constructor
  · rintro ⟨value, read⟩
    split at read
    · rename_i valid
      exact List.all_eq_true.mp (bytes.symm.trans valid)
    · cases read
  · intro holds
    have valid := bytes.trans (List.all_eq_true.mpr holds)
    rw [dif_pos valid]
    exact ⟨_, rfl⟩

theorem ofText?_eq_none_iff {text : String} : ofText? text = none ↔ ¬ Holds text := by
  rw [← exists_ofText?_iff, ← Option.isSome_iff_exists, Option.not_isSome_iff_eq_none]

theorem Holds.append {first second : String} (left : Holds first) (right : Holds second) :
    Holds (first ++ second) := by
  intro c member
  rw [String.toList_append] at member
  rcases List.mem_append.mp member with before | behind
  · exact left c before
  · exact right c behind

theorem ofText?_of_text? {value : HeaderValue} {text : String} (shown : value.text? = some text) :
    ofText? text = some value := by
  obtain ⟨bytes, valid⟩ := value
  unfold text? at shown
  split at shown
  · rename_i visible
    have ascii : ∀ b ∈ bytes, b.toNat < 128 := by
      intro b member
      have seen := List.all_eq_true.mp visible b member
      simp only [isVisibleByte, Bool.or_eq_true, Bool.and_eq_true, decide_eq_true_eq,
        beq_iff_eq] at seen
      rcases seen with ⟨_, upper⟩ | rfl
      · exact Nat.lt_of_le_of_lt (UInt8.le_iff_toNat_le.mp upper) (by decide)
      · decide
    have same : utf8 text.toList = bytes := by
      rw [← Option.some.inj shown, String.toList_ofList, utf8_ofBytes ascii]
    unfold ofText? ofBytes?
    simp only [same, valid, dite_true]
  · cases shown

theorem holds_of_text? {value : HeaderValue} {text : String} (shown : value.text? = some text) :
    Holds text :=
  exists_ofText?_iff.mp ⟨value, ofText?_of_text? shown⟩

theorem ofBytes?_of_all {bytes : List UInt8} (valid : bytes.all isValueByte = true) :
    ofBytes? bytes = some ⟨bytes, valid⟩ := by
  rw [ofBytes?, dif_pos valid]

theorem joinBytes_eq (separator : List UInt8) (values : List HeaderValue) :
    joinBytes separator values = separator.intercalate (values.map (·.bytes)) := by
  induction values with
  | nil => rfl
  | cons first rest ih =>
    cases rest with
    | nil => simp [joinBytes]
    | cons second others => simp [joinBytes, ih, List.intercalate_cons_cons]

/-- With a separator of the bytes of values, values make up one. -/
theorem all_joinBytes {separator : List UInt8} (valid : separator.all isValueByte = true)
    (values : List HeaderValue) : (joinBytes separator values).all isValueByte = true := by
  rw [joinBytes_eq, List.all_eq_true]
  intro b member
  rcases mem_intercalate member with between | ⟨bytes, part, inside⟩
  · exact List.all_eq_true.mp valid b between
  · obtain ⟨value, _, rfl⟩ := List.mem_map.mp part
    exact List.all_eq_true.mp value.valid b inside

end HeaderValue

theorem Headers.holds_firstText? {headers : Headers} {name : HeaderName} {text : String}
    (shown : headers.firstText? name = some text) : HeaderValue.Holds text := by
  obtain ⟨value, _, seen⟩ := Option.bind_eq_some_iff.mp shown
  exact HeaderValue.holds_of_text? seen

end AuthGate
