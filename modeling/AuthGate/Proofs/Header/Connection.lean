import AuthGate.Proofs.Header.Fields
import AuthGate.Proofs.Header.Text

/-! The names that the `Connection` fields of a message list. A name is listed wherever it stands
between two commas, whatever bytes stand in the other entries of the field; the gate sees those that
are listed in fields of ASCII alone. -/
namespace AuthGate
open Text

/-- A name is read from a text that spells it, in any case. -/
theorem HeaderName.parse_eq_some_iff {text : String} {name : HeaderName} :
    parse text = some name ↔ text.toList.map lower = name.text.toList := by
  unfold parse
  simp only
  constructor
  · intro read
    split at read
    · cases read
      rw [String.toList_ofList]
    · cases read
  · intro spelled
    have same : String.ofList (text.toList.map lower) = name.text := by
      rw [spelled, String.ofList_toList]
    simp only [same, name.valid, dite_true]

namespace HeaderValue

/-- All bytes of a value are ASCII. -/
def Ascii (value : HeaderValue) : Prop := ∀ b ∈ value.bytes, b.toNat < 128

/-- An entry of a value, with commas between the entries and blanks around them, spells a name in any
case. Each byte is taken for a character. -/
def Lists (value : HeaderValue) (name : HeaderName) : Prop :=
  ∃ entry ∈ (ofBytes value.bytes).splitOn ',',
    (trimWhile Headers.isSpaceOrTab entry).map lower = name.text.toList

instance (value : HeaderValue) : Decidable value.Ascii := List.decidableBAll _ _

instance (value : HeaderValue) (name : HeaderName) : Decidable (value.Lists name) :=
  List.decidableBEx _ _

variable {value : HeaderValue} {name : HeaderName}

theorem isVisibleByte_iff {b : UInt8} (valid : isValueByte b = true) :
    isVisibleByte b = true ↔ b.toNat < 128 := by
  simp only [isValueByte, isVisibleByte, Bool.or_eq_true, Bool.and_eq_true, decide_eq_true_eq,
    bne_iff_ne, beq_iff_eq, UInt8.le_iff_toNat_le, ne_eq, ← UInt8.toNat_inj,
    UInt8.reduceToNat] at valid ⊢
  omega

theorem text?_eq_some_iff {text : String} :
    value.text? = some text ↔ value.Ascii ∧ String.ofList (ofBytes value.bytes) = text := by
  have visible : value.bytes.all isVisibleByte = true ↔ value.Ascii := by
    rw [List.all_eq_true]
    exact forall₂_congr fun b member =>
      isVisibleByte_iff (List.all_eq_true.mp value.valid b member)
  unfold text?
  by_cases ascii : value.Ascii
  · simp [visible.mpr ascii, ascii]
  · have hidden : ¬ value.bytes.all isVisibleByte = true := mt visible.mp ascii
    simp only [if_neg hidden, ascii, false_and, reduceCtorEq]

end HeaderValue

namespace Headers

variable {headers : Headers} {name : HeaderName}

/-- A `Connection` field lists a name. -/
def Lists (headers : Headers) (name : HeaderName) : Prop :=
  ∃ value ∈ headers.values .connection, value.Lists name

/-- A `Connection` field of ASCII alone lists a name. -/
def ListsInAscii (headers : Headers) (name : HeaderName) : Prop :=
  ∃ value ∈ headers.values .connection, value.Ascii ∧ value.Lists name

instance : Decidable (headers.Lists name) := List.decidableBEx _ _

instance : Decidable (headers.ListsInAscii name) := List.decidableBEx _ _

theorem ListsInAscii.lists (seen : headers.ListsInAscii name) : headers.Lists name :=
  have ⟨value, present, _, lists⟩ := seen
  ⟨value, present, lists⟩

theorem exists_listEntries_iff {value : HeaderValue} {text : String}
    (same : String.ofList (ofBytes value.bytes) = text) :
    (∃ entry ∈ listEntries text, HeaderName.parse entry = some name) ↔ value.Lists name := by
  simp only [listEntries, ← same, String.toList_ofList, List.mem_map, HeaderValue.Lists]
  constructor
  · rintro ⟨_, ⟨entry, member, rfl⟩, read⟩
    rw [HeaderName.parse_eq_some_iff, String.toList_ofList] at read
    exact ⟨entry, member, read⟩
  · rintro ⟨entry, member, spelled⟩
    refine ⟨_, ⟨entry, member, rfl⟩, ?_⟩
    rw [HeaderName.parse_eq_some_iff, String.toList_ofList]
    exact spelled

/-- The gate sees the names that are listed in fields of ASCII alone. -/
theorem nominates_iff : headers.Nominates name ↔ headers.ListsInAscii name := by
  constructor
  · rintro ⟨value, present, text, visible, entry, member, read⟩
    obtain ⟨ascii, same⟩ := HeaderValue.text?_eq_some_iff.mp visible
    exact ⟨value, present, ascii, (exists_listEntries_iff same).mp ⟨entry, member, read⟩⟩
  · rintro ⟨value, present, ascii, lists⟩
    obtain ⟨entry, member, read⟩ := (exists_listEntries_iff rfl).mpr lists
    exact ⟨value, present, _, HeaderValue.text?_eq_some_iff.mpr ⟨ascii, rfl⟩, entry, member, read⟩

/-- What is left of a name in fields that are passed on. -/
theorem values_stripHopByHop_eq (headers : Headers) (name : HeaderName) :
    headers.stripHopByHop.values name =
      if name ∈ hopByHop ∨ headers.ListsInAscii name then [] else headers.values name := by
  by_cases always : name ∈ hopByHop
  · simp [stripHopByHop, values_eraseAll, always]
  · rw [values_stripHopByHop always]
    simp only [always, false_or, nominates_iff]

end Headers
end AuthGate
