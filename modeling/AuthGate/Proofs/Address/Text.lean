import AuthGate.Address.Ip
import AuthGate.Proofs.Header.Text
import AuthGate.Proofs.Text.Lists

namespace AuthGate.Ip
open Text

/-- The characters that addresses are written with. -/
def writtenChars : List Char := "0123456789abcdef.:".toList

/-- The digits that numbers are written with. -/
def digitChars : List Char := "0123456789abcdef".toList

theorem mem_toDigits {base value : Nat} (large : 1 < base) (small : base ≤ 16) :
    ∀ c ∈ Nat.toDigits base value, c ∈ digitChars := by
  have single : ∀ digit < 16, digit.digitChar ∈ digitChars := by decide
  induction value using Nat.strongRecOn with
  | ind value ih =>
    intro c member
    rw [Nat.toDigits_eq_if large] at member
    split at member
    · rename_i below
      rw [List.mem_singleton.mp member]
      exact single value (by omega)
    · rename_i above
      rcases List.mem_append.mp member with front | last
      · exact ih (value / base) (Nat.div_lt_self (by omega) large) c front
      · rw [List.mem_singleton.mp last]
        have digit := Nat.mod_lt value (Nat.lt_of_succ_lt large)
        exact single (value % base) (by omega)

theorem mem_dotted {octets : List Nat} {c : Char} (member : c ∈ (dotted octets).toList) :
    c ∈ digitChars ∨ c = '.' := by
  rw [dotted, String.toList_intercalate] at member
  rcases mem_intercalate member with between | ⟨part, present, here⟩
  · exact .inr (by simpa using between)
  · simp only [List.map_map, List.mem_map, Function.comp_apply] at present
    obtain ⟨octet, _, rfl⟩ := present
    rw [Nat.toString_eq_ofList_toDigits, String.toList_ofList] at here
    exact .inl (mem_toDigits (by decide) (by decide) c here)

theorem mem_joinPieces {pieces : List UInt16} {c : Char} (member : c ∈ (joinPieces pieces).toList) :
    c ∈ digitChars ∨ c = ':' := by
  rw [joinPieces, String.toList_intercalate] at member
  rcases mem_intercalate member with between | ⟨part, present, here⟩
  · exact .inr (by simpa using between)
  · simp only [List.map_map, List.mem_map, Function.comp_apply] at present
    obtain ⟨piece, _, rfl⟩ := present
    rw [hexNumber, String.toList_ofList] at here
    exact .inl (mem_toDigits (by decide) (by decide) c here)

theorem mem_compressed {pieces : List UInt16} {c : Char} (member : c ∈ (compressed pieces).toList) :
    c ∈ digitChars ∨ c = ':' := by
  unfold compressed at member
  split at member
  · exact mem_joinPieces member
  · simp only [String.toList_append, List.mem_append] at member
    rcases member with (left | between) | right
    · exact mem_joinPieces left
    · exact .inr (by simpa using between)
    · exact mem_joinPieces right

theorem zeroRun_bounds {pieces : List UInt16} {start length : Nat}
    (found : zeroRun pieces = some (start, length)) :
    2 ≤ length ∧ start + length ≤ pieces.length := by
  have run (start : Nat) :
      ((pieces.drop start).takeWhile (· == 0)).length ≤ pieces.length - start := by
    rw [← List.length_drop]
    exact (List.takeWhile_sublist _).length_le
  refine List.foldlRecOn (motive := fun best : Option (Nat × Nat) => ∀ start length,
    best = some (start, length) → 2 ≤ length ∧ start + length ≤ pieces.length) _ _ ?_ ?_
    start length found
  · intro start length none
    cases none
  · intro best before position _ start length
    have here := run position
    cases best with
    | none =>
      simp only
      split
      · rintro ⟨⟩
        omega
      · rintro ⟨⟩
    | some pair =>
      obtain ⟨first, longest⟩ := pair
      have longer := before first longest rfl
      simp only
      split
      · rintro ⟨⟩
        omega
      · rintro ⟨⟩
        exact longer

theorem count_joinPieces_le (pieces : List UInt16) :
    (joinPieces pieces).toList.count ':' ≤ pieces.length := by
  have colon : ':' ∉ digitChars := by decide
  have absent : ∀ part ∈ (pieces.map fun piece => hexNumber piece.toNat).map String.toList,
      ':' ∉ part := by
    intro part present inside
    simp only [List.map_map, List.mem_map, Function.comp_apply] at present
    obtain ⟨piece, _, rfl⟩ := present
    rw [hexNumber, String.toList_ofList] at inside
    exact colon (mem_toDigits (by decide) (by decide) _ inside)
  have count : ([':'].intercalate _).count ':' ≤ _ := count_intercalate_le absent
  rw [joinPieces, String.toList_intercalate]
  simpa using count

/-- The text of a whole address of version six has at most eight colons. -/
theorem count_compressed_le {pieces : List UInt16} (whole : pieces.length = 8) :
    (compressed pieces).toList.count ':' ≤ 8 := by
  unfold compressed
  split
  · rw [← whole]
    exact count_joinPieces_le pieces
  · rename_i start length run
    obtain ⟨long, inside⟩ := zeroRun_bounds run
    have left := count_joinPieces_le (pieces.take start)
    have right := count_joinPieces_le (pieces.drop (start + length))
    have between : "::".toList.count ':' = 2 := by decide
    rw [List.length_take] at left
    rw [List.length_drop] at right
    rw [String.toList_append, String.toList_append, List.count_append, List.count_append, between]
    omega

theorem length_of_v6? {text : List Char} {pieces : List UInt16} (read : v6? text = some pieces) :
    pieces.length = 8 := by
  unfold v6? at read
  split at read
  · obtain ⟨other, _, rest⟩ := Option.bind_eq_some_iff.mp read
    split at rest
    · rename_i whole
      cases rest
      exact whole
    · cases rest
  · obtain ⟨left, _, rest⟩ := Option.bind_eq_some_iff.mp read
    obtain ⟨right, _, rest⟩ := Option.bind_eq_some_iff.mp rest
    split at rest
    · cases rest
    · cases rest
      simp only [List.length_append, List.length_replicate]
      omega

theorem mem_text {ip : Ip} {c : Char} (member : c ∈ ip.text.toList) : c ∈ writtenChars := by
  have digit : digitChars ⊆ writtenChars := by decide
  have dottedChar {octets : List Nat} (member : c ∈ (dotted octets).toList) :
      c ∈ writtenChars := by
    rcases mem_dotted member with here | rfl
    · exact digit here
    · decide
  unfold text at member
  split at member
  · exact dottedChar member
  · split at member
    · rw [String.toList_append] at member
      rcases List.mem_append.mp member with mapped | behind
      · have all : "::ffff:".toList ⊆ writtenChars := by decide
        exact all mapped
      · exact dottedChar behind
    · rcases mem_compressed member with here | rfl
      · exact digit here
      · decide

/-- The text of an address can be written into a header value. -/
theorem holds_text (ip : Ip) : HeaderValue.Holds ip.text := by
  have all : ∀ c ∈ writtenChars, HeaderValue.isTextChar c = true := List.all_eq_true.mp (by decide)
  exact fun c member => all c (mem_text member)

/-- An address of version six has eight pieces. -/
def Whole : Ip → Prop
  | .v4 _ => True
  | .v6 pieces => pieces.length = 8

theorem whole_of_parse {text : List Char} {ip : Ip} (read : parse text = some ip) : ip.Whole := by
  unfold parse at read
  split at read
  · cases read
    trivial
  · obtain ⟨pieces, six, rfl⟩ := Option.map_eq_some_iff.mp read
    exact length_of_v6? six

theorem dotted_ne_empty (first second : Nat) (rest : List Nat) :
    dotted (first :: second :: rest) ≠ "" := by
  rw [Ne, ← String.toList_eq_nil_iff, dotted, String.toList_intercalate]
  simp [List.intercalate_cons_cons]

theorem joinPieces_ne_empty (first second : UInt16) (rest : List UInt16) :
    joinPieces (first :: second :: rest) ≠ "" := by
  rw [Ne, ← String.toList_eq_nil_iff, joinPieces, String.toList_intercalate]
  simp [List.intercalate_cons_cons]

/-- A whole address has a text. -/
theorem text_ne_empty {ip : Ip} (whole : ip.Whole) : ip.text ≠ "" := by
  unfold text
  split
  · exact dotted_ne_empty _ _ _
  · rename_i pieces
    split
    · simp
    · unfold compressed
      split
      · match pieces, whole with
        | first :: second :: rest, _ => exact joinPieces_ne_empty first second rest
      · simp

end AuthGate.Ip
