import AuthGate.Path
import AuthGate.Proofs.Except

/-! Escapes in paths. Decoding is told by a relation that reads a path one character or one escape
at a time, so that a path can be cut wherever no escape is cut. -/
namespace AuthGate.Path
open Text

/-- What a path without bad escapes is decoded to. -/
inductive Decoded : List Char → List Char → Prop where
  | nil : Decoded [] []
  | plain {c : Char} {raw text : List Char} (other : c ≠ '%') (rest : Decoded raw text) :
      Decoded (c :: raw) (c :: text)
  | opened {first second : Char} {value : Nat} {raw text : List Char}
      (read : escapeValue? first second = some value)
      (unreserved : isUnreserved (Char.ofNat value) = true) (rest : Decoded raw text) :
      Decoded ('%' :: first :: second :: raw) (Char.ofNat value :: text)
  | kept {first second : Char} {value : Nat} {raw text : List Char}
      (read : escapeValue? first second = some value)
      (inSegment : isSeparator (Char.ofNat value) = false)
      (reserved : isUnreserved (Char.ofNat value) = false) (rest : Decoded raw text) :
      Decoded ('%' :: first :: second :: raw) ('%' :: upper first :: upper second :: text)

/-- A text that does not end inside of an escape. -/
inductive Whole : List Char → Prop where
  | nil : Whole []
  | plain {c : Char} {raw : List Char} (other : c ≠ '%') (rest : Whole raw) : Whole (c :: raw)
  | escape {first second : Char} {raw : List Char} (rest : Whole raw) :
      Whole ('%' :: first :: second :: raw)

theorem decodeUnreserved_plain {c : Char} (other : c ≠ '%') (raw : List Char) :
    decodeUnreserved (c :: raw) = (c :: ·) <$> decodeUnreserved raw := by
  rw [decodeUnreserved]
  · intro first second rest percent
    exact absurd percent other
  · intro percent
    exact absurd percent other

theorem isSeparator_of_isUnreserved {c : Char} (unreserved : isUnreserved c = true) :
    isSeparator c = false := by
  by_cases slash : c = '/'
  · subst slash
    exact absurd unreserved (by decide)
  · by_cases backslash : c = '\\'
    · subst backslash
      exact absurd unreserved (by decide)
    · simp [isSeparator, slash, backslash]

theorem decoded_of_ok {raw text : List Char} (accepted : decodeUnreserved raw = .ok text) :
    Decoded raw text := by
  fun_induction decodeUnreserved raw generalizing text with
  | case1 =>
    cases accepted
    exact .nil
  | case2 first second rest unread => cases accepted
  | case3 first second rest value read c => cases accepted
  | case4 first second rest value read c =>
    rename_i inSegment unreserved ih
    obtain ⟨others, decoded, rfl⟩ := map_eq_ok accepted
    exact .opened read unreserved (ih decoded)
  | case5 first second rest value read c =>
    rename_i inSegment reserved ih
    obtain ⟨others, decoded, rfl⟩ := map_eq_ok accepted
    exact .kept read (by simpa using inSegment) (by simpa using reserved) (ih decoded)
  | case6 rest short => cases accepted
  | case7 c rest notEscape other ih =>
    obtain ⟨others, decoded, rfl⟩ := map_eq_ok accepted
    exact .plain other (ih decoded)

theorem Decoded.accepted {raw text : List Char} (decoded : Decoded raw text) :
    decodeUnreserved raw = .ok text := by
  induction decoded with
  | nil => rfl
  | plain other rest ih =>
    rw [decodeUnreserved_plain other, ih]
    rfl
  | opened read unreserved rest ih =>
    simp only [decodeUnreserved, read, isSeparator_of_isUnreserved unreserved, unreserved, ih]
    rfl
  | kept read inSegment reserved rest ih =>
    simp only [decodeUnreserved, read, inSegment, reserved, ih]
    rfl

/-- A path is decoded to the text that it stands for, or to none. -/
theorem decodeUnreserved_eq_ok_iff {raw text : List Char} :
    decodeUnreserved raw = .ok text ↔ Decoded raw text :=
  ⟨decoded_of_ok, Decoded.accepted⟩

namespace Decoded

variable {raw text before after other : List Char}

theorem append (decoded : Decoded raw text) (behind : Decoded after other) :
    Decoded (raw ++ after) (text ++ other) := by
  induction decoded with
  | nil => exact behind
  | plain different _ ih => exact .plain different ih
  | opened read unreserved _ ih => exact .opened read unreserved ih
  | kept read inSegment reserved _ ih => exact .kept read inSegment reserved ih

theorem of_plain {c : Char} (different : c ≠ '%') (decoded : Decoded (c :: raw) text) :
    ∃ rest, Decoded raw rest ∧ text = c :: rest := by
  cases decoded with
  | plain _ rest => exact ⟨_, rest, rfl⟩
  | opened _ _ _ => exact absurd rfl different
  | kept _ _ _ _ => exact absurd rfl different

theorem of_escape {first second : Char} (decoded : Decoded ('%' :: first :: second :: raw) text) :
    ∃ value head rest, escapeValue? first second = some value ∧
      Decoded ['%', first, second] head ∧ Decoded raw rest ∧ text = head ++ rest := by
  cases decoded with
  | plain percent _ => exact absurd rfl percent
  | opened read unreserved rest =>
    exact ⟨_, [_], _, read, .opened read unreserved .nil, rest, rfl⟩
  | kept read inSegment reserved rest =>
    exact ⟨_, [_, _, _], _, read, .kept read inSegment reserved .nil, rest, rfl⟩

/-- Where no escape is cut, the parts of a path are decoded on their own. -/
theorem split (whole : Whole before) (decoded : Decoded (before ++ after) text) :
    ∃ first rest, Decoded before first ∧ Decoded after rest ∧ text = first ++ rest := by
  induction whole generalizing text with
  | nil => exact ⟨[], text, .nil, decoded, rfl⟩
  | plain different _ ih =>
    obtain ⟨others, behind, rfl⟩ := decoded.of_plain different
    obtain ⟨first, rest, left, right, rfl⟩ := ih behind
    exact ⟨_ :: first, rest, .plain different left, right, rfl⟩
  | escape _ ih =>
    obtain ⟨_, head, others, _, escape, behind, rfl⟩ := decoded.of_escape
    obtain ⟨first, rest, left, right, rfl⟩ := ih behind
    exact ⟨head ++ first, rest, escape.append left, right, (List.append_assoc ..).symm⟩

end Decoded

/-- A character that no escape stands for and none is written with. -/
structure Delimiter (c : Char) : Prop where
  reserved : isUnreserved c = false
  noPercent : c ≠ '%'
  noPlus : c ≠ '+'
  noDigit : hexValue? c = none

namespace Delimiter

theorem slash : Delimiter '/' := ⟨rfl, by decide, by decide, rfl⟩

theorem questionMark : Delimiter '?' := ⟨rfl, by decide, by decide, rfl⟩

theorem numberSign : Delimiter '#' := ⟨rfl, by decide, by decide, rfl⟩

variable {c : Char}

theorem not_first (delimiter : Delimiter c) (second : Char) : escapeValue? c second = none := by
  unfold escapeValue?
  rw [delimiter.noDigit]
  cases hexValue? second with
  | none => rfl
  | some low => exact if_neg delimiter.noPlus

theorem not_second (delimiter : Delimiter c) (first : Char) : escapeValue? first c = none := by
  unfold escapeValue?
  rw [delimiter.noDigit]
  cases hexValue? first <;> rfl

end Delimiter

theorem Decoded.slash {raw text : List Char} (rest : Decoded raw text) :
    Decoded ('/' :: raw) ('/' :: text) :=
  .plain Delimiter.slash.noPercent rest

theorem Decoded.absolute {raw text : List Char} (decoded : Decoded raw text)
    (absolute : raw.head? = some '/') : text.head? = some '/' := by
  obtain ⟨rest, rfl⟩ := List.head?_eq_some_iff.mp absolute
  obtain ⟨_, _, rfl⟩ := decoded.of_plain Delimiter.slash.noPercent
  rfl

/-- A slash of an accepted path is never inside of an escape. -/
theorem whole_of_slash {after : List Char} :
    ∀ {before text : List Char}, Decoded (before ++ '/' :: after) text → Whole before
  | [], _, _ => .nil
  | c :: before, text, decoded => by
    by_cases percent : c = '%'
    · subst percent
      match before with
      | [] =>
        cases after with
        | nil => cases decoded with | plain percent _ => exact absurd rfl percent
        | cons second rest =>
          obtain ⟨value, _, _, read, _⟩ := decoded.of_escape
          rw [Delimiter.slash.not_first] at read
          cases read
      | [first] =>
        obtain ⟨value, _, _, read, _⟩ := decoded.of_escape
        rw [Delimiter.slash.not_second] at read
        cases read
      | first :: second :: before =>
        obtain ⟨_, _, rest, _, _, decoded, _⟩ := decoded.of_escape
        exact .escape (whole_of_slash decoded)
    · obtain ⟨rest, decoded, _⟩ := decoded.of_plain percent
      exact .plain percent (whole_of_slash decoded)

/-- So an accepted path can be cut at each of its slashes. -/
theorem Decoded.split_slash {before after text : List Char}
    (decoded : Decoded (before ++ '/' :: after) text) :
    ∃ first rest, Decoded before first ∧ Decoded after rest ∧ text = first ++ '/' :: rest := by
  obtain ⟨first, behind, left, slash, rfl⟩ := decoded.split (whole_of_slash decoded)
  obtain ⟨rest, right, rfl⟩ := slash.of_plain Delimiter.slash.noPercent
  exact ⟨first, rest, left, right, rfl⟩

theorem upper_cases (c : Char) : upper c = c ∨ ∃ n < 26, c = Char.ofNat (97 + n) := by
  by_cases small : isLower c = true
  · right
    have range : 'a' ≤ c ∧ c ≤ 'z' := by simpa [isLower] using small
    have lowest : 97 ≤ c.toNat := range.1
    have highest : c.toNat ≤ 122 := range.2
    refine ⟨c.toNat - 97, by omega, ?_⟩
    rw [Nat.add_sub_cancel' lowest, Char.ofNat_toNat]
  · left
    simp [upper, small]

/-- The case of a digit does not change its value. -/
theorem hexValue?_upper (c : Char) : hexValue? (upper c) = hexValue? c := by
  rcases upper_cases c with same | ⟨n, small, rfl⟩
  · rw [same]
  · have all : ∀ n < 26, hexValue? (upper (Char.ofNat (97 + n))) = hexValue? (Char.ofNat (97 + n)) := by
      decide
    exact all n small

theorem upper_eq_plus_iff (c : Char) : upper c = '+' ↔ c = '+' := by
  rcases upper_cases c with same | ⟨n, small, rfl⟩
  · rw [same]
  · have all : ∀ n < 26, upper (Char.ofNat (97 + n)) = '+' ↔ Char.ofNat (97 + n) = '+' := by decide
    exact all n small

theorem upper_upper (c : Char) : upper (upper c) = upper c := by
  rcases upper_cases c with same | ⟨n, small, rfl⟩
  · rw [same, same]
  · have all : ∀ n < 26, upper (upper (Char.ofNat (97 + n))) = upper (Char.ofNat (97 + n)) := by
      decide
    exact all n small

theorem escapeValue?_upper (first second : Char) :
    escapeValue? (upper first) (upper second) = escapeValue? first second := by
  unfold escapeValue?
  simp only [hexValue?_upper, upper_eq_plus_iff]

theorem escapeValue?_congr {first second other another : Char} (left : upper first = upper other)
    (right : upper second = upper another) :
    escapeValue? first second = escapeValue? other another := by
  rw [← escapeValue?_upper first, ← escapeValue?_upper other, left, right]

namespace Decoded

variable {raw text other : List Char}

theorem unique (first : Decoded raw text) (second : Decoded raw other) : text = other :=
  Except.ok.inj (first.accepted.symm.trans second.accepted)

theorem of_noPercent (noPercent : '%' ∉ text) : Decoded text text := by
  induction text with
  | nil => exact .nil
  | cons c rest ih =>
    rw [List.mem_cons, not_or] at noPercent
    exact .plain (Ne.symm noPercent.1) (ih noPercent.2)

theorem length_le (decoded : Decoded raw text) : text.length ≤ raw.length := by
  induction decoded with
  | nil => exact Nat.le_refl _
  | plain _ _ ih => exact Nat.succ_le_succ ih
  | opened _ _ _ ih =>
    simp only [List.length_cons]
    omega
  | kept _ _ _ _ ih =>
    simp only [List.length_cons]
    omega

/-- A delimiter is in a decoded text only if it was there before. -/
theorem mem_raw {c : Char} (delimiter : Delimiter c) (decoded : Decoded raw text)
    (member : c ∈ text) : c ∈ raw := by
  induction decoded with
  | nil => exact member
  | plain _ _ ih =>
    rcases List.mem_cons.mp member with rfl | later
    · exact List.mem_cons_self
    · exact List.mem_cons_of_mem _ (ih later)
  | opened _ unreserved _ ih =>
    rcases List.mem_cons.mp member with rfl | later
    · rw [delimiter.reserved] at unreserved
      cases unreserved
    · simp [ih later]
  | @kept first second value _ _ read _ _ _ ih =>
    rw [← escapeValue?_upper] at read
    rcases List.mem_cons.mp member with percent | escape
    · exact absurd percent delimiter.noPercent
    rcases List.mem_cons.mp escape with rfl | escape
    · rw [delimiter.not_first] at read
      cases read
    rcases List.mem_cons.mp escape with rfl | later
    · rw [delimiter.not_second] at read
      cases read
    · simp [ih later]

end Decoded

/-- The name that a segment spells, each escape being read as a character. -/
inductive Spells : List Char → List Char → Prop where
  | nil : Spells [] []
  | plain {c : Char} {segment name : List Char} (other : c ≠ '%') (inside : c ≠ '/')
      (rest : Spells segment name) : Spells (c :: segment) (c :: name)
  | escape {first second : Char} {high low : Nat} {segment name : List Char}
      (left : hexValue? first = some high) (right : hexValue? second = some low)
      (inSegment : isSeparator (Char.ofNat (16 * high + low)) = false)
      (rest : Spells segment name) :
      Spells ('%' :: first :: second :: segment) (Char.ofNat (16 * high + low) :: name)

theorem ne_percent_of_isUnreserved {c : Char} (unreserved : isUnreserved c = true) : c ≠ '%' := by
  rintro rfl
  exact absurd unreserved (by decide)

theorem escapeValue?_of_hex {first second : Char} {high low : Nat}
    (left : hexValue? first = some high) (right : hexValue? second = some low) :
    escapeValue? first second = some (16 * high + low) := by
  unfold escapeValue?
  rw [left, right]

/-- What has been decoded once stays as it is. -/
theorem Decoded.again {raw text : List Char} (decoded : Decoded raw text) : Decoded text text := by
  induction decoded with
  | nil => exact .nil
  | plain other _ ih => exact .plain other ih
  | opened _ unreserved _ ih => exact .plain (ne_percent_of_isUnreserved unreserved) ih
  | @kept first second value _ _ read inSegment reserved _ ih =>
    have kept := Decoded.kept ((escapeValue?_upper first second).trans read) inSegment reserved ih
    rwa [upper_upper, upper_upper] at kept

theorem Spells.noSlash {segment name : List Char} (spells : Spells segment name) :
    '/' ∉ segment := by
  have ne_slash {c : Char} {value : Nat} (digit : hexValue? c = some value) : '/' ≠ c := by
    rintro rfl
    rw [Delimiter.slash.noDigit] at digit
    cases digit
  induction spells with
  | nil => exact List.not_mem_nil
  | plain _ inside _ ih => simp [inside.symm, ih]
  | escape left right _ _ ih => simp [ne_slash left, ne_slash right, ih]

/-- A segment that spells a name is decoded to the name itself, unless an escape is kept. -/
theorem Spells.decoded {segment name : List Char} (spells : Spells segment name) :
    ∃ text, Decoded segment text ∧
      (text = name ∨ '%' ∈ text ∧ ∃ c ∈ name, isUnreserved c = false) := by
  have extend {c : Char} {text name : List Char}
      (same : text = name ∨ '%' ∈ text ∧ ∃ c ∈ name, isUnreserved c = false) :
      c :: text = c :: name ∨ '%' ∈ c :: text ∧ ∃ other ∈ c :: name, isUnreserved other = false := by
    rcases same with rfl | ⟨percent, other, member, reserved⟩
    · exact .inl rfl
    · exact .inr ⟨List.mem_cons_of_mem _ percent, other, List.mem_cons_of_mem _ member, reserved⟩
  induction spells with
  | nil => exact ⟨[], .nil, .inl rfl⟩
  | plain other _ _ ih =>
    obtain ⟨text, decoded, same⟩ := ih
    exact ⟨_ :: text, .plain other decoded, extend same⟩
  | @escape first second high low _ _ left right inSegment _ ih =>
    obtain ⟨text, decoded, same⟩ := ih
    have read := escapeValue?_of_hex left right
    cases unreserved : isUnreserved (Char.ofNat (16 * high + low)) with
    | true => exact ⟨_ :: text, .opened read unreserved decoded, extend same⟩
    | false =>
      exact ⟨_, .kept read inSegment unreserved decoded,
        .inr ⟨List.mem_cons_self, _, List.mem_cons_self, unreserved⟩⟩

end AuthGate.Path
