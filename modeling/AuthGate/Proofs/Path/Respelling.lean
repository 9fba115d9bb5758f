import AuthGate.Proofs.Path.Segments
import Mathlib.Logic.Relation

namespace AuthGate.Path
open Text

/-- One change of the spelling of a path. -/
inductive Edit : List Char → List Char → Prop where
  | encode {before after : List Char} {c first second : Char} {high low : Nat}
      (whole : Whole before) (unreserved : isUnreserved c = true)
      (left : hexValue? first = some high) (right : hexValue? second = some low)
      (spelled : 16 * high + low = c.toNat) :
      Edit (before ++ c :: after) (before ++ '%' :: first :: second :: after)
  | recase {before after : List Char} {first second other another : Char}
      (whole : Whole before) (left : upper first = upper other)
      (right : upper second = upper another) :
      Edit (before ++ '%' :: first :: second :: after) (before ++ '%' :: other :: another :: after)
  | slash {before after : List Char} :
      Edit (before ++ '/' :: after) (before ++ '/' :: '/' :: after)
  | dot {before after : List Char} :
      Edit (before ++ '/' :: after) (before ++ '/' :: '.' :: '/' :: after)
  | detour {before after segment name : List Char} (nonempty : segment ≠ [])
      (spells : Spells segment name) (noDot : name ≠ ['.']) (noDots : name ≠ ['.', '.']) :
      Edit (before ++ '/' :: after) (before ++ '/' :: (segment ++ '/' :: '.' :: '.' :: '/' :: after))

/-- Any number of changes, one after another. -/
def Respelling : List Char → List Char → Prop := Relation.ReflTransGen Edit

theorem Decoded.recase {first second other another : Char} {text : List Char}
    (left : upper first = upper other) (right : upper second = upper another)
    (decoded : Decoded ['%', first, second] text) : Decoded ['%', other, another] text := by
  have value := escapeValue?_congr left right
  cases decoded with
  | plain percent _ => exact absurd rfl percent
  | opened read unreserved rest => exact .opened (value ▸ read) unreserved rest
  | kept read inSegment reserved rest =>
    rw [left, right]
    exact .kept (value ▸ read) inSegment reserved rest

theorem Decoded.insert {before after inner text innerText : List Char}
    (decoded : Decoded (before ++ '/' :: after) text) (innerDecoded : Decoded inner innerText)
    (neutral : Neutral (innerText.splitOn '/')) :
    ∃ other, Decoded (before ++ '/' :: (inner ++ '/' :: after)) other ∧
      canonical other = canonical text := by
  obtain ⟨first, rest, left, right, rfl⟩ := decoded.split_slash
  refine ⟨first ++ '/' :: (innerText ++ '/' :: rest), ?_, ?_⟩
  · exact left.append (innerDecoded.append right.slash).slash
  · have same := canonical_neutral neutral first rest
    rwa [List.append_assoc, List.cons_append] at same

theorem Edit.canonical_eq {path other text : List Char} (edit : Edit path other)
    (decoded : Decoded path text) :
    ∃ otherText, Decoded other otherText ∧ canonical otherText = canonical text := by
  cases edit with
  | encode whole unreserved left right spelled =>
    obtain ⟨first, behind, front, back, rfl⟩ := decoded.split whole
    obtain ⟨rest, tail, rfl⟩ := back.of_plain (ne_percent_of_isUnreserved unreserved)
    have read := escapeValue?_of_hex left right
    rw [spelled] at read
    refine ⟨_, front.append (.opened read ?_ tail), ?_⟩
    · rwa [Char.ofNat_toNat]
    · rw [Char.ofNat_toNat]
  | recase whole left right =>
    obtain ⟨first, behind, front, back, rfl⟩ := decoded.split whole
    obtain ⟨_, head, rest, _, escape, tail, rfl⟩ := back.of_escape
    exact ⟨_, front.append ((escape.recase left right).append tail), rfl⟩
  | slash => exact decoded.insert .nil .empty
  | dot => exact decoded.insert (.plain (by decide) .nil) .dot
  | @detour before after segment name nonempty spells noDot noDots =>
    obtain ⟨word, spelled, same⟩ := spells.decoded
    have oneSegment : '/' ∉ word := fun slash =>
      spells.noSlash (spelled.mem_raw Delimiter.slash slash)
    have back : Decoded ['/', '.', '.'] ['/', '.', '.'] :=
      .slash (.plain (by decide) (.plain (by decide) .nil))
    have split : (word ++ ['/', '.', '.']).splitOn '/' = [word, ['.', '.']] := by
      rw [List.splitOn_append_cons_self_of_not_mem oneSegment]
      rfl
    have neutral : Neutral ((word ++ ['/', '.', '.']).splitOn '/') := by
      rw [split]
      apply Neutral.detour
      · rintro rfl
        cases spelled
        exact nonempty rfl
      · rintro rfl
        rcases same with same | ⟨percent, _⟩
        · exact noDot same.symm
        · exact absurd percent (by decide)
      · rintro rfl
        rcases same with same | ⟨percent, _⟩
        · exact noDots same.symm
        · exact absurd percent (by decide)
    have inserted := decoded.insert (spelled.append back) neutral
    rwa [List.append_assoc] at inserted

theorem Edit.absolute {path other : List Char} (edit : Edit path other)
    (absolute : path.head? = some '/') : other.head? = some '/' := by
  cases edit with
  | @encode before _ c _ _ _ _ _ unreserved _ _ _ =>
    cases before with
    | nil =>
      have slash : c = '/' := by simpa using absolute
      subst slash
      exact absurd unreserved (by decide)
    | cons head rest => exact absolute
  | @recase before _ _ _ _ _ _ _ _ =>
    cases before with
    | nil => exact absurd absolute (by simp)
    | cons head rest => exact absolute
  | @slash before _ => cases before <;> exact absolute
  | @dot before _ => cases before <;> exact absolute
  | @detour before _ _ _ _ _ _ _ => cases before <;> exact absolute

theorem Respelling.canonical_eq {path other text : List Char} (respelling : Respelling path other)
    (absolute : path.head? = some '/') (decoded : Decoded path text) :
    other.head? = some '/' ∧
      ∃ otherText, Decoded other otherText ∧ canonical otherText = canonical text := by
  induction respelling with
  | refl => exact ⟨absolute, text, decoded, rfl⟩
  | tail _ edit ih =>
    obtain ⟨head, otherText, otherDecoded, same⟩ := ih
    obtain ⟨nextText, nextDecoded, next⟩ := edit.canonical_eq otherDecoded
    exact ⟨edit.absolute head, nextText, nextDecoded, next.trans same⟩

/-- All spellings of an accepted path are accepted, and have its normal form. -/
theorem normalize_respelling {path other normal : String}
    (respelling : Respelling path.toList other.toList) (accepted : normalize path = .ok normal) :
    normalize other = .ok normal := by
  obtain ⟨absolute, text, decoded, rfl⟩ := normalize_eq_ok_iff.mp accepted
  obtain ⟨head, otherText, otherDecoded, same⟩ := respelling.canonical_eq absolute decoded
  exact normalize_eq_ok_iff.mpr ⟨head, otherText, otherDecoded, by rw [same]⟩

end AuthGate.Path
