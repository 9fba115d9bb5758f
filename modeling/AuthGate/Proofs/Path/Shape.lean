import AuthGate.Proofs.Path.Normal
import AuthGate.Proofs.Text.Ascii
import Mathlib.Data.String.Basic

/-! What normal forms look like. A normal form has neither dot segments nor repeated slashes, its escapes
can be written in no other way, it ends with a slash just if the path named a directory, and it takes no
more bytes than the path did. -/
namespace AuthGate.Path
open Text

/-- An escape that no normal form changes: it stands for a character that needs one and is no separator,
and its letters are in upper case. -/
structure KeptEscape (first second : Char) : Prop where
  read : ∃ value, escapeValue? first second = some value ∧
    isSeparator (Char.ofNat value) = false ∧ isUnreserved (Char.ofNat value) = false
  firstUpper : isLower first = false
  secondUpper : isLower second = false

private theorem isLower_upper (c : Char) : isLower (upper c) = false := by
  cases small : isLower c with
  | false => simp [upper, small]
  | true =>
    have range : 'a' ≤ c ∧ c ≤ 'z' := by simpa [isLower] using small
    have highest : c.toNat < 128 := Nat.lt_of_le_of_lt range.2 (by decide)
    exact ascii_forall (P := fun c => isLower (upper c) = false) (by decide +kernel) highest

theorem ascii_of_isUnreserved {c : Char} (unreserved : isUnreserved c = true) : c.toNat < 128 := by
  by_contra beyond
  have nine := not_le_of_beyond beyond '9' (by decide)
  have lowZ := not_le_of_beyond beyond 'z' (by decide)
  have highZ := not_le_of_beyond beyond 'Z' (by decide)
  have mark : c = '-' ∨ c = '.' ∨ c = '_' ∨ c = '~' := by
    simpa [isUnreserved, isAlphanum, isAlpha, isUpper, isLower, isDigit, nine, lowZ, highZ,
      or_assoc] using unreserved
  rcases mark with rfl | rfl | rfl | rfl <;> exact beyond (by decide)

private theorem escapeValue?_percent (c : Char) :
    escapeValue? '%' c = none ∧ escapeValue? c '%' = none := by
  have noDigit : hexValue? '%' = none := rfl
  unfold escapeValue?
  rw [noDigit]
  constructor
  · cases hexValue? c <;> rfl
  · cases hexValue? c <;> rfl

namespace Decoded

variable {raw text : List Char}

private theorem keptEscape (decoded : Decoded raw text) {before after : List Char}
    (found : text = before ++ '%' :: after) :
    ∃ first second rest, after = first :: second :: rest ∧ KeptEscape first second := by
  induction decoded generalizing before with
  | nil => simp at found
  | plain other _ ih =>
    cases before with
    | nil => exact absurd (List.cons.inj found).1 other
    | cons head before => exact ih (List.cons.inj found).2
  | opened _ unreserved _ ih =>
    cases before with
    | nil => exact absurd (List.cons.inj found).1 (ne_percent_of_isUnreserved unreserved)
    | cons head before => exact ih (List.cons.inj found).2
  | @kept first second value _ _ read inSegment reserved _ ih =>
    rw [← escapeValue?_upper] at read
    rcases before with _ | ⟨_, _ | ⟨_, _ | ⟨_, before⟩⟩⟩
    · simp only [List.nil_append, List.cons.injEq, true_and] at found
      exact ⟨_, _, _, found.symm, ⟨value, read, inSegment, reserved⟩, isLower_upper _, isLower_upper _⟩
    · simp only [List.cons_append, List.nil_append, List.cons.injEq] at found
      rw [found.2.1, (escapeValue?_percent _).1] at read
      cases read
    · simp only [List.cons_append, List.nil_append, List.cons.injEq] at found
      rw [found.2.2.1, (escapeValue?_percent _).2] at read
      cases read
    · simp only [List.cons_append, List.cons.injEq] at found
      exact ih found.2.2.2

/-- A decoded text holds nothing but unreserved characters, percent signs, and what the path held, perhaps
in upper case. -/
theorem forall_mem {belongs : Char → Prop} (unreserved : ∀ c, isUnreserved c = true → belongs c)
    (percent : belongs '%') (raised : ∀ c, belongs c → belongs (upper c)) (decoded : Decoded raw text)
    (each : ∀ c ∈ raw, belongs c) : ∀ c ∈ text, belongs c := by
  induction decoded with
  | nil => exact each
  | plain _ _ ih =>
    rw [List.forall_mem_cons] at each ⊢
    exact ⟨each.1, ih each.2⟩
  | opened _ open' _ ih =>
    simp only [List.forall_mem_cons] at each ⊢
    exact ⟨unreserved _ open', ih each.2.2.2⟩
  | kept _ _ _ _ ih =>
    simp only [List.forall_mem_cons] at each ⊢
    exact ⟨percent, raised _ each.2.1, raised _ each.2.2.1, ih each.2.2.2⟩

private theorem utf8Len_le (decoded : Decoded raw text) :
    String.utf8Len text ≤ String.utf8Len raw := by
  have upperSize (c : Char) : (upper c).utf8Size = c.utf8Size := by
    rcases upper_cases c with same | ⟨n, below, rfl⟩
    · rw [same]
    · have all : ∀ n < 26, (upper (Char.ofNat (97 + n))).utf8Size = (Char.ofNat (97 + n)).utf8Size := by
        decide
      exact all n below
  induction decoded with
  | nil => exact Nat.le_refl _
  | plain _ _ ih => simpa using ih
  | opened _ unreserved _ ih =>
    have single : (Char.ofNat _).utf8Size = 1 :=
      Char.utf8Size_eq_one_iff.mpr (Nat.le_of_lt_succ (ascii_of_isUnreserved unreserved))
    have percent : '%'.utf8Size = 1 := rfl
    simp only [String.utf8Len_cons, single]
    omega
  | kept _ _ _ _ ih =>
    simp only [String.utf8Len_cons, upperSize]
    omega

end Decoded

/-- The normal form of a path takes no more bytes than the path. -/
theorem utf8ByteSize_of_normalize {path normal : String} (accepted : normalize path = .ok normal) :
    normal.utf8ByteSize ≤ path.utf8ByteSize := by
  obtain ⟨absolute, text, decoded, rfl⟩ := normalize_eq_ok_iff.mp accepted
  calc (String.ofList (canonical text)).utf8ByteSize
      = String.utf8Len (canonical text) := String.utf8ByteSize_ofList _
    _ ≤ String.utf8Len text := String.utf8Len_le_of_sublist (canonical_sublist (decoded.absolute absolute))
    _ ≤ String.utf8Len path.toList := decoded.utf8Len_le
    _ = path.utf8ByteSize := String.utf8Len_toList path

namespace Normal

variable {path : List Char}

private theorem noDoubleSlash (normal : Normal path) : ¬ ['/', '/'] <:+: path := by
  rintro ⟨before, after, same⟩
  have split : path.splitOn '/' = before.splitOn '/' ++ [] :: after.splitOn '/' := by
    rw [← same, List.append_assoc, List.cons_append, List.cons_append, List.nil_append,
      List.splitOn_append_cons_self, splitOn_slash]
  obtain ⟨first, others, front⟩ := List.exists_cons_of_ne_nil (List.splitOn_ne_nil '/' before)
  obtain ⟨next, behind, back⟩ := List.exists_cons_of_ne_nil (List.splitOn_ne_nil '/' after)
  have filled := normal.filled
  rw [split, front, back] at filled
  exact filled [] (by simp) rfl

end Normal

private theorem slash_suffix_canonical_iff (text : List Char) : ['/'] <:+ canonical text ↔
    resolve (text.splitOn '/') = [] ∨ namesDirectory (text.splitOn '/') = true := by
  have filled : ∀ segment ∈ resolve (text.splitOn '/'), segment ≠ [] :=
    fun _ member => ne_nil_of_mem_resolve member
  have absolute : (canonical text).head? = some '/' := head_render _ _
  rw [suffix_iff absolute List.not_mem_nil, splitOn_canonical]
  generalize resolve (text.splitOn '/') = kept at filled ⊢
  cases namesDirectory (text.splitOn '/') with
  | true => simp [List.getLast?_cons]
  | false =>
    by_cases none : kept = []
    · simp [none]
    · obtain ⟨last, found⟩ : ∃ last, kept.getLast? = some last :=
        ⟨_, List.getLast?_eq_some_getLast none⟩
      have lastFilled := filled last (List.mem_of_getLast? found)
      simp [List.getLast?_cons, none, found, lastFilled]

private theorem slash_suffix_iff {text : List Char} (absolute : text.head? = some '/') :
    ['/'] <:+ canonical text ↔ canonical text = ['/'] ∨
      ['/'] <:+ text ∨ ['/', '.'] <:+ text ∨ ['/', '.', '.'] <:+ text := by
  rw [← namesDirectory_iff absolute]
  constructor
  · intro ended
    rcases (slash_suffix_canonical_iff text).mp ended with none | directory
    · exact .inl (by simp [canonical, none, render])
    · exact .inr directory
  · rintro (root | directory)
    · exact root.symm ▸ List.suffix_rfl
    · exact (slash_suffix_canonical_iff text).mpr (.inr directory)

/-- What a path in normal form is, next to the path that it is the normal form of. -/
structure NormalFormOf (path normal : String) : Prop where
  absolute : normal.toList.head? = some '/'
  noDotSegment : ∀ segment ∈ normal.toList.splitOn '/', segment ≠ ['.'] ∧ segment ≠ ['.', '.']
  noDoubleSlash : ¬ ['/', '/'] <:+: normal.toList
  escapes : ∀ before after, normal.toList = before ++ '%' :: after →
    ∃ first second rest, after = first :: second :: rest ∧ KeptEscape first second
  directory : ∃ text, decodeUnreserved path.toList = .ok text ∧
    (['/'] <:+ normal.toList ↔
      normal = "/" ∨ ['/'] <:+ text ∨ ['/', '.'] <:+ text ∨ ['/', '.', '.'] <:+ text)
  short : normal.utf8ByteSize ≤ path.utf8ByteSize
  fixed : normalize normal = .ok normal

/-- The normal form of a path has all of these properties, so that normalizing it again changes nothing. -/
theorem normalForm {path normal : String} (accepted : normalize path = .ok normal) :
    NormalFormOf path normal := by
  obtain ⟨absolute, text, decoded, written⟩ := normalize_eq_ok_iff.mp accepted
  have isNormal := normal_of_normalize accepted
  constructor
  case absolute => exact isNormal.absolute
  case noDotSegment =>
    exact fun segment member => ⟨(isNormal.settled segment member).noDot,
      (isNormal.settled segment member).noDots⟩
  case noDoubleSlash => exact isNormal.noDoubleSlash
  case escapes => exact fun before after found => isNormal.settled.decoded.keptEscape found
  case directory =>
    have root : normal = "/" ↔ canonical text = ['/'] := by
      rw [written, ← String.toList_inj, String.toList_ofList]
      rfl
    refine ⟨text, decoded.accepted, ?_⟩
    rw [root, written, String.toList_ofList]
    exact slash_suffix_iff (decoded.absolute absolute)
  case short => exact utf8ByteSize_of_normalize accepted
  case fixed => exact normalize_of_normal isNormal

/-- A detour, escapes of both kinds and repeated slashes, in front of a directory. -/
theorem normalForm_detour : normalize "/x/%2e./%7Eb%3f//c/." = .ok "/~b%3F/c/" ∧
    NormalFormOf "/x/%2e./%7Eb%3f//c/." "/~b%3F/c/" := by
  have accepted : normalize "/x/%2e./%7Eb%3f//c/." = .ok "/~b%3F/c/" := by decide
  exact ⟨accepted, normalForm accepted⟩

end AuthGate.Path
