import AuthGate.Proofs.Path.Escape
import Mathlib.Data.List.Flatten

namespace AuthGate.Path

theorem splitOn_cons {c : Char} (inside : c ≠ '/') (text : List Char) :
    ∃ segment others, text.splitOn '/' = segment :: others ∧
      (c :: text).splitOn '/' = (c :: segment) :: others := by
  obtain ⟨segment, others, split⟩ := List.exists_cons_of_ne_nil (List.splitOn_ne_nil '/' text)
  refine ⟨segment, others, split, ?_⟩
  rw [List.splitOn_cons_eq_if_modifyHead, if_neg (by simpa using inside), split]
  rfl

theorem splitOn_slash (text : List Char) :
    ('/' :: text).splitOn '/' = [] :: text.splitOn '/' :=
  List.splitOn_append_cons_self [] text

theorem flatten_splitOn (text : List Char) :
    (text.splitOn '/').flatten = text.filter (· ≠ '/') := by
  induction text with
  | nil => rfl
  | cons c text ih =>
    by_cases slash : c = '/'
    · subst slash
      rw [splitOn_slash, List.flatten_cons, List.nil_append, ih]
      rfl
    · obtain ⟨segment, others, split, longer⟩ := splitOn_cons slash text
      rw [split, List.flatten_cons] at ih
      rw [longer, List.flatten_cons, List.cons_append, ih, List.filter_cons_of_pos (by simpa)]

theorem mem_splitOn {text segment : List Char} {c : Char} (member : segment ∈ text.splitOn '/')
    (inside : c ∈ segment) : c ∈ text ∧ c ≠ '/' := by
  have flat : c ∈ (text.splitOn '/').flatten := List.mem_flatten.mpr ⟨segment, member, inside⟩
  rw [flatten_splitOn] at flat
  simpa using flat

/-- Where two texts meet, the last segment of the one and the first of the other become one. -/
theorem splitOn_append (left right : List Char) :
    ∃ before last first after, left.splitOn '/' = before ++ [last] ∧
      right.splitOn '/' = first :: after ∧
      (left ++ right).splitOn '/' = before ++ (last ++ first) :: after := by
  obtain ⟨first, after, rightSplit⟩ := List.exists_cons_of_ne_nil (List.splitOn_ne_nil '/' right)
  induction left with
  | nil => exact ⟨[], [], first, after, rfl, rightSplit, rightSplit⟩
  | cons c left ih =>
    obtain ⟨before, last, first, after, leftSplit, rightSplit, joined⟩ := ih
    by_cases slash : c = '/'
    · subst slash
      refine ⟨[] :: before, last, first, after, ?_, rightSplit, ?_⟩
      · rw [splitOn_slash, leftSplit]
        rfl
      · rw [List.cons_append, splitOn_slash, joined]
        rfl
    · obtain ⟨leftHead, leftOthers, leftParts, leftLonger⟩ := splitOn_cons slash left
      obtain ⟨head, others, parts, longer⟩ := splitOn_cons slash (left ++ right)
      rw [leftSplit] at leftParts
      rw [joined] at parts
      rw [List.cons_append, leftLonger, longer]
      cases before with
      | nil =>
        cases leftParts
        cases parts
        exact ⟨[], c :: last, first, after, rfl, rightSplit, rfl⟩
      | cons start before =>
        cases leftParts
        cases parts
        exact ⟨(c :: leftHead) :: before, last, first, after, rfl, rightSplit, rfl⟩

/-- The normal form of a path whose escapes are decoded. -/
def canonical (text : List Char) : List Char :=
  render (resolve (text.splitOn '/')) (namesDirectory (text.splitOn '/'))

/-- Segments that resolution passes over, whatever has been kept so far. -/
def Neutral (segments : List (List Char)) : Prop :=
  ∀ kept, segments.foldl pushSegment kept = kept

theorem Neutral.empty : Neutral [[]] := fun _ => rfl

theorem Neutral.dot : Neutral [['.']] := fun _ => rfl

/-- A segment and the step back from it. -/
theorem Neutral.detour {segment : List Char} (nonempty : segment ≠ []) (noDot : segment ≠ ['.'])
    (noDots : segment ≠ ['.', '.']) : Neutral [segment, ['.', '.']] := by
  intro kept
  simp [pushSegment, nonempty, noDot, noDots]

theorem resolve_neutral {inner : List (List Char)} (neutral : Neutral inner)
    (before after : List (List Char)) :
    resolve (before ++ inner ++ after) = resolve (before ++ after) := by
  unfold resolve
  rw [List.foldl_append, List.foldl_append, neutral, List.foldl_append]

/-- Without dot segments, resolution only adds to what is kept. -/
theorem resolve_append {before after : List (List Char)}
    (proper : ∀ segment ∈ after, segment ≠ ['.'] ∧ segment ≠ ['.', '.']) :
    ∃ rest, resolve (before ++ after) = resolve before ++ rest := by
  have pushed (kept : List (List Char)) :
      ∃ rest, after.foldl pushSegment kept = rest ++ kept := by
    induction after generalizing kept with
    | nil => exact ⟨[], rfl⟩
    | cons segment others ih =>
      obtain ⟨noDot, noDots⟩ := proper segment List.mem_cons_self
      obtain ⟨rest, same⟩ := ih (fun other member => proper other (List.mem_cons_of_mem _ member))
        (pushSegment kept segment)
      by_cases empty : segment = []
      · exact ⟨rest, by rw [List.foldl_cons, same]; simp [pushSegment, empty]⟩
      · refine ⟨rest ++ [segment], ?_⟩
        rw [List.foldl_cons, same]
        simp [pushSegment, empty, noDot, noDots]
  obtain ⟨rest, same⟩ := pushed (before.foldl pushSegment [])
  refine ⟨rest.reverse, ?_⟩
  rw [resolve, List.foldl_append, same, List.reverse_append]
  rfl

theorem namesDirectory_append {after : List (List Char)} (nonempty : after ≠ [])
    (before : List (List Char)) : namesDirectory (before ++ after) = namesDirectory after := by
  obtain ⟨last, found⟩ : ∃ last, after.getLast? = some last :=
    ⟨_, List.getLast?_eq_some_getLast nonempty⟩
  unfold namesDirectory
  rw [List.getLast?_append, found]
  rfl

/-- Neutral segments in front of a slash leave no trace. -/
theorem canonical_neutral {inner : List Char} (neutral : Neutral (inner.splitOn '/'))
    (before after : List Char) :
    canonical (before ++ '/' :: inner ++ '/' :: after) = canonical (before ++ '/' :: after) := by
  have split : (before ++ '/' :: inner ++ '/' :: after).splitOn '/' =
      before.splitOn '/' ++ inner.splitOn '/' ++ after.splitOn '/' := by
    rw [List.splitOn_append_cons_self, List.splitOn_append_cons_self]
  have last : after.splitOn '/' ≠ [] := List.splitOn_ne_nil _ _
  unfold canonical
  rw [split, List.splitOn_append_cons_self, resolve_neutral neutral,
    namesDirectory_append last, namesDirectory_append last]

theorem canonical_slash (text : List Char) : canonical ('/' :: text) = canonical text := by
  have split : ('/' :: text).splitOn '/' = [[]] ++ text.splitOn '/' := splitOn_slash text
  unfold canonical
  rw [split, namesDirectory_append (List.splitOn_ne_nil _ _)]
  rfl

theorem mem_pushSegment {kept : List (List Char)} {segment pushed : List Char}
    (member : segment ∈ pushSegment kept pushed) :
    segment ∈ kept ∨ segment = pushed ∧ segment ≠ ['.'] ∧ segment ≠ ['.', '.'] := by
  unfold pushSegment at member
  split at member
  · exact .inl member
  · rename_i some
    split at member
    · exact .inl (List.mem_of_mem_tail member)
    · rename_i noDots
      rcases List.mem_cons.mp member with rfl | before
      · exact .inr ⟨rfl, fun dot => some (.inr dot), noDots⟩
      · exact .inl before

theorem pushSegment_sublist (kept : List (List Char)) (segment : List Char) :
    (pushSegment kept segment).Sublist (segment :: kept) := by
  unfold pushSegment
  split
  · exact List.sublist_cons_self _ _
  · split
    · exact (List.tail_sublist kept).cons _
    · exact .refl _

theorem pushSegment_sublist_of_directory {segment : List Char}
    (directory : segment = [] ∨ segment = ['.'] ∨ segment = ['.', '.']) (kept : List (List Char)) :
    (pushSegment kept segment).Sublist kept := by
  rcases directory with rfl | rfl | rfl
  · exact .refl _
  · exact .refl _
  · exact List.tail_sublist kept

theorem resolve_sublist (segments : List (List Char)) : (resolve segments).Sublist segments := by
  have fold (kept : List (List Char)) :
      (segments.foldl pushSegment kept).reverse.Sublist (kept.reverse ++ segments) := by
    induction segments generalizing kept with
    | nil => simp
    | cons first rest ih =>
      have step := List.reverse_sublist.mpr (pushSegment_sublist kept first)
      rw [List.reverse_cons] at step
      have whole := (ih (pushSegment kept first)).trans (step.append (.refl rest))
      rwa [List.append_assoc] at whole
  exact fold []

/-- Resolution keeps no dot segment. -/
theorem mem_resolve {segments : List (List Char)} {segment : List Char}
    (member : segment ∈ resolve segments) :
    segment ∈ segments ∧ segment ≠ ['.'] ∧ segment ≠ ['.', '.'] := by
  have fold (kept : List (List Char)) (found : segment ∈ segments.foldl pushSegment kept) :
      segment ∈ kept ∨ segment ∈ segments ∧ segment ≠ ['.'] ∧ segment ≠ ['.', '.'] := by
    clear member
    induction segments generalizing kept with
    | nil => exact .inl found
    | cons first rest ih =>
      rcases ih _ found with pushed | ⟨later, proper⟩
      · rcases mem_pushSegment pushed with before | ⟨rfl, proper⟩
        · exact .inl before
        · exact .inr ⟨List.mem_cons_self, proper⟩
      · exact .inr ⟨List.mem_cons_of_mem _ later, proper⟩
  rcases fold [] (List.mem_reverse.mp member) with none | found
  · cases none
  · exact found

theorem intercalate_slash (head : List Char) (segments : List (List Char)) :
    ['/'].intercalate (head :: segments) = head ++ segments.flatMap ('/' :: ·) := by
  induction segments generalizing head with
  | nil => simp
  | cons next rest ih =>
    rw [List.intercalate_cons_cons, ih, List.flatMap_cons]
    simp

/-- An absolute path is written with a slash in front of each of its segments. -/
theorem segments_of_absolute {text : List Char} (absolute : text.head? = some '/') :
    ∃ before last, text.splitOn '/' = [] :: (before ++ [last]) ∧
      text = (before ++ [last]).flatMap ('/' :: ·) := by
  obtain ⟨rest, rfl⟩ := List.head?_eq_some_iff.mp absolute
  obtain ⟨before, last, _, _, split, _, _⟩ := splitOn_append rest []
  have whole : ['/'].intercalate (('/' :: rest).splitOn '/') = '/' :: rest :=
    List.intercalate_splitOn '/'
  rw [splitOn_slash, split, intercalate_slash] at whole
  exact ⟨before, last, by rw [splitOn_slash, split], whole.symm⟩

/-- What an absolute path ends with behind a slash is its last segment. -/
theorem suffix_iff {text name : List Char} (absolute : text.head? = some '/') (noSlash : '/' ∉ name) :
    '/' :: name <:+ text ↔ (text.splitOn '/').getLast? = some name := by
  constructor
  · rintro ⟨front, rfl⟩
    rw [List.splitOn_append_cons_self, List.splitOn_eq_singleton noSlash, List.getLast?_concat]
  · intro found
    obtain ⟨before, last, split, written⟩ := segments_of_absolute absolute
    have same : last = name := by
      rw [split, ← List.cons_append, List.getLast?_concat] at found
      exact Option.some.inj found
    rw [written, List.flatMap_append, same]
    exact ⟨before.flatMap ('/' :: ·), by simp⟩

/-- A path names a directory if it ends with a slash or with a dot segment. -/
theorem namesDirectory_iff {text : List Char} (absolute : text.head? = some '/') :
    namesDirectory (text.splitOn '/') = true ↔
      ['/'] <:+ text ∨ ['/', '.'] <:+ text ∨ ['/', '.', '.'] <:+ text := by
  rw [suffix_iff absolute (by simp), suffix_iff absolute (by decide),
    suffix_iff absolute (by decide), namesDirectory]
  cases (text.splitOn '/').getLast? with
  | none => simp
  | some last => simp [or_assoc]

/-- The normal form of an absolute path leaves characters out, and adds none. -/
theorem canonical_sublist {text : List Char} (absolute : text.head? = some '/') :
    (canonical text).Sublist text := by
  obtain ⟨before, last, split, written⟩ := segments_of_absolute absolute
  have slash : ['/'].Sublist text :=
    List.singleton_sublist.mpr (List.mem_of_mem_head? absolute)
  have same : resolve ([] :: (before ++ [last])) = resolve (before ++ [last]) := rfl
  unfold canonical
  rw [split, same]
  by_cases none : resolve (before ++ [last]) = []
  · rw [none]
    exact slash
  · rw [written]
    cases directory : namesDirectory ([] :: (before ++ [last])) with
    | false =>
      have kept := (resolve_sublist (before ++ [last])).flatMap ('/' :: ·)
      simpa [render, none] using kept
    | true =>
      have named : last = [] ∨ last = ['.'] ∨ last = ['.', '.'] := by
        simpa [namesDirectory, List.getLast?_cons, or_assoc] using directory
      have kept : (resolve (before ++ [last])).Sublist before := by
        have step := List.reverse_sublist.mpr
          (pushSegment_sublist_of_directory named (before.foldl pushSegment []))
        rw [resolve, List.foldl_append]
        exact step.trans (resolve_sublist before)
      have ended : ['/'].Sublist ('/' :: last) := List.singleton_sublist.mpr List.mem_cons_self
      simpa [render] using (kept.flatMap ('/' :: ·)).append ended

theorem splitOn_render {segments : List (List Char)} (inside : ∀ segment ∈ segments, '/' ∉ segment)
    (directory : Bool) : (render segments directory).splitOn '/' =
      [] :: (segments ++ if segments.isEmpty || directory then [[]] else []) := by
  have written : render segments directory = ['/'].intercalate
      ([] :: (segments ++ if segments.isEmpty || directory then [[]] else [])) := by
    rw [intercalate_slash, List.flatMap_append]
    unfold render
    split <;> rfl
  rw [written, List.splitOn_intercalate '/' _ (by simp)]
  intro segment member
  rcases List.mem_cons.mp member with rfl | rest
  · exact List.not_mem_nil
  · rcases List.mem_append.mp rest with kept | last
    · exact inside segment kept
    · split at last
      · rw [List.mem_singleton.mp last]
        exact List.not_mem_nil
      · cases last

theorem splitOn_canonical (text : List Char) : (canonical text).splitOn '/' =
    [] :: (resolve (text.splitOn '/') ++
      if (resolve (text.splitOn '/')).isEmpty || namesDirectory (text.splitOn '/') then [[]] else []) := by
  apply splitOn_render
  intro kept found slash
  exact (mem_splitOn (mem_resolve found).1 slash).2 rfl

/-- The segments of the normal form are empty or taken over, and none is a dot segment. -/
theorem mem_canonical {text segment : List Char}
    (member : segment ∈ (canonical text).splitOn '/') :
    segment = [] ∨ segment ∈ text.splitOn '/' ∧ segment ≠ ['.'] ∧ segment ≠ ['.', '.'] := by
  rw [splitOn_canonical] at member
  rcases List.mem_cons.mp member with first | rest
  · exact .inl first
  · rcases List.mem_append.mp rest with kept | last
    · exact .inr (mem_resolve kept)
    · split at last
      · exact .inl (List.mem_singleton.mp last)
      · cases last

/-- The normal form of an absolute path is that of its decoded text. -/
theorem normalize_of_absolute {path : String} (absolute : path.toList.head? = some '/') :
    normalize path =
      (fun text => String.ofList (canonical text)) <$> decodeUnreserved path.toList := by
  obtain ⟨rest, chars⟩ := List.head?_eq_some_iff.mp absolute
  unfold normalize
  simp only [chars, decodeUnreserved_plain Delimiter.slash.noPercent]
  cases decodeUnreserved rest with
  | error cause => rfl
  | ok text =>
    have same : String.ofList (canonical text) = String.ofList (canonical ('/' :: text)) := by
      rw [canonical_slash]
    exact congrArg Except.ok same

theorem normalize_of_relative {path : String} (relative : path.toList.head? ≠ some '/') :
    normalize path = .error .notAbsolute := by
  unfold normalize
  split
  · rename_i rest chars
    exact absurd (by rw [chars]; rfl) relative
  · rfl

/-- A path has a normal form if it is absolute and can be decoded. -/
theorem normalize_eq_ok_iff {path normal : String} : normalize path = .ok normal ↔
    path.toList.head? = some '/' ∧
      ∃ text, Decoded path.toList text ∧ normal = String.ofList (canonical text) := by
  constructor
  · intro accepted
    by_cases absolute : path.toList.head? = some '/'
    · rw [normalize_of_absolute absolute] at accepted
      obtain ⟨text, decoded, same⟩ := map_eq_ok accepted
      exact ⟨absolute, text, decodeUnreserved_eq_ok_iff.mp decoded, same.symm⟩
    · rw [normalize_of_relative absolute] at accepted
      cases accepted
  · rintro ⟨absolute, text, decoded, rfl⟩
    rw [normalize_of_absolute absolute, decoded.accepted]
    rfl

theorem head_render (segments : List (List Char)) (directory : Bool) :
    (render segments directory).head? = some '/' := by
  cases segments <;> rfl

/-- Normal forms are absolute. -/
theorem head_of_normalize {path normal : String} (accepted : normalize path = .ok normal) :
    normal.toList.head? = some '/' := by
  obtain ⟨_, text, _, rfl⟩ := normalize_eq_ok_iff.mp accepted
  rw [String.toList_ofList]
  exact head_render _ _

end AuthGate.Path
