import AuthGate.Proofs.Path.DotSegment

namespace AuthGate.Path
open Text

/-- A path in normal form: all segments are decoded, none is a dot segment, and none but the last one
is empty. -/
structure Normal (path : List Char) : Prop where
  absolute : path.head? = some '/'
  settled : Settled path
  filled : ∀ segment ∈ (path.splitOn '/').tail.dropLast, segment ≠ []

section Resolution

variable {segments : List (List Char)} {segment : List Char}

theorem ne_nil_of_mem_resolve (member : segment ∈ resolve segments) : segment ≠ [] := by
  have fold (kept : List (List Char)) (filled : ∀ other ∈ kept, other ≠ [])
      (found : segment ∈ segments.foldl pushSegment kept) : segment ≠ [] := by
    clear member
    induction segments generalizing kept with
    | nil => exact filled segment found
    | cons first rest ih =>
      refine ih _ ?_ found
      intro other pushed
      unfold pushSegment at pushed
      split at pushed
      · exact filled other pushed
      · rename_i some
        split at pushed
        · exact filled other (List.mem_of_mem_tail pushed)
        · rcases List.mem_cons.mp pushed with rfl | before
          · exact fun empty => some (.inl empty)
          · exact filled other before
  exact fold [] (by simp) (List.mem_reverse.mp member)

theorem resolve_of_proper
    (proper : ∀ segment ∈ segments, segment ≠ ['.'] ∧ segment ≠ ['.', '.']) :
    resolve segments = segments.filter (· ≠ []) := by
  have fold (kept : List (List Char)) :
      segments.foldl pushSegment kept = (segments.filter (· ≠ [])).reverse ++ kept := by
    induction segments generalizing kept with
    | nil => rfl
    | cons first rest ih =>
      obtain ⟨noDot, noDots⟩ := proper first List.mem_cons_self
      rw [List.foldl_cons, ih fun other member => proper other (List.mem_cons_of_mem _ member)]
      by_cases empty : first = []
      · simp [pushSegment, empty]
      · simp [pushSegment, empty, noDot, noDots]
  rw [resolve, fold, List.append_nil, List.reverse_reverse]

end Resolution

/-- Decoded segments make up a decoded text. -/
theorem Settled.decoded {text : List Char} (settled : Settled text) : Decoded text text := by
  have joined (segments : List (List Char)) (each : ∀ segment ∈ segments, Decoded segment segment) :
      Decoded (['/'].intercalate segments) (['/'].intercalate segments) := by
    induction segments with
    | nil => exact .nil
    | cons first rest ih =>
      have tail := ih fun other member => each other (List.mem_cons_of_mem _ member)
      cases rest with
      | nil => simpa using each first List.mem_cons_self
      | cons second others =>
        rw [List.intercalate_cons_cons, List.append_assoc]
        exact (each first List.mem_cons_self).append tail.slash
  have whole : ['/'].intercalate (text.splitOn '/') = text := List.intercalate_splitOn '/'
  rw [← whole]
  exact joined _ fun segment member => (settled segment member).decoded

namespace Normal

variable {path base : List Char}

theorem segments (normal : Normal path) : ∃ before last, path.splitOn '/' = [] :: (before ++ [last]) ∧
    path = (before ++ [last]).flatMap ('/' :: ·) ∧ ∀ segment ∈ before, segment ≠ [] := by
  obtain ⟨before, last, split, written⟩ := segments_of_absolute normal.absolute
  have filled := normal.filled
  rw [split] at filled
  exact ⟨before, last, split, written, by simpa using filled⟩

theorem canonical_eq (normal : Normal path) : canonical path = path := by
  obtain ⟨before, last, split, written, filled⟩ := normal.segments
  have settled := normal.settled
  unfold Settled at settled
  rw [split] at settled
  have proper : ∀ segment ∈ [] :: (before ++ [last]), segment ≠ ['.'] ∧ segment ≠ ['.', '.'] :=
    fun segment member => ⟨(settled segment member).noDot, (settled segment member).noDots⟩
  have kept : before.filter (fun segment => !decide (segment = [])) = before := by
    apply List.filter_eq_self.mpr
    intro segment member
    simpa using filled segment member
  obtain ⟨noDot, noDots⟩ := proper last (by simp)
  rw [canonical, split, resolve_of_proper proper]
  by_cases empty : last = []
  · have directory : namesDirectory ([] :: (before ++ [last])) = true := by
      simp [namesDirectory, List.getLast?_cons, List.getLast?_append, empty]
    rw [directory, written]
    simp [render, empty, kept]
  · have file : namesDirectory ([] :: (before ++ [last])) = false := by
      simp [namesDirectory, List.getLast?_cons, List.getLast?_append, empty, noDot, noDots]
    rw [file, written]
    simp [render, empty, kept]

end Normal

theorem normal_canonical {raw text : List Char} (decoded : Decoded raw text) :
    Normal (canonical text) := by
  refine ⟨head_render _ _, settled_canonical decoded, ?_⟩
  intro segment member
  rw [splitOn_canonical, List.tail_cons] at member
  split at member
  · rw [List.dropLast_concat] at member
    exact ne_nil_of_mem_resolve member
  · rw [List.append_nil] at member
    exact ne_nil_of_mem_resolve ((List.dropLast_sublist _).subset member)

/-- The paths in normal form are the normal forms of paths. -/
theorem normal_of_normalize {path normal : String} (accepted : normalize path = .ok normal) :
    Normal normal.toList := by
  obtain ⟨_, text, decoded, rfl⟩ := normalize_eq_ok_iff.mp accepted
  rw [String.toList_ofList]
  exact normal_canonical decoded

theorem normalize_of_normal {path : String} (normal : Normal path.toList) :
    normalize path = .ok path := by
  refine normalize_eq_ok_iff.mpr ⟨normal.absolute, path.toList, normal.settled.decoded, ?_⟩
  rw [normal.canonical_eq, String.ofList_toList]

/-- No path in normal form has an escape of a character that needs none. -/
theorem Normal.not_escaped {before after : List Char} {first second : Char} {value : Nat}
    (whole : Whole before) (read : escapeValue? first second = some value)
    (unreserved : isUnreserved (Char.ofNat value) = true) :
    ¬ Normal (before ++ '%' :: first :: second :: after) := by
  intro normal
  have kept := (Decoded.parts whole normal.settled.decoded).2.accepted
  simp only [decodeUnreserved, read, isSeparator_of_isUnreserved unreserved, unreserved] at kept
  obtain ⟨_, _, same⟩ := map_eq_ok kept
  have percent : Char.ofNat value = '%' := (List.cons.inj same).1
  rw [percent] at unreserved
  cases unreserved

theorem Decoded.whole_take {raw text : List Char} (decoded : Decoded raw text) (start : Nat) :
    ∃ cut, start ≤ cut ∧ cut ≤ start + 2 ∧ Whole (raw.take cut) := by
  have escape {first second : Char} {raw : List Char}
      (ih : ∀ start, ∃ cut, start ≤ cut ∧ cut ≤ start + 2 ∧ Whole (raw.take cut)) (start : Nat) :
      ∃ cut, start ≤ cut ∧ cut ≤ start + 2 ∧
        Whole (('%' :: first :: second :: raw).take cut) := by
    match start with
    | 0 => exact ⟨0, by omega, by omega, .nil⟩
    | 1 => exact ⟨3, by omega, by omega, .escape .nil⟩
    | 2 => exact ⟨3, by omega, by omega, .escape .nil⟩
    | start + 3 =>
      obtain ⟨cut, behind, near, whole⟩ := ih start
      exact ⟨cut + 3, by omega, by omega, .escape whole⟩
  induction decoded generalizing start with
  | nil => exact ⟨start, by omega, by omega, by simpa using Whole.nil⟩
  | plain other _ ih =>
    match start with
    | 0 => exact ⟨0, by omega, by omega, .nil⟩
    | start + 1 =>
      obtain ⟨cut, behind, near, whole⟩ := ih start
      exact ⟨cut + 1, by omega, by omega, .plain other whole⟩
  | opened _ _ _ ih => exact escape ih start
  | kept _ _ _ _ ih => exact escape ih start

theorem Proper.shorten {last body : List Char} (proper : Proper (last ++ body)) :
    ∃ tail, tail <+: body ∧ tail.length ≤ 4 ∧ Proper (last ++ tail) := by
  by_cases none : last = []
  · subst none
    exact ⟨[], List.nil_prefix, by simp, .empty⟩
  · have start : 0 < last.length := List.length_pos_iff.mpr none
    obtain ⟨cut, behind, near, whole⟩ := proper.decoded.whole_take (max last.length 3)
    have taken : (last ++ body).take cut = last ++ body.take (cut - last.length) := by
      rw [List.take_append, List.take_of_length_le (by omega)]
    have decoded : Decoded (last ++ body.take (cut - last.length))
        (last ++ body.take (cut - last.length)) := by
      rw [taken] at whole
      have parted : last ++ body = last ++ body.take (cut - last.length) ++
          body.drop (cut - last.length) := by
        rw [List.append_assoc, List.take_append_drop]
      exact (Decoded.parts whole (parted ▸ proper.decoded)).1
    refine ⟨body.take (cut - last.length), List.take_prefix _ _, ?_, ?_⟩
    · rw [List.length_take]
      omega
    · by_cases all : body.length ≤ cut - last.length
      · rw [List.take_of_length_le all]
        exact proper
      · have long : 3 ≤ (last ++ body.take (cut - last.length)).length := by
          rw [List.length_append, List.length_take]
          omega
        constructor
        case decoded => exact decoded
        case noDot =>
          intro dot
          simp [dot] at long
        case noDots =>
          intro dots
          simp [dots] at long

namespace Normal

/-- A path in normal form that continues a beginning of it is found close behind that. -/
theorem shorten {path base : List Char} (normal : Normal path) (under : base <+: path)
    (absolute : base.head? = some '/') :
    ∃ tail, tail.length ≤ 4 ∧ base ++ tail <+: path ∧ Normal (base ++ tail) := by
  obtain ⟨rest, rfl⟩ := under
  obtain ⟨before, last, first, after, baseSplit, restSplit, joined⟩ := splitOn_append base rest
  have started : ∃ others, before = [] :: others := by
    obtain ⟨behind, rfl⟩ := List.head?_eq_some_iff.mp absolute
    rw [splitOn_slash] at baseSplit
    cases before with
    | nil =>
      have none : behind.splitOn '/' = [] := (List.cons.inj baseSplit).2
      exact absurd none (List.splitOn_ne_nil _ _)
    | cons empty others => exact ⟨others, by rw [(List.cons.inj baseSplit).1]⟩
  obtain ⟨others, rfl⟩ := started
  have settled := normal.settled
  have filled := normal.filled
  unfold Settled at settled
  rw [joined] at settled filled
  have noSlash : '/' ∉ first := fun slash =>
    (mem_splitOn (restSplit ▸ List.mem_cons_self) slash).2 rfl
  have front : first <+: rest := by
    have whole : ['/'].intercalate (rest.splitOn '/') = rest := List.intercalate_splitOn '/'
    rw [← whole, restSplit, intercalate_slash]
    exact List.prefix_append _ _
  obtain ⟨tail, kept, short, proper⟩ := Proper.shorten (settled (last ++ first) (by simp))
  have tailSplit : tail.splitOn '/' = [tail] :=
    List.splitOn_eq_singleton fun slash => noSlash (kept.subset slash)
  obtain ⟨_, _, _, _, left, right, split⟩ := splitOn_append base tail
  rw [baseSplit] at left
  rw [tailSplit] at right
  obtain ⟨rfl, same⟩ := List.append_inj' left rfl
  cases same
  cases right
  refine ⟨tail, short, (List.prefix_append_right_inj base).mpr (kept.trans front), ?_⟩
  constructor
  case absolute =>
    obtain ⟨behind, rfl⟩ := List.head?_eq_some_iff.mp absolute
    rfl
  case settled =>
    intro segment member
    rw [split] at member
    rcases List.mem_append.mp member with early | late
    · exact settled segment (List.mem_append_left _ early)
    · rw [List.mem_singleton.mp late]
      exact proper
  case filled =>
    intro segment member
    rw [split, List.cons_append, List.tail_cons, List.dropLast_concat] at member
    apply filled
    rw [List.cons_append, List.tail_cons, List.dropLast_append_cons]
    exact List.mem_append_left _ member

end Normal
end AuthGate.Path
