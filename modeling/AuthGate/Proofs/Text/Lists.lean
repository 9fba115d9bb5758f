import AuthGate.Text.Ascii
import Mathlib.Data.List.Basic

namespace AuthGate.Text

variable {α : Type} {p : α → Bool} {items : List α} {item : α}

theorem mem_of_mem_dropEndWhile (member : item ∈ dropEndWhile p items) : item ∈ items := by
  have kept := (List.dropWhile_sublist _).subset (List.mem_reverse.mp member)
  exact List.mem_reverse.mp kept

theorem mem_of_mem_trimWhile (member : item ∈ trimWhile p items) : item ∈ items :=
  (List.dropWhile_sublist _).subset (mem_of_mem_dropEndWhile member)

/-- What is dropped from the end passes the test, and what then is last does not. -/
theorem dropEndWhile_append (p : α → Bool) (items : List α) :
    ∃ dropped, items = dropEndWhile p items ++ dropped ∧ (∀ item ∈ dropped, p item = true) ∧
      ∀ item, (dropEndWhile p items).getLast? = some item → p item = false := by
  refine ⟨(items.reverse.takeWhile p).reverse, ?_, ?_, ?_⟩
  · rw [dropEndWhile, ← List.reverse_append, List.takeWhile_append_dropWhile, List.reverse_reverse]
  · intro item member
    exact List.all_eq_true.mp List.all_takeWhile item (List.mem_reverse.mp member)
  · intro item last
    rw [dropEndWhile, List.getLast?_reverse] at last
    have stopped := List.head?_dropWhile_not p items.reverse
    simpa [last] using stopped

theorem mem_dropEndWhile_or (member : item ∈ items) :
    item ∈ dropEndWhile p items ∨ p item = true := by
  obtain ⟨dropped, whole, passes, _⟩ := dropEndWhile_append p items
  rw [whole] at member
  rcases List.mem_append.mp member with kept | gone
  · exact .inl kept
  · exact .inr (passes item gone)

/-- A list in which nothing passes the test is not trimmed. -/
theorem trimWhile_of_forall (absent : ∀ item ∈ items, p item = false) : trimWhile p items = items := by
  have kept {items : List α} (absent : ∀ item ∈ items, p item = false) : items.dropWhile p = items := by
    cases items with
    | nil => rfl
    | cons item rest => simp [absent item List.mem_cons_self]
  have reversed : ∀ item ∈ items.reverse, p item = false :=
    fun item member => absent item (List.mem_reverse.mp member)
  rw [trimWhile, kept absent, dropEndWhile, kept reversed, List.reverse_reverse]

theorem trimWhile_cons_of_pos (dropped : p item = true) :
    trimWhile p (item :: items) = trimWhile p items := by
  rw [trimWhile, trimWhile, List.dropWhile_cons_of_pos dropped]

/-- A text without the slashes at its end. -/
structure IsTrimmed (text trimmed : String) : Prop where
  slashes : ∃ count, text.toList = trimmed.toList ++ List.replicate count '/'
  last : trimmed.toList.getLast? ≠ some '/'

namespace IsTrimmed

variable {text trimmed : String}

theorem subset (trims : IsTrimmed text trimmed) : trimmed.toList ⊆ text.toList := by
  obtain ⟨count, whole⟩ := trims.slashes
  rw [whole]
  exact List.subset_append_left _ _

/-- A text begins as it did unless nothing is left of it. -/
theorem head_cases (trims : IsTrimmed text trimmed) :
    trimmed.toList = [] ∨ trimmed.toList.head? = text.toList.head? := by
  obtain ⟨count, whole⟩ := trims.slashes
  rw [whole]
  cases trimmed.toList with
  | nil => exact .inl rfl
  | cons c rest => exact .inr rfl

end IsTrimmed

theorem isTrimmed_dropEndWhile (text : String) :
    IsTrimmed text (String.ofList (dropEndWhile (· == '/') text.toList)) := by
  obtain ⟨dropped, whole, slashes, last⟩ := dropEndWhile_append (· == '/') text.toList
  have all : dropped = List.replicate dropped.length '/' :=
    List.eq_replicate_iff.mpr ⟨rfl, fun c member => beq_iff_eq.mp (slashes c member)⟩
  constructor
  case slashes => exact ⟨dropped.length, by rw [String.toList_ofList, ← all, ← whole]⟩
  case last =>
    rw [String.toList_ofList]
    exact fun slash => absurd (last '/' slash) (by decide)

/-- What passes the test is split off a list where the test fails for the first time. -/
theorem splitWhile_append {body rest : List α} (inside : ∀ item ∈ body, p item = true)
    (ended : ∀ item, rest.head? = some item → p item = false) :
    (body ++ rest).takeWhile p = body ∧ (body ++ rest).dropWhile p = rest := by
  rw [List.takeWhile_append_of_pos inside, List.dropWhile_append_of_pos inside]
  cases rest with
  | nil => simp
  | cons item others => simp [ended item rfl]

theorem takeWhile_append_of_head {body rest : List α}
    (ended : ∀ item, rest.head? = some item → p item = false) :
    (body ++ rest).takeWhile p = body.takeWhile p := by
  induction body with
  | nil =>
    cases rest with
    | nil => rfl
    | cons item others => simp [ended item rfl]
  | cons first others ih => simp [List.takeWhile_cons, ih]

theorem isPrefix_splitFirst (found : α → Bool) (items : List α) :
    (splitFirst found items).1 <+: items := by
  induction items with
  | nil => exact List.prefix_rfl
  | cons item rest ih =>
    unfold splitFirst
    split
    · exact List.nil_prefix
    · exact List.cons_prefix_cons.mpr ⟨rfl, ih⟩

/-- Without an item that is looked for, all of a list stands before it. -/
theorem splitFirst_of_forall {found : α → Bool} (absent : ∀ item ∈ items, found item = false) :
    splitFirst found items = (items, none) := by
  induction items with
  | nil => rfl
  | cons item rest ih =>
    have first := absent item List.mem_cons_self
    have later := ih fun other member => absent other (List.mem_cons_of_mem _ member)
    simp [splitFirst, first, later]

theorem splitFirst_append {found : α → Bool} {before behind : List α} {mark : α}
    (absent : ∀ item ∈ before, found item = false) (marks : found mark = true) :
    splitFirst found (before ++ mark :: behind) = (before, some behind) := by
  induction before with
  | nil => simp [splitFirst, marks]
  | cons item rest ih =>
    have first := absent item List.mem_cons_self
    have later := ih fun other member => absent other (List.mem_cons_of_mem _ member)
    simp [splitFirst, first, later]

theorem append_of_dropPrefix? [DecidableEq α] {expected rest : List α}
    (found : dropPrefix? expected items = some rest) : items = expected ++ rest := by
  induction expected generalizing items with
  | nil =>
    cases found
    rfl
  | cons first more ih =>
    cases items with
    | nil => cases found
    | cons item others =>
      unfold dropPrefix? at found
      split at found
      · rename_i same
        rw [same, ih found]
        rfl
      · cases found

theorem mem_intercalate {separator : List α} {parts : List (List α)}
    (member : item ∈ separator.intercalate parts) :
    item ∈ separator ∨ ∃ part ∈ parts, item ∈ part := by
  induction parts with
  | nil => simp at member
  | cons first rest ih =>
    cases rest with
    | nil =>
      rw [List.intercalate_singleton] at member
      exact .inr ⟨first, List.mem_cons_self, member⟩
    | cons second others =>
      rw [List.intercalate_cons_cons] at member
      rcases List.mem_append.mp member with front | behind
      · rcases List.mem_append.mp front with here | between
        · exact .inr ⟨first, List.mem_cons_self, here⟩
        · exact .inl between
      · rcases ih behind with between | ⟨part, present, here⟩
        · exact .inl between
        · exact .inr ⟨part, List.mem_cons_of_mem _ present, here⟩

/-- Between parts without an item it occurs in the separators alone. -/
theorem count_intercalate_le [BEq α] [LawfulBEq α] {separator : List α} {parts : List (List α)}
    (absent : ∀ part ∈ parts, item ∉ part) :
    (separator.intercalate parts).count item ≤ parts.length * separator.count item := by
  induction parts with
  | nil => simp
  | cons first rest ih =>
    have head := List.count_eq_zero_of_not_mem (absent first List.mem_cons_self)
    cases rest with
    | nil => simp [head]
    | cons second others =>
      have tail := ih fun part member => absent part (List.mem_cons_of_mem _ member)
      rw [List.intercalate_cons_cons, List.count_append, List.count_append, head, Nat.zero_add,
        List.length_cons, Nat.succ_mul, Nat.add_comm]
      exact Nat.add_le_add_right tail _

/-- A list is read when each of its items is. -/
theorem mapM_of_forall {β : Type} {read : α → Option β}
    (each : ∀ item ∈ items, ∃ result, read item = some result) :
    ∃ results, items.mapM read = some results := by
  induction items with
  | nil => exact ⟨[], rfl⟩
  | cons item rest ih =>
    obtain ⟨result, head⟩ := each item List.mem_cons_self
    obtain ⟨results, tail⟩ := ih fun other member => each other (List.mem_cons_of_mem _ member)
    exact ⟨result :: results, by simp [List.mapM_cons, head, tail]⟩

/-- What is read from a list is read from its items. -/
theorem mem_mapM_iff {β : Type} {read : α → Option β} {results : List β}
    (whole : items.mapM read = some results) {result : β} :
    result ∈ results ↔ ∃ item ∈ items, read item = some result := by
  induction items generalizing results with
  | nil =>
    cases whole
    simp
  | cons first rest ih =>
    obtain ⟨head, here, behind⟩ := Option.bind_eq_some_iff.mp (List.mapM_cons.symm.trans whole)
    obtain ⟨tail, later, same⟩ := Option.bind_eq_some_iff.mp behind
    cases same
    rw [List.mem_cons, ih later]
    simp [here, eq_comm]

/-- Each item of a list that is read is read itself. -/
theorem exists_of_mapM {β : Type} {read : α → Option β} {results : List β}
    (whole : items.mapM read = some results) (member : item ∈ items) :
    ∃ result, read item = some result := by
  induction items generalizing results with
  | nil => cases member
  | cons first rest ih =>
    obtain ⟨head, here, behind⟩ := Option.bind_eq_some_iff.mp (List.mapM_cons.symm.trans whole)
    obtain ⟨tail, later, _⟩ := Option.bind_eq_some_iff.mp behind
    rcases List.mem_cons.mp member with rfl | other
    · exact ⟨head, here⟩
    · exact ih later other

end AuthGate.Text
