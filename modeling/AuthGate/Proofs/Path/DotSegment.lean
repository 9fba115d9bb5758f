import AuthGate.Proofs.Path.Segments
import Mathlib.Data.List.TakeWhile

namespace AuthGate.Path
open Text

/-- A segment that names its own directory or the one above, however it is spelled. -/
def IsDotSegment (segment : List Char) : Prop := Spells segment ['.'] ∨ Spells segment ['.', '.']

/-- A path that leads nowhere but down. -/
def Confined (path : List Char) : Prop := ∀ segment ∈ path.splitOn '/', ¬ IsDotSegment segment

/-- A segment that is decoded and no dot segment. -/
structure Proper (segment : List Char) : Prop where
  decoded : Decoded segment segment
  noDot : segment ≠ ['.']
  noDots : segment ≠ ['.', '.']

/-- A text whose segments are all proper. -/
def Settled (text : List Char) : Prop := ∀ segment ∈ text.splitOn '/', Proper segment

namespace Proper

variable {segment left right : List Char}

theorem empty : Proper [] := ⟨.nil, by simp, by simp⟩

theorem not_isDotSegment (proper : Proper segment) : ¬ IsDotSegment segment := by
  have named {name : List Char} (dots : name.all isUnreserved = true)
      (spells : Spells segment name) : segment = name := by
    obtain ⟨text, decoded, same | ⟨_, c, member, reserved⟩⟩ := spells.decoded
    · rw [← same]
      exact proper.decoded.unique decoded
    · rw [List.all_eq_true.mp dots c member] at reserved
      cases reserved
  rintro (dot | dots)
  · exact proper.noDot (named rfl dot)
  · exact proper.noDots (named rfl dots)

theorem append (first : Proper left) (second : Proper right) : Proper (left ++ right) := by
  constructor
  case decoded => exact first.decoded.append second.decoded
  case noDot =>
    intro dot
    rcases List.append_eq_singleton_iff.mp dot with ⟨_, right⟩ | ⟨left, _⟩
    · exact second.noDot right
    · exact first.noDot left
  case noDots =>
    intro dots
    match left, dots with
    | [], dots => exact second.noDots dots
    | [c], dots =>
      obtain ⟨rfl, _⟩ := List.cons.inj dots
      exact first.noDot rfl
    | [c, d], dots =>
      have same : [c, d] = ['.', '.'] := by
        have none : right = [] := by simpa using congrArg List.length dots
        simpa [none] using dots
      exact first.noDots same
    | _ :: _ :: _ :: _, dots => simp at dots

end Proper

namespace Settled

variable {text left right : List Char}

theorem confined (settled : Settled text) : Confined text :=
  fun segment member => (settled segment member).not_isDotSegment

theorem append (first : Settled left) (second : Settled right) : Settled (left ++ right) := by
  obtain ⟨before, last, head, after, leftSplit, rightSplit, joined⟩ := splitOn_append left right
  unfold Settled at first second ⊢
  rw [leftSplit] at first
  rw [rightSplit] at second
  rw [joined]
  intro segment member
  rcases List.mem_append.mp member with early | late
  · exact first segment (List.mem_append_left _ early)
  · rcases List.mem_cons.mp late with rfl | later
    · exact (first last (by simp)).append (second head List.mem_cons_self)
    · exact second segment (List.mem_cons_of_mem _ later)

theorem of_literal (noDot : '.' ∉ text) (noPercent : '%' ∉ text) : Settled text := by
  intro segment member
  have absent {c : Char} (missing : c ∉ text) : c ∉ segment :=
    fun inside => missing (mem_splitOn member inside).1
  constructor
  case decoded => exact .of_noPercent (absent noPercent)
  case noDot =>
    rintro rfl
    exact absent noDot List.mem_cons_self
  case noDots =>
    rintro rfl
    exact absent noDot List.mem_cons_self

end Settled

/-- A decoded text can be cut where no escape is. -/
theorem Decoded.parts {before after : List Char} (whole : Whole before)
    (decoded : Decoded (before ++ after) (before ++ after)) :
    Decoded before before ∧ Decoded after after := by
  obtain ⟨first, rest, left, right, same⟩ := decoded.split whole
  have lengths := congrArg List.length same
  have leftShort := left.length_le
  have rightShort := right.length_le
  simp only [List.length_append] at lengths
  obtain ⟨rfl, rfl⟩ := List.append_inj same (by omega)
  exact ⟨left, right⟩

theorem Decoded.cut {before after : List Char}
    (decoded : Decoded (before ++ '/' :: after) (before ++ '/' :: after)) :
    Decoded before before ∧ Decoded after after := by
  obtain ⟨left, behind⟩ := decoded.parts (whole_of_slash decoded)
  obtain ⟨rest, right, same⟩ := behind.of_plain Delimiter.slash.noPercent
  obtain ⟨_, rfl⟩ := List.cons.inj same
  exact ⟨left, right⟩

theorem Decoded.segment {text segment : List Char} (decoded : Decoded text text)
    (member : segment ∈ text.splitOn '/') : Decoded segment segment := by
  have parts (segments : List (List Char))
      (whole : Decoded (['/'].intercalate segments) (['/'].intercalate segments))
      (found : segment ∈ segments) : Decoded segment segment := by
    induction segments with
    | nil => cases found
    | cons first rest ih =>
      cases rest with
      | nil =>
        rw [List.mem_singleton.mp found]
        simpa using whole
      | cons second others =>
        rw [List.intercalate_cons_cons, List.append_assoc, List.singleton_append] at whole
        obtain ⟨left, right⟩ := whole.cut
        rcases List.mem_cons.mp found with rfl | later
        · exact left
        · exact ih right later
  exact parts _ (by rwa [List.intercalate_splitOn]) member

theorem settled_canonical {raw text : List Char} (decoded : Decoded raw text) :
    Settled (canonical text) := by
  intro segment member
  rcases mem_canonical member with rfl | ⟨found, noDot, noDots⟩
  · exact .empty
  · exact ⟨decoded.again.segment found, noDot, noDots⟩

theorem settled_of_normalize {path normal : String} (accepted : normalize path = .ok normal) :
    Settled normal.toList := by
  obtain ⟨_, text, decoded, rfl⟩ := normalize_eq_ok_iff.mp accepted
  rw [String.toList_ofList]
  exact settled_canonical decoded

/-- A character that ends no path. -/
def isInside (c : Char) : Bool := c != '?' && c != '#'

/-- The characters of a class end no path if neither of the two that do is in the class. -/
theorem inside_of_class {belongs : Char → Bool} (mark : belongs '?' = false)
    (sign : belongs '#' = false) {c : Char} (member : belongs c = true) : isInside c = true := by
  have noMark : c ≠ '?' := by
    rintro rfl
    rw [mark] at member
    cases member
  have noSign : c ≠ '#' := by
    rintro rfl
    rw [sign] at member
    cases member
  simp [isInside, noMark, noSign]

/-- A text that is settled, and stays so when it is cut where the query would begin. -/
structure Tidy (text : List Char) : Prop where
  settled : Settled text
  cut : Settled (text.takeWhile isInside)

namespace Tidy

variable {text left right : List Char}

theorem append (first : Tidy left) (second : Tidy right) : Tidy (left ++ right) := by
  refine ⟨first.settled.append second.settled, ?_⟩
  rw [List.takeWhile_append]
  split
  · exact first.settled.append second.cut
  · exact first.cut

theorem of_literal (noDot : '.' ∉ text) (noPercent : '%' ∉ text) : Tidy text := by
  have absent {c : Char} (missing : c ∉ text) : c ∉ text.takeWhile isInside :=
    fun member => missing ((List.takeWhile_sublist _).subset member)
  exact ⟨.of_literal noDot noPercent, .of_literal (absent noDot) (absent noPercent)⟩

theorem flatten {parts : List (List Char)} (tidy : ∀ part ∈ parts, Tidy part) :
    Tidy parts.flatten := by
  induction parts with
  | nil => exact of_literal List.not_mem_nil List.not_mem_nil
  | cons part rest ih =>
    rw [List.flatten_cons]
    exact (tidy part List.mem_cons_self).append
      (ih fun other member => tidy other (List.mem_cons_of_mem _ member))

theorem of_inside (settled : Settled text) (inside : ∀ c ∈ text, isInside c = true) : Tidy text :=
  ⟨settled, by rwa [List.takeWhile_eq_self_iff.mpr inside]⟩

theorem slash (tidy : Tidy text) : Tidy ('/' :: text) := by
  have first : Tidy ['/'] := of_literal (by decide) (by decide)
  exact first.append tidy

end Tidy

/-- Normal forms hold no delimiters but those of the path itself. -/
theorem inside_of_normalize {path normal : String} (accepted : normalize path = .ok normal)
    (inside : ∀ c ∈ path.toList, isInside c = true) :
    ∀ c ∈ normal.toList, isInside c = true := by
  obtain ⟨absolute, text, decoded, rfl⟩ := normalize_eq_ok_iff.mp accepted
  have kept {c : Char} (delimiter : Delimiter c) (member : c ∈ canonical text) : c ∈ path.toList :=
    decoded.mem_raw delimiter ((canonical_sublist (decoded.absolute absolute)).subset member)
  intro c member
  rw [String.toList_ofList] at member
  have noMark : c ≠ '?' := by
    rintro rfl
    have ended := inside _ (kept Delimiter.questionMark member)
    cases ended
  have noSign : c ≠ '#' := by
    rintro rfl
    have ended := inside _ (kept Delimiter.numberSign member)
    cases ended
  simp [isInside, noMark, noSign]

end AuthGate.Path
