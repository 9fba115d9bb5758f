import AuthGate.Proofs.Except
import AuthGate.Proofs.Header.Text
import AuthGate.Proofs.Text.Lists
import AuthGate.Uri.Authority

namespace AuthGate.Authority
open Text

/-- The characters that an authority is read with; a percent sign may stand in some of its parts. -/
def isReadable (c : Char) : Bool := isPlain c || c == '%'

theorem isReadable_of_step {scan next : Scan} {c : Char} (read : scan.step c = .ok next) :
    isReadable c = true := by
  unfold Scan.step at read
  simp only at read
  by_cases colon : c = ':'
  · rw [colon]
    decide
  by_cases opening : c = '['
  · rw [opening]
    decide
  by_cases closing : c = ']'
  · rw [closing]
    decide
  by_cases mark : c = '@'
  · rw [mark]
    decide
  by_cases percent : c = '%'
  · rw [percent]
    decide
  simp only [colon, opening, closing, mark, percent, if_false] at read
  split at read
  · rename_i plain
    simp [isReadable, plain]
  · cases read

theorem isReadable_of_foldlM {chars : List Char} {first last : Scan}
    (read : chars.foldlM Scan.step first = .ok last) : ∀ c ∈ chars, isReadable c = true := by
  induction chars generalizing first with
  | nil =>
    intro c member
    cases member
  | cons head rest ih =>
    rw [List.foldlM_cons] at read
    obtain ⟨next, step, behind⟩ := bind_eq_ok read
    intro c member
    rcases List.mem_cons.mp member with rfl | later
    · exact isReadable_of_step step
    · exact ih behind c later

/-- An authority is all before the path. -/
theorem scan_eq_ok {text authority rest : List Char} (read : scan text = .ok (authority, rest)) :
    authority = text.takeWhile (!isEnd ·) ∧ rest = text.dropWhile (!isEnd ·) ∧
      ∃ last, authority.foldlM Scan.step {} = .ok last ∧ last.accepts = true := by
  unfold scan at read
  split at read
  · cases read
  · obtain ⟨last, scanned, accepted⟩ := bind_eq_ok read
    split at accepted
    · rename_i accepts
      cases accepted
      exact ⟨rfl, rfl, last, scanned, accepts⟩
    · cases accepted

theorem isReadable_of_scan {text authority rest : List Char}
    (read : scan text = .ok (authority, rest)) : ∀ c ∈ authority, isReadable c = true := by
  obtain ⟨_, _, last, scanned, _⟩ := scan_eq_ok read
  exact isReadable_of_foldlM scanned

theorem parse_eq_ok {text name : String} (read : parse text = .ok name) :
    name = text ∧ scan text.toList = .ok (text.toList, []) := by
  obtain ⟨⟨authority, rest⟩, scanned, checked⟩ := bind_eq_ok read
  simp only at checked
  split at checked
  · rename_i none
    have noRest : rest = [] := List.isEmpty_iff.mp none
    obtain ⟨taken, dropped, _⟩ := scan_eq_ok scanned
    have whole : authority = text.toList := by
      rw [← List.takeWhile_append_dropWhile (p := (!isEnd ·)) (l := text.toList), ← taken,
        ← dropped, noRest, List.append_nil]
    rw [whole, noRest] at scanned
    rw [← Except.ok.inj checked, whole, String.ofList_toList]
    exact ⟨rfl, scanned⟩
  · cases checked

/-- The characters that neither open nor close a part of an authority. -/
def isPartChar (c : Char) : Bool := isReadable c && !"[]@".toList.contains c

theorem isEnd_of_isPartChar {c : Char} (part : isPartChar c = true) : isEnd c = false := by
  cases ends : isEnd c with
  | false => rfl
  | true =>
    have either : (c = '/' ∨ c = '?') ∨ c = '#' := by simpa [isEnd] using ends
    rcases either with (rfl | rfl) | rfl <;> exact absurd part (by decide)

/-- A scan behind a part that has been passed over. -/
def Scan.behind (scan : Scan) (part : List Char) : Scan :=
  { scan with
    colons := scan.colons + part.count ':'
    percent := scan.percent || part.contains '%'
    endsWithAt := scan.endsWithAt && part.isEmpty }

@[simp] theorem Scan.behind_colons (scan : Scan) (part : List Char) :
    (scan.behind part).colons = scan.colons + part.count ':' := rfl

@[simp] theorem Scan.behind_opened (scan : Scan) (part : List Char) :
    (scan.behind part).opened = scan.opened := rfl

@[simp] theorem Scan.behind_closed (scan : Scan) (part : List Char) :
    (scan.behind part).closed = scan.closed := rfl

@[simp] theorem Scan.behind_percent (scan : Scan) (part : List Char) :
    (scan.behind part).percent = (scan.percent || part.contains '%') := rfl

@[simp] theorem Scan.behind_endsWithAt (scan : Scan) (part : List Char) :
    (scan.behind part).endsWithAt = (scan.endsWithAt && part.isEmpty) := rfl

theorem Scan.behind_nil (scan : Scan) : scan.behind [] = scan := by
  simp [behind]

theorem Scan.behind_cons (scan : Scan) (c : Char) (rest : List Char) :
    (scan.behind [c]).behind rest = scan.behind (c :: rest) := by
  have count : (c :: rest).count ':' = [c].count ':' + rest.count ':' := by
    rw [← List.singleton_append, List.count_append]
  simp [behind, count, Nat.add_assoc, Bool.or_assoc]

theorem step_of_isPartChar {scan : Scan} {c : Char} (part : isPartChar c = true)
    (few : scan.colons + [c].count ':' ≤ maxColons) : scan.step c = .ok (scan.behind [c]) := by
  have noOpening : c ≠ '[' := by
    rintro rfl
    exact absurd part (by decide)
  have noClosing : c ≠ ']' := by
    rintro rfl
    exact absurd part (by decide)
  have noMark : c ≠ '@' := by
    rintro rfl
    exact absurd part (by decide)
  unfold Scan.step Scan.behind
  by_cases colon : c = ':'
  · have below : scan.colons < maxColons := by simpa [colon, Nat.succ_le_iff] using few
    simp [colon, Nat.not_le.mpr below]
  · by_cases percent : c = '%'
    · simp [percent]
    · have plain : isPlain c = true := by
        have readable := (Bool.and_eq_true_iff.mp part).1
        simpa [isReadable, percent] using readable
      simp [colon, percent, noOpening, noClosing, noMark, plain, Ne.symm percent]

/-- A part with few colons is passed over. -/
theorem foldlM_of_isPartChar {chars : List Char} {scan : Scan}
    (part : ∀ c ∈ chars, isPartChar c = true) (few : scan.colons + chars.count ':' ≤ maxColons) :
    chars.foldlM Scan.step scan = .ok (scan.behind chars) := by
  induction chars generalizing scan with
  | nil => rw [Scan.behind_nil]; rfl
  | cons c rest ih =>
    have count : (c :: rest).count ':' = [c].count ':' + rest.count ':' := by
      rw [← List.singleton_append, List.count_append]
    rw [count, ← Nat.add_assoc] at few
    have step : scan.step c = .ok (scan.behind [c]) :=
      step_of_isPartChar (part c List.mem_cons_self) (Nat.le_of_add_right_le few)
    have later : rest.foldlM Scan.step (scan.behind [c]) = .ok ((scan.behind [c]).behind rest) :=
      ih (fun other member => part other (List.mem_cons_of_mem _ member)) few
    rw [Scan.behind_cons] at later
    rw [List.foldlM_cons, step]
    exact later

/-- A scan that is ready for a port. -/
structure Scan.Ready (scan : Scan) : Prop where
  colons : scan.colons = 0
  brackets : scan.opened = scan.closed
  percent : scan.percent = false
  endsWithAt : scan.endsWithAt = false

/-- What stands before an `@` is forgotten behind it. -/
theorem foldlM_userinfo {chars : List Char} (part : ∀ c ∈ chars, isPartChar c = true)
    (few : chars.count ':' ≤ maxColons) :
    (chars ++ ['@']).foldlM Scan.step {} = .ok { endsWithAt := true } := by
  rw [List.foldlM_append, foldlM_of_isPartChar part (by simpa using few)]
  simp [bind, Except.bind, Scan.step, List.foldlM_cons, pure, Except.pure]

/-- A part without colons and escapes that has a character, at the beginning or behind an `@`. -/
theorem ready_of_name {chars : List Char} (part : ∀ c ∈ chars, isPartChar c = true)
    (noColon : ':' ∉ chars) (noPercent : '%' ∉ chars) (nonempty : chars ≠ []) (behindAt : Bool) :
    ∃ last, chars.foldlM Scan.step { endsWithAt := behindAt } = .ok last ∧ last.Ready := by
  have count := List.count_eq_zero_of_not_mem noColon
  refine ⟨_, foldlM_of_isPartChar part (by simp [count]), ?_⟩
  exact ⟨by simp [count], rfl, by simp [noPercent], by simp [nonempty]⟩

theorem ready_of_brackets {chars : List Char} (part : ∀ c ∈ chars, isPartChar c = true)
    (few : chars.count ':' ≤ maxColons) (behindAt : Bool) :
    ∃ last, ('[' :: chars ++ [']']).foldlM Scan.step { endsWithAt := behindAt } = .ok last ∧
      last.Ready := by
  have opening : Scan.step { endsWithAt := behindAt } '[' = .ok { opened := true } := by
    simp [Scan.step]
  refine ⟨{ opened := true, closed := true }, ?_, rfl, rfl, rfl, rfl⟩
  rw [List.cons_append, List.foldlM_cons, opening]
  simp only [bind, Except.bind]
  rw [List.foldlM_append, foldlM_of_isPartChar part (by simpa using few)]
  simp [bind, Except.bind, Scan.step, List.foldlM_cons, pure, Except.pure]

theorem accepts_port {scan : Scan} {chars : List Char} (ready : scan.Ready)
    (part : ∀ c ∈ chars, isPartChar c = true) (few : chars.count ':' ≤ 1)
    (noPercent : '%' ∉ chars) :
    ∃ last, chars.foldlM Scan.step scan = .ok last ∧ last.accepts = true := by
  have within : scan.colons + chars.count ':' ≤ maxColons := by
    rw [ready.colons, Nat.zero_add]
    exact Nat.le_trans few (by decide)
  refine ⟨_, foldlM_of_isPartChar part within, ?_⟩
  simp [Scan.accepts, ready.colons, ready.brackets, ready.percent, ready.endsWithAt, few, noPercent]

/-- An authority in front of a path is read if its scan succeeds. -/
theorem scan_eq_ok_of_foldlM {authority rest : List Char} {last : Scan}
    (within : ∀ c ∈ authority, isEnd c = false) (nonempty : authority ≠ [])
    (behind : ∀ c, rest.head? = some c → isEnd c = true)
    (scanned : authority.foldlM Scan.step {} = .ok last) (accepted : last.accepts = true) :
    scan (authority ++ rest) = .ok (authority, rest) := by
  have inside : ∀ c ∈ authority, (!isEnd c) = true := fun c member => by simp [within c member]
  have ended : ∀ c, rest.head? = some c → (!isEnd c) = false := fun c first => by
    simp [behind c first]
  obtain ⟨taken, dropped⟩ := splitWhile_append inside ended
  unfold scan
  simp [nonempty, taken, dropped, scanned, accepted, bind, Except.bind]

end AuthGate.Authority
