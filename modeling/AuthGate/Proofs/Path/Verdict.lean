import AuthGate.Proofs.Path.Segments
import AuthGate.Proofs.Text.Ascii

/-! Which paths have a normal form, and what is wrong with the others. A path is read from the left: the
first escape that is malformed or hides a separator decides the error, and without one the path is
accepted. A plus sign and a digit are read as an escape too, so that not all malformed escapes are found. -/
namespace AuthGate.Path
open Text

/-- A digit of an escape. -/
def isHexDigit (c : Char) : Bool := "0123456789abcdefABCDEF".toList.contains c

/-- What an escape is made of: two digits. -/
def isDigitPair (first second : Char) : Bool := isHexDigit first && isHexDigit second

/-- What is read as an escape: two digits, or a plus sign and a digit. -/
def isEscape (first second : Char) : Bool :=
  (isHexDigit first || first == '+') && isHexDigit second

/-- The escapes of the slash and of the backslash. -/
def hidesSeparator (first second : Char) : Bool :=
  [('2', 'f'), ('2', 'F'), ('5', 'c'), ('5', 'C')].contains (first, second)

/-- All percent signs that are met from the left begin an escape, and none hides a separator. -/
inductive WellFormed (reads : Char → Char → Bool) : List Char → Prop where
  | nil : WellFormed reads []
  | plain {c : Char} {raw : List Char} (other : c ≠ '%') (rest : WellFormed reads raw) :
      WellFormed reads (c :: raw)
  | escape {first second : Char} {raw : List Char} (read : reads first second = true)
      (inSegment : hidesSeparator first second = false) (rest : WellFormed reads raw) :
      WellFormed reads ('%' :: first :: second :: raw)

/-- The first offence that is met from the left: a percent sign that begins no escape, or an escape
that hides a separator. -/
inductive Offends (reads : Char → Char → Bool) : List Char → PathError → Prop where
  | plain {c : Char} {raw : List Char} {cause : PathError} (other : c ≠ '%')
      (rest : Offends reads raw cause) : Offends reads (c :: raw) cause
  | escape {first second : Char} {raw : List Char} {cause : PathError}
      (read : reads first second = true) (inSegment : hidesSeparator first second = false)
      (rest : Offends reads raw cause) : Offends reads ('%' :: first :: second :: raw) cause
  | malformed {raw : List Char}
      (unread : ∀ first second rest, raw = first :: second :: rest → reads first second = false) :
      Offends reads ('%' :: raw) .badEscape
  | separator {first second : Char} {raw : List Char} (read : reads first second = true)
      (hides : hidesSeparator first second = true) :
      Offends reads ('%' :: first :: second :: raw) .encodedSeparator

section Scan

variable {reads : Char → Char → Bool} {raw : List Char} {cause other : PathError}

theorem WellFormed.not_offends (wellFormed : WellFormed reads raw) : ¬ Offends reads raw cause := by
  intro offends
  induction wellFormed with
  | nil => cases offends
  | plain different _ ih =>
    cases offends with
    | plain _ rest => exact ih rest
    | escape _ _ _ => exact different rfl
    | malformed _ => exact different rfl
    | separator _ _ => exact different rfl
  | escape read inSegment _ ih =>
    cases offends with
    | plain percent _ => exact percent rfl
    | escape _ _ rest => exact ih rest
    | malformed unread => simp [unread _ _ _ rfl] at read
    | separator _ hides => simp [hides] at inSegment

theorem Offends.unique (first : Offends reads raw cause) (second : Offends reads raw other) :
    cause = other := by
  induction first with
  | plain different _ ih =>
    cases second with
    | plain _ rest => exact ih rest
    | escape _ _ _ => exact absurd rfl different
    | malformed _ => exact absurd rfl different
    | separator _ _ => exact absurd rfl different
  | escape read inSegment _ ih =>
    cases second with
    | plain percent _ => exact absurd rfl percent
    | escape _ _ rest => exact ih rest
    | malformed unread => simp [unread _ _ _ rfl] at read
    | separator _ hides => simp [hides] at inSegment
  | malformed unread =>
    cases second with
    | plain percent _ => exact absurd rfl percent
    | escape read _ _ => simp [unread _ _ _ rfl] at read
    | malformed _ => rfl
    | separator read _ => simp [unread _ _ _ rfl] at read
  | separator read hides =>
    cases second with
    | plain percent _ => exact absurd rfl percent
    | escape _ inSegment _ => simp [hides] at inSegment
    | malformed unread => simp [unread _ _ _ rfl] at read
    | separator _ _ => rfl

private theorem Offends.cause_eq (offends : Offends reads raw cause) :
    cause = .badEscape ∨ cause = .encodedSeparator := by
  induction offends with
  | plain _ _ ih => exact ih
  | escape _ _ _ ih => exact ih
  | malformed _ => exact .inl rfl
  | separator _ _ => exact .inr rfl

private theorem wellFormed_or_offends (reads : Char → Char → Bool) :
    ∀ raw, WellFormed reads raw ∨ ∃ cause, Offends reads raw cause
  | [] => .inl .nil
  | c :: raw => by
    by_cases percent : c = '%'
    · subst percent
      match raw with
      | [] => exact .inr ⟨_, .malformed (by simp)⟩
      | [_] => exact .inr ⟨_, .malformed (by simp)⟩
      | first :: second :: raw =>
        by_cases read : reads first second = true
        · by_cases hides : hidesSeparator first second = true
          · exact .inr ⟨_, .separator read hides⟩
          · have inSegment : hidesSeparator first second = false := by simpa using hides
            rcases wellFormed_or_offends reads raw with rest | ⟨cause, rest⟩
            · exact .inl (.escape read inSegment rest)
            · exact .inr ⟨cause, .escape read inSegment rest⟩
        · refine .inr ⟨_, .malformed ?_⟩
          rintro _ _ _ ⟨⟩
          simpa using read
    · rcases wellFormed_or_offends reads raw with rest | ⟨cause, rest⟩
      · exact .inl (.plain percent rest)
      · exact .inr ⟨cause, .plain percent rest⟩

end Scan

theorem ascii_of_isHexDigit {c : Char} (digit : isHexDigit c = true) : c.toNat < 128 := by
  have small : ("0123456789abcdefABCDEF".toList.all fun digit => digit.toNat < 128) = true := by decide
  simpa using List.all_eq_true.mp small c (List.contains_iff_mem.mp digit)

/-- The digits of escapes are those that have a value. -/
theorem hexValue?_eq_none_iff (c : Char) : hexValue? c = none ↔ isHexDigit c = false := by
  by_cases ascii : c.toNat < 128
  · exact ascii_forall (P := fun c => hexValue? c = none ↔ isHexDigit c = false)
      (by decide +kernel) ascii
  · have noValue : hexValue? c = none := by
      have nine := not_le_of_beyond ascii '9' (by decide)
      have lowF := not_le_of_beyond ascii 'f' (by decide)
      have highF := not_le_of_beyond ascii 'F' (by decide)
      simp [hexValue?, digitValue?, isDigit, nine, lowF, highF]
    have noDigit : isHexDigit c = false := by
      cases digit : isHexDigit c with
      | false => rfl
      | true => exact absurd (ascii_of_isHexDigit digit) ascii
    simp [noValue, noDigit]

/-- What is read as an escape has a value, which is that of a separator just for the four escapes of one. -/
theorem escapeValue?_of_isEscape {first second : Char} (read : isEscape first second = true) :
    ∃ value, escapeValue? first second = some value ∧
      isSeparator (Char.ofNat value) = hidesSeparator first second := by
  have all : ("+0123456789abcdefABCDEF".toList.all fun first =>
      "0123456789abcdefABCDEF".toList.all fun second =>
        (escapeValue? first second).map (fun value => isSeparator (Char.ofNat value)) ==
          some (hidesSeparator first second)) = true := by
    decide +kernel
  obtain ⟨left, right⟩ := Bool.and_eq_true_iff.mp read
  have left : first ∈ "+0123456789abcdefABCDEF".toList := by
    have chars : "+0123456789abcdefABCDEF".toList = '+' :: "0123456789abcdefABCDEF".toList := by
      decide
    rw [chars]
    rcases Bool.or_eq_true_iff.mp left with digit | plus
    · exact List.mem_cons_of_mem _ (List.contains_iff_mem.mp digit)
    · exact List.mem_cons.mpr (.inl (by simpa using plus))
  have each := List.all_eq_true.mp (List.all_eq_true.mp all first left) second
    (List.contains_iff_mem.mp right)
  exact Option.map_eq_some_iff.mp (by simpa using each)

theorem escapeValue?_eq_none_iff (first second : Char) :
    escapeValue? first second = none ↔ isEscape first second = false := by
  constructor
  · intro none
    cases read : isEscape first second with
    | false => rfl
    | true =>
      obtain ⟨value, present, _⟩ := escapeValue?_of_isEscape read
      rw [none] at present
      cases present
  · intro unread
    unfold escapeValue?
    cases right : hexValue? second with
    | none => cases hexValue? first <;> rfl
    | some low =>
      have digit : isHexDigit second = true := by
        by_contra none
        have absent := (hexValue?_eq_none_iff second).mpr (by simpa using none)
        rw [right] at absent
        cases absent
      have neither : isHexDigit first = false ∧ first ≠ '+' := by
        simpa [isEscape, digit] using unread
      rw [(hexValue?_eq_none_iff first).mpr neither.1]
      exact if_neg neither.2

theorem isEscape_of_escapeValue? {first second : Char} {value : Nat}
    (read : escapeValue? first second = some value) :
    isEscape first second = true ∧
      isSeparator (Char.ofNat value) = hidesSeparator first second := by
  have escape : isEscape first second = true := by
    by_contra unread
    rw [(escapeValue?_eq_none_iff first second).mpr (by simpa using unread)] at read
    cases read
  obtain ⟨_, present, same⟩ := escapeValue?_of_isEscape escape
  cases present.symm.trans read
  exact ⟨escape, same⟩

/-- A result that is an error just if something offends, and then names the first offence. -/
inductive Decides {α : Type} (reads : Char → Char → Bool) (raw : List Char) :
    Except PathError α → Prop where
  | accepts (wellFormed : WellFormed reads raw) (value : α) : Decides reads raw (.ok value)
  | refuses {cause : PathError} (offends : Offends reads raw cause) :
      Decides reads raw (.error cause)

namespace Decides

variable {α β : Type} {reads : Char → Char → Bool} {raw : List Char} {result : Except PathError α}

theorem map (change : α → β) (decides : Decides reads raw result) :
    Decides reads raw (change <$> result) := by
  cases decides with
  | accepts wellFormed value => exact .accepts wellFormed (change value)
  | refuses offends => exact .refuses offends

private theorem plain {c : Char} (other : c ≠ '%') (decides : Decides reads raw result) :
    Decides reads (c :: raw) result := by
  cases decides with
  | accepts wellFormed value => exact .accepts (.plain other wellFormed) value
  | refuses offends => exact .refuses (.plain other offends)

private theorem escape {first second : Char} (read : reads first second = true)
    (inSegment : hidesSeparator first second = false) (decides : Decides reads raw result) :
    Decides reads ('%' :: first :: second :: raw) result := by
  cases decides with
  | accepts wellFormed value => exact .accepts (.escape read inSegment wellFormed) value
  | refuses offends => exact .refuses (.escape read inSegment offends)

private theorem eq_error (decides : Decides reads raw result) {cause : PathError}
    (offends : Offends reads raw cause) : result = .error cause := by
  cases decides with
  | accepts wellFormed _ => exact absurd offends wellFormed.not_offends
  | refuses also => rw [also.unique offends]

end Decides

private theorem decodeUnreserved_decides (raw : List Char) :
    Decides isEscape raw (decodeUnreserved raw) := by
  fun_induction decodeUnreserved raw with
  | case1 => exact .accepts .nil []
  | case2 first second rest unread =>
    refine .refuses (.malformed ?_)
    rintro _ _ _ ⟨⟩
    exact (escapeValue?_eq_none_iff first second).mp unread
  | case3 first second rest value read c hides =>
    obtain ⟨escape, same⟩ := isEscape_of_escapeValue? read
    exact .refuses (.separator escape (same.symm.trans hides))
  | case4 first second rest value read c inSegment _ ih =>
    obtain ⟨escape, same⟩ := isEscape_of_escapeValue? read
    exact (ih.map _).escape escape (same.symm.trans (by simpa using inSegment))
  | case5 first second rest value read c inSegment _ ih =>
    obtain ⟨escape, same⟩ := isEscape_of_escapeValue? read
    exact (ih.map _).escape escape (same.symm.trans (by simpa using inSegment))
  | case6 rest short =>
    exact .refuses (.malformed fun first second others same => absurd same (short first second others))
  | case7 c rest _ other ih => exact (ih.map _).plain other

/-- A result is the one that a path deserves: its normal form if it is absolute and well-formed, and
otherwise the error of its first offence. -/
structure Judges (reads : Char → Char → Bool) (path : List Char)
    (result : Except PathError String) : Prop where
  accepted : (∃ normal, result = .ok normal) ↔ path.head? = some '/' ∧ WellFormed reads path
  notAbsolute : result = .error .notAbsolute ↔ path.head? ≠ some '/'
  badEscape : result = .error .badEscape ↔ path.head? = some '/' ∧ Offends reads path .badEscape
  encodedSeparator : result = .error .encodedSeparator ↔
    path.head? = some '/' ∧ Offends reads path .encodedSeparator

namespace Judges

variable {reads : Char → Char → Bool} {path : List Char} {cause : PathError} {normal : String}

private theorem of_relative (relative : path.head? ≠ some '/') :
    Judges reads path (.error .notAbsolute) := by
  constructor <;> simp [relative]

private theorem of_wellFormed (absolute : path.head? = some '/')
    (wellFormed : WellFormed reads path) :
    Judges reads path (.ok normal) := by
  constructor <;> simp [absolute, wellFormed, wellFormed.not_offends]

private theorem of_offends (absolute : path.head? = some '/') (offends : Offends reads path cause) :
    Judges reads path (.error cause) := by
  have notWellFormed : ¬ WellFormed reads path := fun wellFormed => wellFormed.not_offends offends
  have same (other : PathError) : cause = other ↔ Offends reads path other :=
    ⟨fun same => same ▸ offends, offends.unique⟩
  constructor
  case accepted => simp [notWellFormed]
  case notAbsolute =>
    rcases offends.cause_eq with rfl | rfl <;> simp [absolute]
  case badEscape => simp [absolute, same]
  case encodedSeparator => simp [absolute, same]

private theorem of_decides {result : Except PathError String} (absolute : path.head? = some '/')
    (decides : Decides reads path result) : Judges reads path result := by
  cases decides with
  | accepts wellFormed _ => exact .of_wellFormed absolute wellFormed
  | refuses offends => exact .of_offends absolute offends

end Judges

/-- A plus sign in place of the first digit of an escape is met before any offence. -/
def MeetsPlus (path : List Char) : Prop :=
  ∃ before digit after, path = before ++ '%' :: '+' :: digit :: after ∧
    WellFormed isDigitPair before ∧ isHexDigit digit = true

theorem isEscape_of_isDigitPair {first second : Char} (digits : isDigitPair first second = true) :
    isEscape first second = true := by
  obtain ⟨left, right⟩ := Bool.and_eq_true_iff.mp digits
  simp [isEscape, left, right]

private theorem WellFormed.ofDigitPairs {raw : List Char}
    (wellFormed : WellFormed isDigitPair raw) :
    WellFormed isEscape raw := by
  induction wellFormed with
  | nil => exact .nil
  | plain other _ ih => exact .plain other ih
  | escape digits inSegment _ ih => exact .escape (isEscape_of_isDigitPair digits) inSegment ih

/-- The sign is an offence where two digits are asked for. -/
theorem MeetsPlus.offends {path : List Char} (meets : MeetsPlus path) :
    Offends isDigitPair path .badEscape := by
  obtain ⟨before, digit, after, rfl, wellFormed, _⟩ := meets
  induction wellFormed with
  | nil =>
    refine .malformed ?_
    rintro _ _ _ ⟨⟩
    rfl
  | plain other _ ih => exact .plain other ih
  | escape digits inSegment _ ih => exact .escape digits inSegment ih

private theorem Offends.ofDigitPairs {raw : List Char} {cause : PathError}
    (offends : Offends isDigitPair raw cause) :
    Offends isEscape raw cause ∨ cause = .badEscape ∧ MeetsPlus raw := by
  induction offends with
  | plain other _ ih =>
    rcases ih with rest | ⟨rfl, before, digit, after, rfl, wellFormed, hex⟩
    · exact .inl (.plain other rest)
    · exact .inr ⟨rfl, _ :: before, digit, after, rfl, .plain other wellFormed, hex⟩
  | escape digits inSegment _ ih =>
    rcases ih with rest | ⟨rfl, before, digit, after, rfl, wellFormed, hex⟩
    · exact .inl (.escape (isEscape_of_isDigitPair digits) inSegment rest)
    · exact .inr ⟨rfl, '%' :: _ :: _ :: before, digit, after, rfl,
        .escape digits inSegment wellFormed, hex⟩
  | @malformed raw unread =>
    by_cases plus : ∃ digit rest, raw = '+' :: digit :: rest ∧ isHexDigit digit = true
    · obtain ⟨digit, rest, rfl, hex⟩ := plus
      exact .inr ⟨rfl, [], digit, rest, rfl, .nil, hex⟩
    · refine .inl (.malformed ?_)
      rintro first second rest rfl
      by_contra read
      have noDigits := unread first second rest rfl
      have sign : first = '+' ∧ isHexDigit second = true := by
        cases left : isHexDigit first <;> cases right : isHexDigit second <;>
          simp_all [isEscape, isDigitPair]
      exact plus ⟨second, rest, by rw [sign.1], sign.2⟩
  | separator digits hides => exact .inl (.separator (isEscape_of_isDigitPair digits) hides)

private theorem Decides.toDigitPairs {α : Type} {raw : List Char} {result : Except PathError α}
    (decides : Decides isEscape raw result)
    (condition : ¬ MeetsPlus raw ∨ result = .error .badEscape) : Decides isDigitPair raw result := by
  rcases wellFormed_or_offends isDigitPair raw with wellFormed | ⟨cause, offends⟩
  · cases decides with
    | accepts _ value => exact .accepts wellFormed value
    | refuses also => exact absurd also wellFormed.ofDigitPairs.not_offends
  · rcases offends.ofDigitPairs with also | ⟨rfl, meets⟩
    · rw [decides.eq_error also]
      exact .refuses offends
    · rw [condition.resolve_left (not_not_intro meets)]
      exact .refuses offends

/-- Each path gets the result that it deserves, a plus sign and a digit being an escape. It is the one that
it deserves when escapes have two digits, unless such a sign is met and the path is not refused for a
malformed escape behind it. -/
theorem normalize_judged (path : String) :
    Judges isEscape path.toList (normalize path) ∧
    (Judges isDigitPair path.toList (normalize path) ↔
      path.toList.head? ≠ some '/' ∨ ¬ MeetsPlus path.toList ∨
        normalize path = .error .badEscape) := by
  by_cases absolute : path.toList.head? = some '/'
  · have decides : Decides isEscape path.toList (normalize path) := by
      rw [normalize_of_absolute absolute]
      exact (decodeUnreserved_decides path.toList).map _
    refine ⟨.of_decides absolute decides, ?_, ?_⟩
    · intro judged
      by_cases meets : MeetsPlus path.toList
      · exact .inr (.inr (judged.badEscape.mpr ⟨absolute, meets.offends⟩))
      · exact .inr (.inl meets)
    · rintro (relative | condition)
      · exact absurd absolute relative
      · exact .of_decides absolute (decides.toDigitPairs condition)
  · rw [normalize_of_relative absolute]
    exact ⟨.of_relative absolute, fun _ => .inl absolute, fun _ => .of_relative absolute⟩

/-- An escape with a plus sign is no escape of two digits, and is accepted. -/
theorem normalize_plus : normalize "/%+f" = .ok "/%+F" ∧
    Offends isDigitPair "/%+f".toList .badEscape ∧
    ¬ Judges isDigitPair "/%+f".toList (normalize "/%+f") := by
  have accepted : normalize "/%+f" = .ok "/%+F" := by decide
  have offends : Offends isDigitPair "/%+f".toList .badEscape :=
    MeetsPlus.offends ⟨['/'], 'f', [], by decide, .plain (by decide) .nil, by decide⟩
  refine ⟨accepted, offends, fun judged => ?_⟩
  rw [judged.badEscape.mpr ⟨by decide, offends⟩] at accepted
  cases accepted

end AuthGate.Path
