import AuthGate.Proofs.Path.EscapeBytes

/-! The pass over the bytes of a path decodes its characters. At the head of each round it stands between
two characters, and what is written is the decoded text of what is behind; or it stands inside of a
character, and the bytes of it that are behind are written too. So no byte is read where there is none,
and at the end a text has been written. -/
namespace AuthGate.Path
open Text

section Behind

variable {before text raw : List Char}

private theorem Decoded.decodeUnreserved_append (decoded : Decoded before text)
    (after : List Char) :
    decodeUnreserved (before ++ after) = (text ++ ·) <$> decodeUnreserved after := by
  induction decoded with
  | nil => exact (id_map _).symm
  | plain other _ ih =>
    rw [List.cons_append, decodeUnreserved_plain other, ih]
    cases decodeUnreserved after <;> rfl
  | opened read unreserved _ ih =>
    simp only [List.cons_append, decodeUnreserved, read, isSeparator_of_isUnreserved unreserved,
      unreserved, ih]
    cases decodeUnreserved after <;> rfl
  | kept read inSegment reserved _ ih =>
    simp only [List.cons_append, decodeUnreserved, read, inSegment, reserved, ih]
    cases decodeUnreserved after <;> rfl

private theorem decodeUnreserved_malformed (unread : ∀ first second rest,
    raw = first :: second :: rest → escapeValue? first second = none) :
    decodeUnreserved ('%' :: raw) = .error .badEscape := by
  match raw with
  | [] => rfl
  | [_] => rfl
  | first :: second :: rest => simp [decodeUnreserved, unread first second rest rfl]

end Behind

namespace Scan

section Steps

variable (front rest written : List UInt8)

private theorem step_plain {b : UInt8} (other : b ≠ byte '%') :
    step (front ++ b :: rest) ⟨front.length, written⟩ = .ok ⟨front.length + 1, written ++ [b]⟩ := by
  simp [step, other]

theorem escapeAt?_eq (first second : UInt8) :
    escapeAt? (front ++ byte '%' :: first :: second :: rest) front.length = some [first, second] := by
  simp [escapeAt?]

private theorem step_escape {first second value : UInt8}
    (read : readEscape? [first, second] = some value) :
    step (front ++ byte '%' :: first :: second :: rest) ⟨front.length, written⟩ =
      if isSeparator (Char.ofNat value.toNat) then .error (.refused .encodedSeparator)
      else .ok ⟨front.length + 3, written ++ respell value [first, second]⟩ := by
  simp [step, escapeAt?_eq, read]

private theorem step_malformed {rest : List UInt8} (unread : ∀ first second more,
    rest = first :: second :: more → readEscape? [first, second] = none) :
    step (front ++ byte '%' :: rest) ⟨front.length, written⟩ = .error (.refused .badEscape) := by
  match rest with
  | [] => simp [step, escapeAt?]
  | [_] => simp [step, escapeAt?]
  | first :: second :: more => simp [step, escapeAt?_eq, unread first second more rfl]

end Steps

/-- Where a pass over a path can stand: between two characters, with the decoded text written of what is
behind, or inside of a character, with the bytes of it written too that are behind. -/
inductive Stands (path : List Char) : Scan → Prop where
  | between {before after text : List Char} (whole : path = before ++ after)
      (decoded : Decoded before text) : Stands path ⟨(utf8 before).length, utf8 text⟩
  | inside {before after text : List Char} {c : Char} {copied left : List UInt8}
      (whole : path = before ++ c :: after) (decoded : Decoded before text) (other : c ≠ '%')
      (parts : String.utf8EncodeChar c = copied ++ left) (unfinished : left ≠ []) :
      Stands path ⟨(utf8 before).length + copied.length, utf8 text ++ copied⟩

/-- What a step over a path can lead to: the pass stands in the path again, or the path is refused for
what decoding finds wrong with it. -/
inductive Justified (path : List Char) : Except ScanFault Scan → Prop where
  | next {next : Scan} (stands : Stands path next) : Justified path (.ok next)
  | refusal {cause : PathError} (refused : decodeUnreserved path = .error cause) :
      Justified path (.error (.refused cause))

/-- Where a pass over bytes gets to at the head of a round. -/
inductive Reaches (bytes : List UInt8) : Scan → Prop where
  | start : Reaches bytes {}
  | round {scan next : Scan} (reached : Reaches bytes scan) (more : scan.position < bytes.length)
      (stepped : scan.step bytes = .ok next) : Reaches bytes next

variable {path before after text : List Char} {scan : Scan}

/-- The bytes of a path around a place inside of a character. -/
theorem utf8_inside {c : Char} {copied left : List UInt8} (whole : path = before ++ c :: after)
    (parts : String.utf8EncodeChar c = copied ++ left) :
    utf8 path = (utf8 before ++ copied) ++ (left ++ utf8 after) := by
  rw [whole, utf8_append, utf8_cons, parts]
  simp only [List.append_assoc]

section Round

private theorem justified_copy {c : Char} {copied left : List UInt8} {b : UInt8}
    (whole : path = before ++ c :: after) (decoded : Decoded before text) (other : c ≠ '%')
    (parts : String.utf8EncodeChar c = copied ++ b :: left) :
    Justified path (step (utf8 path) ⟨(utf8 before).length + copied.length, utf8 text ++ copied⟩) := by
  have noPercent : b ≠ byte '%' := ne_percent_of_mem_utf8EncodeChar other b (by simp [parts])
  rw [utf8_inside whole parts, List.cons_append, ← List.length_append, step_plain _ _ _ noPercent]
  apply Justified.next
  cases left with
  | nil =>
    have stands := Stands.between (whole.trans (List.append_cons ..))
      (decoded.append (.plain other .nil))
    simpa [utf8_append, utf8_cons, parts, utf8, Nat.add_assoc] using stands
  | cons next more =>
    have stands := Stands.inside whole decoded other (parts.trans (List.append_cons ..)) (by simp)
    simpa [Nat.add_assoc] using stands

private theorem justified_percent (whole : path = before ++ '%' :: after)
    (decoded : Decoded before text) :
    Justified path (step (utf8 path) ⟨(utf8 before).length, utf8 text⟩) := by
  have bytes : utf8 path = utf8 before ++ byte '%' :: utf8 after := by
    rw [whole, utf8_append, utf8_ascii (by decide)]
  have continued := decoded.decodeUnreserved_append ('%' :: after)
  rw [← whole] at continued
  rw [bytes]
  by_cases escape : ∃ first second rest value,
      after = first :: second :: rest ∧ escapeValue? first second = some value
  · obtain ⟨first, second, rest, value, rfl, read⟩ := escape
    obtain ⟨left, right⟩ := ascii_of_escapeValue? read
    have code : (UInt8.ofNat value).toNat = value := Nat.mod_eq_of_lt (escapeValue?_lt read)
    have taken : readEscape? [byte first, byte second] = some (UInt8.ofNat value) := by
      rw [readEscape?_eq left right, read, Option.map_some]
    rw [utf8_ascii left, utf8_ascii right, step_escape _ _ _ taken, code]
    split
    · rename_i separator
      apply Justified.refusal
      simp only [continued, decodeUnreserved, read, separator]
      rfl
    · rename_i inSegment
      obtain ⟨head, opened, spelled⟩ := decoded_escape read (by simpa using inSegment)
      have length : (utf8 (before ++ ['%', first, second])).length = (utf8 before).length + 3 := by
        rw [utf8_append, utf8_ascii (by decide), utf8_ascii left, utf8_ascii right, List.length_append]
        rfl
      have stands := Stands.between
        (whole.trans (List.append_assoc before ['%', first, second] rest).symm) (decoded.append opened)
      rw [length] at stands
      rw [spelled, ← utf8_append]
      exact .next stands
  · have refused : decodeUnreserved ('%' :: after) = .error .badEscape := by
      apply decodeUnreserved_malformed
      intro first second rest same
      by_contra read
      obtain ⟨value, present⟩ := Option.ne_none_iff_exists'.mp read
      exact escape ⟨first, second, rest, value, same, present⟩
    have unread : ∀ first second more, utf8 after = first :: second :: more →
        readEscape? [first, second] = none := by
      intro first second more written
      by_contra read
      obtain ⟨value, present⟩ := Option.ne_none_iff_exists'.mp read
      exact escape (escape_of_readEscape? written present)
    rw [step_malformed _ _ unread]
    apply Justified.refusal
    rw [continued, refused]
    rfl

/-- A step from where a pass can stand leads to where it can stand, or is a refusal. -/
theorem justified_step (stands : Stands path scan) (more : scan.position < (utf8 path).length) :
    Justified path (scan.step (utf8 path)) := by
  cases stands with
  | @between before after text whole decoded =>
    cases after with
    | nil => simp [whole] at more
    | cons c rest =>
      by_cases percent : c = '%'
      · subst percent
        exact justified_percent whole decoded
      · cases bytes : String.utf8EncodeChar c with
        | nil => exact absurd bytes String.utf8EncodeChar_ne_nil
        | cons b left =>
          simpa using justified_copy whole decoded percent (bytes.trans (List.nil_append _).symm)
  | @inside before after text c copied left whole decoded other parts unfinished =>
    cases left with
    | nil => exact absurd rfl unfinished
    | cons b left => exact justified_copy whole decoded other parts

end Round

theorem stands_start (path : List Char) : Stands path {} :=
  .between (List.nil_append path).symm .nil

private theorem stands_of_reaches (reaches : Reaches (utf8 path) scan) : Stands path scan := by
  induction reaches with
  | start => exact stands_start path
  | round _ more stepped ih =>
    have justified := justified_step ih more
    rw [stepped] at justified
    cases justified with
    | next stands => exact stands

namespace Stands

private theorem position_le (stands : Stands path scan) : scan.position ≤ (utf8 path).length := by
  cases stands with
  | between whole _ =>
    rw [whole, utf8_append, List.length_append]
    exact Nat.le_add_right _ _
  | inside whole _ _ parts _ =>
    rw [utf8_inside whole parts, List.length_append, List.length_append]
    exact Nat.le_add_right _ _

private theorem completed (stands : Stands path scan) : ∃ left text,
    scan.written ++ left = utf8 text ∧ left <+: (utf8 path).drop scan.position := by
  cases stands with
  | @between before after text whole decoded =>
    exact ⟨[], text, List.append_nil _, List.nil_prefix⟩
  | @inside before after text c copied left whole decoded other parts unfinished =>
    refine ⟨left, text ++ [c], ?_, ?_⟩
    · rw [utf8_append, utf8_cons, parts]
      simp [utf8]
    · rw [utf8_inside whole parts, ← List.length_append, List.drop_left]
      exact List.prefix_append left _

private theorem decoded (stands : Stands path scan) (done : (utf8 path).length ≤ scan.position) :
    ∃ text, Decoded path text ∧ scan = ⟨(utf8 path).length, utf8 text⟩ := by
  cases stands with
  | @between before after text whole decoded =>
    cases after with
    | nil =>
      rw [List.append_nil] at whole
      exact ⟨text, whole ▸ decoded, by rw [whole]⟩
    | cons c rest =>
      have nonempty : 0 < (String.utf8EncodeChar c).length :=
        List.length_pos_of_ne_nil String.utf8EncodeChar_ne_nil
      rw [whole, utf8_append, utf8_cons] at done
      simp only [List.length_append] at done
      omega
  | inside whole _ _ parts unfinished =>
    have nonempty := List.length_pos_of_ne_nil unfinished
    rw [utf8_inside whole parts] at done
    simp only [List.length_append] at done
    omega

end Stands

private theorem run_of_stands (stands : Stands path scan) : scan.run (utf8 path) =
    ((decodeUnreserved path).map fun text => ⟨(utf8 path).length, utf8 text⟩).mapError .refused := by
  fun_induction run (utf8 path) scan with
  | case1 scan more fault stopped =>
    have justified := justified_step stands more
    rw [stopped] at justified
    cases justified with
    | refusal refused =>
      rw [refused]
      rfl
  | case2 scan more next stepped ih =>
    have justified := justified_step stands more
    rw [stepped] at justified
    cases justified with
    | next stands => exact ih stands
  | case3 scan done =>
    obtain ⟨text, decoded, rfl⟩ := stands.decoded (Nat.le_of_not_lt done)
    rw [decoded.accepted]
    rfl

end Scan

/-- In one pass over its bytes a path is decoded, or refused, as it is by its characters. -/
theorem scan_eq (path : String) :
    scan path = ((decodeUnreserved path.toList).map String.ofList).mapError .refused := by
  rw [scan, Scan.run_of_stands (Scan.stands_start path.toList)]
  cases decodeUnreserved path.toList with
  | error cause => rfl
  | ok text =>
    have written : ofUtf8? (utf8 text) = some (String.ofList text) := by
      rw [ofUtf8?_eq_some_iff, String.toList_ofList]
    simp only [Except.map, Except.mapError, bind, Except.bind, written]
    rfl

private theorem scan_eq_ok_iff {path text : String} :
    scan path = .ok text ↔ decodeUnreserved path.toList = .ok text.toList := by
  rw [scan_eq]
  cases decodeUnreserved path.toList with
  | error cause => simp [Except.map, Except.mapError]
  | ok decoded =>
    have same : String.ofList decoded = text ↔ decoded = text.toList := by
      rw [← String.toList_inj, String.toList_ofList]
    simp [Except.map, Except.mapError, same]

private theorem scan_eq_error_iff {path : String} {fault : ScanFault} : scan path = .error fault ↔
    ∃ cause, fault = .refused cause ∧ decodeUnreserved path.toList = .error cause := by
  rw [scan_eq]
  cases decodeUnreserved path.toList with
  | error cause => simp [Except.map, Except.mapError, eq_comm]
  | ok decoded => simp [Except.map, Except.mapError]

/-- What holds of the pass over the bytes of a path. -/
structure KeepsText (path : String) : Prop where
  inBounds : ∀ pass, Scan.Reaches (utf8 path.toList) pass →
    pass.position ≤ (utf8 path.toList).length ∧ (pass.position < (utf8 path.toList).length →
      pass.step (utf8 path.toList) ≠ .error .outOfBounds)
  stands : ∀ pass, Scan.Reaches (utf8 path.toList) pass → Scan.Stands path.toList pass
  completed : ∀ pass, Scan.Reaches (utf8 path.toList) pass → ∃ left text,
    pass.written ++ left = utf8 text ∧ left <+: (utf8 path.toList).drop pass.position
  decoded : ∀ text, scan path = .ok text ↔ decodeUnreserved path.toList = .ok text.toList
  refused : ∀ fault, scan path = .error fault ↔
    ∃ cause, fault = .refused cause ∧ decodeUnreserved path.toList = .error cause
  large : ∀ text, scan path = .ok text →
    largeBytes (utf8 text.toList) = largeBytes (utf8 path.toList)
  meaning : ∀ text, scan path = .ok text → Escaped path.toList →
    Percent.decode (utf8 text.toList) = Percent.decode (utf8 path.toList)

/-- A pass over the bytes of a path reads and writes nothing but text. -/
theorem scan_keepsText (path : String) : KeepsText path := by
  constructor
  case inBounds =>
    intro pass reaches
    have stands := Scan.stands_of_reaches reaches
    refine ⟨stands.position_le, fun more => ?_⟩
    intro fault
    have justified := Scan.justified_step stands more
    rw [fault] at justified
    cases justified
  case stands => exact fun _ => Scan.stands_of_reaches
  case completed => exact fun _ reaches => (Scan.stands_of_reaches reaches).completed
  case decoded => exact fun _ => scan_eq_ok_iff
  case refused => exact fun _ => scan_eq_error_iff
  case large =>
    intro text accepted
    exact (decoded_of_ok (scan_eq_ok_iff.mp accepted)).largeBytes_eq
  case meaning =>
    intro text accepted
    exact (decoded_of_ok (scan_eq_ok_iff.mp accepted)).percentDecode_eq

/-- What follows a percent sign can be a part of a character, or the whole of one. -/
example : [scan "/%aé", scan "/%é", scan "/é%7e%3d%C3%a9"] =
    [.error (.refused .badEscape), .error (.refused .badEscape), .ok "/é~%3D%C3%A9"] := by
  simp only [scan_eq]
  decide

end AuthGate.Path
