import AuthGate.Path.Scan
import AuthGate.Proofs.Path.Shape
import AuthGate.Proofs.Path.Verdict
import AuthGate.Proofs.Url.Pairs

/-! Escapes among the bytes of a text. Two bytes behind a percent sign are read as an escape just if they
are two characters that are one: parts of other characters spell no number. -/
namespace AuthGate.Path
open Text

section Digits

variable {c first second : Char} {value : Nat}

theorem hexValue?_lt (digit : hexValue? c = some value) : value < 16 := by
  unfold hexValue? digitValue? at digit
  exact of_decide_eq_true (Option.filter_eq_some_iff.mp digit).2

theorem isHexDigit_of_hexValue? (digit : hexValue? c = some value) : isHexDigit c = true := by
  by_contra other
  rw [(hexValue?_eq_none_iff c).mpr (by simpa using other)] at digit
  cases digit

theorem exists_of_isHexDigit (digit : isHexDigit c = true) : ∃ value, hexValue? c = some value := by
  apply Option.ne_none_iff_exists'.mp
  intro none
  rw [(hexValue?_eq_none_iff c).mp none] at digit
  cases digit

theorem ascii_of_escapeValue? (read : escapeValue? first second = some value) :
    first.toNat < 128 ∧ second.toNat < 128 := by
  obtain ⟨escape, _⟩ := isEscape_of_escapeValue? read
  obtain ⟨left, right⟩ := Bool.and_eq_true_iff.mp escape
  refine ⟨?_, ascii_of_isHexDigit right⟩
  rcases Bool.or_eq_true_iff.mp left with digit | plus
  · exact ascii_of_isHexDigit digit
  · rw [beq_iff_eq.mp plus]
    decide

/-- An escape has the number of a byte. -/
theorem escapeValue?_lt (read : escapeValue? first second = some value) : value < 256 := by
  unfold escapeValue? at read
  split at read
  · rename_i high low left right
    have highest := hexValue?_lt left
    have lowest := hexValue?_lt right
    cases read
    omega
  · rename_i low _ right
    split at read
    · have lowest := hexValue?_lt right
      cases read
      omega
    · cases read
  · cases read

theorem digitsValue?_eq (first second : Char) : digitsValue? 16
    (if first = '+' then [second] else [first, second]) = escapeValue? first second := by
  have noDigit : hexValue? '+' = none := rfl
  by_cases plus : first = '+'
  · subst plus
    simp only [if_true, escapeValue?, noDigit, digitsValue?]
    cases low : digitValue? 16 second <;> simp [hexValue?, low]
  · rw [if_neg plus]
    simp only [escapeValue?, digitsValue?, hexValue?, plus]
    cases high : digitValue? 16 first <;> cases low : digitValue? 16 second <;> simp [high, low]

theorem isSome_of_digitsValue? {base : Nat} {digits : List Char}
    (read : digitsValue? base digits = some value) : ∀ c ∈ digits, (digitValue? base c).isSome := by
  have folded : ∀ (digits : List Char) (start value : Nat),
      digits.foldlM (fun value c => (digitValue? base c).map (base * value + ·)) start = some value →
        ∀ c ∈ digits, (digitValue? base c).isSome := by
    intro digits
    induction digits with
    | nil => exact fun _ _ _ _ member => nomatch member
    | cons digit rest ih =>
      intro start value folded
      rw [List.foldlM_cons] at folded
      obtain ⟨next, first, later⟩ := Option.bind_eq_some_iff.mp folded
      rw [List.forall_mem_cons]
      exact ⟨by rw [← Option.isSome_map, first]; rfl, ih next value later⟩
  unfold digitsValue? at read
  split at read
  · cases read
  · exact folded digits 0 value read

end Digits

section Bytes

variable {c first second : Char} {value : Nat} {text : List Char}

theorem utf8_ascii (ascii : c.toNat < 128) (rest : List Char) :
    utf8 (c :: rest) = byte c :: utf8 rest := by
  rw [utf8_cons, utf8EncodeChar_of_ascii ascii]
  rfl

theorem exists_of_utf8 {b : UInt8} {more : List UInt8} (written : utf8 text = b :: more)
    (ascii : b.toNat < 128) :
    ∃ c rest, text = c :: rest ∧ c.toNat < 128 ∧ byte c = b ∧ utf8 rest = more := by
  cases text with
  | nil => cases written
  | cons c rest =>
    by_cases small : c.toNat < 128
    · rw [utf8_ascii small] at written
      obtain ⟨first, later⟩ := List.cons.inj written
      exact ⟨c, rest, rfl, small, first, later⟩
    · rw [utf8_cons] at written
      have large := large_of_mem_utf8EncodeChar (Nat.le_of_not_lt small)
      cases bytes : String.utf8EncodeChar c with
      | nil => exact absurd bytes String.utf8EncodeChar_ne_nil
      | cons first others =>
        rw [bytes] at written large
        obtain ⟨same, _⟩ := List.cons.inj written
        have beyond := large first List.mem_cons_self
        rw [same] at beyond
        omega

/-- No byte of another character is a percent sign. -/
theorem ne_percent_of_mem_utf8EncodeChar (other : c ≠ '%') :
    ∀ b ∈ String.utf8EncodeChar c, b ≠ byte '%' := by
  intro b member
  by_cases ascii : c.toNat < 128
  · have single : c ≠ '%' → byte c ≠ byte '%' :=
      ascii_forall (P := fun c => c ≠ '%' → byte c ≠ byte '%') (by decide) ascii
    rw [utf8EncodeChar_of_ascii ascii, List.mem_singleton] at member
    rw [member]
    exact single other
  · rintro rfl
    have large := large_of_mem_utf8EncodeChar (Nat.le_of_not_lt ascii) _ member
    exact absurd large (by decide)

theorem byte_ofNat (small : value < 256) : byte (Char.ofNat value) = UInt8.ofNat value := by
  have all : ∀ value < 256, byte (Char.ofNat value) = UInt8.ofNat value := by decide +kernel
  exact all value small

theorem upperByte_byte (ascii : c.toNat < 128) : upperByte (byte c) = byte (upper c) :=
  ascii_forall (P := fun c => upperByte (byte c) = byte (upper c)) (by decide) ascii

theorem ascii_upper (ascii : c.toNat < 128) : (upper c).toNat < 128 :=
  ascii_forall (P := fun c => (upper c).toNat < 128) (by decide) ascii

/-- As two bytes an escape is read as it is as two characters. -/
theorem readEscape?_eq (left : first.toNat < 128) (right : second.toNat < 128) :
    readEscape? [byte first, byte second] = (escapeValue? first second).map UInt8.ofNat := by
  have text : ofUtf8? [byte first, byte second] = some (String.ofList [first, second]) := by
    rw [ofUtf8?_eq_some_iff, String.toList_ofList, utf8_ascii left, utf8_ascii right]
    rfl
  have small : (escapeValue? first second).filter (· < 256) = escapeValue? first second := by
    cases read : escapeValue? first second with
    | none => rfl
    | some value => simp [escapeValue?_lt read]
  simp only [readEscape?, text, Option.bind_some, readHex?, String.toList_ofList, List.head?_cons,
    Option.some.injEq, List.tail_cons, digitsValue?_eq, small]

theorem ascii_of_readEscape? {escape : List UInt8} {value : UInt8}
    (read : readEscape? escape = some value) : ∀ b ∈ escape, b.toNat < 128 := by
  obtain ⟨text, written, number⟩ := Option.bind_eq_some_iff.mp read
  obtain ⟨code, spelled, _⟩ := Option.map_eq_some_iff.mp number
  have digits := isSome_of_digitsValue? (Option.filter_eq_some_iff.mp spelled).1
  have digit {c : Char} (present : (hexValue? c).isSome) : c.toNat < 128 := by
    obtain ⟨value, read⟩ := Option.isSome_iff_exists.mp present
    exact ascii_of_isHexDigit (isHexDigit_of_hexValue? read)
  have chars : ∀ c ∈ text.toList, c.toNat < 128 := by
    intro c inside
    split at digits
    · rename_i plus
      obtain ⟨rest, same⟩ := List.head?_eq_some_iff.mp plus
      rw [same] at inside digits
      rcases List.mem_cons.mp inside with rfl | behind
      · decide
      · exact digit (digits c behind)
    · exact digit (digits c inside)
  rw [← ofUtf8?_eq_some_iff.mp written]
  intro b member
  obtain ⟨c, inside, encoded⟩ := List.mem_flatMap.mp member
  have ascii := chars c inside
  rw [utf8EncodeChar_of_ascii ascii, List.mem_singleton] at encoded
  rw [encoded, UInt8.toNat_ofNat']
  omega

/-- Two bytes are read as an escape only if they are the two characters of one. -/
theorem escape_of_readEscape? {first second value : UInt8} {more : List UInt8}
    (written : utf8 text = first :: second :: more) (read : readEscape? [first, second] = some value) :
    ∃ left right rest number,
      text = left :: right :: rest ∧ escapeValue? left right = some number := by
  have ascii := ascii_of_readEscape? read
  obtain ⟨left, behind, rfl, leftAscii, rfl, later⟩ := exists_of_utf8 written (ascii _ (by simp))
  obtain ⟨right, rest, rfl, rightAscii, rfl, _⟩ := exists_of_utf8 later (ascii _ (by simp))
  rw [readEscape?_eq leftAscii rightAscii] at read
  obtain ⟨number, present, _⟩ := Option.map_eq_some_iff.mp read
  exact ⟨left, right, rest, number, rfl, present⟩

/-- An escape of no separator is decoded, and so it is written. -/
theorem decoded_escape (read : escapeValue? first second = some value)
    (inSegment : isSeparator (Char.ofNat value) = false) :
    ∃ text, Decoded ['%', first, second] text ∧
      respell (UInt8.ofNat value) [byte first, byte second] = utf8 text := by
  obtain ⟨left, right⟩ := ascii_of_escapeValue? read
  have code : (UInt8.ofNat value).toNat = value := Nat.mod_eq_of_lt (escapeValue?_lt read)
  unfold respell
  rw [code]
  split
  · rename_i unreserved
    refine ⟨_, .opened read unreserved .nil, ?_⟩
    rw [utf8_ascii (ascii_of_isUnreserved unreserved), byte_ofNat (escapeValue?_lt read)]
    rfl
  · rename_i reserved
    refine ⟨_, .kept read inSegment (by simpa using reserved) .nil, ?_⟩
    rw [utf8_ascii (by decide), utf8_ascii (ascii_upper left), utf8_ascii (ascii_upper right)]
    simp [upperByte_byte, left, right, utf8]

end Bytes

section Meaning

variable {first second : Char} {raw text : List Char}

/-- The bytes that belong to characters beyond ASCII. -/
def largeBytes (bytes : List UInt8) : List UInt8 := bytes.filter (0x80 ≤ ·)

theorem largeBytes_ascii {c : Char} (ascii : c.toNat < 128) (rest : List Char) :
    largeBytes (utf8 (c :: rest)) = largeBytes (utf8 rest) := by
  have small : ¬ 0x80 ≤ byte c :=
    ascii_forall (P := fun c => ¬ 0x80 ≤ byte c) (by decide) ascii
  rw [utf8_ascii ascii, largeBytes, List.filter_cons_of_neg (by simpa using small)]
  rfl

/-- Decoding keeps the bytes of other characters, in order, and adds none. -/
theorem Decoded.largeBytes_eq (decoded : Decoded raw text) :
    largeBytes (utf8 text) = largeBytes (utf8 raw) := by
  induction decoded with
  | nil => rfl
  | plain _ _ ih =>
    rw [utf8_cons, utf8_cons, largeBytes, largeBytes, List.filter_append, List.filter_append]
    exact congrArg _ ih
  | opened read unreserved _ ih =>
    obtain ⟨left, right⟩ := ascii_of_escapeValue? read
    rw [largeBytes_ascii (ascii_of_isUnreserved unreserved), largeBytes_ascii (by decide),
      largeBytes_ascii left, largeBytes_ascii right, ih]
  | kept read _ _ _ ih =>
    obtain ⟨left, right⟩ := ascii_of_escapeValue? read
    rw [largeBytes_ascii (by decide), largeBytes_ascii (ascii_upper left),
      largeBytes_ascii (ascii_upper right), largeBytes_ascii (by decide), largeBytes_ascii left,
      largeBytes_ascii right, ih]

/-- Each percent sign begins an escape of two digits. -/
def Escaped (raw : List Char) : Prop :=
  ∀ before after, raw = before ++ '%' :: after →
    ∃ first second rest, after = first :: second :: rest ∧ isDigitPair first second = true

theorem Escaped.behind (before : List Char) (escaped : Escaped (before ++ raw)) : Escaped raw := by
  rintro front after rfl
  exact escaped (before ++ front) after (List.append_assoc ..).symm

theorem Escaped.digits {value : Nat} (escaped : Escaped ('%' :: first :: second :: raw))
    (read : escapeValue? first second = some value) :
    ∃ high low, hexValue? first = some high ∧ hexValue? second = some low ∧
      16 * high + low = value := by
  obtain ⟨_, _, _, same, pair⟩ := escaped [] _ rfl
  cases same
  obtain ⟨left, right⟩ := Bool.and_eq_true_iff.mp pair
  obtain ⟨high, left⟩ := exists_of_isHexDigit left
  obtain ⟨low, right⟩ := exists_of_isHexDigit right
  rw [escapeValue?_of_hex left right] at read
  exact ⟨high, low, left, right, Option.some.inj read⟩

theorem decode_plain {c : Char} (other : c ≠ '%') (rest : List Char) :
    Percent.decode (utf8 (c :: rest)) = String.utf8EncodeChar c ++ Percent.decode (utf8 rest) := by
  rw [utf8_cons, Percent.decode_append (ne_percent_of_mem_utf8EncodeChar other)]

theorem decode_escape {high low : Nat} (left : hexValue? first = some high)
    (right : hexValue? second = some low) (rest : List Char) :
    Percent.decode (utf8 ('%' :: first :: second :: rest)) =
      UInt8.ofNat (16 * high + low) :: Percent.decode (utf8 rest) := by
  have ascii {c : Char} {value : Nat} (digit : hexValue? c = some value) : c.toNat < 128 :=
    ascii_of_isHexDigit (isHexDigit_of_hexValue? digit)
  have again {c : Char} {value : Nat} (digit : hexValue? c = some value) :
      hexValue? (Char.ofNat (byte c).toNat) = some value := by
    have same : Char.ofNat (byte c).toNat = c :=
      ascii_forall (P := fun c => Char.ofNat (byte c).toNat = c) (by decide) (ascii digit)
    rw [same, digit]
  have spelled : Percent.Spells (UInt8.ofNat (16 * high + low)) [byte '%', byte first, byte second] :=
    .escape (again left) (again right) rfl
  rw [utf8_ascii (by decide), utf8_ascii (ascii left), utf8_ascii (ascii right)]
  exact spelled.decode (utf8 rest)

/-- Where all escapes have two digits, a decoded text means what was there before. -/
theorem Decoded.percentDecode_eq (decoded : Decoded raw text) (escaped : Escaped raw) :
    Percent.decode (utf8 text) = Percent.decode (utf8 raw) := by
  induction decoded with
  | nil => rfl
  | @plain c raw text other _ ih =>
    rw [decode_plain other, decode_plain other, ih (escaped.behind [c])]
  | @opened first second value raw text read unreserved _ ih =>
    have same := ih (escaped.behind ['%', first, second])
    obtain ⟨high, low, left, right, rfl⟩ := escaped.digits read
    rw [decode_plain (ne_percent_of_isUnreserved unreserved), decode_escape left right, same,
      utf8EncodeChar_of_ascii (ascii_of_isUnreserved unreserved), ← byte_ofNat (escapeValue?_lt read)]
    rfl
  | @kept first second value raw text read _ _ _ ih =>
    have same := ih (escaped.behind ['%', first, second])
    obtain ⟨high, low, left, right, rfl⟩ := escaped.digits read
    rw [decode_escape ((hexValue?_upper first).trans left) ((hexValue?_upper second).trans right),
      decode_escape left right, same]

end Meaning

end AuthGate.Path
