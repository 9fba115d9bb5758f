import AuthGate.Proofs.Text.Ascii
import AuthGate.Proofs.Text.Lists
import AuthGate.Url.Form

namespace AuthGate
open Text

namespace Text

/-- The character that the first bytes spell in UTF-8, if they spell one. -/
def firstChar? (bytes : List UInt8) : Option Char := bytes.toByteArray.utf8DecodeChar? 0

def isContinuation (b : UInt8) : Bool := 0x80 ≤ b && b ≤ 0xBF

/-- A byte that can follow the first byte of a character. -/
def canFollow (lead b : UInt8) : Bool :=
  if lead = 0xE0 then 0xA0 ≤ b && b ≤ 0xBF
  else if lead = 0xED then 0x80 ≤ b && b ≤ 0x9F
  else if lead = 0xF0 then 0x90 ≤ b && b ≤ 0xBF
  else if lead = 0xF4 then 0x80 ≤ b && b ≤ 0x8F
  else 0xC2 ≤ lead && lead ≤ 0xF4 && isContinuation b

/-- How many of the first bytes are the beginning of a character that is broken off behind them; a
byte that begins no character stands alone. -/
def brokenLength : List UInt8 → Nat
  | lead :: second :: rest =>
    if canFollow lead second then
      if 0xF0 ≤ lead && (rest.head?.map isContinuation).getD false then 3 else 2
    else 1
  | _ => 1

/-- Read UTF-8, with a replacement character for every part that spells nothing. `skipped` counts
the bytes of the last character that are still to be passed over. -/
def readUtf8 (skipped : Nat) : List UInt8 → List Char
  | [] => []
  | b :: rest =>
    match skipped with
    | skipped + 1 => readUtf8 skipped rest
    | 0 =>
      match firstChar? (b :: rest) with
      | some c => c :: readUtf8 (c.utf8Size - 1) rest
      | none => '\ufffd' :: readUtf8 (brokenLength (b :: rest) - 1) rest

theorem readUtf8_skip (passed rest : List UInt8) :
    readUtf8 passed.length (passed ++ rest) = readUtf8 0 rest := by
  induction passed with
  | nil => rfl
  | cons b more ih => exact ih

theorem readUtf8_char (c : Char) (rest : List UInt8) :
    readUtf8 0 (String.utf8EncodeChar c ++ rest) = c :: readUtf8 0 rest := by
  have first : firstChar? (String.utf8EncodeChar c ++ rest) = some c := by
    rw [firstChar?, List.toByteArray_append]
    exact ByteArray.utf8DecodeChar?_utf8EncodeChar_append
  have size := String.length_utf8EncodeChar c
  cases bytes : String.utf8EncodeChar c with
  | nil => exact absurd bytes String.utf8EncodeChar_ne_nil
  | cons b more =>
    rw [bytes] at first size
    have passed : more.length = c.utf8Size - 1 := by
      rw [← size]
      rfl
    rw [List.cons_append] at first ⊢
    simp only [readUtf8, first]
    rw [← passed, readUtf8_skip]

theorem readUtf8_utf8 (text : List Char) : readUtf8 0 (utf8 text) = text := by
  induction text with
  | nil => rfl
  | cons c rest ih =>
    have bytes : utf8 (c :: rest) = String.utf8EncodeChar c ++ utf8 rest := List.flatMap_cons
    rw [bytes, readUtf8_char, ih]

end Text

namespace Percent

/-- How a byte can be written: as it is, unless it is the percent sign, or by its number. -/
inductive Spells (b : UInt8) : List UInt8 → Prop where
  | plain (noPercent : b ≠ 0x25) : Spells b [b]
  | escape {high low : UInt8} {h l : Nat} (first : hexValue? (Char.ofNat high.toNat) = some h)
      (second : hexValue? (Char.ofNat low.toNat) = some l) (value : UInt8.ofNat (16 * h + l) = b) :
      Spells b [0x25, high, low]

theorem Spells.decode {b : UInt8} {written : List UInt8} (spelled : Spells b written)
    (rest : List UInt8) : Percent.decode (written ++ rest) = b :: Percent.decode rest := by
  cases spelled with
  | plain noPercent =>
    rcases rest with _ | ⟨second, _ | ⟨third, others⟩⟩
    · rfl
    · rfl
    · simp [Percent.decode, noPercent]
  | escape first second value => simp [Percent.decode, first, second, value]

/-- Bytes other than the percent sign stand for themselves. -/
theorem decode_append {bytes : List UInt8} (plain : ∀ b ∈ bytes, b ≠ 0x25) (rest : List UInt8) :
    decode (bytes ++ rest) = bytes ++ decode rest := by
  induction bytes with
  | nil => rfl
  | cons b more ih =>
    rw [List.forall_mem_cons] at plain
    have first := (Spells.plain plain.1).decode (more ++ rest)
    rw [List.singleton_append] at first
    rw [List.cons_append, first, ih plain.2, List.cons_append]

end Percent

namespace Form

/-- A plus sign stands for a blank. -/
def unplus (b : UInt8) : UInt8 := if b = 0x2B then 0x20 else b

/-- The text that a name or a value stands for. -/
def decode (written : List Char) : String :=
  String.ofList (readUtf8 0 (Percent.decode ((utf8 written).map unplus)))

/-- A pair; without an equals sign it is a name with an empty value. -/
def readPair (written : List Char) : String × String :=
  match splitFirst (· == '=') written with
  | (name, value) => (decode name, decode (value.getD []))

/-- The pairs of a query. Nothing between two ampersands is no pair. -/
def pairs (query : String) : List (String × String) :=
  ((query.toList.splitOn '&').filter (!·.isEmpty)).map readPair

theorem spells_encodeByte (b : UInt8) : Percent.Spells b ((utf8 (encodeByte b)).map unplus) := by
  have plain : ∀ code < 256, isPlain (UInt8.ofNat code) = true →
      (utf8 [Char.ofNat code]).map unplus = [UInt8.ofNat code] ∧ UInt8.ofNat code ≠ 0x25 := by
    decide +kernel
  have digits : ∀ value < 16, (utf8 [hexDigit value]).map unplus = [byte (hexDigit value)] ∧
      hexValue? (Char.ofNat (byte (hexDigit value)).toNat) = some value := by
    decide
  unfold encodeByte
  split
  · rename_i kept
    obtain ⟨same, noPercent⟩ := plain b.toNat b.toNat_lt (by rwa [UInt8.ofNat_toNat])
    rw [UInt8.ofNat_toNat] at same noPercent
    rw [same]
    exact .plain noPercent
  · split
    · rename_i blank
      rw [blank]
      exact .plain (by decide)
    · have bound : b.toNat < 256 := b.toNat_lt
      obtain ⟨high, first⟩ := digits (b.toNat / 16) (by omega)
      obtain ⟨low, second⟩ := digits (b.toNat % 16) (by omega)
      have written : (utf8 (Percent.escapeByte b)).map unplus =
          [0x25, byte (hexDigit (b.toNat / 16)), byte (hexDigit (b.toNat % 16))] := by
        have parts : utf8 (Percent.escapeByte b) = utf8 ['%'] ++
            (utf8 [hexDigit (b.toNat / 16)] ++ utf8 [hexDigit (b.toNat % 16)]) := by
          simp [utf8, Percent.escapeByte, hexByte]
        rw [parts, List.map_append, List.map_append, high, low]
        rfl
      rw [written]
      refine .escape first second ?_
      rw [Nat.div_add_mod, UInt8.ofNat_toNat]

theorem decode_flatMap_encodeByte (bytes : List UInt8) :
    Percent.decode ((utf8 (bytes.flatMap encodeByte)).map unplus) = bytes := by
  induction bytes with
  | nil => rfl
  | cons b rest ih =>
    have parts : (utf8 ((b :: rest).flatMap encodeByte)).map unplus =
        (utf8 (encodeByte b)).map unplus ++ (utf8 (rest.flatMap encodeByte)).map unplus := by
      simp [utf8]
    rw [parts, (spells_encodeByte b).decode, ih]

theorem decode_encode (text : String) : decode (encode text) = text := by
  rw [decode, encode, decode_flatMap_encodeByte, readUtf8_utf8, String.ofList_toList]

/-- The characters between which pairs are told apart. -/
def isMark (c : Char) : Bool := c == '&' || c == '='

theorem isMark_encode (text : String) : ∀ c ∈ encode text, isMark c = false := by
  have each : ∀ code < 256, (encodeByte (UInt8.ofNat code)).all (!isMark ·) = true := by
    decide +kernel
  intro c member
  obtain ⟨b, _, encoded⟩ := List.mem_flatMap.mp member
  have unmarked := each b.toNat b.toNat_lt
  rw [UInt8.ofNat_toNat] at unmarked
  simpa using List.all_eq_true.mp unmarked c encoded

theorem readPair_encodePair (pair : String × String) : readPair (encodePair pair) = pair := by
  have absent : ∀ c ∈ encode pair.1, (c == '=') = false := by
    intro c member
    have unmarked := isMark_encode pair.1 c member
    simp only [isMark, Bool.or_eq_false_iff] at unmarked
    exact unmarked.2
  have split : splitFirst (· == '=') (encodePair pair) = (encode pair.1, some (encode pair.2)) :=
    splitFirst_append absent rfl
  simp [readPair, split, decode_encode]

theorem pairs_encodePair (pair : String × String) :
    pairs (String.ofList (encodePair pair)) = [pair] := by
  have noMark : '&' ∉ encodePair pair := by
    intro member
    rcases List.mem_append.mp member with name | behind
    · exact absurd (isMark_encode _ _ name) (by decide)
    · rcases List.mem_cons.mp behind with same | value
      · cases same
      · exact absurd (isMark_encode _ _ value) (by decide)
  have whole : (encodePair pair).splitOn '&' = [encodePair pair] :=
    List.splitOn_eq_singleton noMark
  have nonempty : encodePair pair ≠ [] := by simp [encodePair]
  simp [pairs, whole, nonempty, readPair_encodePair]

theorem pairs_ampersand (front behind : String) :
    pairs (front ++ "&" ++ behind) = pairs front ++ pairs behind := by
  have cut : (front ++ "&" ++ behind).toList.splitOn '&' =
      front.toList.splitOn '&' ++ behind.toList.splitOn '&' := by
    have chars : (front ++ "&" ++ behind).toList = front.toList ++ '&' :: behind.toList := by simp
    rw [chars, List.splitOn_append_cons_self]
  rw [pairs, cut, List.filter_append, List.map_append]
  rfl

/-- Appended pairs are read back behind the pairs of the query, even if it is empty or ends with an
ampersand. -/
theorem pairs_append (query : String) (added : List (String × String)) :
    pairs (append query added) = pairs query ++ added := by
  induction added generalizing query with
  | nil => simp [append]
  | cons pair rest ih =>
    have step : append query (pair :: rest) = append
        ((if query.isEmpty then query else query ++ "&") ++ String.ofList (encodePair pair)) rest :=
      rfl
    rw [step, ih]
    have first : pairs ((if query.isEmpty then query else query ++ "&") ++
        String.ofList (encodePair pair)) = pairs query ++ [pair] := by
      by_cases empty : query = ""
      · have bare : (if query.isEmpty then query else query ++ "&") ++
            String.ofList (encodePair pair) = String.ofList (encodePair pair) := by simp [empty]
        have none : pairs "" = [] := by decide
        rw [bare, pairs_encodePair, empty, none, List.nil_append]
      · have present : query.isEmpty = false := by simpa using empty
        rw [present, if_neg Bool.false_ne_true, pairs_ampersand, pairs_encodePair]
    rw [first, List.append_assoc, List.singleton_append]

/-- Bytes that spell nothing are replaced, whether a character is broken off or none begins. -/
example : pairs "a=b+%E2%82%FF=%26&&%F0%9F%92%A9" = [("a", "b \ufffd\ufffd=&"), ("💩", "")] := by
  decide +kernel

end Form
end AuthGate
