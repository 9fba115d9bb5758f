import AuthGate.Header.Forwarded
import AuthGate.Proofs.Address.Text
import AuthGate.Proofs.Header.Connection

/-! Fields that tell of a client behind other proxies. The gate writes all three of them and changes no
other. The chain of addresses that it is told and trusts is extended by the address of its own client,
as long as the chain is in one field: of several only the first is read, and all are replaced. -/
namespace AuthGate
open Text

namespace Headers

/-- There is one field of a name, and it has a text. -/
def Says (headers : Headers) (name : HeaderName) (text : String) : Prop :=
  (headers.values name).map (·.bytes) = [utf8 text.toList]

variable {headers left right : Headers}

private theorem erase_append {name other : HeaderName} (different : other ≠ name)
    (headers : Headers)
    (value : HeaderValue) :
    (headers.append other value).erase name = (headers.erase name).append other value := by
  simp [append, erase, different]

theorem forwardedChain_of_untrusted (headers : Headers) (ip : Ip) :
    headers.forwardedChain false ip = ip.text := by
  unfold forwardedChain
  split <;> rfl

/-- Without trust, all three fields are replaced. -/
theorem setForwarded_of_untrusted (ip : Ip) {proto host : String}
    (properProto : HeaderValue.Holds proto) (properHost : HeaderValue.Holds host) :
    ∃ first second third, HeaderValue.ofText? ip.text = some first ∧
      HeaderValue.ofText? proto = some second ∧ HeaderValue.ofText? host = some third ∧
      ∀ headers : Headers, headers.setForwarded ⟨some ip, proto, host⟩ false =
        (((headers.eraseAll forwardedNames).append .forwardedFor first).append
          .forwardedProto second).append .forwardedHost third := by
  obtain ⟨first, address⟩ := HeaderValue.exists_ofText?_iff.mpr ip.holds_text
  obtain ⟨second, scheme⟩ := HeaderValue.exists_ofText?_iff.mpr properProto
  obtain ⟨third, server⟩ := HeaderValue.exists_ofText?_iff.mpr properHost
  refine ⟨first, second, third, address, scheme, server, ?_⟩
  intro headers
  have chain := headers.forwardedChain_of_untrusted ip
  have erased : headers.eraseAll forwardedNames =
      ((headers.erase .forwardedFor).erase .forwardedProto).erase .forwardedHost := rfl
  simp only [setForwarded, chain, insertText, address, scheme, server, insert, erased]
  rw [erase_append (by decide), erase_append (by decide), erase_append (by decide)]

theorem says_of_values {name : HeaderName} {text : String} {value : HeaderValue}
    (read : HeaderValue.ofText? text = some value) (only : headers.values name = [value]) :
    headers.Says name text := by
  simp [Says, only, HeaderValue.bytes_of_ofText? read]

/-- The entries of a list that commas separate, but for the empty ones. -/
def entriesOf (text : String) : List String := (listEntries text).filter (· ≠ "")

private theorem entriesOf_comma (front behind : String) :
    entriesOf (front ++ "," ++ behind) = entriesOf front ++ entriesOf behind := by
  have chars : (front ++ "," ++ behind).toList = front.toList ++ ',' :: behind.toList := by simp
  rw [entriesOf, listEntries, chars, List.splitOn_append_cons_self, List.map_append,
    List.filter_append]
  rfl

private theorem isSpaceOrTab_of_written {c : Char} (written : c ∈ Ip.writtenChars) :
    isSpaceOrTab c = false := by
  have all : ∀ c ∈ Ip.writtenChars, (!isSpaceOrTab c) = true := List.all_eq_true.mp (by decide)
  simpa using all c written

private theorem entriesOf_address {ip : Ip} (whole : ip.Whole) :
    entriesOf ip.text = [ip.text] ∧ entriesOf (" " ++ ip.text) = [ip.text] := by
  have noComma : ',' ∉ ip.text.toList := fun member => absurd (Ip.mem_text member) (by decide)
  have trimmed : trimWhile isSpaceOrTab ip.text.toList = ip.text.toList :=
    trimWhile_of_forall fun c member => isSpaceOrTab_of_written (Ip.mem_text member)
  have nonempty := Ip.text_ne_empty whole
  constructor
  · simp [entriesOf, listEntries, List.splitOn_eq_singleton noComma, trimmed, nonempty]
  · have chars : (" " ++ ip.text).toList = ' ' :: ip.text.toList := by simp
    have blankNoComma : ',' ∉ ' ' :: ip.text.toList := by simp [noComma]
    have shorter : trimWhile isSpaceOrTab (' ' :: ip.text.toList) = ip.text.toList := by
      rw [trimWhile_cons_of_pos rfl, trimmed]
    simp [entriesOf, listEntries, chars, List.splitOn_eq_singleton blankNoComma, shorter, nonempty]

private theorem ascii_forwardedChain (headers : Headers) (trust : Bool) (ip : Ip) :
    ∀ c ∈ (headers.forwardedChain trust ip).toList, c.toNat < 128 := by
  have all : ∀ c ∈ ", ".toList ++ Ip.writtenChars, isAscii c = true :=
    List.all_eq_true.mp (by decide)
  have between : ∀ c ∈ ", ".toList, c.toNat < 128 := fun c member =>
    of_decide_eq_true (all c (List.mem_append_left _ member))
  have own : ∀ c ∈ ip.text.toList, c.toNat < 128 := fun c member =>
    of_decide_eq_true (all c (List.mem_append_right _ (Ip.mem_text member)))
  unfold forwardedChain
  split
  · rename_i existing shown
    obtain ⟨value, _, seen⟩ := Option.bind_eq_some_iff.mp shown
    obtain ⟨ascii, rfl⟩ := HeaderValue.text?_eq_some_iff.mp seen
    have before : ∀ c ∈ ofBytes value.bytes, c.toNat < 128 := by
      intro c member
      obtain ⟨b, inside, rfl⟩ := List.mem_map.mp member
      rw [toNat_ofNat_of_ascii (ascii b inside)]
      exact ascii b inside
    split
    · intro c member
      simp only [String.toList_append, String.toList_ofList, List.mem_append] at member
      rcases member with (first | mark) | last
      · exact before c first
      · exact between c mark
      · exact own c last
    · exact own
  · exact own

private theorem holds_forwardedChain (headers : Headers) (trust : Bool) (ip : Ip) :
    HeaderValue.Holds (headers.forwardedChain trust ip) := by
  unfold forwardedChain
  split
  · rename_i existing shown
    split
    · exact ((holds_firstText? shown).append (by decide)).append ip.holds_text
    · exact ip.holds_text
  · exact ip.holds_text

private theorem values_forwardedFor (headers : Headers) (ip : Ip) (proto host : String)
    (trust : Bool) :
    ∃ value, HeaderValue.ofText? (headers.forwardedChain trust ip) = some value ∧
      (headers.setForwarded ⟨some ip, proto, host⟩ trust).values .forwardedFor = [value] := by
  obtain ⟨value, read⟩ := HeaderValue.exists_ofText?_iff.mpr (headers.holds_forwardedChain trust ip)
  refine ⟨value, read, ?_⟩
  simp only [setForwarded]
  rw [values_insertText _ (by decide), values_insertText _ (by decide)]
  simp [insertText, read]

end Headers

/-- The entries of a value, of which each byte is taken for a character. -/
def HeaderValue.entries (value : HeaderValue) : List String :=
  Headers.entriesOf (String.ofList (ofBytes value.bytes))

private theorem HeaderValue.entries_of_ofText? {text : String} {value : HeaderValue}
    (read : ofText? text = some value) (ascii : ∀ c ∈ text.toList, c.toNat < 128) :
    value.entries = Headers.entriesOf text := by
  rw [entries, bytes_of_ofText? read, ofBytes_utf8 ascii, String.ofList_toList]

namespace Headers

/-- The entries in all fields of a name. -/
def entries (headers : Headers) (name : HeaderName) : List String :=
  (headers.values name).flatMap (·.entries)

private theorem entriesOf_forwardedChain {headers : Headers} {ip : Ip} (whole : ip.Whole)
    (visible : ∀ value ∈ headers.values .forwardedFor, value.Ascii) :
    entriesOf (headers.forwardedChain true ip) =
      ((headers.values .forwardedFor).take 1).flatMap (·.entries) ++ [ip.text] := by
  obtain ⟨alone, behindBlank⟩ := entriesOf_address whole
  cases lines : headers.values .forwardedFor with
  | nil => simp [forwardedChain, firstText?, first?, lines, alone]
  | cons first rest =>
    have ascii := visible first (by simp [lines])
    have shown : headers.firstText? .forwardedFor = some (String.ofList (ofBytes first.bytes)) := by
      have seen := HeaderValue.text?_eq_some_iff.mpr ⟨ascii, rfl⟩
      simp [firstText?, first?, lines, seen]
    have parts : headers.forwardedChain true ip =
        String.ofList (ofBytes first.bytes) ++ "," ++ (" " ++ ip.text) := by
      have comma : ", " = "," ++ " " := by decide
      simp only [forwardedChain, shown, if_true, comma, String.append_assoc]
    rw [parts, entriesOf_comma, behindBlank]
    simp [HeaderValue.entries]

/-- What becomes of the chain of addresses in the fields of a request from an address. With trust it is
extended as far as it stands in the first field, which is all of it just if no other field has an
entry; without trust the address stands alone. No other fields are touched. -/
structure ChainedBy (headers : Headers) (ip : Ip) (proto host : String) : Prop where
  trusted : ∃ value,
    (headers.setForwarded ⟨some ip, proto, host⟩ true).values .forwardedFor = [value] ∧
      value.entries =
        ((headers.values .forwardedFor).take 1).flatMap (·.entries) ++ [ip.text] ∧
      (value.entries = headers.entries .forwardedFor ++ [ip.text] ↔
        ∀ later ∈ (headers.values .forwardedFor).drop 1, later.entries = [])
  untrusted : (headers.setForwarded ⟨some ip, proto, host⟩ false).Says .forwardedFor ip.text
  others : ∀ trust, AgreeBeyond forwardedNames
    (headers.setForwarded ⟨some ip, proto, host⟩ trust) headers

theorem setForwarded_chains {headers : Headers} {ip : Ip} (whole : ip.Whole)
    (visible : ∀ value ∈ headers.values .forwardedFor, value.Ascii) (proto host : String) :
    headers.ChainedBy ip proto host := by
  constructor
  case trusted =>
    obtain ⟨value, read, only⟩ := headers.values_forwardedFor ip proto host true
    have extended := HeaderValue.entries_of_ofText? read (headers.ascii_forwardedChain true ip)
    rw [entriesOf_forwardedChain whole visible] at extended
    refine ⟨value, only, extended, ?_⟩
    have cut : headers.entries .forwardedFor =
        ((headers.values .forwardedFor).take 1).flatMap (·.entries) ++
          ((headers.values .forwardedFor).drop 1).flatMap (·.entries) := by
      rw [entries, ← List.flatMap_append, List.take_append_drop]
    rw [extended, cut, List.append_left_inj, List.self_eq_append_right, List.flatMap_eq_nil_iff]
  case untrusted =>
    obtain ⟨value, read, only⟩ := headers.values_forwardedFor ip proto host false
    rw [forwardedChain_of_untrusted] at read
    exact says_of_values read only
  case others =>
    intro trust
    exact headers.agreeBeyond_setForwarded _ trust

/-- A chain with empty entries and odd blanks in one field, and no entry in another. -/
def relayedOnce : Headers :=
  ⟨[(.forwardedFor, ⟨utf8 ", 203.0.113.7 ,,\t198.51.100.4".toList, by decide⟩),
    (.host, ⟨[104], rfl⟩), (.forwardedFor, ⟨utf8 " ,".toList, by decide⟩)]⟩

theorem setForwarded_chains_once : ∃ ip, Ip.parse "2001:db8::1".toList = some ip ∧ ip.Whole ∧
    (∀ value ∈ relayedOnce.values .forwardedFor, value.Ascii) ∧
    relayedOnce.ChainedBy ip "https" "host" := by
  have present : (Ip.parse "2001:db8::1".toList).isSome = true := by decide +kernel
  obtain ⟨ip, read⟩ := Option.isSome_iff_exists.mp present
  have whole := Ip.whole_of_parse read
  have visible : ∀ value ∈ relayedOnce.values .forwardedFor, value.Ascii := by decide +kernel
  exact ⟨ip, read, whole, visible, setForwarded_chains whole visible "https" "host"⟩

/-- A chain that two proxies have written, each in a field of its own. -/
def relayedTwice : Headers :=
  ⟨[(.forwardedFor, ⟨utf8 "203.0.113.7".toList, by decide⟩),
    (.forwardedFor, ⟨utf8 "198.51.100.4".toList, by decide⟩)]⟩

/-- What the second one has written is lost. -/
theorem relayedTwice_shortened : ∃ value,
    (∀ line ∈ relayedTwice.values .forwardedFor, line.Ascii) ∧
    (relayedTwice.setForwarded ⟨some (.v4 0x0A000001), "http", "host"⟩ true).values .forwardedFor =
      [value] ∧
    value.entries = ["203.0.113.7", "10.0.0.1"] ∧
    relayedTwice.entries .forwardedFor ++ [Ip.text (.v4 0x0A000001)] =
      ["203.0.113.7", "198.51.100.4", "10.0.0.1"] := by
  refine ⟨⟨utf8 "203.0.113.7, 10.0.0.1".toList, by decide⟩, ?_⟩
  decide +kernel

end Headers
end AuthGate
