import AuthGate.Proofs.Url.Web

namespace AuthGate
open AuthGate.Path (isInside)
open PathAndQuery (isPathChar isQueryChar)
open Text

/-- The query in what stands behind a path. -/
def PathAndQuery.queryIn : List Char → Option String
  | '?' :: rest => some (String.ofList (rest.takeWhile (· != '#')))
  | _ => none

/-- A path with a query and a fragment behind it, where they are, is a path and query. -/
theorem PathAndQuery.parse_of_parts {path behind : List Char} (rooted : path.head? = some '/')
    (written : ∀ c ∈ path, isPathChar c = true)
    (ended : ∀ c, behind.head? = some c → isInside c = false)
    (queried : ∀ rest, behind = '?' :: rest → ∀ c ∈ rest.takeWhile (· != '#'), isQueryChar c = true)
    (short : (String.ofList (path ++ behind)).utf8ByteSize ≤ maxLength) :
    parse (String.ofList (path ++ behind)) = .ok ⟨String.ofList path, queryIn behind⟩ := by
  obtain ⟨taken, dropped⟩ := splitWhile_append
    (fun c member => isInside_of_isPathChar (written c member)) ended
  have proper : startsProperly (path ++ behind) = true := by
    obtain ⟨rest, rfl⟩ := List.head?_eq_some_iff.mp rooted
    simp [startsProperly, Authority.isEnd]
  have all : path.all isPathChar = true := List.all_eq_true.mpr written
  unfold isInside at taken dropped
  unfold parse
  simp only [Nat.not_lt.mpr short, String.toList_ofList, proper, taken, dropped, all, if_false,
    Bool.not_true, Bool.false_eq_true]
  split
  · rename_i rest
    have allQueried : (rest.takeWhile (· != '#')).all isQueryChar = true :=
      List.all_eq_true.mpr (queried rest rfl)
    simp [allQueried, queryIn]
  · rename_i noQuery
    have none : queryIn behind = none := by
      unfold queryIn
      split
      · rename_i rest
        exact absurd rfl (noQuery rest)
      · rfl
    rw [none]

namespace PathAndQuery

variable {target : PathAndQuery}

theorem text_of_written (nonempty : target.written ≠ "") :
    target.path = target.written ∧ target.text = target.written ++ target.querySuffix := by
  simp [path, text, nonempty]

theorem text_of_rooted (rooted : target.written.toList.head? = some '/') :
    target.path = target.written ∧ target.text = target.written ++ target.querySuffix := by
  apply text_of_written
  intro none
  simp [none] at rooted

/-- A path and query of characters that they can hold is read as it is written. -/
theorem parse_text (rooted : target.written.toList.head? = some '/')
    (pathChars : ∀ c ∈ target.written.toList, isPathChar c = true)
    (queryChars : ∀ query, target.query = some query → ∀ c ∈ query.toList, isQueryChar c = true)
    (short : target.text.utf8ByteSize ≤ maxLength) : parse target.text = .ok target := by
  obtain ⟨written, query⟩ := target
  have parts := (text_of_rooted rooted).2
  cases query with
  | none =>
    have shape : text ⟨written, none⟩ = String.ofList (written.toList ++ []) := by
      simp [parts, querySuffix]
    rw [shape] at short ⊢
    rw [parse_of_parts rooted pathChars (by simp) (by simp) short, String.ofList_toList, queryIn]
    rintro _ ⟨⟩
  | some query =>
    have unmarked : query.toList.takeWhile (· != '#') = query.toList := by
      apply List.takeWhile_eq_self_iff.mpr
      intro c member
      rw [bne_iff_ne]
      rintro rfl
      exact absurd (queryChars query rfl _ member) (by decide)
    have shape : text ⟨written, some query⟩ =
        String.ofList (written.toList ++ '?' :: query.toList) := by
      rw [← String.toList_inj]
      simp [parts, querySuffix]
    rw [shape] at short ⊢
    rw [parse_of_parts rooted pathChars _ _ short, String.ofList_toList, queryIn, unmarked,
      String.ofList_toList]
    · rintro c ⟨⟩
      decide
    · rintro rest ⟨⟩ c member
      rw [unmarked] at member
      exact queryChars query rfl c member

end PathAndQuery

namespace Uri

theorem splitScheme_http (behind : List Char) :
    splitScheme ("http://".toList ++ behind) = .ok (some ("http", behind)) := by
  have chars : "http://".toList = ['h', 't', 't', 'p', ':', '/', '/'] := by decide
  have scheme : ('h' :: 't' :: 't' :: 'p' :: ':' :: '/' :: '/' :: behind).takeWhile isSchemeChar =
      ['h', 't', 't', 'p'] := by
    rw [List.takeWhile_cons_of_pos (by decide), List.takeWhile_cons_of_pos (by decide),
      List.takeWhile_cons_of_pos (by decide), List.takeWhile_cons_of_pos (by decide),
      List.takeWhile_cons_of_neg (by decide)]
  have long : ¬ ('h' :: 't' :: 't' :: 'p' :: ':' :: '/' :: '/' :: behind).length ≤ 3 := by
    simp only [List.length_cons]
    omega
  rw [chars]
  unfold splitScheme
  simp only [List.cons_append, List.nil_append, scheme, long, if_false]
  rfl

/-- A text with the scheme of the web is a URI if an authority and a path and query follow. -/
theorem parse_http {text : String} {behind : List Char}
    (shape : text.toList = "http://".toList ++ behind) :
    parse text =
      if text.utf8ByteSize > PathAndQuery.maxLength then .error .tooLong
      else do
        let (authority, rest) ← Authority.scan behind
        if authority.isEmpty then .error .invalidFormat
        else
          return .absolute "http" (String.ofList authority)
            (← PathAndQuery.parse (String.ofList rest)) := by
  have chars : "http://".toList = ['h', 't', 't', 'p', ':', '/', '/'] := by decide
  have scheme := splitScheme_http behind
  rw [chars] at shape scheme
  unfold parse
  simp only [shape, List.cons_append, List.nil_append] at scheme ⊢
  by_cases long : text.utf8ByteSize > PathAndQuery.maxLength
  · simp only [long, if_true]
  · simp only [long, if_false]
    generalize whole : 'h' :: 't' :: 't' :: 'p' :: ':' :: '/' :: '/' :: behind = letters at scheme ⊢
    split
    · cases whole
    · cases whole
    · cases whole
    · cases whole
    · rw [scheme]
      rfl

end Uri

namespace Url

variable {url : Url}

/-- User and password in front of the host. -/
def loginText (url : Url) : String := if url.userinfo.isEmpty then "" else url.userinfo ++ "@"

/-- The text behind the authority. -/
def behind (url : Url) : String := url.path ++ url.querySuffix ++ url.fragmentSuffix

theorem isPartChar_portText (url : Url) :
    (∀ c ∈ url.portText.toList, Authority.isPartChar c = true ∧ c ≠ '%') ∧
      url.portText.toList.count ':' ≤ 1 := by
  unfold portText
  split
  · simp
  · rename_i port _
    have digits : ∀ c ∈ (toString port).toList, c ∈ Ip.digitChars := by
      rw [Nat.toString_eq_ofList_toDigits, String.toList_ofList]
      exact Ip.mem_toDigits (by decide) (by decide)
    have noColon : (toString port).toList.count ':' = 0 :=
      List.count_eq_zero_of_not_mem fun member => (Host.part_of_digit (digits _ member)).2.1 rfl
    have shape : (":" ++ toString port).toList = ':' :: (toString port).toList := by simp
    rw [shape]
    constructor
    · intro c member
      rcases List.mem_cons.mp member with rfl | behind
      · decide
      · exact ⟨(Host.part_of_digit (digits c behind)).1, (Host.part_of_digit (digits c behind)).2.2⟩
    · rw [List.count_cons_self, noColon]

theorem Web.scan_loginText (web : url.Web) : ∃ behindAt,
    url.loginText.toList.foldlM Authority.Scan.step {} = .ok { endsWithAt := behindAt } := by
  unfold loginText
  split
  · exact ⟨false, by simp [pure, Except.pure]⟩
  · refine ⟨true, ?_⟩
    rw [String.toList_append]
    exact Authority.foldlM_userinfo web.userinfo (Nat.le_trans web.colons (by decide))

/-- A scan passes over host and port if the host can be written. -/
theorem Web.scan_host (web : url.Web) {host : Host} (present : url.host = some host)
    (nonempty : host.text ≠ "") (writable : Host.Writable host.text) (behindAt : Bool) :
    ∃ last, (host.text ++ url.portText).toList.foldlM Authority.Scan.step
        { endsWithAt := behindAt } = .ok last ∧ last.accepts = true := by
  obtain ⟨other, same, proper⟩ := web.host
  cases present.symm.trans same
  obtain ⟨ready, named, isReady⟩ := proper.ready nonempty writable behindAt
  obtain ⟨part, colons⟩ := url.isPartChar_portText
  obtain ⟨last, port, accepted⟩ := Authority.accepts_port isReady (fun c member => (part c member).1)
    colons (fun member => (part _ member).2 rfl)
  refine ⟨last, ?_, accepted⟩
  rw [String.toList_append, List.foldlM_append, named]
  exact port

theorem Web.isEnd_eq_false (web : url.Web) {host : Host} (present : url.host = some host) :
    ∀ c ∈ (url.loginText ++ host.text ++ url.portText).toList, Authority.isEnd c = false := by
  obtain ⟨other, same, proper⟩ := web.host
  cases present.symm.trans same
  intro c member
  simp only [String.toList_append, List.mem_append] at member
  rcases member with (login | named) | port
  · unfold loginText at login
    split at login
    · cases login
    · rw [String.toList_append] at login
      rcases List.mem_append.mp login with user | mark
      · exact Authority.isEnd_of_isPartChar (web.userinfo c user)
      · rw [show c = '@' by simpa using mark]
        decide
  · exact proper.isEnd_eq_false c named
  · exact Authority.isEnd_of_isPartChar (url.isPartChar_portText.1 c port).1

/-- A server can be named by host and port if the host can be written. -/
theorem Web.parse_authority_iff (web : url.Web) {host : Host} (present : url.host = some host)
    (nonempty : host.text ≠ "") :
    (∃ authority, Authority.parse (host.text ++ url.portText) = .ok authority) ↔
      Host.Writable host.text := by
  constructor
  · rintro ⟨authority, read⟩
    obtain ⟨_, scanned⟩ := Authority.parse_eq_ok read
    apply Host.writable_of_isReadable
    intro c member
    exact Authority.isReadable_of_scan scanned c (by simp [member])
  · intro writable
    obtain ⟨last, scanned, accepted⟩ := web.scan_host present nonempty writable false
    have within : ∀ c ∈ (host.text ++ url.portText).toList, Authority.isEnd c = false := by
      intro c member
      exact web.isEnd_eq_false present c (by
        simp only [String.toList_append, List.mem_append] at member ⊢
        tauto)
    have written : (host.text ++ url.portText).toList ≠ [] := by simp [nonempty]
    have nothing : ∀ c, ([] : List Char).head? = some c → Authority.isEnd c = true := by simp
    have whole := Authority.scan_eq_ok_of_foldlM within written nothing scanned accepted
    rw [List.append_nil] at whole
    refine ⟨String.ofList (host.text ++ url.portText).toList, ?_⟩
    rw [Authority.parse, whole]
    rfl

theorem Web.text_eq (scheme : url.scheme = "http") {host : Host} (present : url.host = some host) :
    url.text.toList = "http://".toList ++
      ((url.loginText ++ host.text ++ url.portText).toList ++ url.behind.toList) := by
  have marks : "http".toList ++ (":".toList ++ "//".toList) = "http://".toList := by decide
  unfold text authorityText loginText behind
  simp only [scheme, present, String.toList_append, ← marks, List.append_assoc]

theorem Web.head?_behind (web : url.Web) : url.behind.toList.head? = some '/' := by
  obtain ⟨rest, rooted⟩ := List.head?_eq_some_iff.mp web.rooted
  rw [behind, String.toList_append, String.toList_append, rooted]
  rfl

theorem fragmentSuffix_cases (url : Url) : url.fragmentSuffix.toList = [] ∨
    ∃ rest, url.fragmentSuffix.toList = '#' :: rest := by
  unfold fragmentSuffix
  cases url.fragment with
  | none => exact .inl rfl
  | some text => exact .inr ⟨text.toList, by simp⟩

theorem Web.querySuffix_cases (web : url.Web) : url.querySuffix.toList = [] ∨
    ∃ query, url.querySuffix.toList = '?' :: query ∧ ∀ c ∈ query, isQueryChar c = true := by
  unfold querySuffix
  cases present : url.query with
  | none => exact .inl rfl
  | some text => exact .inr ⟨text.toList, by simp, web.query text present⟩

/-- The path ends where the query or the fragment begins. -/
theorem Web.ended (web : url.Web) : ∀ c,
    (url.querySuffix.toList ++ url.fragmentSuffix.toList).head? = some c → isInside c = false := by
  intro c first
  rcases web.querySuffix_cases with none | ⟨query, written, _⟩
  · rcases url.fragmentSuffix_cases with none' | ⟨rest, written⟩
    · simp [none, none'] at first
    · rw [none, written] at first
      rw [← Option.some.inj first]
      decide
  · rw [written] at first
    rw [← Option.some.inj first]
    decide

theorem Web.parse_behind (web : url.Web) (short : url.behind.utf8ByteSize ≤ PathAndQuery.maxLength) :
    ∃ target, PathAndQuery.parse url.behind = .ok target := by
  have shape : url.behind =
      String.ofList (url.path.toList ++ (url.querySuffix.toList ++ url.fragmentSuffix.toList)) := by
    rw [← String.toList_inj]
    simp [behind]
  rw [shape] at short ⊢
  refine ⟨_, PathAndQuery.parse_of_parts web.rooted web.path web.ended ?_ short⟩
  intro rest same c member
  rcases web.querySuffix_cases with none | ⟨query, written, queried⟩
  · rcases url.fragmentSuffix_cases with none' | ⟨other, written⟩
    · simp [none, none'] at same
    · simp [none, written] at same
  · have unmarked : ∀ c ∈ query, (c != '#') = true := by
      intro c inside
      rw [bne_iff_ne]
      rintro rfl
      exact absurd (queried _ inside) (by decide)
    have cut : ∀ c, url.fragmentSuffix.toList.head? = some c → (c != '#') = false := by
      rcases url.fragmentSuffix_cases with none | ⟨other, written⟩
      · simp [none]
      · simp [written]
    have behind : rest = query ++ url.fragmentSuffix.toList := by
      rw [written, List.cons_append] at same
      exact (List.cons.inj same).2.symm
    rw [behind, (splitWhile_append unmarked cut).1] at member
    exact queried c member

/-- A URL of the web is a URI if its host can be written and it is not too long. -/
theorem Web.parse_text_iff (web : url.Web) (scheme : url.scheme = "http") {host : Host}
    (present : url.host = some host) (nonempty : host.text ≠ "") :
    (∃ uri, Uri.parse url.text = .ok uri) ↔
      Host.Writable host.text ∧ url.text.utf8ByteSize ≤ PathAndQuery.maxLength := by
  have text := text_eq scheme present
  have within := web.isEnd_eq_false present
  rw [Uri.parse_http text]
  constructor
  · rintro ⟨uri, read⟩
    split at read
    · cases read
    · rename_i short
      obtain ⟨⟨authority, rest⟩, scanned, _⟩ := bind_eq_ok read
      refine ⟨Host.writable_of_isReadable ?_, Nat.le_of_not_lt short⟩
      intro c member
      apply Authority.isReadable_of_scan scanned
      rw [(Authority.scan_eq_ok scanned).1]
      rw [List.takeWhile_append_of_pos fun c inside => by simp [within c inside]]
      simp [member]
  · rintro ⟨writable, short⟩
    obtain ⟨behindAt, login⟩ := web.scan_loginText
    obtain ⟨last, named, accepted⟩ := web.scan_host present nonempty writable behindAt
    have whole : (url.loginText ++ host.text ++ url.portText).toList.foldlM Authority.Scan.step {} =
        .ok last := by
      rw [String.append_assoc, String.toList_append, List.foldlM_append, login]
      exact named
    have written : (url.loginText ++ host.text ++ url.portText).toList ≠ [] := by simp [nonempty]
    have ended : ∀ c, url.behind.toList.head? = some c → Authority.isEnd c = true := by
      intro c first
      rw [← Option.some.inj (web.head?_behind.symm.trans first)]
      decide
    have scanned := Authority.scan_eq_ok_of_foldlM within written ended whole accepted
    have size : url.behind.utf8ByteSize ≤ url.text.utf8ByteSize := by
      have parts : url.text =
          "http://" ++ (url.loginText ++ host.text ++ url.portText ++ url.behind) := by
        rw [← String.toList_inj, text]
        simp only [String.toList_append]
      rw [parts, String.utf8ByteSize_append, String.utf8ByteSize_append]
      omega
    obtain ⟨target, read⟩ := web.parse_behind (Nat.le_trans size short)
    refine ⟨.absolute "http" (String.ofList (url.loginText ++ host.text ++ url.portText).toList)
      target, ?_⟩
    rw [if_neg (Nat.not_lt.mpr short), scanned]
    simp only [bind, Except.bind, List.isEmpty_iff, written, if_false, String.ofList_toList, read]
    rfl

end Url
end AuthGate
