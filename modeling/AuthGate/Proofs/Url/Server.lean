import AuthGate.Gate.Service
import AuthGate.Proofs.Uri.Printable
import AuthGate.Proofs.Url.Uri

/-! The server that an address leads to. It is the host and port in the authority, without the login
in front of them, and an address that is written and read again leads to the same one. -/
namespace AuthGate
open AuthGate.Path (isInside)
open PathAndQuery (isPathChar isQueryChar)
open Text

namespace Call

theorem hostPort_of_plain {server : String} (plain : '@' ∉ server.toList) :
    hostPort server = server := by
  have absent : ∀ c ∈ server.toList, (c == '@') = false := by
    intro c member
    rw [beq_eq_false_iff_ne]
    rintro rfl
    exact plain member
  simp [hostPort, splitFirst_of_forall absent]

theorem hostPort_login {login server : String} (plain : '@' ∉ login.toList) :
    hostPort (login ++ "@" ++ server) = server := by
  have absent : ∀ c ∈ login.toList, (c == '@') = false := by
    intro c member
    rw [beq_eq_false_iff_ne]
    rintro rfl
    exact plain member
  have shape : (login ++ "@" ++ server).toList = login.toList ++ '@' :: server.toList := by simp
  have found : splitFirst (· == '@') (login.toList ++ '@' :: server.toList) =
      (login.toList, some server.toList) := splitFirst_append absent rfl
  simp [hostPort, shape, found]

end Call

theorem Host.Proper.noAt {host : Host} (proper : host.Proper) : '@' ∉ host.text.toList := by
  have digit : '@' ∉ Ip.digitChars := by decide
  cases proper with
  | name chars => exact fun member => absurd (chars _ member) (by decide)
  | v4 address =>
    intro member
    rcases Ip.mem_dotted member with inside | dot
    · exact digit inside
    · cases dot
  | @v6 pieces whole =>
    intro member
    have inside : '@' ∈ (Ip.compressed pieces).toList := by simpa [Host.text] using member
    rcases Ip.mem_compressed inside with inside | colon
    · exact digit inside
    · cases colon

namespace Url

variable {url : Url} {host : Host}

theorem noAt_portText (url : Url) : '@' ∉ url.portText.toList := fun member =>
  absurd (url.isPartChar_portText.1 _ member).1 (by decide)

/-- The server of a URL of the web is its host and port. -/
theorem Web.hostPort_eq (web : url.Web) (present : url.host = some host) :
    Call.hostPort (url.loginText ++ host.text ++ url.portText) = host.text ++ url.portText := by
  obtain ⟨other, same, proper⟩ := web.host
  cases present.symm.trans same
  have plain : '@' ∉ (host.text ++ url.portText).toList := by
    simp [proper.noAt, url.noAt_portText]
  unfold loginText
  split
  · rw [String.empty_append, Call.hostPort_of_plain plain]
  · rw [String.append_assoc, Call.hostPort_login]
    exact fun member => absurd (web.userinfo _ member) (by decide)

/-- A URL of the web that is written and read as a URI keeps its authority, and what stands behind it
is read as path and query. -/
theorem Web.target_of_parse {uri : Uri} (web : url.Web) (scheme : url.scheme = "http")
    (present : url.host = some host) (read : Uri.parse url.text = .ok uri) :
    ∃ target, uri = .absolute "http" (url.loginText ++ host.text ++ url.portText) target ∧
      PathAndQuery.parse url.behind = .ok target := by
  have within : ∀ c ∈ (url.loginText ++ host.text ++ url.portText).toList,
      (!Authority.isEnd c) = true := by
    intro c member
    simp [web.isEnd_eq_false present c member]
  have ended : ∀ c, url.behind.toList.head? = some c → (!Authority.isEnd c) = false := by
    intro c first
    rw [← Option.some.inj (web.head?_behind.symm.trans first)]
    decide
  obtain ⟨taken, dropped⟩ := splitWhile_append within ended
  rw [Uri.parse_http (text_eq scheme present)] at read
  split at read
  · cases read
  · obtain ⟨⟨authority, rest⟩, scanned, read⟩ := bind_eq_ok read
    obtain ⟨front, behind, _⟩ := Authority.scan_eq_ok scanned
    rw [taken] at front
    rw [dropped] at behind
    subst front behind
    simp only at read
    split at read
    · cases read
    · obtain ⟨target, parsed, same⟩ := bind_eq_ok read
      rw [String.ofList_toList] at parsed
      exact ⟨target, by rw [← Except.ok.inj same, String.ofList_toList], parsed⟩

/-- It keeps its path as well. -/
theorem Web.uri_of_parse {uri : Uri} (web : url.Web) (scheme : url.scheme = "http")
    (present : url.host = some host) (read : Uri.parse url.text = .ok uri) :
    ∃ target, uri = .absolute "http" (url.loginText ++ host.text ++ url.portText) target ∧
      target.path = url.path := by
  obtain ⟨target, same, parsed⟩ := web.target_of_parse scheme present read
  refine ⟨target, same, ?_⟩
  have parts : url.behind.toList =
      url.path.toList ++ (url.querySuffix.toList ++ url.fragmentSuffix.toList) := by
    simp [Url.behind]
  have cut : url.behind.toList.takeWhile isInside = url.path.toList := by
    rw [parts]
    exact (splitWhile_append
      (fun c member => PathAndQuery.isInside_of_isPathChar (web.path c member)) web.ended).1
  have rooted : url.path.toList ≠ [] := by
    intro none
    have first := web.rooted
    rw [none] at first
    cases first
  rw [← String.toList_inj, PathAndQuery.path_of_parse parsed (cut ▸ rooted), cut]

end Url

theorem PathAndQuery.parse_again {text : String} {target : PathAndQuery}
    (read : parse text = .ok target) (rooted : target.written.toList.head? = some '/')
    (short : (target.path ++ target.querySuffix).utf8ByteSize ≤ maxLength) :
    parse (target.path ++ target.querySuffix) = .ok target := by
  obtain ⟨pathChars, queryChars⟩ := parse_eq_ok read
  obtain ⟨path, written⟩ := text_of_rooted rooted
  rw [path, ← written] at short ⊢
  exact parse_text rooted pathChars queryChars short

namespace Uri

/-- What is put together from an authority and a path and query, each of which has been read, is read
as the same URI: no path makes another authority of it. -/
theorem parse_absolute {name authority text : String} {target : PathAndQuery}
    (server : Authority.parse name = .ok authority) (read : PathAndQuery.parse text = .ok target)
    (rooted : target.written.toList.head? = some '/')
    (short : (Uri.absolute "http" authority target).text.utf8ByteSize ≤ PathAndQuery.maxLength) :
    parse (Uri.absolute "http" authority target).text = .ok (.absolute "http" authority target) := by
  obtain ⟨rfl, alone⟩ := Authority.parse_eq_ok server
  obtain ⟨taken, _, last, scanned, accepted⟩ := Authority.scan_eq_ok alone
  have within : ∀ c ∈ authority.toList, Authority.isEnd c = false := by
    intro c member
    rw [taken] at member
    simpa using List.all_eq_true.mp List.all_takeWhile c member
  have nonempty : authority.toList ≠ [] := by
    intro none
    rw [none] at alone
    cases alone
  have written : (target.path ++ target.querySuffix).toList.head? = some '/' := by
    obtain ⟨rest, chars⟩ := List.head?_eq_some_iff.mp rooted
    have present : target.written ≠ "" := by
      rintro none
      simp [none] at chars
    simp [PathAndQuery.path, present, chars]
  have ended : ∀ c, (target.path ++ target.querySuffix).toList.head? = some c →
      Authority.isEnd c = true := by
    intro c first
    rw [← Option.some.inj (written.symm.trans first)]
    decide
  have found := Authority.scan_eq_ok_of_foldlM within nonempty ended scanned accepted
  have parts : (Uri.absolute "http" authority target).text =
      "http" ++ "://" ++ authority ++ (target.path ++ target.querySuffix) := by
    simp [Uri.text, String.append_assoc]
  have shape : (Uri.absolute "http" authority target).text.toList = "http://".toList ++
      (authority.toList ++ (target.path ++ target.querySuffix).toList) := by
    have marks : "http".toList ++ "://".toList = "http://".toList := by decide
    rw [parts]
    simp only [String.toList_append, ← marks, List.append_assoc]
  have again := PathAndQuery.parse_again read rooted (by
    rw [parts, String.utf8ByteSize_append] at short
    omega)
  rw [parse_http shape, if_neg (Nat.not_lt.mpr short), found]
  simp only [bind, Except.bind, List.isEmpty_iff, nonempty, if_false, String.ofList_toList, again]
  rfl

end Uri
end AuthGate
