import AuthGate.Proofs.Url.Host
import AuthGate.Proofs.Url.Path
import AuthGate.Url.Form

namespace AuthGate
open PathAndQuery (isPathChar isQueryChar)
open Text

/-- The parts of a URL of the web that has been read. -/
structure Url.Web (url : Url) : Prop where
  userinfo : ∀ c ∈ url.userinfo.toList, Authority.isPartChar c = true
  colons : url.userinfo.toList.count ':' ≤ 1
  host : ∃ host, url.host = some host ∧ host.Proper
  rooted : url.path.toList.head? = some '/'
  path : ∀ c ∈ url.path.toList, isPathChar c = true
  query : ∀ query, url.query = some query → ∀ c ∈ query.toList, isQueryChar c = true

namespace Url

/-- The characters of names and passwords, between which a colon stands. -/
def isUserChar (c : Char) : Bool := Authority.isPartChar c && c != ':'

theorem isUserChar_encode (text : List Char) :
    ∀ c ∈ Percent.encode Percent.inUserinfo text, isUserChar c = true :=
  Percent.encode_belongs (List.all_eq_true.mp (by decide)) (by decide)
    (fun c controls => by simp [Percent.inUserinfo, Percent.inPath, Percent.inFragment, controls])
    text

theorem userinfoText_parts (user : List Char) :
    (∀ c ∈ (userinfoText user).toList, Authority.isPartChar c = true) ∧
      (userinfoText user).toList.count ':' ≤ 1 := by
  have part {text : List Char} : ∀ c ∈ Percent.encode Percent.inUserinfo text,
      Authority.isPartChar c = true :=
    fun c member => (Bool.and_eq_true_iff.mp (isUserChar_encode text c member)).1
  have noColon (text : List Char) : (Percent.encode Percent.inUserinfo text).count ':' = 0 :=
    List.count_eq_zero_of_not_mem fun member =>
      absurd (isUserChar_encode text _ member) (by decide)
  unfold userinfoText
  simp only
  split
  · simpa [noColon] using fun c => part c
  · simpa [noColon] using fun c => part c
  · rw [String.toList_ofList]
    constructor
    · intro c member
      rcases List.mem_append.mp member with name | behind
      · exact part c name
      · rcases List.mem_cons.mp behind with rfl | secret
        · decide
        · exact part c secret
    · rw [List.count_append, List.count_cons_self, noColon, noColon]

theorem head?_hierarchicalPath (special file : Bool) (text : List Char) :
    (hierarchicalPath special file text).toList.head? = some '/' := by
  have first (segments : List (List Char)) :
      ((if segments.isEmpty then [[]] else segments).flatMap ('/' :: ·)).head? = some '/' := by
    cases segments <;> rfl
  rw [hierarchicalPath, String.toList_ofList]
  exact first _

theorem head?_pathAfterAuthority (file : Bool) (path : List Char) :
    (pathAfterAuthority true file path).toList.head? = some '/' := by
  cases path with
  | nil => simp [pathAfterAuthority]
  | cons c rest => exact head?_hierarchicalPath _ _ _

theorem isQueryChar_suffixes {special : Bool} {text : List Char} {query : String}
    (present : (suffixes special text).1 = some query) :
    ∀ c ∈ query.toList, isQueryChar c = true := by
  have encoded {set : Char → Bool} {text : List Char}
      (kept : ∀ code < 128, set (Char.ofNat code) = true ∨ isQueryChar (Char.ofNat code) = true)
      (controls : ∀ c, Percent.inControls c = true → set c = true) :
      ∀ c ∈ Percent.encode set text, isQueryChar c = true :=
    Percent.encode_belongs (List.all_eq_true.mp (by decide)) kept controls text
  unfold suffixes at present
  simp only at present
  split at present
  · cases present
    rw [String.toList_ofList]
    cases special with
    | true =>
      exact encoded (by decide) fun c controls => by
        simp [Percent.inSpecialQuery, Percent.inQuery, controls]
    | false => exact encoded (by decide) fun c controls => by simp [Percent.inQuery, controls]
  · cases present

/-- A URL of the web that has been read has proper parts. -/
theorem web_of_parse {text : String} {url : Url} (parsed : parse text = .ok url)
    (web : IsWebScheme url.scheme) : url.Web := by
  obtain ⟨rest, _, read⟩ := withAuthority_of_parse parsed web
  obtain ⟨user, name, host, path, tail, named, same⟩ := withAuthority_eq_ok read
  simp only [web.1, if_true] at named same
  obtain ⟨part, colons⟩ := userinfoText_parts user
  rw [same]
  constructor
  case userinfo => exact part
  case colons => exact colons
  case host => exact ⟨host, rfl, proper_of_specialHost named⟩
  case rooted => exact head?_pathAfterAuthority _ _
  case path => exact isPathChar_pathAfterAuthority _ _ _
  case query => exact fun query present => isQueryChar_suffixes present

end Url

namespace Form

theorem isQueryChar_encode (text : String) : ∀ c ∈ encode text, isQueryChar c = true := by
  have plain : ∀ code < 256, isPlain (UInt8.ofNat code) = true →
      isQueryChar (Char.ofNat code) = true := by decide +kernel
  have escapes : ∀ c ∈ Percent.escapeChars, isQueryChar c = true := List.all_eq_true.mp (by decide)
  intro c member
  obtain ⟨b, _, encoded⟩ := List.mem_flatMap.mp member
  unfold encodeByte at encoded
  split at encoded
  · rename_i kept
    rw [List.mem_singleton.mp encoded]
    exact plain b.toNat b.toNat_lt (by rwa [UInt8.ofNat_toNat])
  · split at encoded
    · rw [List.mem_singleton.mp encoded]
      decide
    · exact escapes c (Percent.mem_escapeByte encoded)

theorem isQueryChar_encodePair (pair : String × String) :
    ∀ c ∈ encodePair pair, isQueryChar c = true := by
  intro c member
  rcases List.mem_append.mp member with name | behind
  · exact isQueryChar_encode _ c name
  · rcases List.mem_cons.mp behind with rfl | value
    · decide
    · exact isQueryChar_encode _ c value

theorem isQueryChar_append {query : String} (pairs : List (String × String))
    (proper : ∀ c ∈ query.toList, isQueryChar c = true) :
    ∀ c ∈ (append query pairs).toList, isQueryChar c = true := by
  refine List.foldlRecOn (motive := fun query : String => ∀ c ∈ query.toList, isQueryChar c = true)
    pairs _ proper ?_
  intro query proper pair _ c member
  rw [String.toList_append, String.toList_ofList] at member
  rcases List.mem_append.mp member with before | added
  · split at before
    · exact proper c before
    · rw [String.toList_append] at before
      rcases List.mem_append.mp before with kept | mark
      · exact proper c kept
      · rw [show c = '&' by simpa using mark]
        decide
  · exact isQueryChar_encodePair pair c added

end Form

theorem Url.Web.appendPairs {url : Url} (web : url.Web) (pairs : List (String × String)) :
    (url.appendPairs pairs).Web where
  userinfo := web.userinfo
  colons := web.colons
  host := web.host
  rooted := web.rooted
  path := web.path
  query := by
    rintro query ⟨⟩
    apply Form.isQueryChar_append
    cases present : url.query with
    | none => simp
    | some query => exact web.query query present

end AuthGate
