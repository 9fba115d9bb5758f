import AuthGate.Config.Validation
import AuthGate.Proofs.Uri.Query

namespace AuthGate
open AuthGate.Path (isInside)
open PathAndQuery (isQueryChar)
open Text

namespace Host

theorem Proper.holds {host : Host} (proper : host.Proper) : HeaderValue.Holds host.text := by
  have digit {c : Char} (inside : c ∈ Ip.digitChars) : HeaderValue.isTextChar c = true :=
    HeaderValue.isTextChar_of_class (by decide +kernel) (part_of_digit inside).1
  intro c member
  cases proper with
  | name chars =>
    exact HeaderValue.isTextChar_of_class (by decide +kernel) (chars c member)
  | v4 address =>
    rcases Ip.mem_dotted member with inside | rfl
    · exact digit inside
    · decide
  | @v6 pieces _ =>
    have either : c = '[' ∨ c ∈ (Ip.compressed pieces).toList ∨ c = ']' := by
      simpa [Host.text] using member
    rcases either with rfl | inside | rfl
    · decide
    · rcases Ip.mem_compressed inside with inside | rfl
      · exact digit inside
      · decide
    · decide

end Host

namespace Url

variable {url : Url}

/-- Scheme, authority and path as they are written. -/
def front (url : Url) : String := url.scheme ++ ":" ++ url.authorityText ++ url.path

theorem authorityText_of_host {host : Host} (present : url.host = some host) :
    url.authorityText = "//" ++ (url.loginText ++ host.text ++ url.portText) := by
  simp only [authorityText, present, loginText, String.append_assoc]

theorem holds_of_isPartChar {text : String}
    (part : ∀ c ∈ text.toList, Authority.isPartChar c = true) : HeaderValue.Holds text := fun c member =>
  HeaderValue.isTextChar_of_class (by decide +kernel) (part c member)

theorem Web.holds_authorityText (web : url.Web) : HeaderValue.Holds url.authorityText := by
  obtain ⟨host, present, proper⟩ := web.host
  have login : HeaderValue.Holds url.loginText := by
    unfold loginText
    split
    · decide
    · exact (holds_of_isPartChar web.userinfo).append (by decide)
  have port : HeaderValue.Holds url.portText :=
    holds_of_isPartChar fun c member => (url.isPartChar_portText.1 c member).1
  rw [authorityText_of_host present]
  exact HeaderValue.Holds.append (by decide) ((login.append proper.holds).append port)

theorem Web.inside_authorityText (web : url.Web) : ∀ c ∈ url.authorityText.toList, isInside c = true := by
  obtain ⟨host, present, _⟩ := web.host
  intro c member
  rw [authorityText_of_host present, String.toList_append] at member
  rcases List.mem_append.mp member with slash | within
  · have same : c = '/' := by simpa using slash
    rw [same]
    rfl
  · have notEnd := web.isEnd_eq_false present c within
    simp only [Authority.isEnd, Bool.or_eq_false_iff] at notEnd
    simp [isInside, bne, notEnd]

theorem querySuffix_eq (url : Url) : url.querySuffix = Uri.queryText url.query := by
  unfold querySuffix Uri.queryText
  cases url.query <;> rfl

theorem holds_querySuffix (queried : ∀ query, url.query = some query → ∀ c ∈ query.toList,
    isQueryChar c = true) : HeaderValue.Holds url.querySuffix := by
  unfold querySuffix
  cases present : url.query with
  | none => decide
  | some query =>
    refine HeaderValue.Holds.append (by decide) fun c member => ?_
    exact HeaderValue.isTextChar_of_class (by decide) (queried query present c member)

theorem isWebScheme_of_mem {scheme : String} (page : scheme ∈ webSchemes) : IsWebScheme scheme := by
  have all : ∀ scheme ∈ webSchemes, IsWebScheme scheme := by decide
  exact all scheme page

/-- The schemes of pages hold nothing that a header value could not, or that ended a path. -/
theorem scheme_chars (scheme : url.scheme ∈ webSchemes) :
    HeaderValue.Holds url.scheme ∧ ∀ c ∈ url.scheme.toList, isInside c = true := by
  have both : url.scheme = "http" ∨ url.scheme = "https" := by simpa [webSchemes] using scheme
  rcases both with http | https
  · rw [http]
    exact ⟨by decide, List.all_eq_true.mp (by decide)⟩
  · rw [https]
    exact ⟨by decide, List.all_eq_true.mp (by decide)⟩

/-- What stands behind the authority is split into path and query, and a fragment is cut off. -/
theorem Web.splitQuery_behind (web : url.Web) :
    Uri.splitQuery url.behind = (url.path, url.query) := by
  have shape : url.behind = url.path ++ Uri.queryText url.query ++ url.fragmentSuffix := by
    rw [behind, querySuffix_eq]
  have cut : ∀ c, url.fragmentSuffix.toList.head? = some c → (c != '#') = false := by
    rcases url.fragmentSuffix_cases with none | ⟨fragment, written⟩
    · simp [none]
    · simp [written]
  have unmarked : ∀ query, url.query = some query → '#' ∉ query.toList :=
    fun query present member => absurd (web.query query present _ member) (by decide)
  rw [shape, Uri.splitQuery_append_of_head cut, Uri.splitQuery_append_iff unmarked]
  exact fun c member => PathAndQuery.isInside_of_isPathChar (web.path c member)

variable (web : url.Web) (scheme : url.scheme ∈ webSchemes)
include web scheme

theorem Web.inside_front : ∀ c ∈ url.front.toList, isInside c = true := by
  intro c member
  simp only [front, String.toList_append, List.mem_append] at member
  rcases member with ((named | colon) | authority) | path
  · exact (scheme_chars scheme).2 c named
  · have same : c = ':' := by simpa using colon
    rw [same]
    rfl
  · exact web.inside_authorityText c authority
  · exact PathAndQuery.isInside_of_isPathChar (web.path c path)

/-- A page can be written into a header value. -/
theorem Web.holds_text (whole : url.fragment = none) : HeaderValue.Holds url.text := by
  have path : HeaderValue.Holds url.path := fun c member =>
    HeaderValue.isTextChar_of_class (by decide) (web.path c member)
  have fragment : HeaderValue.Holds url.fragmentSuffix := by
    rw [fragmentSuffix, whole]
    decide
  have colon : HeaderValue.Holds ":" := by decide
  exact (((((scheme_chars scheme).1.append colon).append web.holds_authorityText).append path).append
    (holds_querySuffix web.query)).append fragment

/-- The text of a page is split into the parts that it was written from. -/
theorem Web.splitQuery_text (whole : url.fragment = none) :
    Uri.splitQuery url.text = (url.front, url.query) := by
  have shape : url.text = url.front ++ Uri.queryText url.query := by
    rw [text, fragmentSuffix, whole, querySuffix_eq, front, String.append_empty]
  rw [shape]
  refine (Uri.splitQuery_append_iff fun text present member => ?_).mpr (web.inside_front scheme)
  exact absurd (web.query text present _ member) (by decide)

end Url
end AuthGate
