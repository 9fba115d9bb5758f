import AuthGate.Proofs.Gate.Destination
import AuthGate.Proofs.Url.Page
import AuthGate.Proofs.Url.Pairs

namespace AuthGate

/-- A URI has the scheme, the authority and the path of a URL. -/
structure Uri.SharesPlace (uri : Uri) (url : Url) : Prop where
  scheme : uri.scheme? = some url.scheme
  authority : ∃ authority, uri.authority? = some authority ∧ url.authorityText = "//" ++ authority
  path : uri.path = url.path

private theorem Url.Web.parts_of_parse {url : Url} {uri : Uri} (web : url.Web)
    (scheme : url.scheme = "http")
    (read : Uri.parse url.text = .ok uri) : uri.SharesPlace url ∧ uri.query? = url.query := by
  obtain ⟨host, present, _⟩ := web.host
  obtain ⟨target, rfl, parsed⟩ := web.target_of_parse scheme present read
  have parts : (target.written, target.query) = (url.path, url.query) :=
    (PathAndQuery.splitQuery_of_parse parsed).symm.trans web.splitQuery_behind
  obtain ⟨written, query⟩ := Prod.mk.inj parts
  refine ⟨?_, query⟩
  constructor
  case scheme => rw [scheme]; rfl
  case authority => exact ⟨_, rfl, Url.authorityText_of_host present⟩
  case path =>
    have shown : target.path = target.written :=
      (PathAndQuery.text_of_rooted (by rw [written]; exact web.rooted)).1
    exact shown.trans written

namespace Introspector

variable {introspection : IntrospectionConfig} {auth : AuthConfig} {introspector : Introspector}

private theorem parts_of_resolve {endpoint : String} {mark : Option String} {url : Url} {uri : Uri}
    (resolved : resolve endpoint mark = .ok uri) (read : Url.parse endpoint = .ok url)
    (scheme : url.scheme = "http") :
    uri.SharesPlace url ∧ uri.query? = (marked url mark).query := by
  obtain ⟨other, again, parsed⟩ := resolve_eq_ok resolved
  cases read.symm.trans again
  have web := Url.web_of_parse read (Url.isWebScheme_of_eq_http scheme)
  obtain ⟨place, query⟩ := (web_marked web mark).parts_of_parse (by cases mark <;> exact scheme) parsed
  refine ⟨?_, query⟩
  cases mark with
  | none => exact place
  | some id => exact ⟨place.scheme, place.authority, place.path⟩

private theorem resolve_of_configured (resolved : ofConfig introspection auth = .ok introspector)
    {mode : AuthMode} {text : String} (configured : introspection.endpoint? mode = some text) :
    ∃ uri, introspector.endpoint? mode = some uri ∧ resolve text (markOf auth mode) = .ok uri := by
  obtain ⟨uri, present⟩ := endpoint_of_configured resolved configured
  obtain ⟨other, again, reaches⟩ := reaches_of_question resolved present
  cases configured.symm.trans again
  exact ⟨uri, present, reaches.resolved⟩

/-- Where the endpoints are, and what is in their queries: in that for anonymous sessions the pair
with the anonymous identity, if there is one, and in all others nothing that has not been configured. -/
structure Marks (introspection : IntrospectionConfig) (auth : AuthConfig)
    (introspector : Introspector) : Prop where
  unconfigured : ∀ mode, introspection.endpoint? mode = none → introspector.endpoint? mode = none
  anonymous : ∀ text id, introspection.endpoint? .cookieAnonymous = some text →
    auth.anonymousId = some id →
    ∃ url uri query, Url.parse text = .ok url ∧ introspector.endpoint? .cookieAnonymous = some uri ∧
      uri.SharesPlace url ∧ uri.query? = some query ∧
      Form.pairs query = Form.pairs (url.query.getD "") ++ [("anonymous", id)]
  others : ∀ mode text, introspection.endpoint? mode = some text →
    mode ≠ .cookieAnonymous ∨ auth.anonymousId = none →
    ∃ url uri, Url.parse text = .ok url ∧ introspector.endpoint? mode = some uri ∧
      uri.SharesPlace url ∧ uri.query? = url.query

/-- The mark of anonymous sessions is where it belongs and nowhere else. -/
theorem ofConfig_marks (resolved : ofConfig introspection auth = .ok introspector)
    (web : ∀ mode text, introspection.endpoint? mode = some text →
      ∃ url, Url.parse text = .ok url ∧ url.scheme = "http") :
    Marks introspection auth introspector := by
  have parts {mode : AuthMode} {text : String}
      (configured : introspection.endpoint? mode = some text) :
      ∃ url uri, Url.parse text = .ok url ∧ introspector.endpoint? mode = some uri ∧
        uri.SharesPlace url ∧ uri.query? = (marked url (markOf auth mode)).query := by
    obtain ⟨url, read, scheme⟩ := web mode text configured
    obtain ⟨uri, present, written⟩ := resolve_of_configured resolved configured
    exact ⟨url, uri, read, present, parts_of_resolve written read scheme⟩
  constructor
  case unconfigured =>
    intro mode none
    have found := endpoint?_of_ofConfig resolved mode
    rw [resolveFor, none] at found
    exact (Except.ok.inj found).symm
  case anonymous =>
    intro text id configured known
    obtain ⟨url, uri, read, present, place, query⟩ := parts configured
    rw [markOf, known] at query
    exact ⟨url, uri, _, read, present, place, query, Form.pairs_append _ _⟩
  case others =>
    intro mode text configured unmarked
    obtain ⟨url, uri, read, present, place, query⟩ := parts configured
    have none : markOf auth mode = none := by
      rcases unmarked with other | unknown
      · simp [markOf, AuthMode.isAnonymous, other]
      · simp [markOf, unknown]
    rw [none] at query
    exact ⟨url, uri, read, present, place, query⟩

/-- Endpoints with a login, a detour, queries that are empty or end in an ampersand, and a fragment. -/
def overlapping : IntrospectionConfig where
  cookie := some "http://h?"
  oauth2 := some "http://h/o?anonymous=x"
  cookieAnonymous := some "http://u:p@H:81/a/../b?anonymous=x&#f"

theorem ofConfig_marks_overlapping : ∃ introspector,
    ofConfig overlapping { anonymousId := some "ü&=+ %#" } = .ok introspector ∧
    (∀ mode text, overlapping.endpoint? mode = some text →
      ∃ url, Url.parse text = .ok url ∧ url.scheme = "http") ∧
    Marks overlapping { anonymousId := some "ü&=+ %#" } introspector := by
  have present : (ofConfig overlapping { anonymousId := some "ü&=+ %#" }).toOption.isSome = true := by
    decide +kernel
  obtain ⟨introspector, seen⟩ := Option.isSome_iff_exists.mp present
  have resolved := ok_of_toOption seen
  have web : ∀ mode text, overlapping.endpoint? mode = some text →
      ∃ url, Url.parse text = .ok url ∧ url.scheme = "http" := by
    have reads {text : String} (seen : (Url.parse text).toOption.map (·.scheme) = some "http") :
        ∃ url, Url.parse text = .ok url ∧ url.scheme = "http" := by
      obtain ⟨url, read, scheme⟩ := Option.map_eq_some_iff.mp seen
      exact ⟨url, ok_of_toOption read, scheme⟩
    intro mode text configured
    cases mode with
    | none | m2m => cases configured
    | cookie | oauth2 | cookieAnonymous =>
      rw [← Option.some.inj configured]
      exact reads (by decide +kernel)
  exact ⟨introspector, resolved, web, ofConfig_marks resolved web⟩

end Introspector
end AuthGate
