import AuthGate.Auth.DenialPolicy
import AuthGate.Proofs.Config.Validation
import AuthGate.Proofs.Header.Fields
import AuthGate.Proofs.Url.Pairs
import AuthGate.Proofs.Url.Page

namespace AuthGate

/-- A redirect to a page with pairs behind its own ones. -/
structure Response.RedirectsTo (response : Response) (page : Url) (added : List (String × String)) :
    Prop where
  status : response.status = .found
  location : ∃ value text query, response.headers.values .location = [value] ∧
    HeaderValue.ofText? text = some value ∧
    Uri.splitQuery text = (page.scheme ++ ":" ++ page.authorityText ++ page.path, some query) ∧
    Form.pairs query = Form.pairs (page.query.getD "") ++ added

namespace DenialPolicy

variable {config : AuthConfig} {policy : DenialPolicy}

/-- A policy keeps what it is configured with, the pages as they are read. -/
structure Keeps (config : AuthConfig) (policy : DenialPolicy) : Prop where
  authorizeUrl : parseUrl "auth.authorize_url" config.authorizeUrl = .ok policy.authorizeUrl
  deniedUrl : parseUrl "auth.denied_url" config.deniedUrl = .ok policy.deniedUrl
  clientId : policy.clientId = config.clientId
  scope : policy.scope = config.scope
  prompt : policy.prompt = config.prompt

theorem keeps_of_ofConfig (built : ofConfig config = .ok policy) : Keeps config policy := by
  obtain ⟨authorizeUrl, authorize, rest⟩ := bind_eq_ok built
  obtain ⟨deniedUrl, denied, rest⟩ := bind_eq_ok rest
  split at rest
  · cases rest
  · cases rest
    exact ⟨authorize, denied, rfl, rfl, rfl⟩

/-- What has been configured as a page is that page. -/
theorem eq_some_of_parseUrl {field text : String} {page : Url} {url : Option Url}
    (parsed : parseUrl field (some text) = .ok url) (read : Url.parse text = .ok page) :
    url = some page := by
  simp only [parseUrl, read] at parsed
  exact (Except.ok.inj parsed).symm

/-- A denial that leads to a page is answered with a redirect to it, whatever is added. -/
theorem redirectsTo_of_location {denial : Denial} {requestedUri text : String} {page : Url}
    {added : List (String × String)} (page_read : Url.IsPage text page)
    (leads : policy.location? denial requestedUri = some (page.appendPairs added)) :
    (policy.respond denial requestedUri).RedirectsTo page added := by
  have web := Url.web_of_parse page_read.read (Url.isWebScheme_of_mem page_read.scheme)
  have scheme : (page.appendPairs added).scheme ∈ webSchemes := page_read.scheme
  have whole : (page.appendPairs added).fragment = none := page_read.fragment
  have holds := (web.appendPairs added).holds_text scheme whole
  obtain ⟨value, written⟩ := HeaderValue.exists_ofText?_iff.mpr holds
  have answer : policy.respond denial requestedUri = redirect value := by
    simp only [respond, leads, Option.bind_some, written]
  rw [answer]
  constructor
  case status => rfl
  case location =>
    refine ⟨value, _, _, ?_, written, (web.appendPairs added).splitQuery_text scheme whole, ?_⟩
    · simp [redirect, show HeaderName.cacheControl ≠ .location by decide]
    · exact Form.pairs_append _ _

/-- A denied client is led to the configured page, which gets the requested URI as it is. -/
theorem respond_redirects {config : GateConfig} (valid : config.validate = .ok ())
    (built : ofConfig config.auth = .ok policy) (requestedUri : String) :
    (∀ text, config.auth.authorizeUrl = some text → ∃ page, Url.parse text = .ok page ∧
      (policy.respond .unauthenticated requestedUri).RedirectsTo page
        [("response_type", "code"), ("scope", config.auth.scope),
          ("client_id", config.auth.clientId), ("prompt", config.auth.prompt),
          ("redirect_uri", requestedUri)]) ∧
    ∀ text, config.auth.deniedUrl = some text → ∃ page, Url.parse text = .ok page ∧
      (policy.respond .forbidden requestedUri).RedirectsTo page
        [("error", "access_denied"), ("what", requestedUri)] := by
  have clean := GateConfig.problems_of_validate valid
  have keeps := keeps_of_ofConfig built
  constructor
  · intro text configured
    obtain ⟨page, checked⟩ := GateConfig.isPage_of_problems clean (.login configured)
    have authorize := keeps.authorizeUrl
    rw [configured] at authorize
    refine ⟨page, checked.read, redirectsTo_of_location checked ?_⟩
    rw [location?, eq_some_of_parseUrl authorize checked.read, loginPairs, keeps.scope,
      keeps.clientId, keeps.prompt]
    rfl
  · intro text configured
    obtain ⟨page, checked⟩ := GateConfig.isPage_of_problems clean (.denied configured)
    have denied := keeps.deniedUrl
    rw [configured] at denied
    refine ⟨page, checked.read, redirectsTo_of_location checked ?_⟩
    rw [location?, eq_some_of_parseUrl denied checked.read]
    rfl

end DenialPolicy

/-- Pages with a login, a detour and queries that end in an ampersand or are empty. -/
def GateConfig.portal : GateConfig where
  routes := [{ pathBase := "/", server := "http://a" }]
  auth :=
    { authorizeUrl := some "https://u:p@H:81/a/../b?x=1&"
      clientId := "c&d="
      deniedUrl := some "http://h?" }

theorem DenialPolicy.respond_redirects_portal : ∃ policy loginPage deniedPage,
    GateConfig.portal.validate = .ok () ∧ ofConfig GateConfig.portal.auth = .ok policy ∧
    Url.parse "https://u:p@H:81/a/../b?x=1&" = .ok loginPage ∧
    (policy.respond .unauthenticated "http://h/ü?a=b&c=+%#d e").RedirectsTo loginPage
      [("response_type", "code"), ("scope", "openid cookie"), ("client_id", "c&d="),
        ("prompt", "login"), ("redirect_uri", "http://h/ü?a=b&c=+%#d e")] ∧
    Url.parse "http://h?" = .ok deniedPage ∧
    (policy.respond .forbidden "http://h/ü?a=b&c=+%#d e").RedirectsTo deniedPage
      [("error", "access_denied"), ("what", "http://h/ü?a=b&c=+%#d e")] := by
  have valid : GateConfig.portal.validate = .ok () := by decide +kernel
  have present : (ofConfig GateConfig.portal.auth).toOption.isSome = true := by decide +kernel
  obtain ⟨policy, seen⟩ := Option.isSome_iff_exists.mp present
  have built := ok_of_toOption seen
  obtain ⟨login, denied⟩ := respond_redirects valid built "http://h/ü?a=b&c=+%#d e"
  obtain ⟨loginPage, loginRead, toLogin⟩ := login _ rfl
  obtain ⟨deniedPage, deniedRead, toDenied⟩ := denied _ rfl
  exact ⟨policy, loginPage, deniedPage, valid, built, loginRead, toLogin, deniedRead, toDenied⟩

end AuthGate
