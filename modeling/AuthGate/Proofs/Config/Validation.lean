import AuthGate.Config.Validation

namespace AuthGate

@[simp] theorem problemIf_eq_nil {found : Bool} {problem : Problem} :
    problemIf found problem = [] ↔ found = false := by
  cases found <;> simp [problemIf]

/-- A text that is a URL with one of some schemes and a host. -/
def Url.Accepted (schemes : List String) (text : String) : Prop :=
  ∃ url, Url.parse text = .ok url ∧ url.scheme ∈ schemes ∧ ∃ host, url.hostText? = some host

theorem accepted_of_checkUrl {field text : String} {schemes : List String}
    (clean : checkUrl field text schemes = []) : Url.Accepted schemes text := by
  unfold checkUrl at clean
  split at clean
  · cases clean
  · rename_i url read
    simp only [List.append_eq_nil_iff, problemIf_eq_nil, Bool.not_eq_false'] at clean
    obtain ⟨⟨scheme, host⟩, _⟩ := clean
    refine ⟨url, read, List.contains_iff_mem.mp scheme, ?_⟩
    cases named : url.hostText? with
    | none => simp [named] at host
    | some text => exact ⟨text, rfl⟩

theorem fragment_of_checkUrl {field text : String} {schemes : List String} {url : Url}
    (clean : checkUrl field text schemes = []) (read : Url.parse text = .ok url) :
    url.fragment = none := by
  unfold checkUrl at clean
  simp only [read, List.append_eq_nil_iff, problemIf_eq_nil] at clean
  simpa using clean.2

/-- What is known of a page of the web that has been checked. -/
structure Url.IsPage (text : String) (url : Url) : Prop where
  read : Url.parse text = .ok url
  scheme : url.scheme ∈ webSchemes
  host : ∃ host, url.hostText? = some host
  fragment : url.fragment = none

theorem Url.isPage_of_checkUrl {field text : String} (clean : checkUrl field text webSchemes = []) :
    ∃ url, Url.IsPage text url := by
  obtain ⟨url, read, scheme, host⟩ := accepted_of_checkUrl clean
  exact ⟨url, read, scheme, host, fragment_of_checkUrl clean read⟩

/-- What is known of a route without problems. -/
structure RouteConfig.Valid (route : RouteConfig) : Prop where
  server : Url.Accepted ["http"] route.server
  substitution : ∀ substitution, route.substitution = some substitution →
    ∃ pattern, Pattern.parse substitution.pattern = .ok pattern
  ignoredHeaders : ∀ name ∈ route.ignoredHeaders, ∃ parsed, HeaderName.parse name = some parsed

theorem RouteConfig.valid_of_check {route : RouteConfig} {index : Nat}
    (clean : route.check index = []) : route.Valid := by
  unfold check at clean
  simp only [List.append_eq_nil_iff] at clean
  obtain ⟨⟨⟨_, server⟩, substitution⟩, ignoredHeaders⟩ := clean
  constructor
  case server =>
    exact accepted_of_checkUrl (List.append_eq_nil_iff.mp server).1
  case substitution =>
    intro configured present
    unfold checkSubstitution at substitution
    cases read : Pattern.parse configured.pattern with
    | ok pattern => exact ⟨pattern, rfl⟩
    | error cause => simp [present, read] at substitution
  case ignoredHeaders =>
    intro name member
    have named := List.flatMap_eq_nil_iff.mp ignoredHeaders name member
    rw [problemIf_eq_nil] at named
    cases read : HeaderName.parse name with
    | some parsed => exact ⟨parsed, rfl⟩
    | none => simp [read] at named

/-- The beginning of the paths of a route without problems is absolute. -/
theorem RouteConfig.absolute_of_check {route : RouteConfig} {index : Nat}
    (clean : route.check index = []) : route.pathBase.toList.head? = some '/' := by
  unfold check checkPathBase at clean
  simp only [List.append_eq_nil_iff, problemIf_eq_nil] at clean
  simpa using clean.1.1.1.1

/-- What is known of a configuration without problems. -/
structure GateConfig.Valid (config : GateConfig) : Prop where
  routes : ∀ route ∈ config.routes, route.Valid
  endpoints : ∀ mode, mode ≠ .none → config.uses mode = true →
    ∃ endpoint, config.introspection.endpoint? mode = some endpoint ∧
      Url.Accepted ["http"] endpoint
  realm : config.uses .m2m = true → ∀ c ∈ config.auth.basicRealm.toList, isRealmChar c = true
  authorizeUrl : ∀ text, config.auth.authorizeUrl = some text → Url.Accepted webSchemes text
  deniedUrl : ∀ text, config.auth.deniedUrl = some text → Url.Accepted webSchemes text
  baseUrl : ∀ text, config.external.baseUrl = some text → Url.Accepted webSchemes text

namespace GateConfig

variable {config : GateConfig}

/-- Each route has been checked. -/
theorem check_of_checkRoutes (clean : config.checkRoutes = []) :
    ∀ route ∈ config.routes, ∃ index, route.check index = [] := by
  intro route member
  obtain ⟨index, inRange, here⟩ := List.getElem_of_mem member
  have listed : (route, index) ∈ config.routes.zipIdx := by
    rw [List.mem_zipIdx_iff_getElem?, ← here]
    exact List.getElem?_eq_getElem inRange
  unfold checkRoutes at clean
  obtain ⟨_, each⟩ := List.append_eq_nil_iff.mp clean
  exact ⟨index, List.flatMap_eq_nil_iff.mp each (route, index) listed⟩

theorem accepted_of_checkEndpoints (clean : config.checkEndpoints = []) {mode : AuthMode}
    (introspects : mode ≠ .none) (used : config.uses mode = true) :
    ∃ endpoint, config.introspection.endpoint? mode = some endpoint ∧
      Url.Accepted ["http"] endpoint := by
  have listed : mode ∈ introspectingModes.filter config.uses := by
    refine List.mem_filter.mpr ⟨?_, used⟩
    cases mode with
    | none => exact absurd rfl introspects
    | cookie | oauth2 | cookieAnonymous | m2m => decide
  have checked := List.flatMap_eq_nil_iff.mp clean mode listed
  simp only at checked
  split at checked
  · rename_i endpoint configured
    exact ⟨endpoint, configured, accepted_of_checkUrl checked⟩
  · cases checked

theorem accepted_of_checkWebUrl {field : String} {url : Option String}
    (clean : checkWebUrl field url = []) :
    ∀ text, url = some text → Url.Accepted webSchemes text := by
  rintro text rfl
  exact accepted_of_checkUrl clean

theorem accepted_of_checkLogin (clean : config.checkLogin = []) :
    ∀ text, config.auth.authorizeUrl = some text → Url.Accepted webSchemes text := by
  intro text configured
  unfold checkLogin at clean
  simp only [configured, List.append_eq_nil_iff] at clean
  exact accepted_of_checkUrl clean.1

theorem checkRoutes_of_problems (clean : config.problems = []) : config.checkRoutes = [] := by
  unfold problems at clean
  simp only [List.append_eq_nil_iff] at clean
  obtain ⟨⟨⟨⟨⟨⟨⟨⟨⟨⟨_, routes⟩, _⟩, _⟩, _⟩, _⟩, _⟩, _⟩, _⟩, _⟩, _⟩ := clean
  exact routes

/-- A request has some time. -/
theorem requestSecs_pos (clean : config.problems = []) : 0 < config.timeouts.requestSecs := by
  unfold problems checkPositive at clean
  simp only [List.append_eq_nil_iff, problemIf_eq_nil] at clean
  have positive := clean.1.2
  simpa [Nat.pos_iff_ne_zero] using positive

theorem valid_of_problems (clean : config.problems = []) : config.Valid := by
  have routes := check_of_checkRoutes (checkRoutes_of_problems clean)
  unfold problems at clean
  simp only [List.append_eq_nil_iff] at clean
  obtain ⟨⟨⟨⟨⟨⟨⟨⟨⟨_, endpoints⟩, _⟩, realm⟩, login⟩, denied⟩, _⟩, base⟩, _⟩, _⟩ := clean
  constructor
  case routes =>
    intro route member
    obtain ⟨_, checked⟩ := routes route member
    exact RouteConfig.valid_of_check checked
  case endpoints => exact fun mode => accepted_of_checkEndpoints endpoints
  case realm =>
    intro used
    unfold checkRealm at realm
    simpa [used] using realm
  case authorizeUrl => exact accepted_of_checkLogin login
  case deniedUrl => exact accepted_of_checkWebUrl denied
  case baseUrl => exact accepted_of_checkWebUrl base

/-- A configuration names a page of the web that clients are sent to. -/
inductive Links (config : GateConfig) (text : String) : Prop where
  | login (configured : config.auth.authorizeUrl = some text)
  | denied (configured : config.auth.deniedUrl = some text)
  | base (configured : config.external.baseUrl = some text)

/-- Each page of a configuration without problems has been checked. -/
theorem isPage_of_problems (clean : config.problems = []) {text : String}
    (linked : config.Links text) : ∃ url, Url.IsPage text url := by
  unfold problems checkLogin checkWebUrl at clean
  simp only [List.append_eq_nil_iff] at clean
  obtain ⟨⟨⟨⟨⟨⟨_, login⟩, denied⟩, _⟩, base⟩, _⟩, _⟩ := clean
  cases linked with
  | login configured =>
    simp only [configured, List.append_eq_nil_iff] at login
    exact Url.isPage_of_checkUrl login.1
  | denied configured =>
    simp only [configured] at denied
    exact Url.isPage_of_checkUrl denied
  | base configured =>
    simp only [configured] at base
    exact Url.isPage_of_checkUrl base

theorem problems_of_validate (valid : config.validate = .ok ()) : config.problems = [] := by
  unfold validate at valid
  split at valid
  · rename_i empty
    exact List.isEmpty_iff.mp empty
  · cases valid

end GateConfig
end AuthGate
