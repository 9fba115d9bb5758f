import AuthGate.Proofs.Config.Validation
import AuthGate.Proofs.Gate.Assembly
import AuthGate.Proofs.Url.Uri

/-! From which configurations without problems a gate can be built. A configuration is checked by
the rules for URLs of the web, and only where its modes are in use; a gate is built by the rules for
URIs from all of it. -/
namespace AuthGate
open Text

namespace Url

/-- The host of the URL that a text is can be written into a URI. -/
def HasWritableHost (text : String) : Prop :=
  ∀ url host, parse text = .ok url → url.hostText? = some host → Host.Writable host

theorem host_of_hostText? {url : Url} {text : String} (named : url.hostText? = some text) :
    ∃ host, url.host = some host ∧ host.text = text ∧ host.text ≠ "" := by
  obtain ⟨shown, nonempty⟩ := Option.filter_eq_some_iff.mp named
  obtain ⟨host, present, same⟩ := Option.map_eq_some_iff.mp shown
  exact ⟨host, present, same, by simpa [same] using nonempty⟩

/-- A text is one URL with one host at most. -/
theorem forall_host_iff {text name : String} {url : Url} (read : parse text = .ok url)
    (named : url.hostText? = some name) {P : Url → String → Prop} :
    (∀ url host, parse text = .ok url → url.hostText? = some host → P url host) ↔ P url name := by
  constructor
  · exact fun all => all url name read named
  · rintro holds other host again shown
    cases read.symm.trans again
    cases named.symm.trans shown
    exact holds

end Url

private theorem Target.decides_parse {text : String} (accepted : Url.Accepted ["http"] text) :
    Decides (parse text) (Url.HasWritableHost text)
      (fun problem => ∃ cause, problem = .authority cause) := by
  obtain ⟨url, read, scheme, name, named⟩ := accepted
  obtain ⟨host, present, rfl, nonempty⟩ := Url.host_of_hostText? named
  have web : url.scheme = "http" := List.mem_singleton.mp scheme
  have authority := (Url.web_of_parse read (Url.isWebScheme_of_eq_http web)).parse_authority_iff
    present nonempty
  have writable : Url.HasWritableHost text ↔ Host.Writable host.text :=
    Url.forall_host_iff read named
  refine ((Decides.of_iff authority).congr writable.symm).carry ?_ ?_
  · intro server written
    refine ⟨⟨server, trimSlashes url.path⟩, ?_⟩
    simp only [parse, read, web, named, written, ne_eq, not_true_eq_false, if_false]
  · intro cause failed _
    refine ⟨.authority cause, ?_, cause, rfl⟩
    simp only [parse, read, web, named, failed, ne_eq, not_true_eq_false, if_false]

namespace Route

private theorem compileSubstitution_of_valid {config : RouteConfig} (valid : config.Valid) :
    ∃ substitution, compileSubstitution config.substitution = .ok substitution := by
  cases configured : config.substitution with
  | none => exact ⟨none, rfl⟩
  | some substitution =>
    obtain ⟨pattern, read⟩ := valid.substitution substitution configured
    exact ⟨some ⟨pattern, substitution.replacement⟩, by
      simp [compileSubstitution, Substitution.parse, read, bind, Except.bind, pure, Except.pure,
        Functor.map, Except.map]⟩

private theorem decides_compile {config : RouteConfig} (valid : config.Valid) (index : Nat) :
    Decides (compile index config) (Url.HasWritableHost config.server)
      (fun problem => ∃ cause,
        problem = ⟨routeField index "upstream", .target (.authority cause)⟩) := by
  obtain ⟨substitution, compiled⟩ := compileSubstitution_of_valid valid
  obtain ⟨ignored, named⟩ := mapM_of_forall valid.ignoredHeaders
  refine (Target.decides_parse valid.server).carry ?_ ?_
  · intro target read
    refine ⟨⟨config.name.getD config.pathBase, config.pathBase, substitution, target, config.auth,
      ignored⟩, ?_⟩
    simp only [compile, compiled, read, named]
  · rintro _ failed ⟨cause, rfl⟩
    refine ⟨_, ?_, cause, rfl⟩
    simp only [compile, compiled, failed]

end Route

private theorem RouteTable.decides_compileFrom {configs : List RouteConfig}
    (valid : ∀ config ∈ configs, config.Valid) (index : Nat) :
    Decides (compileFrom index configs) (∀ config ∈ configs, Url.HasWritableHost config.server)
      (fun problem => ∃ index cause,
        problem = ⟨routeField index "upstream", .target (.authority cause)⟩) := by
  induction configs generalizing index with
  | nil => exact .of_ok rfl (by simp)
  | cons config rest ih =>
    have head := Route.decides_compile (valid config List.mem_cons_self) index
    have tail := ih (fun other member => valid other (List.mem_cons_of_mem _ member)) (index + 1)
    rw [List.forall_mem_cons]
    by_cases writable : Url.HasWritableHost config.server
    · obtain ⟨route, compiled⟩ := head.succeeds writable
      by_cases others : ∀ config ∈ rest, Url.HasWritableHost config.server
      · obtain ⟨routes, listed⟩ := tail.succeeds others
        have result : compileFrom index (config :: rest) = .ok (route :: routes) := by
          simp only [compileFrom, compiled, listed]
        exact .of_ok result ⟨writable, others⟩
      · obtain ⟨problem, failed, because⟩ := tail.fails others
        have result : compileFrom index (config :: rest) = .error problem := by
          simp only [compileFrom, compiled, failed]
        exact .of_error result (fun both => others both.2) because
    · obtain ⟨problem, failed, cause, same⟩ := head.fails writable
      have result : compileFrom index (config :: rest) = .error problem := by
        simp only [compileFrom, failed]
      exact .of_error result (fun both => writable both.1) ⟨index, cause, same⟩

private theorem RouteTable.decides_compile {configs : List RouteConfig}
    (valid : ∀ config ∈ configs, config.Valid) :
    Decides (compile configs) (∀ config ∈ configs, Url.HasWritableHost config.server)
      (fun problem => ∃ index cause,
        problem = ⟨routeField index "upstream", .target (.authority cause)⟩) := by
  refine (decides_compileFrom valid 0).carry ?_ ?_
  · intro routes compiled
    exact ⟨⟨routes⟩, by simp only [compile, compiled]⟩
  · intro problem failed because
    exact ⟨problem, by simp only [compile, failed], because⟩

namespace Introspector

/-- The identity that the URL of an endpoint is marked with. -/
def markOf (auth : AuthConfig) (mode : AuthMode) : Option String :=
  if mode.isAnonymous then auth.anonymousId else none

/-- A URL with its mark. -/
def marked (url : Url) : Option String → Url
  | none => url
  | some id => url.appendPairs [(anonymousKey, id)]

theorem web_marked {url : Url} (web : url.Web) (mark : Option String) : (marked url mark).Web := by
  cases mark with
  | none => exact web
  | some id => exact web.appendPairs _

/-- The endpoint of the web that a text is can be asked with its mark: its host can be written, and
it is not too long. -/
def CanAsk (endpoint : String) (mark : Option String) : Prop :=
  ∀ url host, Url.parse endpoint = .ok url → url.hostText? = some host →
    Host.Writable host ∧ (marked url mark).text.utf8ByteSize ≤ PathAndQuery.maxLength

private theorem decides_resolve {endpoint : String} (accepted : Url.Accepted ["http"] endpoint)
    (mark : Option String) :
    Decides (resolve endpoint mark) (CanAsk endpoint mark)
      (fun fault => ∃ cause, fault = .uri cause) := by
  obtain ⟨url, read, scheme, name, named⟩ := accepted
  obtain ⟨host, present, rfl, nonempty⟩ := Url.host_of_hostText? named
  have canAsk : CanAsk endpoint mark ↔ Host.Writable host.text ∧
      (marked url mark).text.utf8ByteSize ≤ PathAndQuery.maxLength :=
    Url.forall_host_iff read named
  have web := Url.web_of_parse read (Url.isWebScheme_of_eq_http (List.mem_singleton.mp scheme))
  have same : (marked url mark).scheme = "http" ∧ (marked url mark).host = some host := by
    cases mark <;> exact ⟨List.mem_singleton.mp scheme, present⟩
  have parsed := (web_marked web mark).parse_text_iff same.1 same.2 nonempty
  refine ((Decides.of_iff parsed).congr canAsk.symm).carry ?_ ?_
  · intro uri written
    refine ⟨uri, ?_⟩
    cases mark <;> simp only [resolve, read, marked] at written ⊢ <;> rw [written]
  · intro cause failed _
    refine ⟨.uri cause, ?_, cause, rfl⟩
    cases mark <;> simp only [resolve, read, marked] at failed ⊢ <;> rw [failed]

end Introspector

namespace GateConfig

variable {config : GateConfig}

/-- The endpoint for a mode can be asked: if the mode is in use it is one of the web, and if it is
not, nothing is known of its text. -/
def EndpointResolves (config : GateConfig) (mode : AuthMode) : Prop :=
  ∀ endpoint, config.introspection.endpoint? mode = some endpoint →
    if config.uses mode then Introspector.CanAsk endpoint (Introspector.markOf config.auth mode)
    else ∃ uri, Introspector.resolve endpoint (Introspector.markOf config.auth mode) = .ok uri

/-- What a configuration without problems has to meet for a gate to be built from it. -/
structure Buildable (config : GateConfig) : Prop where
  servers : ∀ route ∈ config.routes, Url.HasWritableHost route.server
  endpoints : ∀ mode, config.EndpointResolves mode
  realm : HeaderValue.Holds config.auth.basicRealm

/-- The problems that are not found before a gate is built. -/
inductive Overlooked (config : GateConfig) : Problem → Prop where
  | server (index : Nat) (cause : UriError) :
      Overlooked config ⟨routeField index "upstream", .target (.authority cause)⟩
  | endpoint (mode : AuthMode) (cause : UriError) (used : config.uses mode = true) :
      Overlooked config ⟨"introspection." ++ mode.label, .uri cause⟩
  | unusedEndpoint (mode : AuthMode) (fault : Fault) (unused : config.uses mode = false) :
      Overlooked config ⟨"introspection." ++ mode.label, fault⟩
  | unusedRealm (unused : config.uses .m2m = false) :
      Overlooked config ⟨"auth.basic_realm", .headerValue⟩

private theorem decides_resolveFor (valid : config.Valid) {mode : AuthMode}
    (introspects : mode ≠ .none) :
    Decides (Introspector.resolveFor config.introspection config.auth mode)
      (config.EndpointResolves mode) config.Overlooked := by
  unfold EndpointResolves
  cases configured : config.introspection.endpoint? mode with
  | none =>
    have result : Introspector.resolveFor config.introspection config.auth mode = .ok none := by
      simp only [Introspector.resolveFor, configured]
    exact .of_ok result (by simp)
  | some endpoint =>
    have ok (uri : Uri)
        (resolved : Introspector.resolve endpoint (Introspector.markOf config.auth mode) = .ok uri) :
        ∃ result, Introspector.resolveFor config.introspection config.auth mode = .ok result := by
      unfold Introspector.markOf at resolved
      exact ⟨some uri, by simp only [Introspector.resolveFor, configured, resolved]⟩
    have error (fault : Fault)
        (failed : Introspector.resolve endpoint (Introspector.markOf config.auth mode) =
          .error fault) : Introspector.resolveFor config.introspection config.auth mode =
          .error ⟨"introspection." ++ mode.label, fault⟩ := by
      unfold Introspector.markOf at failed
      simp only [Introspector.resolveFor, configured, failed]
    cases used : config.uses mode with
    | true =>
      obtain ⟨other, same, accepted⟩ := valid.endpoints mode introspects used
      cases configured.symm.trans same
      refine ((Introspector.decides_resolve accepted _).carry ok ?_).congr ?_
      · rintro _ failed ⟨cause, rfl⟩
        exact ⟨_, error _ failed, .endpoint mode cause used⟩
      · simp
    | false =>
      refine ((Decides.of_iff Iff.rfl).carry ok ?_).congr ?_
      · exact fun fault failed _ => ⟨_, error fault failed, .unusedEndpoint mode fault used⟩
      · simp

private theorem decides_introspector (valid : config.Valid) :
    Decides (Introspector.ofConfig config.introspection config.auth)
      (∀ mode, config.EndpointResolves mode) config.Overlooked := by
  have each {mode : AuthMode} (introspects : mode ≠ .none) :=
    decides_resolveFor valid introspects
  refine Decides.congr ((each (by decide)).bind fun cookie _ => (each (by decide)).bind
    fun oauth2 _ => (each (by decide)).bind fun cookieAnonymous _ => (each (by decide)).bind
    fun m2m _ => .of_ok rfl trivial) ?_
  constructor
  · rintro ⟨cookie, oauth2, cookieAnonymous, m2m, _⟩ mode
    cases mode with
    | none =>
      intro endpoint configured
      cases configured
    | cookie => exact cookie
    | oauth2 => exact oauth2
    | cookieAnonymous => exact cookieAnonymous
    | m2m => exact m2m
  · exact fun all => ⟨all _, all _, all _, all _, trivial⟩

private theorem parseUrl_of_accepted (field : String) {text : Option String}
    (accepted : ∀ url, text = some url → Url.Accepted webSchemes url) :
    ∃ url, DenialPolicy.parseUrl field text = .ok url := by
  cases text with
  | none => exact ⟨none, rfl⟩
  | some text =>
    obtain ⟨url, read, _⟩ := accepted text rfl
    exact ⟨some url, by simp only [DenialPolicy.parseUrl, read]⟩

private theorem holds_challengeText_iff {realm : String} :
    HeaderValue.Holds (DenialPolicy.challengeText realm) ↔ HeaderValue.Holds realm := by
  have marks : HeaderValue.Holds "Basic realm=\"" ∧ HeaderValue.Holds "\"" := by decide
  constructor
  · intro whole c member
    exact whole c (by simp [DenialPolicy.challengeText, member])
  · exact fun held => (marks.1.append held).append marks.2

private theorem holds_of_isRealmChar {realm : String}
    (printable : ∀ c ∈ realm.toList, isRealmChar c = true) : HeaderValue.Holds realm := fun c member =>
  HeaderValue.isTextChar_of_class (by decide +kernel) (printable c member)

private theorem decides_denials (valid : config.Valid) :
    Decides (DenialPolicy.ofConfig config.auth) (HeaderValue.Holds config.auth.basicRealm)
      config.Overlooked := by
  obtain ⟨authorizeUrl, authorize⟩ :=
    parseUrl_of_accepted "auth.authorize_url" valid.authorizeUrl
  obtain ⟨deniedUrl, denied⟩ := parseUrl_of_accepted "auth.denied_url" valid.deniedUrl
  cases read : HeaderValue.ofText? (DenialPolicy.challengeText config.auth.basicRealm) with
  | some challenge =>
    have result : DenialPolicy.ofConfig config.auth = .ok ⟨authorizeUrl, config.auth.clientId,
        config.auth.scope, config.auth.prompt, deniedUrl, challenge⟩ := by
      simp [DenialPolicy.ofConfig, authorize, denied, read, bind, Except.bind, pure, Except.pure]
    have held := HeaderValue.exists_ofText?_iff.mp ⟨challenge, read⟩
    exact .of_ok result (holds_challengeText_iff.mp held)
  | none =>
    have result : DenialPolicy.ofConfig config.auth =
        .error ⟨"auth.basic_realm", .headerValue⟩ := by
      simp [DenialPolicy.ofConfig, authorize, denied, read, bind, Except.bind]
    have unheld : ¬ HeaderValue.Holds config.auth.basicRealm := fun held =>
      HeaderValue.ofText?_eq_none_iff.mp read (holds_challengeText_iff.mpr held)
    refine .of_error result unheld (.unusedRealm ?_)
    cases used : config.uses .m2m with
    | false => rfl
    | true => exact absurd (holds_of_isRealmChar (valid.realm used)) unheld

private theorem decides_assemble (valid : config.Valid) :
    Decides (Gate.assemble config) config.Buildable config.Overlooked := by
  have routes : Decides (RouteTable.compile config.routes)
      (∀ route ∈ config.routes, Url.HasWritableHost route.server) config.Overlooked := by
    refine (RouteTable.decides_compile valid.routes).weaken ?_
    rintro problem ⟨index, cause, rfl⟩
    exact .server index cause
  refine Decides.congr (routes.bind fun table _ => (decides_introspector valid).bind
    fun introspector _ => (decides_denials valid).bind fun denials _ => .of_ok rfl trivial) ?_
  constructor
  · rintro ⟨servers, endpoints, realm, _⟩
    exact ⟨servers, endpoints, realm⟩
  · exact fun buildable => ⟨buildable.servers, buildable.endpoints, buildable.realm, trivial⟩

end GateConfig

/-- From a configuration that has been checked a gate is built if what the check overlooks is right
too. If it is not, one problem is reported, and it is of a kind that the check overlooks: patterns,
names of fields and the URLs of the login service make none. -/
theorem Gate.decides_ofConfig {config : GateConfig} (checked : config.validate = .ok ()) :
    Decides (Gate.ofConfig config) config.Buildable
      fun problems => ∃ problem, problems = [problem] ∧ config.Overlooked problem := by
  have valid := GateConfig.valid_of_problems (GateConfig.problems_of_validate checked)
  refine (GateConfig.decides_assemble valid).carry ?_ ?_
  · intro gate assembled
    exact ⟨gate, by simp only [ofConfig, checked, assembled]⟩
  · intro problem failed overlooked
    exact ⟨[problem], by simp only [ofConfig, checked, failed], problem, rfl, overlooked⟩

theorem Gate.decides_ofConfig_guarded : GateConfig.guarded.validate = .ok () ∧
    GateConfig.guarded.Buildable ∧ ∃ gate, Gate.ofConfig .guarded = .ok gate := by
  have checked : GateConfig.guarded.validate = .ok () := by decide +kernel
  have server : Url.parse "http://a" = .ok ⟨"http", "", some (.name "a"), none, "/", none, none⟩ := by
    decide +kernel
  have endpoint : Url.parse "http://b" = .ok ⟨"http", "", some (.name "b"), none, "/", none, none⟩ := by
    decide +kernel
  have plain : Host.Writable "a" ∧ Host.Writable "b" := by decide
  have buildable : GateConfig.guarded.Buildable := by
    constructor
    case servers =>
      intro route member
      rw [List.mem_singleton.mp member]
      exact (Url.forall_host_iff server rfl).mpr plain.1
    case endpoints =>
      intro mode text configured
      cases mode with
      | cookie =>
        cases configured
        have used : GateConfig.guarded.uses .cookie = true := by decide
        rw [if_pos used]
        exact (Url.forall_host_iff endpoint rfl).mpr ⟨plain.2, by decide⟩
      | none | oauth2 | cookieAnonymous | m2m => cases configured
    case realm =>
      decide
  exact ⟨checked, buildable, (Gate.decides_ofConfig checked).succeeds buildable⟩

/-- A configuration with a server that has a name of the web, but none that a URI can have. -/
def GateConfig.braced : GateConfig where
  routes := [{ pathBase := "/", server := "http://a\x7bb\x7d/" }]

/-- It is checked without a problem, and no gate can be built from it. -/
theorem Gate.ofConfig_braced : GateConfig.braced.validate = .ok () ∧
    ∀ gate, Gate.ofConfig .braced ≠ .ok gate := by
  have checked : GateConfig.braced.validate = .ok () := by decide +kernel
  have refused : (Gate.ofConfig .braced).toOption.isSome = false := by decide +kernel
  refine ⟨checked, ?_⟩
  intro gate built
  rw [built] at refused
  cases refused

end AuthGate
