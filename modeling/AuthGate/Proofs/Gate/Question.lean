import AuthGate.Proofs.Config.Validation
import AuthGate.Proofs.Gate.Forwarded

namespace AuthGate
open Text

/-- The configured base of all addresses can be written into a header value. -/
def GateConfig.WritableBase (config : GateConfig) : Prop :=
  ∀ base, config.external.baseUrl = some base → HeaderValue.Holds base

theorem Route.auth_of_compile {index : Nat} {config : RouteConfig} {route : Route}
    (compiled : compile index config = .ok route) : route.auth = config.auth :=
  (parts_of_compile compiled).auth

/-- A gate that tells the service the requested URI, with a configured base. -/
def GateConfig.telling (base : String) : GateConfig where
  routes := [{ pathBase := "/", server := "http://a", auth := .oauth2 }]
  introspection := { oauth2 := some "http://b" }
  external := { baseUrl := some base }

namespace Introspector

/-- The endpoint of each mode is what the text for it is resolved to. -/
theorem endpoint?_of_ofConfig {introspection : IntrospectionConfig} {auth : AuthConfig}
    {introspector : Introspector} (resolved : ofConfig introspection auth = .ok introspector)
    (mode : AuthMode) : resolveFor introspection auth mode = .ok (introspector.endpoint? mode) := by
  obtain ⟨cookie, forCookie, rest⟩ := bind_eq_ok resolved
  obtain ⟨oauth2, forOauth2, rest⟩ := bind_eq_ok rest
  obtain ⟨cookieAnonymous, forCookieAnonymous, rest⟩ := bind_eq_ok rest
  obtain ⟨m2m, forM2m, rest⟩ := bind_eq_ok rest
  cases rest
  cases mode with
  | none => rfl
  | cookie => exact forCookie
  | oauth2 => exact forOauth2
  | cookieAnonymous => exact forCookieAnonymous
  | m2m => exact forM2m

theorem endpoint_of_configured {introspection : IntrospectionConfig} {auth : AuthConfig}
    {introspector : Introspector} (resolved : ofConfig introspection auth = .ok introspector)
    {mode : AuthMode} {text : String} (configured : introspection.endpoint? mode = some text) :
    ∃ uri, introspector.endpoint? mode = some uri := by
  have endpoint := endpoint?_of_ofConfig resolved mode
  unfold resolveFor at endpoint
  simp only [configured] at endpoint
  split at endpoint
  · cases endpoint
  · rename_i uri _
    exact ⟨uri, (Except.ok.inj endpoint).symm⟩

private theorem decides_question {introspector : Introspector} {mode : AuthMode} {endpoint : Uri}
    (resolved : introspector.endpoint? mode = some endpoint) (credentials : Credentials)
    (requestedUri : String) (requestId : Option HeaderValue) :
    Decides (introspector.question mode credentials requestedUri requestId)
      (mode = .oauth2 → HeaderValue.Holds requestedUri) (· = .unbuildable) := by
  unfold question questionHeaders
  simp only [resolved]
  by_cases told : mode = .oauth2
  · simp only [told, if_true]
    cases read : HeaderValue.ofText? requestedUri with
    | some value => exact .of_ok rfl fun _ => HeaderValue.exists_ofText?_iff.mp ⟨value, read⟩
    | none =>
      have unheld := HeaderValue.ofText?_eq_none_iff.mp read
      exact .of_error rfl (fun held => unheld (held trivial)) rfl
  · simp only [told, if_false]
    exact .of_ok rfl fun same => absurd same id

end Introspector

namespace Gate

variable {config : GateConfig} {gate : Gate} {arrival : Arrival} {route : Route}

/-- A route of a gate has a mode that its configuration uses. -/
theorem uses_auth {path : String} (built : Gate.ofConfig config = .ok gate)
    (found : gate.table.find? path = some route) : config.uses route.auth = true := by
  obtain ⟨index, routeConfig, member, compiled⟩ := route_compiled built found
  rw [GateConfig.uses, List.any_eq_true]
  exact ⟨routeConfig, member, by simp [Route.auth_of_compile compiled]⟩

private theorem endpoint_of_guarded {path : String} (built : Gate.ofConfig config = .ok gate)
    (found : gate.table.find? path = some route) (guarded : route.auth ≠ .none) :
    ∃ endpoint, gate.introspector.endpoint? route.auth = some endpoint := by
  have parts := parts_of_ofConfig built
  obtain ⟨text, configured, _⟩ :=
    parts.valid.endpoints route.auth guarded (uses_auth built found)
  exact Introspector.endpoint_of_configured parts.introspector configured

private theorem holds_requestedUri_iff {text : String} {uri : Uri}
    (built : Gate.ofConfig config = .ok gate)
    (freshId : HeaderValue) (received : Uri.parse text = .ok arrival.request.uri)
    (normal : arrival.request.uri.normalize = .ok uri) :
    HeaderValue.Holds (gate.requestedUri (arrival.admitted freshId uri).request) ↔
      config.WritableBase := by
  obtain ⟨authority, path, target, read, parts⟩ := Uri.normalize_eq_ok normal
  have address := (parts_of_ofConfig built).address
  have scheme : HeaderValue.Holds gate.address.defaultScheme := by
    rw [address]
    exact config.holds_scheme
  have named : ∀ name, uri.authority? = some name → HeaderValue.Holds name := by
    intro name present
    exact Uri.holds_authority received (authority.symm.trans present)
  have written : ∀ target, uri.target? = some target → HeaderValue.Holds target.text := by
    intro other present
    rw [parts] at present
    cases present
    exact PathAndQuery.holds_text read
  have base : gate.address.base = config.external.baseUrl.map PublicAddress.trimSlashes := by
    rw [address]
    rfl
  have admitted : (arrival.admitted freshId uri).request.uri = uri := rfl
  rw [requestedUri, admitted, PublicAddress.holds_requestedUri_iff _ scheme named written, base]
  constructor
  · intro trimmed whole configured
    exact PublicAddress.holds_trimSlashes_iff.mp (trimmed _ (by rw [configured]; rfl))
  · intro writable trimmed configured
    obtain ⟨whole, present, rfl⟩ := Option.map_eq_some_iff.mp configured
    exact PublicAddress.holds_trimSlashes_iff.mpr (writable whole present)

private theorem heard_eq_error {report : CallReport} {cause : IntrospectionError}
    (failed : gate.heard report = .error cause) :
    cause = .transport ∨ cause = .timedOut gate.introspector.timeout := by
  unfold heard at failed
  split at failed
  · cases failed
  · exact .inl (Except.error.inj failed).symm
  · exact .inr (Except.error.inj failed).symm

/-- What holds of the question about a request on a route with authorization. The service is not
asked where the requested URI has to be told and cannot be; else a request is denied only upon a
reply of the service, or because none has come. -/
structure Asks (config : GateConfig) (gate : Gate) (route : Route) (freshId : HeaderValue)
    (uri : Uri) (arrival : Arrival) : Prop where
  posed : (∃ question, gate.question (arrival.admitted freshId uri) route.auth = .ok question) ↔
    (route.auth = .oauth2 → config.WritableBase)
  unposed : ∀ cause, gate.question (arrival.admitted freshId uri) route.auth = .error cause →
    cause = .unbuildable
  unanswered : (route.auth = .oauth2 → config.WritableBase) →
    ∀ cause, (gate.inquire (arrival.admitted freshId uri) route.auth).1 = .error cause →
      cause = .transport ∨ cause = .timedOut (.ofMillis config.auth.timeoutMs)
  unasked : route.auth = .oauth2 → ¬ config.WritableBase →
    (gate.inquire (arrival.admitted freshId uri) route.auth).1 = .error .unbuildable ∧
      (gate.exchange freshId arrival).calls = []

theorem exchange_asks {text : String} {uri : Uri} (built : Gate.ofConfig config = .ok gate)
    (freshId : HeaderValue) (received : Uri.parse text = .ok arrival.request.uri)
    (normal : arrival.request.uri.normalize = .ok uri)
    (found : gate.table.find? uri.path = some route) (guarded : route.auth ≠ .none) :
    Asks config gate route freshId uri arrival := by
  obtain ⟨endpoint, resolved⟩ := endpoint_of_guarded built found guarded
  have writable := holds_requestedUri_iff built freshId received normal
  have decided : Decides (gate.question (arrival.admitted freshId uri) route.auth)
      (route.auth = .oauth2 → config.WritableBase) (· = .unbuildable) := by
    rw [← writable]
    exact Introspector.decides_question resolved _ _ _
  constructor
  case posed => exact decided.succeeds_iff
  case unposed => exact fun _ failed => decided.reason_of_error failed
  case unanswered =>
    intro told cause failed
    obtain ⟨question, posed⟩ := decided.succeeds told
    rw [inquire_of_question posed] at failed
    rw [← introspector_timeout built]
    exact heard_eq_error failed
  case unasked =>
    intro mode unwritable
    obtain ⟨_, failed, rfl⟩ := decided.fails fun told => unwritable (told mode)
    have outcome := inquire_of_error failed
    have introspects := introspects_of_ne guarded
    have asked := asked_of_introspects gate (arrival.admitted freshId uri) introspects
    refine ⟨by rw [outcome], ?_⟩
    rw [(exchange_spec freshId normal found).1, asked, outcome]
    apply List.eq_nil_iff_forall_not_mem.mpr
    intro call member
    obtain ⟨grant, _, cleared, _⟩ := mem_sent (by simpa using member)
    obtain ⟨reply, answered, _⟩ := verdict_cleared introspects cleared
    rw [outcome] at answered
    cases answered

/-- A request that has arrived at a gate. -/
def newcomer : Arrival where
  ip := .v4 0
  asking _ := .replies { response := .bare .ok }
  sending _ := .replies { response := .bare .ok }
  request := ⟨"GET", .origin ⟨"/a", none⟩, .empty, []⟩

theorem exchange_asks_newcomer : ∃ gate route, Gate.ofConfig (.telling "https://h") = .ok gate ∧
    gate.table.find? "/a" = some route ∧ route.auth ≠ .none ∧
    (GateConfig.telling "https://h").WritableBase ∧
    Uri.parse "/a" = .ok newcomer.request.uri ∧
    newcomer.request.uri.normalize = .ok (.origin ⟨"/a", none⟩) ∧
    Asks (.telling "https://h") gate route ⟨[69], rfl⟩ (.origin ⟨"/a", none⟩) newcomer := by
  have seen : ((Gate.ofConfig (.telling "https://h")).toOption.bind fun gate =>
      (gate.table.find? "/a").map fun route => route.auth) = some .oauth2 := by decide +kernel
  obtain ⟨gate, route, built, found, auth⟩ := built_of_seen seen
  have guarded : route.auth ≠ .none := by simp [auth]
  have writable : (GateConfig.telling "https://h").WritableBase := by
    rintro base ⟨⟩
    decide
  have received : Uri.parse "/a" = .ok newcomer.request.uri := by decide +kernel
  have normal : newcomer.request.uri.normalize = .ok (.origin ⟨"/a", none⟩) := by decide +kernel
  exact ⟨gate, route, built, found, guarded, writable, received, normal,
    exchange_asks built _ received normal found guarded⟩

/-- A URL may end in a line break, a header value may not: a gate with such a base can be built, and
cannot ask. -/
theorem question_unbuildable : ∃ gate route,
    Gate.ofConfig (.telling "https://h\n") = .ok gate ∧ gate.table.find? "/a" = some route ∧
      route.auth ≠ .none ∧ Uri.parse "/a" = .ok newcomer.request.uri ∧
      newcomer.request.uri.normalize = .ok (.origin ⟨"/a", none⟩) ∧
      gate.question (newcomer.admitted ⟨[69], rfl⟩ (.origin ⟨"/a", none⟩)) route.auth =
        .error .unbuildable := by
  have seen : ((Gate.ofConfig (.telling "https://h\n")).toOption.bind fun gate =>
      (gate.table.find? "/a").map fun route => (route.auth, gate.question
        (newcomer.admitted ⟨[69], rfl⟩ (.origin ⟨"/a", none⟩)) route.auth)) =
      some (.oauth2, .error .unbuildable) := by decide +kernel
  obtain ⟨gate, route, built, found, same⟩ := built_of_seen seen
  obtain ⟨auth, failed⟩ := Prod.mk.inj same
  exact ⟨gate, route, built, found, by simp [auth], by decide +kernel, by decide +kernel, failed⟩

end Gate
end AuthGate
