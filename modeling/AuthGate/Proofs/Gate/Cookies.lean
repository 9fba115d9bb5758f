import AuthGate.Proofs.Gate.Ending
import AuthGate.Proofs.Gate.FailClosed
import AuthGate.Proofs.Header.Connection

/-! Cookies on their way to the client. Those of the server of a route come first, unless the route or
the server itself has them removed, and those that the introspection service grants to an anonymous
session follow, whatever becomes of the request on the server. -/
namespace AuthGate

/-- The response that comes in time from the server that a URI leads to. -/
def Services.inTime? (services : Services) (limit : Nat) (uri : Uri) : Option Response :=
  match services (Call.serverOf uri) with
  | .unreachable _ | .closes _ => none
  | .replies reply => if 1000 * reply.delay < limit then some reply.response else none

theorem Services.inTime?_eq_some_iff {services : Services} {limit : Nat} {uri : Uri}
    {response : Response} : services.inTime? limit uri = some response ↔
      ∃ reply, services (Call.serverOf uri) = .replies reply ∧ 1000 * reply.delay < limit ∧
        reply.response = response := by
  unfold inTime?
  cases service : services (Call.serverOf uri) with
  | unreachable delay => simp
  | closes delay => simp
  | replies reply => by_cases timely : 1000 * reply.delay < limit <;> simp [timely]

/-- The cookies that the response of a server has for the client. -/
def Route.cookiesFrom (route : Route) : Option Response → List HeaderValue
  | none => []
  | some response =>
    if .setCookie ∈ route.ignoredHeaders ∨ response.headers.Nominates .setCookie then []
    else response.headers.values .setCookie

/-- The cookies that go with what a request has been granted. -/
def Grant.cookies : Option Grant → List HeaderValue
  | none => []
  | some grant => grant.setCookie

namespace Route

/-- What comes back with a name is what the route lets through, and the cookies of a grant. -/
theorem values_relayHeaders_eq (route : Route) (grant : Option Grant) (headers : Headers)
    (name : HeaderName) :
    (route.relayHeaders grant headers).values name =
      (if name ∈ hopByHop ∨ headers.ListsInAscii name ∨ name ∈ route.ignoredHeaders then []
        else headers.values name) ++
      if .setCookie = name then Grant.cookies grant else [] := by
  have kept : (headers.stripHopByHop.eraseAll route.ignoredHeaders).values name =
      if name ∈ hopByHop ∨ headers.ListsInAscii name ∨ name ∈ route.ignoredHeaders then []
      else headers.values name := by
    rw [Headers.values_eraseAll, Headers.values_stripHopByHop_eq]
    by_cases ignored : name ∈ route.ignoredHeaders <;> simp [ignored]
  cases grant with
  | none => simp [relayHeaders, Grant.cookies, kept]
  | some grant => simp [relayHeaders, Headers.appendGranted, Grant.cookies, kept]

private theorem values_relayHeaders (route : Route) (grant : Option Grant) (response : Response) :
    (route.relayHeaders grant response.headers).values .setCookie =
      route.cookiesFrom (some response) ++ Grant.cookies grant := by
  have passed : HeaderName.setCookie ∉ hopByHop := by decide
  rw [values_relayHeaders_eq]
  simp only [cookiesFrom, passed, false_or, Headers.nominates_iff, if_true, or_comm]

end Route

namespace DenialPolicy

/-- The names of the fields that a denial has. -/
def fieldNames : List HeaderName := [.location, .cacheControl, .wwwAuthenticate]

variable {name : HeaderName}

private theorem values_respond (policy : DenialPolicy) (denial : Denial) (requestedUri : String)
    (other : name ∉ fieldNames) : (policy.respond denial requestedUri).headers.values name = [] := by
  simp only [fieldNames, List.mem_cons, List.not_mem_nil, or_false, not_or] at other
  unfold respond
  split
  · simp [redirect, Ne.symm other.1, Ne.symm other.2.1]
  · rfl

private theorem values_challenge (policy : DenialPolicy) (denial : Denial)
    (given : Option HeaderValue)
    (other : name ∉ fieldNames) : (policy.challenge denial given).headers.values name = [] := by
  simp only [fieldNames, List.mem_cons, List.not_mem_nil, or_false, not_or] at other
  cases denial with
  | unauthenticated => simp [challenge, Response.bare, Response.mapHeaders, Ne.symm other.2.2]
  | forbidden => rfl

end DenialPolicy

namespace Gate

/-- The response that the server of a route gives in time to a request that is sent on. -/
def serverResponse? (gate : Gate) (arrival : Arrival) (route : Route) : Option Response :=
  match gate.verdict arrival route with
  | .late | .denied _ => none
  | .cleared grant =>
    match gate.outgoing arrival route grant with
    | .error _ => none
    | .ok request => arrival.sending.inTime? gate.serverTimeout.micros request.uri

variable {config : GateConfig} {gate : Gate} {arrival : Arrival} {route : Route}

theorem values_deny {name : HeaderName} (gate : Gate) (arrival : Arrival) (route : Route)
    (outcome : IntrospectionOutcome) (denial : Denial) (other : name ∉ DenialPolicy.fieldNames) :
    (gate.deny arrival route outcome denial).headers.values name = [] := by
  unfold deny
  split
  · exact DenialPolicy.values_challenge _ _ _ other
  · exact DenialPolicy.values_respond _ _ _ other

/-- Beyond the granted cookies, a failure says nothing but what it is. -/
theorem values_failure {name : HeaderName} (grant : Option Grant) (cause : ForwardError)
    (other : .contentType ≠ name) : (failure grant cause).headers.values name =
      if .setCookie = name then Grant.cookies grant else [] := by
  cases grant <;> simp [failure, Response.gatewayFailure, Response.ofText, Response.mapHeaders,
    Headers.appendGranted, Grant.cookies, other]

/-- A request that is not denied is answered with the fields of the server, as far as they are passed
on, or with those of a failure. -/
theorem headers_settled_of_cleared {grant : Option Grant}
    (cleared : gate.verdict arrival route = .cleared grant) :
    (∃ response, gate.serverResponse? arrival route = some response ∧
      (gate.settled arrival route).headers = route.relayHeaders grant response.headers) ∨
    (gate.serverResponse? arrival route = none ∧
      ∃ cause, gate.settled arrival route = failure grant cause) := by
  cases built : gate.outgoing arrival route grant with
  | error cause =>
    right
    simp only [serverResponse?, settled, cleared, built, send_of_error built]
    exact ⟨trivial, cause, rfl⟩
  | ok request =>
    have response : gate.serverResponse? arrival route =
        arrival.sending.inTime? gate.serverTimeout.micros request.uri := by
      simp only [serverResponse?, cleared, built]
    have unanswered (none : ∀ response, (arrival.sending.call gate.serverTimeout.micros
        request).result ≠ .reply response) :
        arrival.sending.inTime? gate.serverTimeout.micros request.uri = Option.none := by
      apply Option.eq_none_iff_forall_ne_some.mpr
      intro response given
      obtain ⟨reply, replies, timely, _⟩ := Services.inTime?_eq_some_iff.mp given
      exact none _ (Services.call_reply_iff.mpr ⟨reply, replies, timely, rfl⟩)
    rw [response]
    simp only [settled, cleared, send_of_outgoing built, Gate.relayed]
    cases result : (arrival.sending.call gate.serverTimeout.micros request).result with
    | reply relayed =>
      obtain ⟨reply, replies, timely, rfl⟩ := Services.call_reply_iff.mp result
      have given := Services.inTime?_eq_some_iff.mpr ⟨reply, replies, timely, rfl⟩
      exact .inl ⟨_, given, by simp [Response.mapHeaders]⟩
    | failed => exact .inr ⟨unanswered (by simp [result]), _, rfl⟩
    | timedOut => exact .inr ⟨unanswered (by simp [result]), _, rfl⟩

private theorem values_settled_of_cleared {grant : Option Grant}
    (cleared : gate.verdict arrival route = .cleared grant) :
    (gate.settled arrival route).headers.values .setCookie =
      route.cookiesFrom (gate.serverResponse? arrival route) ++ Grant.cookies grant := by
  rcases headers_settled_of_cleared cleared with ⟨response, given, headers⟩ | ⟨none, cause, failed⟩
  · rw [headers, given, route.values_relayHeaders]
  · rw [failed, none, values_failure _ _ (by decide)]
    rfl

private theorem values_settled_of_uncleared
    (uncleared : ∀ grant, gate.verdict arrival route ≠ .cleared grant) :
    (gate.settled arrival route).headers.values .setCookie = [] ∧
      gate.serverResponse? arrival route = none := by
  cases verdict : gate.verdict arrival route with
  | late => simp [settled, serverResponse?, verdict, Response.bare]
  | denied denial =>
    have other : HeaderName.setCookie ∉ DenialPolicy.fieldNames := by decide
    simp [settled, serverResponse?, verdict, values_deny _ _ _ _ _ other]
  | cleared grant => exact absurd verdict (uncleared grant)

private theorem verdict_of_approved {question : Request} {reply : Reply}
    (built : Gate.ofConfig config = .ok gate) (guarded : route.auth ≠ .none)
    (approved : Approved config gate arrival route question reply)
    (timely : gate.isOverdue arrival route = false) :
    gate.verdict arrival route =
      .cleared (some (.ofReply route.auth reply.response.headers)) := by
  have introspects := introspects_of_ne guarded
  have limit := introspector_limit built
  have soon := approved.timely
  have inquiry := inquire_of_reply approved.posed approved.answered (by omega)
  have asked := asked_in_time timely
  rw [asked_of_introspects gate arrival introspects, inquiry] at asked
  simp [verdict, introspects, asked_of_introspects gate arrival introspects, inquiry, asked,
    Decision.ofOutcome, approved.status]

private theorem cookies_of_cleared {grant : Option Grant} (built : Gate.ofConfig config = .ok gate)
    (plain : route.auth ≠ .cookieAnonymous)
    (cleared : gate.verdict arrival route = .cleared grant) : Grant.cookies grant = [] := by
  cases grant with
  | none => rfl
  | some grant =>
    have guarded : route.auth ≠ .none := by
      intro free
      rw [verdict_of_open (by simp [AuthMode.introspects, free])] at cleared
      cases cleared
    obtain ⟨_, reply, _, _, granted⟩ := approved_of_cleared built guarded cleared
    cases granted
    simp [Grant.cookies, Grant.ofReply, AuthMode.isAnonymous, plain]

/-- What holds of the cookies that a client gets. Those of the server are there on every route, and on
a route for anonymous sessions those of the reply that has approved of the request come after them. -/
structure KeepsCookies (config : GateConfig) (gate : Gate) (route : Route) (admitted : Arrival)
    (response : Response) : Prop where
  granted : route.auth = .cookieAnonymous →
    ∀ question reply, Approved config gate admitted route question reply →
      response.headers.values .setCookie =
        route.cookiesFrom (gate.serverResponse? admitted route) ++
          reply.response.headers.values .setCookie
  denied : route.auth ≠ .none →
    (∀ question reply, ¬ Approved config gate admitted route question reply) →
    response.headers.values .setCookie = []
  plain : route.auth ≠ .cookieAnonymous →
    response.headers.values .setCookie = route.cookiesFrom (gate.serverResponse? admitted route)

/-- No cookie is lost, doubled or replaced by another one on its way to the client, unless the time of
the whole request runs out. -/
theorem exchange_keepsCookies {uri : Uri} (built : Gate.ofConfig config = .ok gate)
    (freshId : HeaderValue) (normal : arrival.request.uri.normalize = .ok uri)
    (found : gate.table.find? uri.path = some route)
    (timely : gate.elapsed (arrival.admitted freshId uri) route <
      1000 * config.timeouts.requestSecs) :
    KeepsCookies config gate route (arrival.admitted freshId uri)
      (gate.exchange freshId arrival).response := by
  have inTime : gate.isOverdue (arrival.admitted freshId uri) route = false :=
    (isLate_eq_false_iff built).mpr timely
  rw [(exchange_spec freshId normal found).2, answer_of_inTime inTime]
  generalize arrival.admitted freshId uri = admitted at inTime ⊢
  have delivered (response : Response) :
      (deliver admitted response).headers.values .setCookie = response.headers.values .setCookie :=
    values_deliver (by decide) admitted response
  constructor
  case granted =>
    intro anonymous question reply approved
    have guarded : route.auth ≠ .none := by simp [anonymous]
    rw [delivered, values_settled_of_cleared (verdict_of_approved built guarded approved inTime)]
    simp [Grant.cookies, Grant.ofReply, AuthMode.isAnonymous, anonymous]
  case denied =>
    intro guarded unapproved
    rw [delivered]
    refine (values_settled_of_uncleared ?_).1
    intro grant cleared
    obtain ⟨question, reply, approved, _⟩ := approved_of_cleared built guarded cleared
    exact unapproved question reply approved
  case plain =>
    intro plain
    rw [delivered]
    by_cases clearance : ∃ grant, gate.verdict admitted route = .cleared grant
    · obtain ⟨grant, cleared⟩ := clearance
      rw [values_settled_of_cleared cleared, cookies_of_cleared built plain cleared]
      simp
    · obtain ⟨none, unanswered⟩ :=
        values_settled_of_uncleared fun grant cleared => clearance ⟨grant, cleared⟩
      rw [none, unanswered]
      rfl

end Gate

/-- One server behind a route for anonymous sessions. -/
def GateConfig.anonymous : GateConfig where
  routes := [{ pathBase := "/", server := "http://a", auth := .cookieAnonymous }]
  auth := { anonymousId := some "x" }
  introspection := { cookieAnonymous := some "http://b" }

namespace Gate

/-- An approval that comes with two cookies. -/
def twoCookies : Reply where
  response := ⟨.ok, ⟨[(.setCookie, ⟨[53], rfl⟩), (.setCookie, ⟨[54], rfl⟩)]⟩, .empty⟩
  delay := 20

/-- A client that gets a cookie from the server of the route too, with a failure. -/
def collector : Arrival where
  ip := .v4 0
  asking _ := .replies twoCookies
  sending _ := .replies
    { response := ⟨.badGateway, ⟨[(.setCookie, ⟨[52], rfl⟩)]⟩, .broken⟩, delay := 30 }
  request := ⟨"GET", .origin ⟨"/a", none⟩, .empty, []⟩

theorem exchange_keepsCookies_collector : ∃ gate route, Gate.ofConfig .anonymous = .ok gate ∧
    gate.table.find? "/a" = some route ∧ route.auth = .cookieAnonymous ∧
    (∃ question, Approved .anonymous gate
      (collector.admitted ⟨[69], rfl⟩ (.origin ⟨"/a", none⟩)) route question twoCookies) ∧
    gate.elapsed (collector.admitted ⟨[69], rfl⟩ (.origin ⟨"/a", none⟩)) route = 50 ∧
    KeepsCookies .anonymous gate route (collector.admitted ⟨[69], rfl⟩ (.origin ⟨"/a", none⟩))
      (gate.exchange ⟨[69], rfl⟩ collector).response ∧
    ((gate.exchange ⟨[69], rfl⟩ collector).response.headers.values .setCookie).map (·.bytes) =
      [[52], [53], [54]] := by
  have seen : ((Gate.ofConfig .anonymous).toOption.bind fun gate =>
      (gate.table.find? "/a").map fun route =>
        let admitted := collector.admitted ⟨[69], rfl⟩ (.origin ⟨"/a", none⟩)
        (route.auth, (gate.question admitted route.auth).toOption.map fun question =>
          admitted.asking (Call.serverOf question.uri), gate.elapsed admitted route,
          ((gate.exchange ⟨[69], rfl⟩ collector).response.headers.values .setCookie).map
            (·.bytes))) =
      some (.cookieAnonymous, some (.replies twoCookies), 50, [[52], [53], [54]]) := by
    decide +kernel
  obtain ⟨gate, route, built, found, same⟩ := built_of_seen seen
  simp only [Prod.mk.injEq] at same
  obtain ⟨anonymous, asked, elapsed, cookies⟩ := same
  have normal : collector.request.uri.normalize = .ok (.origin ⟨"/a", none⟩) := by rfl
  have timely : gate.elapsed (collector.admitted ⟨[69], rfl⟩ (.origin ⟨"/a", none⟩)) route <
      1000 * GateConfig.anonymous.timeouts.requestSecs := by
    rw [elapsed]
    decide
  exact ⟨gate, route, built, found, anonymous, Approved.of_seen asked (by decide) rfl, elapsed,
    exchange_keepsCookies built _ normal found timely, cookies⟩

end Gate
end AuthGate
