import AuthGate.Gate.Session
import AuthGate.Proofs.Except
import AuthGate.Proofs.Header.Fields

/-! The passage of one request through a gate. The pipeline is told once, by the verdict on a
request, the calls made before and after it, and the answer; the properties of gates follow from
these and not from the branches of the pipeline. -/
namespace AuthGate

@[simp] theorem Call.server_ofRequest (request : Request) :
    (Call.ofRequest request).server = Call.serverOf request.uri := rfl

namespace Services

variable {services : Services} {limit : Nat} {request : Request}

/-- A server receives a request at most once. -/
theorem call_received (services : Services) (limit : Nat) (request : Request) :
    (services.call limit request).received = [] ∨
      (services.call limit request).received = [.ofRequest request] := by
  simp only [call]
  cases services (Call.ofRequest request).server with
  | unreachable delay => exact Or.inl rfl
  | closes delay => exact Or.inr rfl
  | replies reply => exact Or.inr rfl

/-- A response that comes in time is that of the server. -/
theorem call_reply_iff {response : Response} :
    (services.call limit request).result = .reply response ↔
      ∃ reply, services (Call.serverOf request.uri) = .replies reply ∧
        1000 * reply.delay < limit ∧ reply.response.received request.method = response := by
  cases service : services (Call.serverOf request.uri) with
  | unreachable delay | closes delay =>
    by_cases late : limit ≤ 1000 * delay <;>
      simp [call, service, Service.resultWithin, Service.delay, Service.result, late]
  | replies reply =>
    by_cases late : limit ≤ 1000 * reply.delay
    · simp [call, service, Service.resultWithin, Service.delay, late, Nat.not_lt.mpr late]
    · simp [call, service, Service.resultWithin, Service.delay, Service.result, late,
        Nat.lt_of_not_le late]

theorem call_received_of_reply {reply : Reply} (limit : Nat)
    (replies : services (Call.serverOf request.uri) = .replies reply) :
    (services.call limit request).received = [.ofRequest request] := by
  simp [call, replies, Service.received]

/-- What comes of a call depends on where it goes and on its method alone. -/
theorem call_congr (services : Services) (limit : Nat) {other : Request}
    (uri : request.uri = other.uri) (method : request.method = other.method) :
    (services.call limit request).result = (services.call limit other).result ∧
      (services.call limit request).drained = (services.call limit other).drained := by
  simp [call, uri, method]

end Services

/-- Only an absolute path has a normal form. -/
theorem Path.startsWith_of_normalize {path normal : String}
    (accepted : normalize path = .ok normal) : startsWith path "/" = true := by
  unfold normalize at accepted
  split at accepted
  · rename_i rest chars
    simp [startsWith, chars]
  · cases accepted

theorem Uri.path_of_normalize {uri normal : Uri} (normalized : uri.normalize = .ok normal) :
    ∃ path, Path.normalize uri.path = .ok path := by
  cases path : Path.normalize uri.path with
  | error cause => simp [Uri.normalize, path, bind, Except.bind] at normalized
  | ok normal => exact ⟨normal, rfl⟩

theorem Uri.startsWith_of_normalize {uri normal : Uri} (normalized : uri.normalize = .ok normal) :
    Path.startsWith uri.path "/" = true := by
  obtain ⟨path, accepted⟩ := Uri.path_of_normalize normalized
  exact Path.startsWith_of_normalize accepted

namespace Response

@[simp] theorem received_status (response : Response) (method : String) :
    (response.received method).status = response.status := by
  unfold received
  split <;> rfl

@[simp] theorem received_headers (response : Response) (method : String) :
    (response.received method).headers = response.headers := by
  unfold received
  split <;> rfl

end Response

@[simp] theorem Call.named_uri (request : Request) : (Call.named request).uri = request.uri := by
  unfold Call.named
  split <;> rfl

/-- The client library names the server and leaves the other fields alone. -/
theorem Call.named_values (request : Request) {name : HeaderName} (other : .host ≠ name) :
    (Call.named request).headers.values name = request.headers.values name := by
  unfold Call.named
  split
  · rfl
  · rw [request.headers.values_insertText other]

/-- A request that is sent on goes to the server of its route, with the fields for it. -/
theorem Route.forwardRequest_ok {route : Route} {trust : Bool} {client : Client}
    {grant : Option Grant} {request outgoing : Request}
    (built : route.forwardRequest trust client grant request = .ok outgoing) :
    ∃ target host,
      (PathAndQuery.parse (route.target.pathAndQuery (route.substitute request.uri.path)
          request.uri.query?) = .ok target ∧
        HeaderValue.ofText? route.target.authority = some host) ∧
      outgoing = { request with
        uri := .absolute "http" route.target.authority target
        headers := route.forwardHeaders trust client grant host request.headers } := by
  unfold Route.forwardRequest at built
  cases address : route.target.uriFor (route.substitute request.uri.path) request.uri.query? with
  | error cause => simp [address] at built
  | ok uri =>
    cases named : HeaderValue.ofText? route.target.authority with
    | none => simp [address, named] at built
    | some host =>
      obtain ⟨target, parsed, rest⟩ := bind_eq_ok address
      have absolute : uri = .absolute "http" route.target.authority target :=
        (Except.ok.inj rest).symm
      simp only [address, named] at built
      cases built
      exact ⟨target, host, ⟨parsed, rfl⟩, by rw [absolute]⟩

/-- Only a reply with status 200 lets a request through. -/
theorem Decision.ofOutcome_allow {mode : AuthMode} {outcome : IntrospectionOutcome} {grant : Grant}
    (allowed : Decision.ofOutcome mode outcome = .allow grant) :
    ∃ reply, outcome = .ok reply ∧ reply.status = .ok ∧ grant = .ofReply mode reply.headers := by
  cases outcome with
  | error cause => cases allowed
  | ok reply =>
    by_cases status : reply.status = .ok
    · have same : Grant.ofReply mode reply.headers = grant := by
        simpa [Decision.ofOutcome, status] using allowed
      exact ⟨reply, rfl, status, same.symm⟩
    · rw [Decision.ofOutcome, if_neg status] at allowed
      split at allowed <;> cases allowed

/-- What is decided about a request before it may be sent on. -/
inductive Verdict where
  | late
  | denied (denial : Denial)
  | cleared (grant : Option Grant)
  deriving DecidableEq, Repr

/-- The arrival that a route gets: with an identity, and with its path in normal form. -/
def Arrival.admitted (arrival : Arrival) (freshId : HeaderValue) (uri : Uri) : Arrival :=
  { arrival with request := { Gate.identify freshId arrival.request with uri := uri } }

namespace Gate

/-- The question about a request for the introspection service. -/
def question (gate : Gate) (arrival : Arrival) (mode : AuthMode) :
    Except IntrospectionError Request :=
  gate.introspector.question mode (.ofHeaders arrival.request.headers)
    (gate.requestedUri arrival.request) arrival.requestId?

/-- What the service has said when it is called. -/
def heard (gate : Gate) (report : CallReport) : IntrospectionOutcome :=
  match report.result with
  | .reply response => .ok ⟨response.status, response.headers⟩
  | .failed => .error .transport
  | .timedOut => .error (.timedOut gate.introspector.timeout)

/-- The request as it is sent on. -/
def outgoing (gate : Gate) (arrival : Arrival) (route : Route) (grant : Option Grant) :
    Except ForwardError Request :=
  route.forwardRequest gate.trustForwarded
    (gate.address.client (some arrival.ip) arrival.request.headers arrival.request.uri) grant
    arrival.request

/-- What comes back when the server of a route is called. -/
def relayed (gate : Gate) (route : Route) (grant : Option Grant) (report : CallReport) :
    Except ForwardError Response :=
  match report.result with
  | .reply response => .ok (response.mapHeaders (route.relayHeaders grant))
  | .failed => .error .transport
  | .timedOut => .error (.timedOut gate.serverTimeout)

/-- What has come about when the introspection service has been asked. -/
def asked (gate : Gate) (arrival : Arrival) (route : Route) : Progress :=
  if route.auth.introspects then (gate.inquire arrival route.auth).2 else {}

def verdict (gate : Gate) (arrival : Arrival) (route : Route) : Verdict :=
  if route.auth.introspects then
    if gate.isLate (gate.asked arrival route).elapsed then .late
    else
      match Decision.ofOutcome route.auth (gate.inquire arrival route.auth).1 with
      | .deny denial => .denied denial
      | .allow grant => .cleared (some grant)
  else .cleared none

/-- The calls to the server of a route. -/
def sent (gate : Gate) (arrival : Arrival) (route : Route) : List Call :=
  match gate.verdict arrival route with
  | .cleared grant => (gate.send arrival route grant).2.calls
  | .late | .denied _ => []

/-- The response to a request that has been sent on. -/
def outcome (gate : Gate) (arrival : Arrival) (route : Route) (grant : Option Grant) : Response :=
  let (outcome, sent) := gate.send arrival route grant
  if gate.isLate ((gate.asked arrival route).elapsed + sent.elapsed) then .bare .requestTimeout
  else
    match outcome with
    | .ok response => response
    | .error cause => failure grant cause

/-- The response of a route before it is delivered. -/
def answer (gate : Gate) (arrival : Arrival) (route : Route) : Response :=
  match gate.verdict arrival route with
  | .late => .bare .requestTimeout
  | .denied denial => gate.deny arrival route (gate.inquire arrival route.auth).1 denial
  | .cleared grant => gate.outcome arrival route grant

/-- What a client receives of a response. -/
def deliver (arrival : Arrival) (response : Response) : Response :=
  (echoId arrival.requestId? response).received arrival.request.method

@[simp] theorem identify_uri (freshId : HeaderValue) (request : Request) :
    (identify freshId request).uri = request.uri := by
  unfold identify
  split <;> rfl

theorem deliver_status (arrival : Arrival) (response : Response) :
    (deliver arrival response).status = response.status := by
  unfold deliver echoId
  split <;> simp [Response.mapHeaders]

theorem values_deliver {name : HeaderName} (other : .requestId ≠ name) (arrival : Arrival)
    (response : Response) :
    (deliver arrival response).headers.values name = response.headers.values name := by
  unfold deliver echoId
  split <;> simp [Response.mapHeaders, other]

theorem forward_calls (gate : Gate) (arrival : Arrival) (route : Route) (grant : Option Grant)
    (progress : Progress) :
    (gate.forward arrival route grant progress).calls =
      progress.calls ++ (gate.send arrival route grant).2.calls := by
  rcases sending : gate.send arrival route grant with ⟨outcome, sent⟩
  by_cases late : gate.isLate (progress.elapsed + sent.elapsed) = true
  · simp [forward, sending, late, Progress.finish]
  · cases outcome <;> simp [forward, sending, late, complete]

theorem forward_response (gate : Gate) (arrival : Arrival) (route : Route) (grant : Option Grant)
    (progress : Progress) (elapsed : progress.elapsed = (gate.asked arrival route).elapsed) :
    (gate.forward arrival route grant progress).response = gate.outcome arrival route grant := by
  rcases sending : gate.send arrival route grant with ⟨result, sent⟩
  by_cases late : gate.isLate ((gate.asked arrival route).elapsed + sent.elapsed) = true
  · simp [forward, outcome, sending, elapsed, late, Progress.finish]
  · cases result <;> simp [forward, outcome, sending, elapsed, late, complete]

section Passage

variable {gate : Gate} {arrival : Arrival} {route : Route}

theorem inquire_of_question {mode : AuthMode} {question : Request}
    (posed : gate.question arrival mode = .ok question) :
    gate.inquire arrival mode =
      let report := arrival.asking.call gate.introspector.timeout.micros question
      (gate.heard report, { calls := report.received, elapsed := report.drained }) := by
  unfold Gate.question at posed
  simp only [inquire, posed]
  rfl

theorem inquire_of_error {mode : AuthMode} {cause : IntrospectionError}
    (unposed : gate.question arrival mode = .error cause) :
    gate.inquire arrival mode = (.error cause, {}) := by
  unfold Gate.question at unposed
  simp only [inquire, unposed]

theorem send_of_outgoing {grant : Option Grant} {request : Request}
    (built : gate.outgoing arrival route grant = .ok request) :
    gate.send arrival route grant =
      let report := arrival.sending.call gate.serverTimeout.micros request
      (gate.relayed route grant report,
        { calls := report.received, elapsed := report.elapsed }) := by
  unfold outgoing at built
  simp only [send, built]
  rfl

theorem send_of_error {grant : Option Grant} {cause : ForwardError}
    (unbuilt : gate.outgoing arrival route grant = .error cause) :
    gate.send arrival route grant = (.error cause, {}) := by
  unfold outgoing at unbuilt
  simp only [send, unbuilt]

/-- A request that is sent on goes to the server of its route. -/
theorem server_of_outgoing {grant : Option Grant} {request : Request}
    (built : gate.outgoing arrival route grant = .ok request) :
    Call.serverOf request.uri = Call.hostPort route.target.authority := by
  obtain ⟨target, host, _, sent⟩ := Route.forwardRequest_ok built
  rw [sent]
  rfl

/-- The service is asked at most once, and with the question about the request. -/
theorem inquire_calls (gate : Gate) (arrival : Arrival) (mode : AuthMode) :
    (gate.inquire arrival mode).2.calls = [] ∨
      ∃ question, gate.question arrival mode = .ok question ∧
        (gate.inquire arrival mode).2.calls = [.ofRequest question] := by
  cases posed : gate.question arrival mode with
  | error cause => exact Or.inl (by rw [inquire_of_error posed])
  | ok question =>
    rw [inquire_of_question posed]
    rcases arrival.asking.call_received gate.introspector.timeout.micros question with none | once
    · exact Or.inl none
    · exact Or.inr ⟨question, rfl, once⟩

/-- Only a response in time counts as a reply. -/
theorem inquire_ok {mode : AuthMode} {reply : IntrospectionReply}
    (answered : (gate.inquire arrival mode).1 = .ok reply) :
    ∃ question given, gate.question arrival mode = .ok question ∧
      arrival.asking (Call.serverOf question.uri) = .replies given ∧
      1000 * given.delay < gate.introspector.timeout.micros ∧
      reply = ⟨given.response.status, given.response.headers⟩ ∧
      (gate.inquire arrival mode).2.calls = [.ofRequest question] := by
  cases posed : gate.question arrival mode with
  | error cause => simp [inquire_of_error posed] at answered
  | ok question =>
    rw [inquire_of_question posed] at answered ⊢
    cases result : (arrival.asking.call gate.introspector.timeout.micros question).result with
    | failed => simp [heard, result] at answered
    | timedOut => simp [heard, result] at answered
    | reply response =>
      obtain ⟨given, replies, timely, received⟩ := Services.call_reply_iff.mp result
      have same : reply = ⟨response.status, response.headers⟩ := by
        simpa [heard, result] using answered.symm
      have kept : response.status = given.response.status ∧
          response.headers = given.response.headers := by
        rw [← received]
        exact ⟨given.response.received_status _, given.response.received_headers _⟩
      exact ⟨question, given, rfl, replies, timely, by rw [same, kept.1, kept.2],
        Services.call_received_of_reply gate.introspector.timeout.micros replies⟩

/-- A response in time is what the service has said, and its body is read as long as there is time. -/
theorem inquire_of_reply {mode : AuthMode} {question : Request} {reply : Reply}
    (posed : gate.question arrival mode = .ok question)
    (given : arrival.asking (Call.serverOf question.uri) = .replies reply)
    (timely : 1000 * reply.delay < gate.introspector.timeout.micros) :
    gate.inquire arrival mode = (.ok ⟨reply.response.status, reply.response.headers⟩,
      { calls := [.ofRequest question]
        elapsed := Services.waited gate.introspector.timeout.micros
          (reply.delay + reply.drain) }) := by
  have report : (arrival.asking.call gate.introspector.timeout.micros question).result =
      .reply (reply.response.received question.method) :=
    Services.call_reply_iff.mpr ⟨reply, given, timely, rfl⟩
  have answer : gate.heard (arrival.asking.call gate.introspector.timeout.micros question) =
      .ok ⟨reply.response.status, reply.response.headers⟩ := by
    simp [heard, report]
  rw [inquire_of_question posed]
  simp only [answer]
  simp [Services.call, given, Service.received, Service.delay, Service.drain]

/-- A request is sent on at most once, and as it is built. -/
theorem send_calls (gate : Gate) (arrival : Arrival) (route : Route) (grant : Option Grant) :
    (gate.send arrival route grant).2.calls = [] ∨
      ∃ request, gate.outgoing arrival route grant = .ok request ∧
        (gate.send arrival route grant).2.calls = [.ofRequest request] := by
  cases built : gate.outgoing arrival route grant with
  | error cause => exact Or.inl (by rw [send_of_error built])
  | ok request =>
    rw [send_of_outgoing built]
    rcases arrival.sending.call_received gate.serverTimeout.micros request with none | once
    · exact Or.inl none
    · exact Or.inr ⟨request, rfl, once⟩

/-- What is sent on has been cleared. -/
theorem mem_sent {call : Call} (member : call ∈ gate.sent arrival route) :
    ∃ grant request, gate.verdict arrival route = .cleared grant ∧
      gate.outgoing arrival route grant = .ok request ∧ call = .ofRequest request := by
  cases verdict : gate.verdict arrival route with
  | late => simp [sent, verdict] at member
  | denied denial => simp [sent, verdict] at member
  | cleared grant =>
    simp only [sent, verdict] at member
    rcases gate.send_calls arrival route grant with none | ⟨request, built, once⟩
    · simp [none] at member
    · exact ⟨grant, request, rfl, built, by simpa [once] using member⟩

theorem sent_length (gate : Gate) (arrival : Arrival) (route : Route) :
    (gate.sent arrival route).length ≤ 1 := by
  cases verdict : gate.verdict arrival route with
  | late => simp [sent, verdict]
  | denied denial => simp [sent, verdict]
  | cleared grant =>
    simp only [sent, verdict]
    rcases gate.send_calls arrival route grant with none | ⟨request, built, once⟩
    · simp [none]
    · simp [once]

/-- A request is denied in time, by what is decided about it. -/
theorem decided_of_denied {denial : Denial}
    (denied : gate.verdict arrival route = .denied denial) :
    route.auth.introspects = true ∧ gate.isLate (gate.asked arrival route).elapsed = false ∧
      Decision.ofOutcome route.auth (gate.inquire arrival route.auth).1 = .deny denial := by
  unfold Gate.verdict at denied
  split at denied
  · rename_i introspects
    split at denied
    · cases denied
    · rename_i timely
      split at denied
      · rename_i decided
        cases denied
        exact ⟨introspects, by simpa using timely, decided⟩
      · cases denied
  · cases denied

theorem decided_of_cleared {grant : Option Grant} (introspects : route.auth.introspects = true)
    (cleared : gate.verdict arrival route = .cleared grant) :
    gate.isLate (gate.asked arrival route).elapsed = false ∧ ∃ granted, grant = some granted ∧
      Decision.ofOutcome route.auth (gate.inquire arrival route.auth).1 = .allow granted := by
  simp only [Gate.verdict, introspects, if_true] at cleared
  split at cleared
  · cases cleared
  · rename_i timely
    split at cleared
    · cases cleared
    · rename_i granted decided
      cases cleared
      exact ⟨by simpa using timely, granted, rfl, decided⟩

/-- A route with authorization clears a request when the service approves of it. -/
theorem verdict_cleared {grant : Option Grant} (introspects : route.auth.introspects = true)
    (cleared : gate.verdict arrival route = .cleared grant) :
    ∃ reply, (gate.inquire arrival route.auth).1 = .ok reply ∧ reply.status = .ok ∧
      grant = some (.ofReply route.auth reply.headers) := by
  obtain ⟨_, granted, rfl, decided⟩ := decided_of_cleared introspects cleared
  obtain ⟨reply, answered, status, rfl⟩ := Decision.ofOutcome_allow decided
  exact ⟨reply, answered, status, rfl⟩

theorem introspects_of_ne (guarded : route.auth ≠ .none) : route.auth.introspects = true := by
  simp [AuthMode.introspects, guarded]

theorem asked_of_introspects (gate : Gate) (arrival : Arrival)
    (introspects : route.auth.introspects = true) :
    gate.asked arrival route = (gate.inquire arrival route.auth).2 := by
  simp [asked, introspects]

theorem asked_of_open (gate : Gate) (arrival : Arrival) (free : route.auth.introspects = false) :
    gate.asked arrival route = {} := by
  simp [asked, free]

theorem verdict_of_open (free : route.auth.introspects = false) :
    gate.verdict arrival route = .cleared none := by
  simp [verdict, free]

/-- A route asks first and then sends on what is cleared. -/
theorem handleRoute_spec (gate : Gate) (arrival : Arrival) (route : Route) :
    (gate.handleRoute arrival route).calls =
        (gate.asked arrival route).calls ++ gate.sent arrival route ∧
      (gate.handleRoute arrival route).response = gate.answer arrival route := by
  cases introspects : route.auth.introspects with
  | false =>
    have handled : gate.handleRoute arrival route = gate.forward arrival route none {} := by
      simp [handleRoute, introspects]
    have asked := asked_of_open gate arrival introspects
    rw [handled, forward_calls, forward_response gate arrival route none {} (by rw [asked])]
    simp [sent, answer, verdict_of_open introspects, asked]
  | true =>
    have asked := asked_of_introspects gate arrival introspects
    have handled : gate.handleRoute arrival route = gate.authorize arrival route := by
      simp [handleRoute, introspects]
    rw [handled]
    rcases inquiry : gate.inquire arrival route.auth with ⟨outcome, progress⟩
    rw [inquiry] at asked
    by_cases late : gate.isLate progress.elapsed = true
    · have verdict : gate.verdict arrival route = .late := by
        simp [Gate.verdict, introspects, asked, late]
      simp [authorize, inquiry, late, Progress.finish, sent, answer, verdict, asked]
    · cases decided : Decision.ofOutcome route.auth outcome with
      | deny denial =>
        have verdict : gate.verdict arrival route = .denied denial := by
          simp [Gate.verdict, introspects, asked, late, inquiry, decided]
        simp [authorize, inquiry, late, decided, complete, sent, answer, verdict, asked]
      | allow grant =>
        have verdict : gate.verdict arrival route = .cleared (some grant) := by
          simp [Gate.verdict, introspects, asked, late, inquiry, decided]
        simp only [authorize, inquiry, late, decided, sent, answer, verdict, asked]
        exact ⟨forward_calls .., forward_response _ _ _ _ _ (by rw [asked])⟩

/-- A request whose path has a normal form and a route is handled on that route. -/
theorem exchange_of_route {uri : Uri} (freshId : HeaderValue)
    (normal : arrival.request.uri.normalize = .ok uri)
    (found : gate.table.find? uri.path = some route) :
    gate.exchange freshId arrival =
      let admitted := arrival.admitted freshId uri
      let handled := gate.handleRoute admitted route
      { handled with response := deliver admitted handled.response } := by
  have absolute := Uri.startsWith_of_normalize normal
  simp [exchange, identify_uri, absolute, handle, normal, found, deliver, Arrival.admitted,
    Arrival.requestId?]

/-- A request that no route has is turned away without a call. -/
theorem exchange_of_no_route {uri : Uri} (freshId : HeaderValue)
    (normal : arrival.request.uri.normalize = .ok uri)
    (missing : gate.table.find? uri.path = none) :
    gate.exchange freshId arrival =
      let admitted := arrival.admitted freshId uri
      { turnAway admitted (.unrouted admitted.entry) .notFound with
        response := deliver admitted .notFound } := by
  have absolute := Uri.startsWith_of_normalize normal
  simp [exchange, identify_uri, absolute, handle, normal, missing, deliver, Arrival.admitted,
    Arrival.requestId?, turnAway]

/-- So is a request whose path has no normal form. -/
theorem exchange_of_malformed {cause : PathError} (freshId : HeaderValue)
    (absolute : Path.startsWith arrival.request.uri.path "/" = true)
    (malformed : arrival.request.uri.normalize = .error cause) :
    gate.exchange freshId arrival =
      let admitted := arrival.admitted freshId arrival.request.uri
      { turnAway admitted (.rejected admitted.entry cause) .badRequest with
        response := deliver admitted .badRequest } := by
  have admitted : arrival.admitted freshId arrival.request.uri =
      { arrival with request := identify freshId arrival.request } := by
    rw [← identify_uri freshId arrival.request]
    rfl
  rw [admitted]
  simp [exchange, identify_uri, absolute, handle, malformed, turnAway, deliver, Arrival.requestId?]

theorem exchange_of_error {cause : PathError} (freshId : HeaderValue)
    (malformed : arrival.request.uri.normalize = .error cause) :
    (gate.exchange freshId arrival).calls = [] := by
  by_cases absolute : Path.startsWith arrival.request.uri.path "/" = true
  · rw [exchange_of_malformed freshId absolute malformed]
    rfl
  · simp [exchange, identify_uri, absolute]

/-- The calls and the response of a request on its route. -/
theorem exchange_spec {uri : Uri} (freshId : HeaderValue)
    (normal : arrival.request.uri.normalize = .ok uri)
    (found : gate.table.find? uri.path = some route) :
    (gate.exchange freshId arrival).calls =
        (gate.asked (arrival.admitted freshId uri) route).calls ++
          gate.sent (arrival.admitted freshId uri) route ∧
      (gate.exchange freshId arrival).response =
        deliver (arrival.admitted freshId uri) (gate.answer (arrival.admitted freshId uri) route) := by
  obtain ⟨calls, response⟩ := handleRoute_spec gate (arrival.admitted freshId uri) route
  rw [exchange_of_route freshId normal found]
  exact ⟨calls, congrArg (deliver _) response⟩

end Passage

end Gate
end AuthGate
