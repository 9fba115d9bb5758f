import AuthGate.Gate.Basic
import AuthGate.Gate.Event
import AuthGate.Gate.Service

/-! What the gate does with one request: find its route, have it authorized, and send it on. -/
namespace AuthGate

/-- What a request leads to: a response, calls to servers, and what is logged and counted. -/
structure Exchange where
  response : Response
  calls : List Call
  events : List Event
  measures : List Measure
  deriving DecidableEq, Repr

/-- What has come about on the way to a response. -/
structure Progress where
  calls : List Call := []
  events : List Event := []
  measures : List Measure := []
  elapsed : Nat := 0
  deriving DecidableEq, Repr

def Progress.finish (progress : Progress) (response : Response) : Exchange :=
  ⟨response, progress.calls, progress.events, progress.measures⟩

/-- The request with its client and the servers around the gate: how they answer when they are asked
about the request, and how when it is sent on to them. -/
structure Arrival where
  ip : Ip
  asking : Services
  sending : Services
  request : Request

namespace Arrival

def requestId? (arrival : Arrival) : Option HeaderValue := arrival.request.headers.first? .requestId

/-- The request as the log shows it. -/
def entry (arrival : Arrival) : AccessEntry :=
  ⟨(arrival.requestId?.bind (·.text?)).getD "unknown", arrival.request.method,
    arrival.request.uri.path⟩

end Arrival

namespace Gate

/-- The request has taken too long. -/
def isLate (gate : Gate) (elapsed : Nat) : Bool := gate.requestTimeout.micros ≤ 1000 * elapsed

/-- Finish a request on a route. -/
def complete (arrival : Arrival) (route : Route) (outcome : String) (response : Response)
    (progress : Progress) : Exchange :=
  ⟨response, progress.calls,
    progress.events ++ [.completed arrival.entry route.name outcome response.status],
    progress.measures ++ [.request route.name arrival.request.method response.status]⟩

/-- The URI that the client used. -/
def requestedUri (gate : Gate) (request : Request) : String :=
  gate.address.requestedUri request.headers request.uri

/-- What the introspection service says about a request, with the call to it. The verdict needs no body,
but the gate reads it as long as the call may take. -/
def inquire (gate : Gate) (arrival : Arrival) (mode : AuthMode) : IntrospectionOutcome × Progress :=
  let request := arrival.request
  match gate.introspector.question mode (.ofHeaders request.headers) (gate.requestedUri request)
      arrival.requestId? with
  | .error cause => (.error cause, {})
  | .ok question =>
    let report := arrival.asking.call gate.introspector.timeout.micros question
    let outcome : IntrospectionOutcome := match report.result with
      | .reply response => .ok ⟨response.status, response.headers⟩
      | .failed => .error .transport
      | .timedOut => .error (.timedOut gate.introspector.timeout)
    (outcome, { calls := report.received, elapsed := report.drained })

/-- The response of the server of a route, with the call to it. -/
def send (gate : Gate) (arrival : Arrival) (route : Route) (grant : Option Grant) :
    Except ForwardError Response × Progress :=
  let request := arrival.request
  let client := gate.address.client (some arrival.ip) request.headers request.uri
  match route.forwardRequest gate.trustForwarded client grant request with
  | .error cause => (.error cause, {})
  | .ok outgoing =>
    let report := arrival.sending.call gate.serverTimeout.micros outgoing
    let outcome : Except ForwardError Response := match report.result with
      | .reply response => .ok (response.mapHeaders (route.relayHeaders grant))
      | .failed => .error .transport
      | .timedOut => .error (.timedOut gate.serverTimeout)
    (outcome, { calls := report.received, elapsed := report.elapsed })

/-- The response when the server of a route gives none. The client still gets its cookies. -/
def failure (grant : Option Grant) (cause : ForwardError) : Response :=
  match grant with
  | none => .gatewayFailure cause.status
  | some grant => (Response.gatewayFailure cause.status).mapHeaders (·.appendGranted grant)

/-- Send a request on that needs no authorization or has got it. -/
def forward (gate : Gate) (arrival : Arrival) (route : Route) (grant : Option Grant)
    (progress : Progress) : Exchange :=
  let (outcome, sent) := gate.send arrival route grant
  let progress := { progress with
    calls := progress.calls ++ sent.calls, elapsed := progress.elapsed + sent.elapsed }
  let label := if grant.isSome then "allow" else "none"
  if gate.isLate progress.elapsed then progress.finish (.bare .requestTimeout)
  else
    match outcome with
    | .ok response => complete arrival route label response progress
    | .error cause =>
      complete arrival route label (failure grant cause)
        { progress with events := progress.events ++ [.forwardFailed route.name cause] }

/-- The response to a client whose request is denied. -/
def deny (gate : Gate) (arrival : Arrival) (route : Route) (outcome : IntrospectionOutcome)
    (denial : Denial) : Response :=
  if route.auth.isMachine then gate.denials.challenge denial (challenge? outcome)
  else gate.denials.respond denial (gate.requestedUri arrival.request)

def failureEvents (route : Route) : IntrospectionOutcome → List Event
  | .ok _ => []
  | .error cause => [.introspectionFailed route.name route.auth cause]

/-- Have a request authorized, and then deny it or send it on. -/
def authorize (gate : Gate) (arrival : Arrival) (route : Route) : Exchange :=
  let (outcome, asked) := gate.inquire arrival route.auth
  if gate.isLate asked.elapsed then asked.finish (.bare .requestTimeout)
  else
    let decision := Decision.ofOutcome route.auth outcome
    let progress := { asked with
      events := failureEvents route outcome
      measures := [.decision route.auth decision.label] }
    match decision with
    | .deny denial =>
      complete arrival route decision.label (gate.deny arrival route outcome denial) progress
    | .allow grant => gate.forward arrival route (some grant) progress

/-- A request on its route. -/
def handleRoute (gate : Gate) (arrival : Arrival) (route : Route) : Exchange :=
  if route.auth.introspects then gate.authorize arrival route
  else gate.forward arrival route none {}

/-- A request that is turned away before it has a route. -/
def turnAway (arrival : Arrival) (event : Event) (response : Response) : Exchange :=
  ⟨response, [], [event], [.request Measure.noRoute arrival.request.method response.status]⟩

/-- A request with a path: the path is put in normal form before its route is looked up. -/
def handle (gate : Gate) (arrival : Arrival) : Exchange :=
  match arrival.request.uri.normalize with
  | .error cause => turnAway arrival (.rejected arrival.entry cause) .badRequest
  | .ok uri =>
    let arrival := { arrival with request := { arrival.request with uri := uri } }
    match gate.table.find? uri.path with
    | none => turnAway arrival (.unrouted arrival.entry) .notFound
    | some route => gate.handleRoute arrival route

/-- A request without an identity gets one. -/
def identify (freshId : HeaderValue) (request : Request) : Request :=
  match request.headers.first? .requestId with
  | some _ => request
  | none => { request with headers := request.headers.insert .requestId freshId }

/-- A response without an identity gets that of its request. -/
def echoId (id : Option HeaderValue) (response : Response) : Response :=
  match response.headers.first? .requestId, id with
  | none, some id => response.mapHeaders (·.insert .requestId id)
  | _, _ => response

/-- The exchange for a request from a client. A target without a path, such as the asterisk, is
none that a route could have. -/
def exchange (gate : Gate) (freshId : HeaderValue) (arrival : Arrival) : Exchange :=
  let request := identify freshId arrival.request
  let arrival := { arrival with request := request }
  let handled := if Path.startsWith request.uri.path "/" then gate.handle arrival
    else ⟨.bare .notFound, [], [], []⟩
  { handled with
    response := (echoId arrival.requestId? handled.response).received request.method }

end Gate
end AuthGate
