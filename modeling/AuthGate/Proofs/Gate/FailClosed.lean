import AuthGate.Proofs.Gate.Assembly
import AuthGate.Proofs.Gate.Passage
import Mathlib.Data.List.Forall2

/-! A gate fails closed. Whatever the servers around it do, a request gets to the server of a route
with authorization only after the introspection service has approved of that very request. -/
namespace AuthGate

/-- The introspection service approves of a request: it answers the question about it with the
status 200 before the configured time is over. -/
structure Approved (config : GateConfig) (gate : Gate) (arrival : Arrival) (route : Route)
    (question : Request) (reply : Reply) : Prop where
  posed : gate.question arrival route.auth = .ok question
  answered : arrival.asking (Call.serverOf question.uri) = .replies reply
  timely : reply.delay < config.auth.timeoutMs
  status : reply.response.status = .ok

/-- What the service is seen to answer may be an approval. -/
theorem Approved.of_seen {config : GateConfig} {gate : Gate} {arrival : Arrival} {route : Route}
    {reply : Reply} (seen : ((gate.question arrival route.auth).toOption.map fun question =>
      arrival.asking (Call.serverOf question.uri)) = some (.replies reply))
    (timely : reply.delay < config.auth.timeoutMs) (status : reply.response.status = .ok) :
    ∃ question, Approved config gate arrival route question reply := by
  obtain ⟨question, posed, answered⟩ := Option.map_eq_some_iff.mp seen
  exact ⟨question, ok_of_toOption posed, answered, timely, status⟩

/-- The responses that end a request which is not sent on. -/
inductive Refusal (gate : Gate) (arrival : Arrival) (route : Route) : Response → Prop where
  | late : Refusal gate arrival route (.bare .requestTimeout)
  | denied {outcome : IntrospectionOutcome} {denial : Denial}
      (decided : Decision.ofOutcome route.auth outcome = .deny denial) :
      Refusal gate arrival route (gate.deny arrival route outcome denial)

def Refusal.statuses : List Status := [.found, .unauthorized, .forbidden, .requestTimeout]

private theorem DenialPolicy.respond_status (policy : DenialPolicy) (denial : Denial)
    (requestedUri : String) : (policy.respond denial requestedUri).status ∈ Refusal.statuses := by
  unfold DenialPolicy.respond
  split
  · simp [DenialPolicy.redirect, Refusal.statuses]
  · cases denial <;> simp [Response.bare, Denial.status, Refusal.statuses]

private theorem DenialPolicy.challenge_status (policy : DenialPolicy) (denial : Denial)
    (given : Option HeaderValue) : (policy.challenge denial given).status ∈ Refusal.statuses := by
  cases denial <;> simp [DenialPolicy.challenge, Response.bare, Response.mapHeaders, Denial.status,
    Refusal.statuses]

private theorem Refusal.status_mem {gate : Gate} {arrival : Arrival} {route : Route}
    {response : Response}
    (refusal : Refusal gate arrival route response) : response.status ∈ Refusal.statuses := by
  cases refusal with
  | late => simp [Response.bare, Refusal.statuses]
  | denied decided =>
    unfold Gate.deny
    split
    · exact DenialPolicy.challenge_status _ _ _
    · exact DenialPolicy.respond_status _ _ _

/-- What holds of an exchange on a route, split into the calls to the introspection service and
those to the server of the route. -/
structure Guarded (config : GateConfig) (gate : Gate) (arrival : Arrival) (route : Route)
    (exchange : Exchange) (asked sent : List Call) : Prop where
  inOrder : exchange.calls = asked ++ sent
  askedOnce : asked.length ≤ 1
  sentOnce : sent.length ≤ 1
  askedAt : ∀ call ∈ asked, gate.introspector.endpoint? route.auth = some call.request.uri ∧
    call.server = Call.serverOf call.request.uri
  sentTo : ∀ call ∈ sent, call.server = Call.hostPort route.target.authority
  unasked : route.auth = .none → asked = []
  approved : route.auth ≠ .none → sent ≠ [] →
    ∃ question reply, Approved config gate arrival route question reply ∧
      asked = [.ofRequest question]
  refused : route.auth ≠ .none →
    (∀ question reply, ¬ Approved config gate arrival route question reply) →
    sent = [] ∧ exchange.response.status ∈ Refusal.statuses ∧
      ∃ response, Refusal gate arrival route response ∧
        exchange.response = Gate.deliver arrival response

/-- What holds of the exchange for any arrival. -/
structure FailsClosed (config : GateConfig) (gate : Gate) (freshId : HeaderValue)
    (arrival : Arrival) (exchange : Exchange) : Prop where
  malformed : ∀ cause, arrival.request.uri.normalize = .error cause → exchange.calls = []
  unrouted : ∀ uri, arrival.request.uri.normalize = .ok uri →
    gate.table.find? uri.path = none → exchange.calls = []
  routed : ∀ uri route, arrival.request.uri.normalize = .ok uri →
    gate.table.find? uri.path = some route →
    ∃ asked sent, Guarded config gate (arrival.admitted freshId uri) route exchange asked sent

/-- A question goes to the endpoint of its mode, with the fields for it. -/
theorem Introspector.question_ok {introspector : Introspector} {mode : AuthMode}
    {credentials : Credentials} {requestedUri : String} {requestId : Option HeaderValue}
    {question : Request}
    (posed : introspector.question mode credentials requestedUri requestId = .ok question) :
    introspector.endpoint? mode = some question.uri ∧
      questionHeaders mode credentials requestedUri requestId = .ok question.headers := by
  unfold Introspector.question at posed
  cases endpoint : introspector.endpoint? mode with
  | none => simp [endpoint] at posed
  | some uri =>
    cases headers : questionHeaders mode credentials requestedUri requestId with
    | error cause => simp [endpoint, headers] at posed
    | ok fields =>
      simp only [endpoint, headers] at posed
      cases posed
      exact ⟨rfl, rfl⟩

theorem Introspector.question_uri {introspector : Introspector} {mode : AuthMode}
    {credentials : Credentials} {requestedUri : String} {requestId : Option HeaderValue}
    {question : Request}
    (posed : introspector.question mode credentials requestedUri requestId = .ok question) :
    introspector.endpoint? mode = some question.uri :=
  (question_ok posed).1

namespace Gate

variable {config : GateConfig} {gate : Gate} {arrival : Arrival} {route : Route}

theorem asked_calls (gate : Gate) (arrival : Arrival) (route : Route) :
    (gate.asked arrival route).calls = [] ∨
      ∃ question, gate.question arrival route.auth = .ok question ∧
        (gate.asked arrival route).calls = [.ofRequest question] := by
  cases introspects : route.auth.introspects with
  | false => exact Or.inl (by rw [asked_of_open gate arrival introspects])
  | true =>
    rw [asked_of_introspects gate arrival introspects]
    exact inquire_calls gate arrival route.auth

/-- A request is cleared on the strength of an approval, and with what the reply grants. -/
theorem approved_of_cleared {grant : Option Grant} (built : Gate.ofConfig config = .ok gate)
    (guarded : route.auth ≠ .none) (cleared : gate.verdict arrival route = .cleared grant) :
    ∃ question reply, Approved config gate arrival route question reply ∧
      (gate.asked arrival route).calls = [.ofRequest question] ∧
      grant = some (.ofReply route.auth reply.response.headers) := by
  have introspects := introspects_of_ne guarded
  obtain ⟨heard, answered, status, granted⟩ := verdict_cleared introspects cleared
  obtain ⟨question, reply, posed, replies, timely, same, calls⟩ := inquire_ok answered
  have limit := introspector_limit built
  subst same
  refine ⟨question, reply, ⟨posed, replies, by omega, status⟩, ?_, granted⟩
  rw [asked_of_introspects gate arrival introspects]
  exact calls

private theorem answer_refusal (uncleared : ∀ grant, gate.verdict arrival route ≠ .cleared grant) :
    Refusal gate arrival route (gate.answer arrival route) := by
  cases verdict : gate.verdict arrival route with
  | late =>
    simp only [answer, verdict]
    exact .late
  | denied denial =>
    simp only [answer, verdict]
    obtain ⟨_, _, decided⟩ := decided_of_denied verdict
    exact .denied decided
  | cleared grant => exact False.elim (uncleared grant verdict)

/-- An exchange on a route is guarded. -/
theorem exchange_guarded {uri : Uri} (built : Gate.ofConfig config = .ok gate)
    (freshId : HeaderValue) (normal : arrival.request.uri.normalize = .ok uri)
    (found : gate.table.find? uri.path = some route) :
    Guarded config gate (arrival.admitted freshId uri) route (gate.exchange freshId arrival)
      (gate.asked (arrival.admitted freshId uri) route).calls
      (gate.sent (arrival.admitted freshId uri) route) := by
  obtain ⟨calls, response⟩ := exchange_spec freshId normal found
  generalize arrival.admitted freshId uri = admitted at calls response ⊢
  have cleared : ∀ call ∈ gate.sent admitted route,
      ∃ grant, gate.verdict admitted route = .cleared grant := by
    intro call member
    obtain ⟨grant, _, verdict, _⟩ := mem_sent member
    exact ⟨grant, verdict⟩
  constructor
  case inOrder => exact calls
  case askedOnce =>
    rcases asked_calls gate admitted route with none | ⟨question, _, once⟩
    · simp [none]
    · simp [once]
  case sentOnce => exact sent_length gate admitted route
  case askedAt =>
    intro call member
    rcases asked_calls gate admitted route with none | ⟨question, posed, once⟩
    · simp [none] at member
    · rw [once, List.mem_singleton] at member
      subst member
      simp only [Call.ofRequest, Call.named_uri]
      exact ⟨Introspector.question_uri posed, trivial⟩
  case sentTo =>
    intro call member
    obtain ⟨grant, request, _, outgoing, rfl⟩ := mem_sent member
    obtain ⟨target, host, _, same⟩ := Route.forwardRequest_ok outgoing
    simp [Call.ofRequest, Call.serverOf, same, Uri.authority?]
  case unasked =>
    intro free
    rw [asked_of_open gate admitted (by simp [AuthMode.introspects, free])]
  case approved =>
    intro guarded nonempty
    obtain ⟨call, member⟩ := List.exists_mem_of_ne_nil _ nonempty
    obtain ⟨grant, verdict⟩ := cleared call member
    obtain ⟨question, reply, approved, asked, _⟩ := approved_of_cleared built guarded verdict
    exact ⟨question, reply, approved, asked⟩
  case refused =>
    intro guarded unapproved
    have uncleared : ∀ grant, gate.verdict admitted route ≠ .cleared grant := by
      intro grant verdict
      obtain ⟨question, reply, approved, _⟩ := approved_of_cleared built guarded verdict
      exact unapproved question reply approved
    have refusal := answer_refusal uncleared
    refine ⟨?_, ?_, gate.answer admitted route, refusal, response⟩
    · apply List.eq_nil_iff_forall_not_mem.mpr
      intro call member
      obtain ⟨grant, verdict⟩ := cleared call member
      exact uncleared grant verdict
    · rw [response, deliver_status]
      exact refusal.status_mem

private theorem exchange_failsClosed (built : Gate.ofConfig config = .ok gate)
    (freshId : HeaderValue) (arrival : Arrival) :
    FailsClosed config gate freshId arrival (gate.exchange freshId arrival) where
  malformed _ malformed := exchange_of_error freshId malformed
  unrouted _ normal missing := by
    rw [exchange_of_no_route freshId normal missing]
    rfl
  routed _ _ normal found := ⟨_, _, exchange_guarded built freshId normal found⟩

/-- In a session of any length, every exchange fails closed. -/
theorem session_failsClosed (built : Gate.ofConfig config = .ok gate) (freshId : HeaderValue)
    (arrivals : List Arrival) :
    List.Forall₂ (FailsClosed config gate freshId) arrivals (gate.session freshId arrivals) := by
  induction arrivals with
  | nil => exact .nil
  | cons arrival rest ih => exact .cons (exchange_failsClosed built freshId arrival) ih

theorem session_failsClosed_guarded :
    ∃ gate, Gate.ofConfig .guarded = .ok gate ∧
      let request : Request := ⟨"GET", .origin ⟨"/a", none⟩, .empty, []⟩
      let arrivals := [Arrival.mk (.v4 0) (fun _ => .closes 7) (fun _ => .unreachable 0) request]
      List.Forall₂ (FailsClosed .guarded gate ⟨[65], by decide⟩) arrivals
        (gate.session ⟨[65], by decide⟩ arrivals) := by
  obtain ⟨gate, route, built, _⟩ := GateConfig.guarded_built
  exact ⟨gate, built, session_failsClosed built _ _⟩

end Gate
end AuthGate
