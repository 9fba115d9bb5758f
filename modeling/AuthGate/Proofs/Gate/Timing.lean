import AuthGate.Proofs.Gate.Cookies
import AuthGate.Proofs.Gate.Indistinct
import AuthGate.Proofs.Gate.Privacy

/-! How long servers take. A server that takes longer than its limit is as good as one that closes the
connection, but for the status of a failure, and below the limits nobody can tell one delay from
another. -/
namespace AuthGate

/-- Two exchanges that are the same for the client and for all servers. -/
def Exchange.Agrees (left right : Exchange) : Prop :=
  left.calls = right.calls ∧ left.response = right.response

namespace Service

/-- The same answer without a delay. -/
def prompt : Service → Service
  | .unreachable _ => .unreachable 0
  | .closes _ => .closes 0
  | .replies reply => .replies { reply with delay := 0, drain := 0 }

/-- Two services that are the same or give the same answer after delays below a limit. -/
def SameBelow (limit : Nat) (left right : Service) : Prop :=
  left = right ∨ left.prompt = right.prompt ∧ left.delay < limit ∧ right.delay < limit

@[simp] theorem delay_prompt (service : Service) : service.prompt.delay = 0 := by
  cases service <;> rfl

@[simp] theorem drain_prompt (service : Service) : service.prompt.drain = 0 := by
  cases service <;> rfl

@[simp] theorem result_prompt (method : String) (service : Service) :
    service.prompt.result method = service.result method := by
  cases service <;> rfl

@[simp] theorem received_prompt (made : Call) (service : Service) :
    service.prompt.received made = service.received made := by
  cases service <;> rfl

private theorem resultWithin_of_soon {limit : Nat} {method : String} {service : Service}
    (soon : service.delay < limit) :
    service.resultWithin (1000 * limit) method = service.result method :=
  if_neg (by omega)

private theorem sameBelow_prompt {limit : Nat} {service : Service} (soon : service.delay < limit) :
    service.SameBelow limit service.prompt := by
  have again : service.prompt = service.prompt.prompt := by cases service <;> rfl
  exact .inr ⟨again, soon, by rw [delay_prompt]; omega⟩

end Service

namespace Services

/-- The same servers without delays. -/
def prompt (services : Services) : Services := fun server => (services server).prompt

variable {services left right : Services} {request : Request} {limit delay : Nat}

theorem waited_of_late (late : limit ≤ 1000 * delay) : waited limit delay = limit / 1000 := by
  unfold waited
  omega

theorem call_of_late {reply : Reply} (given : services (Call.serverOf request.uri) = .replies reply)
    (late : limit ≤ 1000 * reply.delay) :
    services.call limit request =
      { result := .timedOut, received := [.ofRequest request]
        elapsed := limit / 1000, drained := limit / 1000 } := by
  have lateBody : limit ≤ 1000 * (reply.delay + reply.drain) := by omega
  simp [call, given, Service.resultWithin, Service.received, Service.delay, Service.drain, late,
    waited_of_late late, waited_of_late lateBody]

theorem call_of_closed (closed : services (Call.serverOf request.uri) = .closes delay) :
    services.call limit request =
      { result := if limit ≤ 1000 * delay then .timedOut else .failed
        received := [.ofRequest request]
        elapsed := waited limit delay, drained := waited limit delay } := by
  simp only [call, Call.server_ofRequest, closed]
  rfl

/-- Delays below the limit make no difference to what comes of a call. -/
theorem call_of_sameBelow (same : (left (Call.serverOf request.uri)).SameBelow limit
      (right (Call.serverOf request.uri))) :
    (left.call (1000 * limit) request).result = (right.call (1000 * limit) request).result ∧
      (left.call (1000 * limit) request).received =
        (right.call (1000 * limit) request).received := by
  rcases same with same | ⟨answer, soonLeft, soonRight⟩
  · simp only [call, Call.server_ofRequest, same, and_self]
  · have result := congrArg (Service.result request.method) answer
    have received := congrArg (Service.received (.ofRequest request)) answer
    rw [Service.result_prompt, Service.result_prompt] at result
    rw [Service.received_prompt, Service.received_prompt] at received
    simp only [call, Call.server_ofRequest, Service.resultWithin_of_soon soonLeft,
      Service.resultWithin_of_soon soonRight, result, received, and_self]

end Services

namespace Gate

/-- The milliseconds that a request may take that is sent on. -/
def delays (gate : Gate) (arrival : Arrival) (route : Route) : Nat :=
  (gate.asked arrival route).elapsed + Services.waited gate.serverTimeout.micros
    (arrival.sending (Call.hostPort route.target.authority)).delay

variable {config : GateConfig} {gate : Gate} {arrival left right : Arrival} {route : Route}

/-- A request that is denied is not sent on, whatever its server would do. -/
theorem handleRoute_denied {denial : Denial}
    (verdict : gate.verdict arrival route = .denied denial) :
    (gate.handleRoute arrival route).calls = (gate.asked arrival route).calls ∧
      (gate.handleRoute arrival route).response =
        gate.deny arrival route (gate.inquire arrival route.auth).1 denial := by
  obtain ⟨calls, response⟩ := handleRoute_spec gate arrival route
  rw [calls, response]
  simp [sent, answer, verdict]

/-- A request that is cleared in time is sent on and answered with what comes back. -/
theorem handleRoute_cleared {grant : Option Grant}
    (verdict : gate.verdict arrival route = .cleared grant)
    (timely : gate.isLate (gate.delays arrival route) = false) :
    (gate.handleRoute arrival route).calls =
        (gate.asked arrival route).calls ++ (gate.send arrival route grant).2.calls ∧
      (gate.handleRoute arrival route).response =
        match (gate.send arrival route grant).1 with
        | .ok response => response
        | .error cause => failure grant cause := by
  have inTime : gate.isLate ((gate.asked arrival route).elapsed +
      (gate.send arrival route grant).2.elapsed) = false := by
    rw [← Bool.not_eq_true] at timely ⊢
    have short := gate.send_elapsed_le arrival route grant
    exact fun late => timely (isLate_mono (Nat.add_le_add_left short _) late)
  obtain ⟨calls, response⟩ := handleRoute_spec gate arrival route
  rw [calls, response]
  simp only [sent, answer, outcome, verdict, inTime, true_and]
  rfl

private theorem deny_error (gate : Gate) (arrival : Arrival) (route : Route) (denial : Denial)
    (first second : IntrospectionError) :
    gate.deny arrival route (.error first) denial = gate.deny arrival route (.error second) denial :=
  rfl

private theorem handleRoute_of_unheard {question : Request} {elapsed : Nat}
    {cause : IntrospectionError}
    (posed : gate.question arrival route.auth = .ok question)
    (unheard : gate.inquire arrival route.auth =
      (.error cause, { calls := [.ofRequest question], elapsed := elapsed }))
    (timely : gate.isLate elapsed = false) :
    (gate.handleRoute arrival route).calls = [.ofRequest question] ∧
      (gate.handleRoute arrival route).response =
        gate.deny arrival route (.error .transport) .unauthenticated := by
  have introspects : route.auth.introspects = true := by
    apply introspects_of_ne
    intro none
    have endpoint := Introspector.question_uri posed
    simp [none, Introspector.endpoint?] at endpoint
  have asked := asked_of_introspects gate arrival introspects
  rw [unheard] at asked
  have verdict : gate.verdict arrival route = .denied .unauthenticated := by
    simp [Gate.verdict, introspects, asked, timely, unheard, Decision.ofOutcome]
  obtain ⟨calls, response⟩ := handleRoute_denied verdict
  rw [calls, response, asked, unheard]
  exact ⟨rfl, deny_error ..⟩

private theorem inquire_of_late {mode : AuthMode} {question : Request} {reply : Reply}
    (posed : gate.question arrival mode = .ok question)
    (given : arrival.asking (Call.serverOf question.uri) = .replies reply)
    (late : gate.introspector.timeout.micros ≤ 1000 * reply.delay) :
    gate.inquire arrival mode = (.error (.timedOut gate.introspector.timeout),
      { calls := [.ofRequest question], elapsed := gate.introspector.timeout.micros / 1000 }) := by
  rw [inquire_of_question posed, Services.call_of_late given late]
  rfl

private theorem inquire_of_closed {mode : AuthMode} {question : Request} {delay : Nat}
    (posed : gate.question arrival mode = .ok question)
    (closed : arrival.asking (Call.serverOf question.uri) = .closes delay) :
    ∃ cause, gate.inquire arrival mode =
      (.error cause, { calls := [.ofRequest question]
                       elapsed := Services.waited gate.introspector.timeout.micros delay }) := by
  rw [inquire_of_question posed, Services.call_of_closed closed]
  by_cases late : gate.introspector.timeout.micros ≤ 1000 * delay
  · exact ⟨.timedOut gate.introspector.timeout, by simp only [if_pos late, heard]⟩
  · exact ⟨.transport, by simp only [if_neg late, heard]⟩

private theorem send_of_late {grant : Option Grant} {request : Request} {reply : Reply}
    (built : gate.outgoing arrival route grant = .ok request)
    (given : arrival.sending (Call.hostPort route.target.authority) = .replies reply)
    (late : gate.serverTimeout.micros ≤ 1000 * reply.delay) :
    (gate.send arrival route grant).1 = .error (.timedOut gate.serverTimeout) ∧
      (gate.send arrival route grant).2.calls = [.ofRequest request] := by
  rw [← server_of_outgoing built] at given
  rw [send_of_outgoing built, Services.call_of_late given late]
  exact ⟨rfl, rfl⟩

private theorem send_of_closed {grant : Option Grant} {request : Request} {delay : Nat}
    (built : gate.outgoing arrival route grant = .ok request)
    (closed : arrival.sending (Call.hostPort route.target.authority) = .closes delay)
    (soon : 1000 * delay < gate.serverTimeout.micros) :
    (gate.send arrival route grant).1 = .error .transport ∧
      (gate.send arrival route grant).2.calls = [.ofRequest request] := by
  rw [← server_of_outgoing built] at closed
  rw [send_of_outgoing built, Services.call_of_closed closed, if_neg (Nat.not_le.mpr soon)]
  exact ⟨rfl, rfl⟩

private theorem headers_failure (grant : Option Grant) (first second : ForwardError) :
    (failure grant first).headers = (failure grant second).headers := by
  cases grant <;> rfl

private theorem headers_deliver_congr {first second : Response}
    (same : first.headers = second.headers) :
    (deliver arrival first).headers = (deliver arrival second).headers := by
  simp only [deliver, echoId, same, Response.received_headers]
  split <;> simp [Response.mapHeaders, same]

end Gate

private theorem Response.body_received_congr {left right : Response} (method : String)
    (status : left.status = right.status) (body : left.body = right.body) :
    (left.received method).body = (right.received method).body := by
  unfold received
  rw [status]
  split
  · rfl
  · exact body

/-- A failure with a status and its phrase, and with the cookies that are granted. -/
structure Response.Fails (response : Response) (failed : Status) (phrase : String) (method : String)
    (grant : Option Grant) : Prop where
  status : response.status = failed
  body : response.body = ((Response.ofText failed phrase).received method).body
  cookies : response.headers.values .setCookie = Grant.cookies grant

namespace Gate

variable {config : GateConfig} {gate : Gate} {arrival left right : Arrival} {route : Route}

private theorem fails_deliver (arrival : Arrival) (grant : Option Grant) (cause : ForwardError)
    {phrase : String} (named : cause.status.phrase? = some phrase) :
    (deliver arrival (failure grant cause)).Fails cause.status phrase arrival.request.method
      grant where
  status := by
    rw [deliver_status]
    cases grant <;> rfl
  body := by
    have echoed (id : Option HeaderValue) (response : Response) :
        (echoId id response).status = response.status ∧
          (echoId id response).body = response.body := by
      unfold echoId
      split <;> exact ⟨rfl, rfl⟩
    obtain ⟨status, body⟩ := echoed arrival.requestId? (failure grant cause)
    apply Response.body_received_congr
    · rw [status]
      cases grant <;> rfl
    · rw [body]
      cases grant <;> simp [failure, Response.gatewayFailure, named, Response.mapHeaders]
  cookies := by
    rw [values_deliver (by decide), values_failure _ _ (by decide), if_pos rfl]

theorem asked_in_delays (timely : gate.isLate (gate.delays arrival route) = false) :
    gate.isLate (gate.asked arrival route).elapsed = false := by
  rw [← Bool.not_eq_true] at timely ⊢
  exact fun late => timely (isLate_mono (Nat.le_add_right _ _) late)

theorem verdict_ne_late (timely : gate.isLate (gate.delays arrival route) = false) :
    gate.verdict arrival route ≠ .late := by
  have soon := asked_in_delays timely
  cases introspects : route.auth.introspects with
  | false => simp [verdict_of_open introspects]
  | true =>
    simp only [Gate.verdict, introspects, soon, if_true, Bool.false_eq_true, if_false]
    split <;> simp

private theorem question_withServices (gate : Gate) (arrival : Arrival) (asking sending : Services)
    (mode : AuthMode) :
    gate.question (arrival.withServices asking sending) mode = gate.question arrival mode := rfl

theorem outgoing_withServices (gate : Gate) (arrival : Arrival) (asking sending : Services)
    (route : Route) (grant : Option Grant) :
    gate.outgoing (arrival.withServices asking sending) route grant =
      gate.outgoing arrival route grant := rfl

private theorem inquire_of_sameBelow {limit : Nat} {asking asking' sending sending' : Services}
    (waits : gate.introspector.timeout.micros = 1000 * limit)
    (same : ∀ question, gate.question arrival route.auth = .ok question →
      (asking (Call.serverOf question.uri)).SameBelow limit
        (asking' (Call.serverOf question.uri))) :
    (gate.inquire (arrival.withServices asking sending) route.auth).1 =
        (gate.inquire (arrival.withServices asking' sending') route.auth).1 ∧
      (gate.inquire (arrival.withServices asking sending) route.auth).2.calls =
        (gate.inquire (arrival.withServices asking' sending') route.auth).2.calls := by
  have there (asking sending : Services) :=
    question_withServices gate arrival asking sending route.auth
  cases posed : gate.question arrival route.auth with
  | error cause =>
    rw [inquire_of_error ((there _ _).trans posed), inquire_of_error ((there _ _).trans posed)]
    exact ⟨rfl, rfl⟩
  | ok question =>
    obtain ⟨result, received⟩ := Services.call_of_sameBelow (same question posed)
    rw [inquire_of_question ((there _ _).trans posed),
      inquire_of_question ((there _ _).trans posed), waits]
    simp only [heard, Arrival.withServices, result, received, and_self]

private theorem send_of_sameBelow {limit : Nat} {asking asking' sending sending' : Services}
    (waits : gate.serverTimeout.micros = 1000 * limit)
    (same : (sending (Call.hostPort route.target.authority)).SameBelow limit
      (sending' (Call.hostPort route.target.authority))) (grant : Option Grant) :
    (gate.send (arrival.withServices asking sending) route grant).1 =
        (gate.send (arrival.withServices asking' sending') route grant).1 ∧
      (gate.send (arrival.withServices asking sending) route grant).2.calls =
        (gate.send (arrival.withServices asking' sending') route grant).2.calls := by
  have there (asking sending : Services) :=
    outgoing_withServices gate arrival asking sending route grant
  cases built : gate.outgoing arrival route grant with
  | error cause =>
    rw [send_of_error ((there _ _).trans built), send_of_error ((there _ _).trans built)]
    exact ⟨rfl, rfl⟩
  | ok request =>
    rw [← server_of_outgoing built] at same
    obtain ⟨result, received⟩ := Services.call_of_sameBelow same
    rw [send_of_outgoing ((there _ _).trans built),
      send_of_outgoing ((there _ _).trans built), waits]
    simp only [relayed, Arrival.withServices, result, received, and_self]

private theorem handleRoute_of_same (heard : (gate.inquire left route.auth).1 =
      (gate.inquire right route.auth).1)
    (called : (gate.inquire left route.auth).2.calls = (gate.inquire right route.auth).2.calls)
    (sent : ∀ grant, gate.verdict left route = .cleared grant →
      (gate.send left route grant).1 = (gate.send right route grant).1 ∧
        (gate.send left route grant).2.calls = (gate.send right route grant).2.calls)
    (denied : ∀ outcome denial,
      gate.deny left route outcome denial = gate.deny right route outcome denial)
    (timely : gate.isLate (gate.delays left route) = false)
    (timely' : gate.isLate (gate.delays right route) = false) :
    (gate.handleRoute left route).calls = (gate.handleRoute right route).calls ∧
      (gate.handleRoute left route).response = (gate.handleRoute right route).response := by
  have asked : (gate.asked left route).calls = (gate.asked right route).calls := by
    unfold Gate.asked
    split
    · exact called
    · rfl
  have verdicts : gate.verdict left route = gate.verdict right route := by
    simp only [verdict, asked_in_delays timely, asked_in_delays timely', heard]
  cases verdict : gate.verdict left route with
  | late => exact absurd verdict (verdict_ne_late timely)
  | denied denial =>
    obtain ⟨calls, response⟩ := handleRoute_denied verdict
    obtain ⟨calls', response'⟩ := handleRoute_denied (verdicts ▸ verdict)
    rw [calls, response, calls', response', asked, heard, denied]
    exact ⟨rfl, rfl⟩
  | cleared grant =>
    obtain ⟨outcome, calls⟩ := sent grant verdict
    obtain ⟨whole, response⟩ := handleRoute_cleared verdict timely
    obtain ⟨whole', response'⟩ := handleRoute_cleared (verdicts ▸ verdict) timely'
    rw [whole, response, whole', response', asked, outcome, calls]
    exact ⟨rfl, rfl⟩

private theorem waited_zero (limit : Nat) : Services.waited limit 0 = 0 := Nat.zero_min _

private theorem delays_prompt (gate : Gate) (arrival : Arrival) (asking sending : Services)
    (route : Route) :
    gate.delays (arrival.withServices asking.prompt sending.prompt) route = 0 := by
  have asked : (gate.asked (arrival.withServices asking.prompt sending.prompt) route).elapsed =
      0 := by
    unfold Gate.asked
    split
    · cases posed : gate.question (arrival.withServices asking.prompt sending.prompt)
          route.auth with
      | error cause => rw [inquire_of_error posed]
      | ok question =>
        rw [inquire_of_question posed]
        simp [Services.call, Arrival.withServices, Services.prompt, waited_zero]
    · rfl
  have sent : ((arrival.withServices asking.prompt sending.prompt).sending
      (Call.hostPort route.target.authority)).delay = 0 := Service.delay_prompt _
  rw [delays, asked, sent, waited_zero]

private theorem delays_closed_le {late closed asking : Services} {reply : Reply}
    (given : late (Call.hostPort route.target.authority) = .replies reply)
    (overdue : gate.serverTimeout.micros ≤ 1000 * reply.delay) :
    gate.delays (arrival.withServices asking closed) route ≤
      gate.delays (arrival.withServices asking late) route := by
  have whole : Services.waited gate.serverTimeout.micros
      ((arrival.withServices asking late).sending (Call.hostPort route.target.authority)).delay =
      gate.serverTimeout.micros / 1000 := by
    apply Services.waited_of_late
    simpa [Arrival.withServices, given, Service.delay] using overdue
  have same : (gate.asked (arrival.withServices asking closed) route).elapsed =
      (gate.asked (arrival.withServices asking late) route).elapsed := rfl
  rw [delays, delays, whole, same]
  exact Nat.add_le_add_left (Nat.min_le_right _ _) _

private theorem timely_closed {late closed asking : Services} {reply : Reply}
    (given : late (Call.hostPort route.target.authority) = .replies reply)
    (overdue : gate.serverTimeout.micros ≤ 1000 * reply.delay)
    (timely : gate.isLate (gate.delays (arrival.withServices asking late) route) = false) :
    gate.isLate (gate.delays (arrival.withServices asking closed) route) = false := by
  rw [← Bool.not_eq_true] at timely ⊢
  exact fun isLate => timely (isLate_mono (delays_closed_le given overdue) isLate)

private theorem send_of_unbuilt {asking asking' sending sending' : Services} {grant : Option Grant}
    (unbuilt : ∀ request, gate.outgoing arrival route grant ≠ .ok request) :
    (gate.send (arrival.withServices asking sending) route grant).1 =
        (gate.send (arrival.withServices asking' sending') route grant).1 ∧
      (gate.send (arrival.withServices asking sending) route grant).2.calls =
        (gate.send (arrival.withServices asking' sending') route grant).2.calls := by
  have there (asking sending : Services) :=
    outgoing_withServices gate arrival asking sending route grant
  cases built : gate.outgoing arrival route grant with
  | error cause =>
    rw [send_of_error ((there _ _).trans built), send_of_error ((there _ _).trans built)]
    exact ⟨rfl, rfl⟩
  | ok request => exact absurd built (unbuilt request)

/-- What holds of a request that is sent on, if at all, to a server that takes too long, and that is
also sent on to one that closes the connection. -/
structure Undelivered (gate : Gate) (arrival : Arrival) (route : Route) (late closed : Exchange) :
    Prop where
  calls : late.calls = closed.calls
  headers : late.response.headers = closed.response.headers
  sent : ∀ grant request, gate.verdict arrival route = .cleared grant →
    gate.outgoing arrival route grant = .ok request →
    late.response.Fails .gatewayTimeout "Gateway Timeout" arrival.request.method grant ∧
      closed.response.Fails .badGateway "Bad Gateway" arrival.request.method grant
  unsent : (∀ grant request, gate.verdict arrival route = .cleared grant →
    gate.outgoing arrival route grant ≠ .ok request) → late.response = closed.response

private theorem Undelivered.of_unsent {late closed : Exchange} (calls : late.calls = closed.calls)
    (response : late.response = closed.response)
    (unsent : ∀ grant request, gate.verdict arrival route = .cleared grant →
      gate.outgoing arrival route grant ≠ .ok request) :
    Undelivered gate arrival route late closed where
  calls := calls
  headers := by rw [response]
  sent grant request cleared built := absurd built (unsent grant request cleared)
  unsent _ := response

private theorem Undelivered.of_sent {late closed : Exchange} {grant : Option Grant}
    {request : Request} {timeout : Duration} (verdict : gate.verdict arrival route = .cleared grant)
    (built : gate.outgoing arrival route grant = .ok request) (calls : late.calls = closed.calls)
    (timedOut : late.response = deliver arrival (failure grant (.timedOut timeout)))
    (failed : closed.response = deliver arrival (failure grant .transport)) :
    Undelivered gate arrival route late closed where
  calls := calls
  headers := by
    rw [timedOut, failed]
    exact headers_deliver_congr (headers_failure _ _ _)
  sent given request cleared _ := by
    have timeoutPhrase : Status.gatewayTimeout.phrase? = some "Gateway Timeout" := by decide
    have failurePhrase : Status.badGateway.phrase? = some "Bad Gateway" := by decide
    rw [verdict] at cleared
    cases cleared
    rw [timedOut, failed]
    exact ⟨fails_deliver arrival grant (.timedOut timeout) timeoutPhrase,
      fails_deliver arrival grant .transport failurePhrase⟩
  unsent unsent := absurd built (unsent grant request verdict)

section Routed

variable {freshId : HeaderValue} {uri : Uri}
  (normal : arrival.request.uri.normalize = .ok uri) (found : gate.table.find? uri.path = some route)

include normal found

/-- The exchange of an arrival on its route, with some servers around the gate. -/
theorem exchange_withServices (asking sending : Services) :
    let handled :=
      gate.handleRoute ((arrival.admitted freshId uri).withServices asking sending) route
    (gate.exchange freshId (arrival.withServices asking sending)).calls = handled.calls ∧
      (gate.exchange freshId (arrival.withServices asking sending)).response =
        deliver (arrival.admitted freshId uri) handled.response := by
  have there : (arrival.withServices asking sending).request.uri.normalize = .ok uri := normal
  rw [exchange_of_route freshId there found]
  exact ⟨rfl, rfl⟩

private theorem agrees_of_handleRoute {asking asking' sending sending' : Services}
    (same : (gate.handleRoute ((arrival.admitted freshId uri).withServices asking sending) route).calls =
        (gate.handleRoute ((arrival.admitted freshId uri).withServices asking' sending') route).calls ∧
      (gate.handleRoute ((arrival.admitted freshId uri).withServices asking sending) route).response =
        (gate.handleRoute ((arrival.admitted freshId uri).withServices asking' sending')
          route).response) :
    (gate.exchange freshId (arrival.withServices asking sending)).Agrees
      (gate.exchange freshId (arrival.withServices asking' sending')) := by
  obtain ⟨calls, response⟩ := exchange_withServices normal found asking sending
  obtain ⟨calls', response'⟩ := exchange_withServices normal found asking' sending'
  rw [Exchange.Agrees, calls, response, calls', response', same.1, same.2]
  exact ⟨rfl, rfl⟩

private theorem exchange_of_failed {asking sending : Services} {grant : Option Grant}
    {request : Request} {cause : ForwardError}
    (verdict : gate.verdict ((arrival.admitted freshId uri).withServices asking sending) route =
      .cleared grant)
    (sent : (gate.send ((arrival.admitted freshId uri).withServices asking sending) route grant).1 =
        .error cause ∧
      (gate.send ((arrival.admitted freshId uri).withServices asking sending) route grant).2.calls =
        [.ofRequest request])
    (timely : gate.isLate (gate.delays ((arrival.admitted freshId uri).withServices asking sending)
      route) = false) :
    (gate.exchange freshId (arrival.withServices asking sending)).calls =
        (gate.asked ((arrival.admitted freshId uri).withServices asking sending) route).calls ++
          [.ofRequest request] ∧
      (gate.exchange freshId (arrival.withServices asking sending)).response =
        deliver (arrival.admitted freshId uri) (failure grant cause) := by
  obtain ⟨calls, response⟩ := exchange_withServices normal found asking sending
  obtain ⟨made, answered⟩ := handleRoute_cleared verdict timely
  simp only [sent.1] at answered
  rw [calls, response, made, answered, sent.2]
  exact ⟨rfl, rfl⟩

private theorem agrees_of_unsent {asking sending sending' : Services}
    (unsent : ∀ grant request,
      gate.verdict ((arrival.admitted freshId uri).withServices asking sending) route =
        .cleared grant →
      gate.outgoing (arrival.admitted freshId uri) route grant ≠ .ok request)
    (timely : gate.isLate (gate.delays ((arrival.admitted freshId uri).withServices asking sending)
      route) = false)
    (timely' : gate.isLate (gate.delays
      ((arrival.admitted freshId uri).withServices asking sending') route) = false) :
    (gate.exchange freshId (arrival.withServices asking sending)).Agrees
      (gate.exchange freshId (arrival.withServices asking sending')) := by
  let admitted := arrival.admitted freshId uri
  have heard : gate.inquire (admitted.withServices asking sending) route.auth =
      gate.inquire (admitted.withServices asking sending') route.auth := rfl
  exact agrees_of_handleRoute normal found (handleRoute_of_same (congrArg Prod.fst heard)
    (congrArg (·.2.calls) heard)
    (fun grant cleared => send_of_unbuilt fun request => unsent grant request cleared)
    (fun _ _ => rfl) timely timely')

private theorem undelivered {asking late closed : Services} {reply : Reply} {delay : Nat}
    (given : late (Call.hostPort route.target.authority) = .replies reply)
    (overdue : gate.serverTimeout.micros ≤ 1000 * reply.delay)
    (closes : closed (Call.hostPort route.target.authority) = .closes delay)
    (soon : 1000 * delay < gate.serverTimeout.micros)
    (timely : gate.isLate (gate.delays ((arrival.admitted freshId uri).withServices asking late)
      route) = false) :
    Undelivered gate ((arrival.admitted freshId uri).withServices asking late) route
      (gate.exchange freshId (arrival.withServices asking late))
      (gate.exchange freshId (arrival.withServices asking closed)) := by
  have timelyClosed : gate.isLate (gate.delays
      ((arrival.admitted freshId uri).withServices asking closed) route) = false :=
    timely_closed given overdue timely
  by_cases unsent : ∀ grant request,
      gate.verdict ((arrival.admitted freshId uri).withServices asking late) route =
        .cleared grant →
      gate.outgoing (arrival.admitted freshId uri) route grant ≠ .ok request
  · obtain ⟨calls, response⟩ := agrees_of_unsent normal found unsent timely timelyClosed
    exact .of_unsent calls response unsent
  · simp only [not_forall, not_not] at unsent
    obtain ⟨grant, request, verdict, built⟩ := unsent
    obtain ⟨lateCalls, timedOut⟩ :=
      exchange_of_failed normal found verdict (send_of_late built given overdue) timely
    have verdictClosed : gate.verdict
        ((arrival.admitted freshId uri).withServices asking closed) route = .cleared grant := verdict
    obtain ⟨closedCalls, failed⟩ :=
      exchange_of_failed normal found verdictClosed (send_of_closed built closes soon) timelyClosed
    exact .of_sent verdict built (lateCalls.trans closedCalls.symm) timedOut failed

private theorem agrees_of_unheard {late lateOn closed closedOn : Services} {question : Request}
    {reply : Reply} {delay : Nat}
    (posed : gate.question (arrival.admitted freshId uri) route.auth = .ok question)
    (given : late (Call.serverOf question.uri) = .replies reply)
    (overdue : gate.introspector.timeout.micros ≤ 1000 * reply.delay)
    (closes : closed (Call.serverOf question.uri) = .closes delay)
    (timely : gate.isLate (gate.introspector.timeout.micros / 1000) = false) :
    (gate.exchange freshId (arrival.withServices late lateOn)).Agrees
      (gate.exchange freshId (arrival.withServices closed closedOn)) := by
  have posedThere (asking sending : Services) :
      gate.question ((arrival.admitted freshId uri).withServices asking sending) route.auth =
        .ok question := posed
  have unheard := inquire_of_late (posedThere late lateOn) given overdue
  obtain ⟨cause, unheardClosed⟩ := inquire_of_closed (posedThere closed closedOn) closes
  have timelyClosed : gate.isLate
      (Services.waited gate.introspector.timeout.micros delay) = false := by
    rw [← Bool.not_eq_true] at timely ⊢
    exact fun isLate => timely (isLate_mono (Nat.min_le_right _ _) isLate)
  obtain ⟨calls, response⟩ := handleRoute_of_unheard (posedThere late lateOn) unheard timely
  obtain ⟨closedCalls, closedResponse⟩ :=
    handleRoute_of_unheard (posedThere closed closedOn) unheardClosed timelyClosed
  exact agrees_of_handleRoute normal found
    ⟨calls.trans closedCalls.symm, response.trans closedResponse.symm⟩

private theorem agrees_of_sameBelow {asking asking' sending sending' : Services} {asks sends : Nat}
    (waits : gate.introspector.timeout.micros = 1000 * asks)
    (waitsOn : gate.serverTimeout.micros = 1000 * sends)
    (same : ∀ question, gate.question (arrival.admitted freshId uri) route.auth = .ok question →
      (asking (Call.serverOf question.uri)).SameBelow asks
        (asking' (Call.serverOf question.uri)))
    (sameOn : (sending (Call.hostPort route.target.authority)).SameBelow sends
      (sending' (Call.hostPort route.target.authority)))
    (timely : gate.isLate (gate.delays ((arrival.admitted freshId uri).withServices asking sending)
      route) = false)
    (timely' : gate.isLate (gate.delays
      ((arrival.admitted freshId uri).withServices asking' sending') route) = false) :
    (gate.exchange freshId (arrival.withServices asking sending)).Agrees
      (gate.exchange freshId (arrival.withServices asking' sending')) := by
  obtain ⟨heard, called⟩ := inquire_of_sameBelow waits same
  exact agrees_of_handleRoute normal found (handleRoute_of_same heard called
    (fun grant _ => send_of_sameBelow waitsOn sameOn grant) (fun _ _ => rfl) timely timely')

end Routed

/-- What holds of the time that servers take for an arrival on its route. What is asked about it and
what is sent on may be answered after different delays, even by one server. -/
structure KeepsTime (config : GateConfig) (gate : Gate) (freshId : HeaderValue) (uri : Uri)
    (route : Route) (arrival : Arrival) : Prop where
  unanswered : ∀ (late lateOn closed closedOn : Services) (question : Request) (reply : Reply)
      (delay : Nat), gate.question (arrival.admitted freshId uri) route.auth = .ok question →
    late (Call.serverOf question.uri) = .replies reply → config.auth.timeoutMs ≤ reply.delay →
    closed (Call.serverOf question.uri) = .closes delay →
    config.auth.timeoutMs < 1000 * config.timeouts.requestSecs →
    (gate.exchange freshId (arrival.withServices late lateOn)).Agrees
      (gate.exchange freshId (arrival.withServices closed closedOn))
  undelivered : ∀ (asking late closed : Services) (reply : Reply) (delay : Nat),
    late (Call.hostPort route.target.authority) = .replies reply →
    1000 * config.timeouts.serverSecs ≤ reply.delay →
    closed (Call.hostPort route.target.authority) = .closes delay →
    delay < 1000 * config.timeouts.serverSecs →
    let admitted := (arrival.admitted freshId uri).withServices asking late
    gate.delays admitted route < 1000 * config.timeouts.requestSecs →
    Undelivered gate admitted route (gate.exchange freshId (arrival.withServices asking late))
      (gate.exchange freshId (arrival.withServices asking closed))
  invisible : ∀ asking asking' sending sending' : Services,
    (∀ question, gate.question (arrival.admitted freshId uri) route.auth = .ok question →
      (asking (Call.serverOf question.uri)).SameBelow config.auth.timeoutMs
        (asking' (Call.serverOf question.uri))) →
    (sending (Call.hostPort route.target.authority)).SameBelow (1000 * config.timeouts.serverSecs)
      (sending' (Call.hostPort route.target.authority)) →
    gate.delays ((arrival.admitted freshId uri).withServices asking sending) route <
      1000 * config.timeouts.requestSecs →
    gate.delays ((arrival.admitted freshId uri).withServices asking' sending') route <
      1000 * config.timeouts.requestSecs →
    (gate.exchange freshId (arrival.withServices asking sending)).Agrees
      (gate.exchange freshId (arrival.withServices asking' sending'))
  prompt : ∀ asking sending : Services,
    (∀ question, gate.question (arrival.admitted freshId uri) route.auth = .ok question →
      (asking (Call.serverOf question.uri)).delay < config.auth.timeoutMs) →
    (sending (Call.hostPort route.target.authority)).delay < 1000 * config.timeouts.serverSecs →
    gate.delays ((arrival.admitted freshId uri).withServices asking sending) route <
      1000 * config.timeouts.requestSecs →
    (gate.exchange freshId (arrival.withServices asking sending)).Agrees
      (gate.exchange freshId (arrival.withServices asking.prompt sending.prompt))

private theorem keepsTime {uri : Uri} (built : Gate.ofConfig config = .ok gate)
    (freshId : HeaderValue)
    (normal : arrival.request.uri.normalize = .ok uri)
    (found : gate.table.find? uri.path = some route) :
    KeepsTime config gate freshId uri route arrival := by
  have asks := introspector_limit built
  have sends := server_limit built
  have inTime {elapsed : Nat} (soon : elapsed < 1000 * config.timeouts.requestSecs) :
      gate.isLate elapsed = false := (isLate_eq_false_iff built).mpr soon
  constructor
  case unanswered =>
    intro late lateOn closed closedOn question reply delay posed given overdue closes timely
    exact agrees_of_unheard normal found posed given (by omega) closes (inTime (by omega))
  case undelivered =>
    intro asking late closed reply delay given overdue closes soon admitted timely
    exact undelivered normal found given (by omega) closes (by omega) (inTime timely)
  case invisible =>
    intro asking asking' sending sending' same sameOn timely timely'
    exact agrees_of_sameBelow normal found asks sends same sameOn (inTime timely) (inTime timely')
  case prompt =>
    intro asking sending soon soonOn timely
    have soonest : gate.delays ((arrival.admitted freshId uri).withServices asking.prompt
        sending.prompt) route < 1000 * config.timeouts.requestSecs := by
      rw [delays_prompt]
      omega
    exact agrees_of_sameBelow normal found asks sends
      (fun question posed => Service.sameBelow_prompt (soon question posed))
      (Service.sameBelow_prompt soonOn) (inTime timely) (inTime soonest)

/-- What holds of the time that servers take for any arrival. Without a route it does not matter what
the servers do. -/
structure Punctual (config : GateConfig) (gate : Gate) (freshId : HeaderValue) (arrival : Arrival) :
    Prop where
  routed : ∀ uri route, arrival.request.uri.normalize = .ok uri →
    gate.table.find? uri.path = some route → KeepsTime config gate freshId uri route arrival
  unrouted : (∀ uri route, arrival.request.uri.normalize = .ok uri →
      gate.table.find? uri.path ≠ some route) →
    ∀ asking sending, gate.exchange freshId (arrival.withServices asking sending) =
      gate.exchange freshId arrival

/-- A timeout is as good as a closed connection, and a delay within its limit as none. -/
theorem exchange_punctual (built : Gate.ofConfig config = .ok gate) (freshId : HeaderValue)
    (arrival : Arrival) : Punctual config gate freshId arrival where
  routed uri route normal found := keepsTime built freshId normal found
  unrouted missing asking sending := by
    have handled : gate.handle ((arrival.withServices asking sending).admitted freshId
          arrival.request.uri) =
        gate.handle (arrival.admitted freshId arrival.request.uri) := by
      unfold handle
      simp only [Arrival.admitted, Arrival.withServices]
      cases normal : arrival.request.uri.normalize with
      | error cause => rfl
      | ok uri =>
        cases found : gate.table.find? uri.path with
        | none =>
          simp only [found]
          rfl
        | some route => exact absurd found (missing uri route normal)
    have same : (arrival.withServices asking sending).request = arrival.request := rfl
    rw [exchange_eq, exchange_eq, same]
    simp only [handled]
    rfl

/-- A client that is approved of and answered after some milliseconds each. -/
def delayed (asked sent : Nat) : Arrival where
  ip := .v4 0
  asking _ := .replies { response := .bare .ok, delay := asked }
  sending _ := .replies { response := .bare .ok, delay := sent }
  request := ⟨"GET", .origin ⟨"/a", none⟩, .empty, []⟩

theorem exchange_punctual_delayed : ∃ gate route, Gate.ofConfig .guarded = .ok gate ∧
    gate.table.find? "/a" = some route ∧
    (∀ asked sent, Punctual .guarded gate ⟨[69], rfl⟩ (delayed asked sent)) ∧
    [delayed 4999 29999, delayed 5000 0, delayed 0 30000, delayed 100000 0, delayed 0 100000].map
        (fun arrival => (gate.exchange ⟨[69], rfl⟩ arrival).response.status) =
      [.ok, .unauthorized, .gatewayTimeout, .unauthorized, .gatewayTimeout] := by
  have seen : ((Gate.ofConfig .guarded).toOption.bind fun gate => (gate.table.find? "/a").map fun _ =>
      [delayed 4999 29999, delayed 5000 0, delayed 0 30000, delayed 100000 0, delayed 0 100000].map
        fun arrival => (gate.exchange ⟨[69], rfl⟩ arrival).response.status) =
      some [.ok, .unauthorized, .gatewayTimeout, .unauthorized, .gatewayTimeout] := by
    decide +kernel
  obtain ⟨gate, route, built, found, statuses⟩ := built_of_seen seen
  exact ⟨gate, route, built, found, fun asked sent => exchange_punctual built _ _, statuses⟩

end Gate
end AuthGate
