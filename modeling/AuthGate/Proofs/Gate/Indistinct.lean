import AuthGate.Proofs.Gate.Passage
import AuthGate.Proofs.Header.Fields

/-! Arrivals that a gate cannot tell apart on a route: if the introspection service says the same
about both and both are sent on as the same request, then the server of the route gets the same
calls and both clients get the same response. -/
namespace AuthGate

/-- Where a request goes and by which method. -/
def Request.destination (request : Request) : Uri × String := (request.uri, request.method)

namespace Arrival

variable {names : List HeaderName} {left right : Arrival}

/-- Two arrivals that differ at most in fields of the given names. -/
structure SameBeyond (names : List HeaderName) (left right : Arrival) : Prop where
  ip : left.ip = right.ip
  asking : left.asking = right.asking
  sending : left.sending = right.sending
  method : left.request.method = right.request.method
  uri : left.request.uri = right.request.uri
  body : left.request.body = right.request.body
  headers : left.request.headers.AgreeBeyond names right.request.headers

namespace SameBeyond

theorem requestId? (same : left.SameBeyond names right) (beyond : .requestId ∉ names) :
    left.requestId? = right.requestId? :=
  same.headers.first? beyond

theorem entry (same : left.SameBeyond names right) (beyond : .requestId ∉ names) :
    left.entry = right.entry := by
  simp only [Arrival.entry, same.requestId? beyond, same.method, same.uri]

theorem admitted (same : left.SameBeyond names right) (beyond : .requestId ∉ names)
    (freshId : HeaderValue) (uri : Uri) :
    (left.admitted freshId uri).SameBeyond names (right.admitted freshId uri) := by
  have requestId := same.requestId? beyond
  unfold Arrival.requestId? at requestId
  unfold Arrival.admitted Gate.identify
  rw [requestId]
  cases right.request.headers.first? .requestId with
  | none =>
    exact ⟨same.ip, same.asking, same.sending, same.method, rfl, same.body,
      same.headers.insert _ _⟩
  | some id => exact ⟨same.ip, same.asking, same.sending, same.method, rfl, same.body, same.headers⟩

end SameBeyond
end Arrival

namespace Gate

variable {gate : Gate} {route : Route} {left right : Arrival}

/-- All that the passage of an arrival depends on is the same for both. -/
structure Indistinct (gate : Gate) (route : Route) (left right : Arrival) : Prop where
  sending : left.sending = right.sending
  method : left.request.method = right.request.method
  requestId : left.requestId? = right.requestId?
  requestedUri : gate.requestedUri left.request = gate.requestedUri right.request
  heard : (gate.inquire left route.auth).1 = (gate.inquire right route.auth).1
  elapsed : (gate.asked left route).elapsed = (gate.asked right route).elapsed
  outgoing : ∀ grant, gate.outgoing left route grant = gate.outgoing right route grant

namespace Indistinct

theorem send (same : Indistinct gate route left right) (grant : Option Grant) :
    gate.send left route grant = gate.send right route grant := by
  have outgoing := same.outgoing grant
  cases built : gate.outgoing right route grant with
  | error cause => rw [send_of_error (outgoing.trans built), send_of_error built]
  | ok request =>
    rw [send_of_outgoing (outgoing.trans built), send_of_outgoing built, same.sending]

theorem verdict (same : Indistinct gate route left right) :
    gate.verdict left route = gate.verdict right route := by
  simp only [Gate.verdict, same.heard, same.elapsed]

theorem sent (same : Indistinct gate route left right) :
    gate.sent left route = gate.sent right route := by
  simp only [Gate.sent, same.verdict, same.send]

theorem answer (same : Indistinct gate route left right) :
    gate.answer left route = gate.answer right route := by
  simp only [Gate.answer, Gate.outcome, deny, same.verdict, same.send, same.elapsed, same.heard,
    same.requestedUri]

theorem deliver (same : Indistinct gate route left right) (response : Response) :
    Gate.deliver left response = Gate.deliver right response := by
  simp only [Gate.deliver, same.requestId, same.method]

end Indistinct

/-- Questions to the same place by the same method get the same reply, whatever their fields and
bodies are. -/
theorem inquire_congr {mode : AuthMode} (services : left.asking = right.asking)
    (same : (gate.question left mode).map Request.destination =
      (gate.question right mode).map Request.destination) :
    (gate.inquire left mode).1 = (gate.inquire right mode).1 ∧
      (gate.inquire left mode).2.elapsed = (gate.inquire right mode).2.elapsed := by
  cases leftPosed : gate.question left mode with
  | error cause =>
    cases rightPosed : gate.question right mode with
    | error other =>
      have causes : cause = other := by simpa [leftPosed, rightPosed, Except.map] using same
      rw [inquire_of_error leftPosed, inquire_of_error rightPosed, causes]
      exact ⟨rfl, rfl⟩
    | ok other => simp [leftPosed, rightPosed, Except.map] at same
  | ok question =>
    cases rightPosed : gate.question right mode with
    | error other => simp [leftPosed, rightPosed, Except.map] at same
    | ok other =>
      obtain ⟨uri, method⟩ : question.uri = other.uri ∧ question.method = other.method := by
        simpa [leftPosed, rightPosed, Except.map, Request.destination] using same
      obtain ⟨result, elapsed⟩ :=
        Services.call_congr right.asking gate.introspector.timeout.micros uri method
      rw [inquire_of_question leftPosed, inquire_of_question rightPosed, services]
      exact ⟨by simp only [heard, result], elapsed⟩

/-- Arrivals with the same log entry that ask and are sent on alike are handled alike. -/
theorem handleRoute_congr (inquired : gate.inquire left route.auth = gate.inquire right route.auth)
    (sends : ∀ grant, gate.send left route grant = gate.send right route grant)
    (entry : left.entry = right.entry) (method : left.request.method = right.request.method)
    (requestedUri : gate.requestedUri left.request = gate.requestedUri right.request) :
    gate.handleRoute left route = gate.handleRoute right route := by
  simp only [handleRoute, authorize, forward, complete, deny, inquired, sends, entry, method,
    requestedUri]

theorem exchange_eq (gate : Gate) (freshId : HeaderValue) (arrival : Arrival) :
    gate.exchange freshId arrival =
      let admitted := arrival.admitted freshId arrival.request.uri
      let handled := if Path.startsWith arrival.request.uri.path "/" then gate.handle admitted
        else ⟨.bare .notFound, [], [], []⟩
      { handled with response := deliver admitted handled.response } := by
  have admitted : arrival.admitted freshId arrival.request.uri =
      { arrival with request := identify freshId arrival.request } := by
    rw [Arrival.admitted, ← identify_uri freshId arrival.request]
  rw [admitted]
  simp only [exchange, deliver, identify_uri]

/-- Arrivals that differ at most in some fields have the same exchange if every route handles them
alike. -/
theorem exchange_of_sameBeyond {names : List HeaderName} (freshId : HeaderValue)
    (same : left.SameBeyond names right) (beyond : .requestId ∉ names)
    (routed : ∀ uri route, right.request.uri.normalize = .ok uri →
      gate.table.find? uri.path = some route →
      gate.handleRoute (left.admitted freshId uri) route =
        gate.handleRoute (right.admitted freshId uri) route) :
    gate.exchange freshId left = gate.exchange freshId right := by
  have admitted := same.admitted beyond freshId right.request.uri
  have entry := admitted.entry beyond
  have method := admitted.method
  have delivered : ∀ response, deliver (left.admitted freshId right.request.uri) response =
      deliver (right.admitted freshId right.request.uri) response := by
    intro response
    simp only [deliver, admitted.requestId? beyond, method]
  have handled : gate.handle (left.admitted freshId right.request.uri) =
      gate.handle (right.admitted freshId right.request.uri) := by
    have uris (arrival : Arrival) :
        (arrival.admitted freshId right.request.uri).request.uri = right.request.uri := rfl
    cases normal : right.request.uri.normalize with
    | error cause => simp only [handle, uris, normal, turnAway, entry, method]
    | ok uri =>
      have again (arrival : Arrival) :
          { arrival.admitted freshId right.request.uri with
            request := { (arrival.admitted freshId right.request.uri).request with uri := uri } } =
          arrival.admitted freshId uri := rfl
      simp only [handle, uris, normal, again]
      cases found : gate.table.find? uri.path with
      | none =>
        have entry := (same.admitted beyond freshId uri).entry beyond
        have method := (same.admitted beyond freshId uri).method
        simp only [turnAway, entry, method]
      | some route => exact routed uri route normal found
  rw [exchange_eq, exchange_eq, same.uri]
  simp only [handled, delivered]

end Gate
end AuthGate
