import AuthGate.Proofs.Gate.Assembly
import AuthGate.Proofs.Gate.Passage

/-! How a request on a route ends. Its time is that of the calls that are made for it. If that is over,
the client is told so, and all that is left of the request are its calls and what has been decided
about it; if it is not, the request is settled, recorded and counted. -/
namespace AuthGate

namespace Gate

/-- The milliseconds that the calls for a request take. -/
def elapsed (gate : Gate) (arrival : Arrival) (route : Route) : Nat :=
  match gate.verdict arrival route with
  | .late | .denied _ => (gate.asked arrival route).elapsed
  | .cleared grant =>
    (gate.asked arrival route).elapsed + (gate.send arrival route grant).2.elapsed

/-- The time of a request runs out before its response is there. -/
def isOverdue (gate : Gate) (arrival : Arrival) (route : Route) : Bool :=
  gate.isLate (gate.elapsed arrival route)

/-- What is decided about a request. Nothing is on a route without authorization, or when the time of
the request is over. -/
def decision? (gate : Gate) (arrival : Arrival) (route : Route) : Option Decision :=
  if route.auth.introspects && !gate.isLate (gate.asked arrival route).elapsed then
    some (.ofOutcome route.auth (gate.inquire arrival route.auth).1)
  else none

/-- The decision as it is counted. -/
def decided (gate : Gate) (arrival : Arrival) (route : Route) : List Measure :=
  (gate.decision? arrival route).toList.map fun decision => .decision route.auth decision.label

/-- The decision as it is recorded with the request. -/
def label (gate : Gate) (arrival : Arrival) (route : Route) : String :=
  ((gate.decision? arrival route).map Decision.label).getD "none"

/-- The failures of calls as they are recorded. -/
def warnings (gate : Gate) (arrival : Arrival) (route : Route) : List Event :=
  match gate.verdict arrival route with
  | .late => []
  | .denied _ => failureEvents route (gate.inquire arrival route.auth).1
  | .cleared grant =>
    match (gate.send arrival route grant).1 with
    | .ok _ => []
    | .error cause => [.forwardFailed route.name cause]

/-- The response to a request whose time does not run out. -/
def settled (gate : Gate) (arrival : Arrival) (route : Route) : Response :=
  match gate.verdict arrival route with
  | .late => .bare .requestTimeout
  | .denied denial => gate.deny arrival route (gate.inquire arrival route.auth).1 denial
  | .cleared grant =>
    match (gate.send arrival route grant).1 with
    | .ok response => response
    | .error cause => failure grant cause

variable {config : GateConfig} {gate : Gate} {arrival : Arrival} {route : Route}

theorem isLate_mono {sooner later : Nat} (order : sooner ≤ later)
    (late : gate.isLate sooner = true) : gate.isLate later = true := by
  simp only [isLate, decide_eq_true_eq] at late ⊢
  omega

/-- A request has as much time as the configuration says. -/
theorem isLate_iff (built : Gate.ofConfig config = .ok gate) {elapsed : Nat} :
    gate.isLate elapsed = true ↔ 1000 * config.timeouts.requestSecs ≤ elapsed := by
  have limit : gate.requestTimeout.micros = 1000000 * config.timeouts.requestSecs := by
    rw [(parts_of_ofConfig built).requestTimeout]
    rfl
  simp only [isLate, decide_eq_true_eq, limit]
  omega

theorem isLate_eq_false_iff (built : Gate.ofConfig config = .ok gate) {elapsed : Nat} :
    gate.isLate elapsed = false ↔ elapsed < 1000 * config.timeouts.requestSecs := by
  rw [← Bool.not_eq_true, isLate_iff built, Nat.not_le]

theorem asked_elapsed_le (gate : Gate) (arrival : Arrival) (route : Route) :
    (gate.asked arrival route).elapsed ≤ gate.elapsed arrival route := by
  cases verdict : gate.verdict arrival route with
  | late | denied _ => simp [elapsed, verdict]
  | cleared grant => simp [elapsed, verdict]

theorem asked_in_time (timely : gate.isOverdue arrival route = false) :
    gate.isLate (gate.asked arrival route).elapsed = false := by
  rw [← Bool.not_eq_true] at timely ⊢
  exact fun late => timely (isLate_mono (asked_elapsed_le gate arrival route) late)

theorem asked_elapsed_le_limit (gate : Gate) (arrival : Arrival) (route : Route) :
    (gate.asked arrival route).elapsed ≤ gate.introspector.timeout.micros / 1000 := by
  unfold asked
  split
  · cases posed : gate.question arrival route.auth with
    | error cause => simp [inquire_of_error posed]
    | ok question =>
      rw [inquire_of_question posed]
      exact Nat.min_le_right _ _
  · exact Nat.zero_le _

theorem send_elapsed_le (gate : Gate) (arrival : Arrival) (route : Route) (grant : Option Grant) :
    (gate.send arrival route grant).2.elapsed ≤ Services.waited gate.serverTimeout.micros
      (arrival.sending (Call.hostPort route.target.authority)).delay := by
  cases built : gate.outgoing arrival route grant with
  | error cause => simp [send_of_error built]
  | ok request => simp [send_of_outgoing built, Services.call, server_of_outgoing built]

theorem send_elapsed_le_limit (gate : Gate) (arrival : Arrival) (route : Route)
    (grant : Option Grant) :
    (gate.send arrival route grant).2.elapsed ≤ gate.serverTimeout.micros / 1000 :=
  Nat.le_trans (gate.send_elapsed_le arrival route grant) (Nat.min_le_right _ _)

/-- The calls for a request last no longer than both limits together. -/
theorem elapsed_le (built : Gate.ofConfig config = .ok gate) (arrival : Arrival) (route : Route) :
    gate.elapsed arrival route ≤ config.auth.timeoutMs + 1000 * config.timeouts.serverSecs := by
  have asks := introspector_limit built
  have sends := server_limit built
  have asked := gate.asked_elapsed_le_limit arrival route
  cases verdict : gate.verdict arrival route with
  | late | denied _ =>
    simp only [elapsed, verdict]
    omega
  | cleared grant =>
    have sent := gate.send_elapsed_le_limit arrival route grant
    simp only [elapsed, verdict]
    omega

theorem inquire_records (gate : Gate) (arrival : Arrival) (mode : AuthMode) :
    (gate.inquire arrival mode).2.events = [] ∧ (gate.inquire arrival mode).2.measures = [] := by
  cases posed : gate.question arrival mode with
  | error cause => simp [inquire_of_error posed]
  | ok question => simp [inquire_of_question posed]

theorem forward_eq (gate : Gate) (arrival : Arrival) (route : Route) (grant : Option Grant)
    (progress : Progress) :
    gate.forward arrival route grant progress =
      let sent := gate.send arrival route grant
      let calls := progress.calls ++ sent.2.calls
      if gate.isLate (progress.elapsed + sent.2.elapsed) then
        ⟨.bare .requestTimeout, calls, progress.events, progress.measures⟩
      else
        let (response, failed) := match sent.1 with
          | .ok response => (response, [])
          | .error cause => (failure grant cause, [Event.forwardFailed route.name cause])
        let label := if grant.isSome then "allow" else "none"
        ⟨response, calls,
          progress.events ++ failed ++
            [.completed arrival.entry route.name label response.status],
          progress.measures ++ [.request route.name arrival.request.method response.status]⟩ := by
  rcases sending : gate.send arrival route grant with ⟨outcome, sent⟩
  by_cases late : gate.isLate (progress.elapsed + sent.elapsed) = true
  · simp [forward, sending, late, Progress.finish]
  · cases outcome <;> simp [forward, sending, late, complete]

/-- The one account of a request on a route. -/
theorem handleRoute_eq (gate : Gate) (arrival : Arrival) (route : Route) :
    gate.handleRoute arrival route =
      let calls := (gate.asked arrival route).calls ++ gate.sent arrival route
      if gate.isOverdue arrival route then
        ⟨.bare .requestTimeout, calls, [], gate.decided arrival route⟩
      else
        let response := gate.settled arrival route
        ⟨response, calls,
          gate.warnings arrival route ++
            [.completed arrival.entry route.name (gate.label arrival route) response.status],
          gate.decided arrival route ++
            [.request route.name arrival.request.method response.status]⟩ := by
  cases introspects : route.auth.introspects with
  | false =>
    have asked := asked_of_open gate arrival introspects
    have verdict : gate.verdict arrival route = .cleared none := verdict_of_open introspects
    have undecided : gate.decision? arrival route = none := by simp [decision?, introspects]
    simp only [handleRoute, introspects, forward_eq, isOverdue, elapsed, sent, settled, warnings,
      decided, label, asked, verdict, undecided]
    cases (gate.send arrival route none).1 <;> rfl
  | true =>
    have asked := asked_of_introspects gate arrival introspects
    rcases inquiry : gate.inquire arrival route.auth with ⟨outcome, progress⟩
    rw [inquiry] at asked
    obtain ⟨noEvents, noMeasures⟩ : progress.events = [] ∧ progress.measures = [] := by
      simpa [inquiry] using inquire_records gate arrival route.auth
    by_cases late : gate.isLate progress.elapsed = true
    · have verdict : gate.verdict arrival route = .late := by
        simp [Gate.verdict, introspects, asked, late]
      have undecided : gate.decision? arrival route = none := by
        simp [decision?, introspects, asked, late]
      simp [handleRoute, introspects, authorize, inquiry, late, Progress.finish, isOverdue, elapsed,
        sent, decided, asked, verdict, undecided, noEvents, noMeasures]
    · have made : gate.decision? arrival route = some (.ofOutcome route.auth outcome) := by
        simp [decision?, introspects, asked, late, inquiry]
      cases answered : Decision.ofOutcome route.auth outcome with
      | deny denial =>
        have verdict : gate.verdict arrival route = .denied denial := by
          simp [Gate.verdict, introspects, asked, late, inquiry, answered]
        simp [handleRoute, introspects, authorize, inquiry, late, answered, complete, isOverdue,
          elapsed, sent, settled, warnings, decided, label, asked, verdict, made]
      | allow grant =>
        have verdict : gate.verdict arrival route = .cleared (some grant) := by
          simp [Gate.verdict, introspects, asked, late, inquiry, answered]
        obtain ⟨reply, rfl, _⟩ := Decision.ofOutcome_allow answered
        simp only [handleRoute, introspects, authorize, inquiry, late, answered, failureEvents,
          forward_eq, isOverdue, elapsed, sent, settled, warnings, decided, label, asked, verdict,
          made]
        cases (gate.send arrival route (some grant)).1 <;> rfl

theorem answer_of_overdue (late : gate.isOverdue arrival route = true) :
    gate.answer arrival route = .bare .requestTimeout := by
  rw [← (handleRoute_spec gate arrival route).2, handleRoute_eq]
  simp [late]

theorem answer_of_inTime (timely : gate.isOverdue arrival route = false) :
    gate.answer arrival route = gate.settled arrival route := by
  rw [← (handleRoute_spec gate arrival route).2, handleRoute_eq]
  simp [timely]

end Gate
end AuthGate
