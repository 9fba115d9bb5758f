import AuthGate.Proofs.Gate.Ending
import AuthGate.Proofs.Gate.Metric
import AuthGate.Proofs.Gate.Spelling
import AuthGate.Proofs.Uri.Path
import Mathlib.Algebra.Order.BigOperators.Group.List
import Mathlib.Algebra.Order.Group.Nat

/-! What is recorded and counted about the requests of a session. Each request that is settled in time
leaves one access record and adds one to one counter, both with what its client receives. A request
whose time runs out leaves neither, though a decision about it may have been counted. -/
namespace AuthGate

namespace Measure

/-- The name of the counters of finished requests. -/
def requestsTotal : String := "proxy_requests_total"

/-- The name of the counters of decisions. -/
def decisionsTotal : String := "proxy_auth_decisions_total"

/-- The counter of the requests that end alike. -/
def requestKey (route method : String) (status : Status) : MetricKey :=
  (requestsTotal, [("method", method), ("route", route), ("status", toString status.code)])

/-- The counter of the decisions that are alike. -/
def decisionKey (mode : AuthMode) (outcome : String) : MetricKey :=
  (decisionsTotal, [("mode", mode.label), ("outcome", outcome)])

end Measure

/-- An access record, and what it tells of a request: its method, its route where it has one, and the
status that it ends with. -/
structure LogRecord.TellsOf (record : LogRecord) (route method : String) (status : Status) : Prop where
  level : record.level = .info
  message : record.message ∈ ["Request completed", "No route matched", "Rejected request path"]
  method : record.values.lookup "method" = some (.text method)
  status : record.values.lookup "status" = some (.number status.code)
  route : (record.values.lookup "route").getD (.text Measure.noRoute) = .text route

namespace Event

private theorem tellsOf_rejected (entry : AccessEntry) (cause : PathError) :
    (rejected entry cause).record.TellsOf Measure.noRoute entry.method .badRequest := by
  constructor <;> simp [record, level, message, values, entryValues, statusValue, List.lookup_cons]

private theorem tellsOf_unrouted (entry : AccessEntry) :
    (unrouted entry).record.TellsOf Measure.noRoute entry.method .notFound := by
  constructor <;> simp [record, level, message, values, entryValues, statusValue, List.lookup_cons]

private theorem tellsOf_completed (entry : AccessEntry) (route outcome : String) (status : Status) :
    (completed entry route outcome status).record.TellsOf route entry.method status := by
  constructor <;> simp [record, level, message, values, entryValues, statusValue, List.lookup_cons]

end Event

namespace Exchange

/-- The records that are made for information. -/
def accessRecords (exchange : Exchange) : List LogRecord :=
  (exchange.events.map (·.record)).filter (·.level = .info)

/-- The counters with some name that are added to. -/
def counted (exchange : Exchange) (name : String) : List MetricKey :=
  (exchange.measures.map Metric.counterKey).filter (·.1 = name)

/-- One record and one counter account for a request, both with what its client receives. What has
been decided about it is what the record says. -/
structure AccountedBy (exchange : Exchange) (record : LogRecord) (route method : String) : Prop where
  recorded : exchange.accessRecords = [record]
  told : record.TellsOf route method exchange.response.status
  counted : exchange.counted Measure.requestsTotal =
    [Measure.requestKey route method exchange.response.status]
  decided : (exchange.counted Measure.decisionsTotal).length ≤ 1
  outcome : ∀ key ∈ exchange.counted Measure.decisionsTotal,
    (key.2.lookup "outcome").map LogValue.text = record.values.lookup "auth"

/-- Nothing accounts for a request but its response, and a decision about it where one was made. -/
structure Unaccounted (exchange : Exchange) : Prop where
  status : exchange.response.status = .requestTimeout
  recorded : exchange.events = []
  counted : exchange.counted Measure.requestsTotal = []
  decided : (exchange.counted Measure.decisionsTotal).length ≤ 1

variable {exchange : Exchange} {decision : Option (AuthMode × String)} {last : List Measure}

/-- What is counted is the decision, where one has been made, and what comes behind it. -/
theorem counted_eq (measures : exchange.measures =
      (decision.toList.map fun made => .decision made.1 made.2) ++ last) (name : String) :
    exchange.counted name =
      ((decision.toList.map fun made => Measure.decisionKey made.1 made.2).filter (·.1 = name)) ++
        (last.map Metric.counterKey).filter (·.1 = name) := by
  simp only [counted, measures, List.map_append, List.map_map, List.filter_append]
  rfl

theorem counted_decisions (measures : exchange.measures =
      (decision.toList.map fun made => .decision made.1 made.2) ++ last)
    (requests : ∀ measure ∈ last, (Metric.counterKey measure).1 ≠ Measure.decisionsTotal) :
    exchange.counted Measure.decisionsTotal =
      decision.toList.map fun made => Measure.decisionKey made.1 made.2 := by
  have none : (last.map Metric.counterKey).filter (·.1 = Measure.decisionsTotal) = [] := by
    simpa [List.filter_eq_nil_iff] using requests
  rw [counted_eq measures, none, List.append_nil]
  cases decision <;> simp [Measure.decisionKey]

theorem counted_requests (measures : exchange.measures =
      (decision.toList.map fun made => .decision made.1 made.2) ++ last) :
    exchange.counted Measure.requestsTotal =
      (last.map Metric.counterKey).filter (·.1 = Measure.requestsTotal) := by
  rw [counted_eq measures]
  cases decision <;> simp [Measure.decisionKey, Measure.decisionsTotal, Measure.requestsTotal]

private theorem countP_key {key : MetricKey} {name : String} (named : key.1 = name) :
    (exchange.measures.map Metric.counterKey).countP (· = key) =
      (exchange.counted name).countP (· = key) := by
  rw [counted, List.countP_filter]
  congr 1
  funext other
  by_cases same : other = key
  · simp [same, named]
  · simp [same]

/-- An exchange that ends with an access event is accounted for by the record of that. -/
theorem accountedBy_of_event {failures : List Event} {event : Event} {route method : String}
    (events : exchange.events = failures ++ [event])
    (failed : ∀ failure ∈ failures, failure.level ≠ .info)
    (measures : exchange.measures = (decision.toList.map fun made => .decision made.1 made.2) ++
      [.request route method exchange.response.status])
    (told : event.record.TellsOf route method exchange.response.status)
    (outcome : ∀ made, decision = some made →
      event.record.values.lookup "auth" = some (.text made.2)) :
    exchange.AccountedBy event.record route method := by
  have decisions := counted_decisions measures (by
    simp [Metric.counterKey, Measure.decisionsTotal])
  constructor
  case recorded =>
    have none : (failures.map (·.record)).filter (·.level = .info) = [] := by
      simpa [List.filter_eq_nil_iff, Event.record] using failed
    simp [accessRecords, events, none, told.level]
  case told => exact told
  case counted =>
    rw [counted_requests measures]
    simp [Metric.counterKey, Measure.requestKey, Measure.requestsTotal]
  case decided =>
    rw [decisions, List.length_map]
    cases decision <;> simp
  case outcome =>
    intro key member
    rw [decisions] at member
    cases decision with
    | none => cases member
    | some made =>
      rw [List.mem_singleton.mp member, outcome made rfl]
      rfl

end Exchange

namespace Gate

/-- The name that the route of a request is counted under. -/
def routeLabel (gate : Gate) (request : Request) : String :=
  ((gate.routeOf? request).map (·.name)).getD Measure.noRoute

/-- The milliseconds that the calls for a request take. Without a route none is made. -/
def spent (gate : Gate) (freshId : HeaderValue) (arrival : Arrival) : Nat :=
  match arrival.request.uri.normalize with
  | .error _ => 0
  | .ok uri =>
    match gate.table.find? uri.path with
    | none => 0
    | some route => gate.elapsed (arrival.admitted freshId uri) route

/-- The calls for a request take less time than it is given. -/
def isTimely (gate : Gate) (config : GateConfig) (freshId : HeaderValue) (arrival : Arrival) : Bool :=
  gate.spent freshId arrival < 1000 * config.timeouts.requestSecs

variable {config : GateConfig} {gate : Gate} {arrival : Arrival} {route : Route}
  {freshId : HeaderValue}

@[simp] theorem admitted_method (freshId : HeaderValue) (arrival : Arrival) (uri : Uri) :
    (arrival.admitted freshId uri).request.method = arrival.request.method := by
  simp only [Arrival.admitted, identify]
  split <;> rfl

private theorem level_warnings (gate : Gate) (arrival : Arrival) (route : Route) :
    ∀ failure ∈ gate.warnings arrival route, failure.level ≠ .info := by
  intro failure member
  unfold warnings at member
  split at member
  · cases member
  · unfold failureEvents at member
    split at member
    · cases member
    · rw [List.mem_singleton.mp member]
      simp [Event.level]
  · split at member
    · cases member
    · rw [List.mem_singleton.mp member]
      simp [Event.level]

/-- The decision that is counted, with its mode. -/
def made (gate : Gate) (arrival : Arrival) (route : Route) : Option (AuthMode × String) :=
  (gate.decision? arrival route).map fun decision => (route.auth, decision.label)

theorem decided_eq (gate : Gate) (arrival : Arrival) (route : Route) :
    gate.decided arrival route =
      (gate.made arrival route).toList.map fun made => .decision made.1 made.2 := by
  rw [decided, made]
  cases gate.decision? arrival route <;> rfl

private theorem accountedBy_completed {uri : Uri} (normal : arrival.request.uri.normalize = .ok uri)
    (found : gate.table.find? uri.path = some route)
    (timely : gate.isOverdue (arrival.admitted freshId uri) route = false) :
    ∃ record, (gate.exchange freshId arrival).AccountedBy record route.name arrival.request.method := by
  have exchanged := exchange_of_route freshId normal found
  simp only [handleRoute_eq, timely, Bool.false_eq_true, if_false, decided_eq] at exchanged
  have measures : (gate.exchange freshId arrival).measures =
      ((gate.made (arrival.admitted freshId uri) route).toList.map
        fun made => .decision made.1 made.2) ++
      [.request route.name arrival.request.method
        (gate.exchange freshId arrival).response.status] := by
    simp [exchanged, deliver_status]
  have told := Event.tellsOf_completed (arrival.admitted freshId uri).entry route.name
    (gate.label (arrival.admitted freshId uri) route)
    (gate.settled (arrival.admitted freshId uri) route).status
  have events := congrArg Exchange.events exchanged
  refine ⟨_, Exchange.accountedBy_of_event events (level_warnings gate _ route) measures ?_ ?_⟩
  · simpa [exchanged, deliver_status, Arrival.entry] using told
  · intro decision made
    obtain ⟨reached, decided, rfl⟩ := Option.map_eq_some_iff.mp made
    simp [Event.record, Event.values, Event.entryValues, List.lookup_cons, label, decided]

private theorem accountedBy_turnedAway {event : Event} {response : Response} {uri : Uri}
    (exchanged : gate.exchange freshId arrival =
      { turnAway (arrival.admitted freshId uri) event response with
        response := deliver (arrival.admitted freshId uri) response })
    (told : event.record.TellsOf Measure.noRoute (arrival.admitted freshId uri).entry.method
      response.status) :
    ∃ record, (gate.exchange freshId arrival).AccountedBy record Measure.noRoute
      arrival.request.method := by
  have measures : (gate.exchange freshId arrival).measures =
      ((none : Option (AuthMode × String)).toList.map fun made => .decision made.1 made.2) ++
      [.request Measure.noRoute arrival.request.method
        (gate.exchange freshId arrival).response.status] := by
    simp [exchanged, turnAway, deliver_status]
  have events : (gate.exchange freshId arrival).events = [] ++ [event] := by rw [exchanged]; rfl
  refine ⟨_, Exchange.accountedBy_of_event events (by simp) measures ?_ (by simp)⟩
  simpa [exchanged, deliver_status, Arrival.entry] using told

private theorem unaccounted_of_overdue {uri : Uri}
    (normal : arrival.request.uri.normalize = .ok uri)
    (found : gate.table.find? uri.path = some route)
    (overdue : gate.isOverdue (arrival.admitted freshId uri) route = true) :
    (gate.exchange freshId arrival).Unaccounted := by
  have exchanged := exchange_of_route freshId normal found
  simp only [handleRoute_eq, overdue, if_true, decided_eq] at exchanged
  have measures : (gate.exchange freshId arrival).measures =
      ((gate.made (arrival.admitted freshId uri) route).toList.map
        fun made => .decision made.1 made.2) ++ [] := by
    simp [exchanged]
  constructor
  case status => simp [exchanged, deliver_status, Response.bare]
  case recorded => rw [exchanged]
  case counted => rw [Exchange.counted_requests measures]; rfl
  case decided =>
    rw [Exchange.counted_decisions measures (by simp), List.length_map]
    cases gate.made (arrival.admitted freshId uri) route <;> simp

/-- The account of a request is complete if it is timely, and empty if it is not. -/
theorem account (built : Gate.ofConfig config = .ok gate) (target : arrival.request.uri.HasPath)
    (freshId : HeaderValue) :
    if gate.isTimely config freshId arrival then
      ∃ record, (gate.exchange freshId arrival).AccountedBy record
        (gate.routeLabel arrival.request) arrival.request.method
    else (gate.exchange freshId arrival).Unaccounted := by
  have given : 0 < config.timeouts.requestSecs :=
    GateConfig.requestSecs_pos (problems_of_ofConfig built)
  have absolute : Path.startsWith arrival.request.uri.path "/" = true := by
    obtain ⟨rest, chars⟩ := List.head?_eq_some_iff.mp target.rooted
    simp [Path.startsWith, chars]
  cases normal : arrival.request.uri.normalize with
  | error cause =>
    have timely : gate.isTimely config freshId arrival = true := by
      simp [isTimely, spent, normal, given]
    have label : gate.routeLabel arrival.request = Measure.noRoute := by
      simp [routeLabel, routeOf?, normal]
    rw [if_pos timely, label]
    exact accountedBy_turnedAway (exchange_of_malformed freshId absolute normal)
      (Event.tellsOf_rejected _ cause)
  | ok uri =>
    cases found : gate.table.find? uri.path with
    | none =>
      have timely : gate.isTimely config freshId arrival = true := by
        simp [isTimely, spent, normal, found, given]
      have label : gate.routeLabel arrival.request = Measure.noRoute := by
        simp [routeLabel, routeOf?, normal, found]
      rw [if_pos timely, label]
      exact accountedBy_turnedAway (exchange_of_no_route freshId normal found)
        (Event.tellsOf_unrouted _)
    | some route =>
      have label : gate.routeLabel arrival.request = route.name := by
        simp [routeLabel, routeOf?, normal, found]
      rw [label]
      cases overdue : gate.isOverdue (arrival.admitted freshId uri) route with
      | false =>
        have timely : gate.isTimely config freshId arrival = true := by
          simpa [isTimely, spent, normal, found] using (isLate_eq_false_iff built).mp overdue
        rw [if_pos timely]
        exact accountedBy_completed normal found overdue
      | true =>
        have late : ¬ gate.isTimely config freshId arrival = true := by
          simpa [isTimely, spent, normal, found] using (isLate_iff built).mp overdue
        rw [if_neg late]
        exact unaccounted_of_overdue normal found overdue

private theorem isTimely_of_limits (built : Gate.ofConfig config = .ok gate) (freshId : HeaderValue)
    (arrival : Arrival) (unhurried : config.auth.timeoutMs + 1000 * config.timeouts.serverSecs <
      1000 * config.timeouts.requestSecs) : gate.isTimely config freshId arrival = true := by
  have short : gate.spent freshId arrival ≤
      config.auth.timeoutMs + 1000 * config.timeouts.serverSecs := by
    unfold spent
    split
    · exact Nat.zero_le _
    · split
      · exact Nat.zero_le _
      · exact elapsed_le built _ _
  simp only [isTimely, decide_eq_true_eq]
  omega

private theorem counted_request (built : Gate.ofConfig config = .ok gate)
    (target : arrival.request.uri.HasPath) (freshId : HeaderValue) :
    (gate.exchange freshId arrival).counted Measure.requestsTotal =
      if gate.isTimely config freshId arrival then
        [Measure.requestKey (gate.routeLabel arrival.request) arrival.request.method
          (gate.exchange freshId arrival).response.status]
      else [] := by
  have account := account built target freshId
  split at account
  · rename_i timely
    obtain ⟨record, accounted⟩ := account
    rw [if_pos timely, accounted.counted]
  · rename_i late
    rw [if_neg late, account.counted]

private theorem counted_decision (built : Gate.ofConfig config = .ok gate)
    (target : arrival.request.uri.HasPath) (freshId : HeaderValue) :
    ((gate.exchange freshId arrival).counted Measure.decisionsTotal).length ≤ 1 := by
  have account := account built target freshId
  split at account
  · obtain ⟨record, accounted⟩ := account
    exact accounted.decided
  · exact account.decided

section Session

variable {arrivals : List Arrival} {select : MetricKey → Bool}

/-- What some counters show after a session is what its exchanges add to them. -/
theorem total_session (gate : Gate) (freshId : HeaderValue) (arrivals : List Arrival) :
    Metric.total select (metrics (gate.session freshId arrivals)) =
      (arrivals.map fun arrival =>
        ((gate.exchange freshId arrival).measures.map Metric.counterKey).countP select).sum := by
  rw [metrics, Metric.total_ofMeasures]
  induction arrivals with
  | nil => rfl
  | cons arrival rest ih =>
    simp only [session, List.map_cons, List.flatMap_cons, List.map_append, List.countP_append,
      List.sum_cons] at ih ⊢
    rw [ih]

private theorem total_name (gate : Gate) (freshId : HeaderValue) (arrivals : List Arrival)
    (name : String) :
    Metric.total (·.1 = name) (metrics (gate.session freshId arrivals)) =
      (arrivals.map fun arrival => ((gate.exchange freshId arrival).counted name).length).sum := by
  rw [total_session]
  simp only [Exchange.counted, List.countP_eq_length_filter]

private theorem sum_eq_countP {weight : Arrival → Nat} {chosen : Arrival → Bool}
    (each : ∀ arrival ∈ arrivals, weight arrival = if chosen arrival then 1 else 0) :
    (arrivals.map weight).sum = arrivals.countP chosen := by
  induction arrivals with
  | nil => rfl
  | cons arrival rest ih =>
    rw [List.map_cons, List.sum_cons, ih fun other member => each other (List.mem_cons_of_mem _ member),
      each arrival List.mem_cons_self, List.countP_cons, Nat.add_comm]

end Session

/-- What is recorded and counted about the requests of a session. -/
structure Accounting (config : GateConfig) (gate : Gate) (freshId : HeaderValue)
    (arrivals : List Arrival) : Prop where
  accounted : ∀ arrival ∈ arrivals, gate.isTimely config freshId arrival = true →
    ∃ record, (gate.exchange freshId arrival).AccountedBy record
      (gate.routeLabel arrival.request) arrival.request.method
  unaccounted : ∀ arrival ∈ arrivals, gate.isTimely config freshId arrival = false →
    (gate.exchange freshId arrival).Unaccounted
  unhurried : config.auth.timeoutMs + 1000 * config.timeouts.serverSecs <
      1000 * config.timeouts.requestSecs →
    ∀ arrival ∈ arrivals, gate.isTimely config freshId arrival = true
  requests : Metric.total (·.1 = Measure.requestsTotal)
      (metrics (gate.session freshId arrivals)) =
    arrivals.countP (gate.isTimely config freshId)
  counters : ∀ key : MetricKey, key.1 = Measure.requestsTotal →
    Metric.total (· = key) (metrics (gate.session freshId arrivals)) =
      arrivals.countP fun arrival => gate.isTimely config freshId arrival &&
        Measure.requestKey (gate.routeLabel arrival.request) arrival.request.method
          (gate.exchange freshId arrival).response.status = key
  decisions : Metric.total (·.1 = Measure.decisionsTotal)
      (metrics (gate.session freshId arrivals)) ≤
    Metric.total (·.1 = Measure.requestsTotal)
        (metrics (gate.session freshId arrivals)) +
      arrivals.countP fun arrival => !gate.isTimely config freshId arrival

/-- Each request of a session has its record and adds to its counter, unless its time runs out. -/
theorem accounting {arrivals : List Arrival} (built : Gate.ofConfig config = .ok gate)
    (targets : ∀ arrival ∈ arrivals, arrival.request.uri.HasPath) (freshId : HeaderValue) :
    Accounting config gate freshId arrivals := by
  have requests : Metric.total (·.1 = Measure.requestsTotal)
      (metrics (gate.session freshId arrivals)) =
        arrivals.countP (gate.isTimely config freshId) := by
    rw [total_name]
    refine sum_eq_countP fun arrival member => ?_
    rw [counted_request built (targets arrival member)]
    split <;> rfl
  constructor
  case accounted =>
    intro arrival member timely
    simpa [timely] using account built (targets arrival member) freshId
  case unaccounted =>
    intro arrival member late
    simpa [late] using account built (targets arrival member) freshId
  case unhurried => exact fun unhurried arrival _ => isTimely_of_limits built freshId arrival unhurried
  case requests => exact requests
  case counters =>
    intro key named
    rw [total_session]
    refine sum_eq_countP fun arrival member => ?_
    rw [Exchange.countP_key named, counted_request built (targets arrival member)]
    cases gate.isTimely config freshId arrival with
    | true => simp [List.countP_singleton]
    | false => rfl
  case decisions =>
    have whole : arrivals.length = arrivals.countP (gate.isTimely config freshId) +
        arrivals.countP fun arrival => !gate.isTimely config freshId arrival := by
      simpa using List.length_eq_countP_add_countP (gate.isTimely config freshId)
    have few : ∀ count ∈ arrivals.map fun arrival =>
        ((gate.exchange freshId arrival).counted Measure.decisionsTotal).length, count ≤ 1 := by
      rw [List.forall_mem_map]
      exact fun arrival member => counted_decision built (targets arrival member) freshId
    rw [total_name, requests, ← whole]
    simpa using List.sum_le_card_nsmul _ 1 few

end Gate

/-- A gate with an authorized route that gives each request one second. -/
def GateConfig.hasty : GateConfig where
  routes := [{ pathBase := "/", server := "http://a", auth := .cookie }]
  introspection := { cookie := some "http://b" }
  timeouts := { requestSecs := 1 }

namespace Gate

/-- A request that is approved of at once, to a server that takes some milliseconds. -/
def patient (delay : Nat) : Arrival where
  ip := .v4 0
  asking _ := .replies { response := .bare .ok }
  sending _ := .replies { response := .bare .ok, delay := delay }
  request := { method := "GET", uri := .origin ⟨"/a", none⟩, headers := ⟨[]⟩, body := [] }

theorem hasPath_patient (delay : Nat) : (patient delay).request.uri.HasPath := by
  have parsed : Uri.parse "/a" = .ok (.origin ⟨"/a", none⟩) := by decide +kernel
  exact ⟨⟨"/a", parsed, by decide⟩, by simp [patient]⟩

theorem accounting_hasty : ∃ gate, Gate.ofConfig .hasty = .ok gate ∧
    (∀ arrival ∈ [patient 999, patient 1000], arrival.request.uri.HasPath) ∧
    Accounting .hasty gate ⟨[69], rfl⟩ [patient 999, patient 1000] ∧
    [patient 999, patient 1000].map (gate.isTimely .hasty ⟨[69], rfl⟩) = [true, false] := by
  have seen : ((Gate.ofConfig .hasty).toOption.bind fun gate => (gate.table.find? "/a").map fun _ =>
      [patient 999, patient 1000].map (gate.isTimely .hasty ⟨[69], rfl⟩)) =
        some [true, false] := by decide +kernel
  obtain ⟨gate, _, built, _, timely⟩ := built_of_seen seen
  have targets : ∀ arrival ∈ [patient 999, patient 1000], arrival.request.uri.HasPath := by
    simp [hasPath_patient]
  exact ⟨gate, built, targets, accounting built targets _, timely⟩

/-- A request that takes too long is approved of, and its client is told that its time is over. Neither is
there a record of it nor is it counted, while its decision is. -/
theorem accounting_unfinished : ∃ gate, Gate.ofConfig .hasty = .ok gate ∧
    (patient 1000).request.uri.HasPath ∧
    (gate.exchange ⟨[69], rfl⟩ (patient 1000)).response.status = .requestTimeout ∧
    (gate.exchange ⟨[69], rfl⟩ (patient 1000)).accessRecords = [] ∧
    Metric.total (·.1 = Measure.requestsTotal)
      (metrics (gate.session ⟨[69], rfl⟩ [patient 1000])) = 0 ∧
    Metric.total (·.1 = Measure.decisionsTotal)
      (metrics (gate.session ⟨[69], rfl⟩ [patient 1000])) = 1 := by
  have seen : ((Gate.ofConfig .hasty).toOption.bind fun gate => (gate.table.find? "/a").map fun _ =>
      let exchange := gate.exchange ⟨[69], rfl⟩ (patient 1000)
      (exchange.response.status, exchange.accessRecords, exchange.measures)) =
        some (.requestTimeout, [], [.decision .cookie "allow"]) := by decide +kernel
  obtain ⟨gate, _, built, _, same⟩ := built_of_seen seen
  obtain ⟨status, same⟩ := Prod.mk.inj same
  obtain ⟨records, measures⟩ := Prod.mk.inj same
  refine ⟨gate, built, hasPath_patient 1000, status, records, ?_, ?_⟩
  · simp only [total_session, List.map_cons, List.map_nil, measures]
    decide
  · simp only [total_session, List.map_cons, List.map_nil, measures]
    decide

end Gate
end AuthGate
