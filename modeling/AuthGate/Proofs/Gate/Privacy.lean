import AuthGate.Proofs.Gate.Ending

/-! What the introspection service says stays with the gate. Beyond the class of a reply and the few
fields that its mode makes use of, neither the client nor the server of the route can tell one reply
from another. -/
namespace AuthGate

/-- What a reply means: approval, a refusal, or anything else. -/
inductive ReplyKind where
  | approval
  | refusal
  | other
  deriving DecidableEq, Repr

namespace IntrospectionReply

def kind (reply : IntrospectionReply) : ReplyKind :=
  if reply.status = .ok then .approval
  else if reply.status = .forbidden then .refusal
  else .other

/-- Two replies of one kind that agree in the fields that the mode makes use of. -/
structure Alike (mode : AuthMode) (left right : IntrospectionReply) : Prop where
  kind : left.kind = right.kind
  identity : left.kind = .approval →
    left.headers.first? .authorization = right.headers.first? .authorization ∧
      left.headers.first? .cookie = right.headers.first? .cookie
  session : left.kind = .approval → mode = .cookieAnonymous →
    left.headers.values .setCookie = right.headers.values .setCookie
  challenge : left.kind = .other → mode = .m2m →
    left.headers.first? .wwwAuthenticate = right.headers.first? .wwwAuthenticate

end IntrospectionReply

/-- A reply as the gate hears it. -/
def Reply.heard (reply : Reply) : IntrospectionReply := ⟨reply.response.status, reply.response.headers⟩

/-- What is made of a reply depends on its kind, and on what it grants if it approves. -/
theorem Decision.ofOutcome_ok (mode : AuthMode) (reply : IntrospectionReply) :
    Decision.ofOutcome mode (.ok reply) =
      match reply.kind with
      | .approval => .allow (.ofReply mode reply.headers)
      | .refusal => .deny .forbidden
      | .other => .deny .unauthenticated := by
  unfold Decision.ofOutcome IntrospectionReply.kind
  by_cases approved : reply.status = .ok
  · simp [approved]
  · by_cases refused : reply.status = .forbidden
    · have different : Status.forbidden ≠ .ok := by decide
      simp [refused, different]
    · simp [approved, refused]

private theorem Grant.ofReply_congr {mode : AuthMode} {left right : IntrospectionReply}
    (alike : left.Alike mode right) (approves : left.kind = .approval) :
    Grant.ofReply mode left.headers = .ofReply mode right.headers := by
  obtain ⟨authorization, cookie⟩ := alike.identity approves
  unfold Grant.ofReply
  cases anonymous : mode.isAnonymous with
  | false => simp [authorization, cookie]
  | true =>
    have session := alike.session approves (by simpa [AuthMode.isAnonymous] using anonymous)
    simp [authorization, cookie, session]

namespace IntrospectionReply.Alike

variable {route : Route} {left right : IntrospectionReply}

private theorem decision (alike : left.Alike route.auth right) :
    Decision.ofOutcome route.auth (.ok left) = .ofOutcome route.auth (.ok right) := by
  rw [Decision.ofOutcome_ok, Decision.ofOutcome_ok, ← alike.kind]
  cases kind : left.kind with
  | approval => simp only [Grant.ofReply_congr alike kind]
  | refusal => rfl
  | other => rfl

private theorem deny (alike : left.Alike route.auth right) (gate : Gate) (arrival : Arrival)
    {denial : Denial} (denied : Decision.ofOutcome route.auth (.ok left) = .deny denial) :
    gate.deny arrival route (.ok left) denial = gate.deny arrival route (.ok right) denial := by
  unfold Gate.deny
  split
  · rename_i machine
    rw [Decision.ofOutcome_ok] at denied
    cases kind : left.kind with
    | approval =>
      rw [kind] at denied
      cases denied
    | refusal =>
      rw [kind] at denied
      cases denied
      rfl
    | other =>
      have challenge := alike.challenge kind (by simpa [AuthMode.isMachine] using machine)
      simp only [challenge?, challenge]
  · rfl

end IntrospectionReply.Alike

/-- The same request with other servers around the gate. -/
def Arrival.withServices (arrival : Arrival) (asking sending : Services) : Arrival :=
  { arrival with asking := asking, sending := sending }

namespace Gate

/-- What follows on a route with authorization when the introspection service has been asked. -/
def settle (gate : Gate) (arrival : Arrival) (route : Route) (outcome : IntrospectionOutcome)
    (asked : Progress) : Exchange :=
  if gate.isLate asked.elapsed then asked.finish (.bare .requestTimeout)
  else
    let progress := { asked with
      events := failureEvents route outcome
      measures := [.decision route.auth (Decision.ofOutcome route.auth outcome).label] }
    match Decision.ofOutcome route.auth outcome with
    | .deny denial =>
      complete arrival route (Decision.deny denial).label (gate.deny arrival route outcome denial)
        progress
    | .allow grant => gate.forward arrival route (some grant) progress

/-- The time of a request has not run out when its response is there. -/
structure InTime (gate : Gate) (arrival : Arrival) (route : Route) (outcome : IntrospectionOutcome)
    (asked : Progress) : Prop where
  asking : gate.isLate asked.elapsed = false
  sending : ∀ grant, Decision.ofOutcome route.auth outcome = .allow grant →
    gate.isLate (asked.elapsed + (gate.send arrival route (some grant)).2.elapsed) = false

variable {config : GateConfig} {gate : Gate} {arrival : Arrival} {route : Route}

private theorem authorize_eq (gate : Gate) (arrival : Arrival) (route : Route) :
    gate.authorize arrival route =
      gate.settle arrival route (gate.inquire arrival route.auth).1
        (gate.inquire arrival route.auth).2 := by
  rcases inquiry : gate.inquire arrival route.auth with ⟨outcome, asked⟩
  simp only [authorize, settle, inquiry]
  cases Decision.ofOutcome route.auth outcome <;> rfl

private theorem settle_denied {outcome : IntrospectionOutcome} {asked : Progress} {denial : Denial}
    (timely : gate.InTime arrival route outcome asked)
    (denied : Decision.ofOutcome route.auth outcome = .deny denial) :
    (gate.settle arrival route outcome asked).response = gate.deny arrival route outcome denial ∧
      (gate.settle arrival route outcome asked).calls = asked.calls := by
  simp [settle, timely.asking, denied, complete]

private theorem settle_allowed {outcome : IntrospectionOutcome} {asked : Progress} {grant : Grant}
    (timely : gate.InTime arrival route outcome asked)
    (allowed : Decision.ofOutcome route.auth outcome = .allow grant) :
    (gate.settle arrival route outcome asked).response =
        (match (gate.send arrival route (some grant)).1 with
        | .ok response => response
        | .error cause => failure (some grant) cause) ∧
      (gate.settle arrival route outcome asked).calls =
        asked.calls ++ (gate.send arrival route (some grant)).2.calls := by
  have notLate := timely.sending grant allowed
  rcases sending : gate.send arrival route (some grant) with ⟨result, sent⟩
  rw [sending] at notLate
  cases result <;> simp [settle, timely.asking, allowed, forward, sending, notLate, complete]

private theorem settle_of_alike {first second : IntrospectionReply}
    {firstAsked secondAsked : Progress}
    (alike : first.Alike route.auth second)
    (firstTimely : gate.InTime arrival route (.ok first) firstAsked)
    (secondTimely : gate.InTime arrival route (.ok second) secondAsked) :
    (gate.settle arrival route (.ok first) firstAsked).response =
        (gate.settle arrival route (.ok second) secondAsked).response ∧
      ∃ sent, (gate.settle arrival route (.ok first) firstAsked).calls = firstAsked.calls ++ sent ∧
        (gate.settle arrival route (.ok second) secondAsked).calls = secondAsked.calls ++ sent := by
  have decision := alike.decision
  cases decided : Decision.ofOutcome route.auth (.ok first) with
  | deny denial =>
    obtain ⟨firstResponse, firstCalls⟩ := settle_denied firstTimely decided
    obtain ⟨secondResponse, secondCalls⟩ := settle_denied secondTimely (decision ▸ decided)
    rw [firstResponse, secondResponse, firstCalls, secondCalls]
    exact ⟨alike.deny gate arrival decided, [], by simp, by simp⟩
  | allow grant =>
    obtain ⟨firstResponse, firstCalls⟩ := settle_allowed firstTimely decided
    obtain ⟨secondResponse, secondCalls⟩ := settle_allowed secondTimely (decision ▸ decided)
    rw [firstResponse, secondResponse, firstCalls, secondCalls]
    exact ⟨rfl, _, rfl, rfl⟩

private theorem settle_withServices (asking : Services) (outcome : IntrospectionOutcome)
    (asked : Progress) :
    gate.settle (arrival.withServices asking arrival.sending) route outcome asked =
      gate.settle arrival route outcome asked := rfl

private theorem InTime.of_withServices {asking : Services} {outcome : IntrospectionOutcome}
    {asked : Progress}
    (timely : gate.InTime (arrival.withServices asking arrival.sending) route outcome asked) :
    gate.InTime arrival route outcome asked :=
  ⟨timely.asking, timely.sending⟩

private theorem exchange_settles {uri : Uri} (freshId : HeaderValue)
    (normal : arrival.request.uri.normalize = .ok uri)
    (found : gate.table.find? uri.path = some route) (guarded : route.auth ≠ .none) :
    gate.exchange freshId arrival =
      let admitted := arrival.admitted freshId uri
      let settled := gate.settle admitted route (gate.inquire admitted route.auth).1
        (gate.inquire admitted route.auth).2
      { settled with response := deliver admitted settled.response } := by
  rw [exchange_of_route freshId normal found]
  simp only [handleRoute, introspects_of_ne guarded, if_true, authorize_eq]

/-- The service answers a question with a reply before the configured time is over, and the time of the
whole request does not run out either. -/
structure Answered (config : GateConfig) (gate : Gate) (arrival : Arrival) (route : Route)
    (question : Request) (reply : Reply) : Prop where
  posed : gate.question arrival route.auth = .ok question
  given : arrival.asking (Call.serverOf question.uri) = .replies reply
  timely : reply.delay < config.auth.timeoutMs
  inTime : gate.InTime arrival route (.ok reply.heard)
    { calls := [.ofRequest question]
      elapsed := min (reply.delay + reply.drain) config.auth.timeoutMs }

private theorem inquire_of_answered {question : Request} {reply : Reply}
    (built : Gate.ofConfig config = .ok gate)
    (answered : Answered config gate arrival route question reply) :
    gate.inquire arrival route.auth =
      (.ok reply.heard,
        { calls := [.ofRequest question]
          elapsed := min (reply.delay + reply.drain) config.auth.timeoutMs }) := by
  have limit := introspector_limit built
  have timely := answered.timely
  have whole : 1000 * config.auth.timeoutMs / 1000 = config.auth.timeoutMs := by omega
  have inquiry := inquire_of_reply answered.posed answered.given (by omega)
  rwa [Services.waited, limit, whole] at inquiry

/-- What holds of the exchange on a route with authorization: what follows upon replies that are
alike is the same, whatever the servers around the gate do, and so is the whole exchange when the
service gives one of them instead of the other. -/
structure KeepsPrivate (config : GateConfig) (gate : Gate) (route : Route) (freshId : HeaderValue)
    (uri : Uri) (arrival : Arrival) : Prop where
  settles : gate.exchange freshId arrival =
    let admitted := arrival.admitted freshId uri
    let settled := gate.settle admitted route (gate.inquire admitted route.auth).1
      (gate.inquire admitted route.auth).2
    { settled with response := deliver admitted settled.response }
  settled : ∀ (first second : IntrospectionReply) (firstAsked secondAsked : Progress),
    first.Alike route.auth second →
    gate.InTime (arrival.admitted freshId uri) route (.ok first) firstAsked →
    gate.InTime (arrival.admitted freshId uri) route (.ok second) secondAsked →
    let settled := gate.settle (arrival.admitted freshId uri) route
    (settled (.ok first) firstAsked).response = (settled (.ok second) secondAsked).response ∧
      ∃ sent, (settled (.ok first) firstAsked).calls = firstAsked.calls ++ sent ∧
        (settled (.ok second) secondAsked).calls = secondAsked.calls ++ sent
  exchanged : ∀ (asking : Services) (question : Request) (first second : Reply),
    let other := arrival.withServices asking arrival.sending
    first.heard.Alike route.auth second.heard →
    Answered config gate (arrival.admitted freshId uri) route question first →
    Answered config gate (other.admitted freshId uri) route question second →
    (gate.exchange freshId arrival).calls = (gate.exchange freshId other).calls ∧
      (gate.exchange freshId arrival).response = (gate.exchange freshId other).response

/-- A gate keeps to itself what the service says beyond its verdict. -/
theorem exchange_keepsPrivate {uri : Uri} (built : Gate.ofConfig config = .ok gate)
    (freshId : HeaderValue) (normal : arrival.request.uri.normalize = .ok uri)
    (found : gate.table.find? uri.path = some route) (guarded : route.auth ≠ .none) :
    KeepsPrivate config gate route freshId uri arrival where
  settles := exchange_settles freshId normal found guarded
  settled _ _ _ _ alike firstTimely secondTimely := settle_of_alike alike firstTimely secondTimely
  exchanged asking question first second := by
    intro other alike firstAnswered secondAnswered
    have admitted : other.admitted freshId uri = (arrival.admitted freshId uri).withServices asking
        (arrival.admitted freshId uri).sending := rfl
    have normalAgain : other.request.uri.normalize = .ok uri := normal
    have again := exchange_settles freshId normalAgain found guarded
    simp only [inquire_of_answered built secondAnswered] at again
    rw [admitted] at secondAnswered again
    rw [settle_withServices] at again
    obtain ⟨response, sent, firstCalls, secondCalls⟩ :=
      settle_of_alike alike firstAnswered.inTime secondAnswered.inTime.of_withServices
    rw [again, exchange_settles freshId normal found guarded]
    simp only [inquire_of_answered built firstAnswered]
    refine ⟨firstCalls.trans secondCalls.symm, ?_⟩
    rw [response]
    rfl

/-- A client that is approved of with some fields and then waits in vain for the server of the route. -/
def visitor (fields : Headers) : Arrival where
  ip := .v4 0
  asking _ := .replies { response := ⟨.ok, fields, .empty⟩ }
  sending _ := .replies { response := .bare .ok, delay := 100000 }
  request := ⟨"GET", .origin ⟨"/a", none⟩, .empty, []⟩

/-- An approval with a session and a remark that are not for the client. -/
def remarks : Headers := ⟨[(.setCookie, ⟨[115], rfl⟩), (.contentType, ⟨[116], rfl⟩)]⟩

theorem exchange_keepsPrivate_remarks : ∃ gate route, Gate.ofConfig .guarded = .ok gate ∧
    gate.table.find? "/a" = some route ∧ route.auth ≠ .none ∧
    KeepsPrivate .guarded gate route ⟨[69], rfl⟩ (.origin ⟨"/a", none⟩) (visitor .empty) ∧
    (∃ question, ∀ fields, Answered .guarded gate
      ((visitor fields).admitted ⟨[69], rfl⟩ (.origin ⟨"/a", none⟩)) route question
      { response := ⟨.ok, fields, .empty⟩ }) ∧
    (gate.exchange ⟨[69], rfl⟩ (visitor remarks)).response.status = .gatewayTimeout := by
  have seen : ((Gate.ofConfig .guarded).toOption.bind fun gate =>
      (gate.table.find? "/a").map fun route =>
        ((gate.exchange ⟨[69], rfl⟩ (visitor remarks)).response.status,
          (gate.question ((visitor .empty).admitted ⟨[69], rfl⟩ (.origin ⟨"/a", none⟩))
            route.auth).toOption.isSome, route.auth)) =
      some (.gatewayTimeout, true, .cookie) := by decide +kernel
  obtain ⟨gate, route, built, found, facts⟩ := built_of_seen seen
  obtain ⟨status, asks, auth⟩ : _ ∧ _ ∧ _ := by simpa only [Prod.mk.injEq] using facts
  have normal : (visitor .empty).request.uri.normalize = .ok (.origin ⟨"/a", none⟩) := by
    rfl
  have guarded : route.auth ≠ .none := by simp [auth]
  obtain ⟨question, asked⟩ := Option.isSome_iff_exists.mp asks
  have posed := ok_of_toOption asked
  refine ⟨gate, route, built, found, guarded, exchange_keepsPrivate built _ normal found guarded,
    ⟨question, ?_⟩, status⟩
  intro fields
  constructor
  case posed => exact posed
  case given => rfl
  case timely => exact Nat.succ_pos 4999
  case inTime =>
    have soon {elapsed : Nat} (short : elapsed ≤ 30000) : gate.isLate elapsed = false := by
      have given : 1000 * GateConfig.guarded.timeouts.requestSecs = 60000 := rfl
      exact (isLate_eq_false_iff built).mpr (by omega)
    refine ⟨soon (Nat.zero_le _), fun grant _ => soon ?_⟩
    have limit : gate.serverTimeout.micros / 1000 = 30000 := by
      rw [server_limit built]
      rfl
    have short := gate.send_elapsed_le_limit
      ((visitor fields).admitted ⟨[69], rfl⟩ (.origin ⟨"/a", none⟩)) route (some grant)
    rw [limit] at short
    exact Nat.le_trans (Nat.le_of_eq (Nat.zero_add _)) short

end Gate
end AuthGate
