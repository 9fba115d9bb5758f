import AuthGate.Proofs.Auth.Challenge
import AuthGate.Proofs.Gate.Cookies
import AuthGate.Proofs.Gate.Question

namespace AuthGate
open Text

/-- What a reply that does not approve of a request says about its client. No reply says that the client
is unknown. -/
def Denial.ofReply? : Option Response → Denial
  | none => .unauthenticated
  | some reply => if reply.status = .forbidden then .forbidden else .unauthenticated

/-- A field of a response asks a program to authenticate as the service asks for it, or, if the service
does not, for the configured realm. -/
inductive Asks (realm : String) (reply? : Option Response) (value : HeaderValue) : Prop where
  | given (reply : Response) (present : reply? = some reply)
      (first : reply.headers.first? .wwwAuthenticate = some value)
  | configured (absent : ∀ reply, reply? = some reply → reply.headers.values .wwwAuthenticate = [])
      (written : HeaderValue.ofText? ("Basic realm=\"" ++ realm ++ "\"") = some value)
      (read : value.basicRealm? = some realm)

/-- What holds of the response to a request that is denied because of a reply, or for want of one. -/
structure Denies (config : GateConfig) (mode : AuthMode) (reply? : Option Response)
    (response : Response) : Prop where
  empty : response.body = .empty
  unled : mode = .m2m → response.headers.values .location = []
  refused : mode = .m2m → Denial.ofReply? reply? = .forbidden →
    response.status = .forbidden ∧ response.headers.values .wwwAuthenticate = []
  asked : mode = .m2m → Denial.ofReply? reply? = .unauthenticated →
    response.status = .unauthorized ∧ ∃ value,
      response.headers.values .wwwAuthenticate = [value] ∧
        Asks config.auth.basicRealm reply? value
  unasked : mode ≠ .m2m → response.headers.values .wwwAuthenticate = []
  led : mode ≠ .m2m → ∀ text, DenialPolicy.page? config.auth (Denial.ofReply? reply?) = some text →
    response.status = .found ∧ response.headers.values .cacheControl = [DenialPolicy.noStore] ∧
      ∃ page added, Url.parse text = .ok page ∧ response.RedirectsTo page added
  bare : mode ≠ .m2m → DenialPolicy.page? config.auth (Denial.ofReply? reply?) = none →
    response.status = (Denial.ofReply? reply?).status ∧
      ∀ name, .requestId ≠ name → response.headers.values name = []

namespace DenialPolicy

variable {config : GateConfig} {policy : DenialPolicy} {denial : Denial} {mode : AuthMode}
  {reply? : Option Response}

private theorem denies_challenge (valid : config.Valid) (built : ofConfig config.auth = .ok policy)
    (machine : mode = .m2m) (used : config.uses .m2m = true) :
    Denies config mode reply? (policy.challenge (Denial.ofReply? reply?)
      (reply?.bind (·.headers.first? .wwwAuthenticate))) := by
  have location : HeaderName.wwwAuthenticate ≠ .location := by decide
  constructor
  case empty => cases Denial.ofReply? reply? <;> rfl
  case unled =>
    intro _
    cases Denial.ofReply? reply? <;>
      simp [challenge, Response.bare, Response.mapHeaders, location]
  case refused =>
    intro _ forbidden
    rw [forbidden]
    exact ⟨rfl, rfl⟩
  case asked =>
    intro _ unknown
    rw [unknown]
    refine ⟨rfl, _, Headers.values_insert _ _ _ _ |>.trans (if_pos rfl), ?_⟩
    cases given : reply?.bind (·.headers.first? .wwwAuthenticate) with
    | some value =>
      obtain ⟨reply, present, first⟩ := Option.bind_eq_some_iff.mp given
      exact .given reply present first
    | none =>
      have written := challenge_of_ofConfig built
      refine .configured ?_ written
        (HeaderValue.basicRealm?_of_challengeText written (valid.realm used))
      intro reply present
      simpa [present, Headers.first?] using given
  case unasked => exact fun other => absurd machine other
  case led => exact fun other => absurd machine other
  case bare => exact fun other => absurd machine other

private theorem denies_respond (clean : config.problems = [])
    (built : ofConfig config.auth = .ok policy)
    (browser : mode ≠ .m2m) (requestedUri : String) :
    Denies config mode reply? (policy.respond (Denial.ofReply? reply?) requestedUri) := by
  have cases := policy.respond_cases (Denial.ofReply? reply?) requestedUri
  have location : HeaderName.location ≠ .wwwAuthenticate := by decide
  have cacheControl : HeaderName.cacheControl ≠ .wwwAuthenticate := by decide
  constructor
  case empty => rcases cases with ⟨_, same⟩ | same <;> rw [same] <;> rfl
  case unled => exact fun machine => absurd machine browser
  case refused => exact fun machine => absurd machine browser
  case asked => exact fun machine => absurd machine browser
  case unasked =>
    intro _
    rcases cases with ⟨_, same⟩ | same <;> rw [same]
    · simp [redirect, location, cacheControl]
    · rfl
  case led =>
    intro _ text configured
    obtain ⟨page, added, read, leads⟩ := respond_of_page clean built configured requestedUri
    refine ⟨leads.status, ?_, page, added, read, leads⟩
    rcases cases with ⟨_, same⟩ | same
    · rw [same]
      simp [redirect, show HeaderName.location ≠ .cacheControl by decide]
    · have status := leads.status
      rw [same] at status
      cases denial : Denial.ofReply? reply? <;> rw [denial] at status <;> cases status
  case bare =>
    intro _ unset
    rw [respond_of_noPage built unset]
    exact ⟨rfl, fun _ _ => rfl⟩

end DenialPolicy

namespace Gate

variable {config : GateConfig} {gate : Gate} {arrival : Arrival} {route : Route}

/-- The reply that the introspection service gives in time to the question about a request. -/
def serviceReply? (gate : Gate) (arrival : Arrival) (route : Route) : Option Response :=
  match gate.question arrival route.auth with
  | .error _ => none
  | .ok question => arrival.asking.inTime? gate.introspector.timeout.micros question.uri

/-- What comes of asking the service is its reply, as far as it is looked at. -/
theorem inquire_toOption (gate : Gate) (arrival : Arrival) (route : Route) :
    (gate.inquire arrival route.auth).1.toOption =
      (gate.serviceReply? arrival route).map fun reply => ⟨reply.status, reply.headers⟩ := by
  unfold serviceReply?
  cases posed : gate.question arrival route.auth with
  | error cause => rw [inquire_of_error posed]; rfl
  | ok question =>
    rw [inquire_of_question posed]
    simp only [heard]
    cases result : (arrival.asking.call gate.introspector.timeout.micros question).result with
    | reply response =>
      obtain ⟨reply, given, timely, rfl⟩ := Services.call_reply_iff.mp result
      rw [Services.inTime?_eq_some_iff.mpr ⟨reply, given, timely, rfl⟩]
      simp [Except.toOption]
    | failed | timedOut =>
      cases inTime : arrival.asking.inTime? gate.introspector.timeout.micros question.uri with
      | none => rfl
      | some response =>
        obtain ⟨reply, given, timely, rfl⟩ := Services.inTime?_eq_some_iff.mp inTime
        have replied := Services.call_reply_iff.mpr ⟨reply, given, timely, rfl⟩
        rw [result] at replied
        cases replied

private theorem ofOutcome_of_toOption {mode : AuthMode} {outcome : IntrospectionOutcome}
    {reply? : Option Response}
    (same : outcome.toOption = reply?.map fun reply => ⟨reply.status, reply.headers⟩)
    (unapproved : ∀ reply, reply? = some reply → reply.status ≠ .ok) :
    Decision.ofOutcome mode outcome = .deny (Denial.ofReply? reply?) := by
  cases outcome with
  | error cause =>
    cases reply? with
    | none => rfl
    | some reply => cases same
  | ok answer =>
    cases reply? with
    | none => cases same
    | some reply =>
      cases same
      rw [Decision.ofOutcome, if_neg (unapproved reply rfl), Denial.ofReply?]
      split <;> rfl

private theorem challenge?_of_toOption {outcome : IntrospectionOutcome} {reply? : Option Response}
    (same : outcome.toOption = reply?.map fun reply => ⟨reply.status, reply.headers⟩) :
    challenge? outcome = reply?.bind (·.headers.first? .wwwAuthenticate) := by
  cases outcome with
  | error cause =>
    cases reply? with
    | none => rfl
    | some reply => cases same
  | ok answer =>
    cases reply? with
    | none => cases same
    | some reply =>
      cases same
      rfl

private theorem verdict_of_unapproved (guarded : route.auth ≠ .none)
    (unapproved : ∀ reply, gate.serviceReply? arrival route = some reply → reply.status ≠ .ok)
    (timely : gate.isLate (gate.asked arrival route).elapsed = false) :
    gate.verdict arrival route = .denied (Denial.ofReply? (gate.serviceReply? arrival route)) := by
  have decided : Decision.ofOutcome route.auth (gate.inquire arrival route.auth).1 =
      .deny (Denial.ofReply? (gate.serviceReply? arrival route)) :=
    ofOutcome_of_toOption (inquire_toOption gate arrival route) unapproved
  simp [verdict, introspects_of_ne guarded, timely, decided]

private theorem denies_deliver {mode : AuthMode} {reply? : Option Response} {response : Response}
    (denies : Denies config mode reply? response) (arrival : Arrival) :
    Denies config mode reply? (deliver arrival response) := by
  have status := deliver_status arrival response
  have values (name : HeaderName) (other : .requestId ≠ name) := values_deliver other arrival response
  have location := values .location (by decide)
  have wwwAuthenticate := values .wwwAuthenticate (by decide)
  constructor
  case empty =>
    have body : (echoId arrival.requestId? response).body = .empty := by
      rw [← denies.empty]
      unfold echoId
      split <;> rfl
    unfold deliver Response.received
    split
    · rfl
    · exact body
  case unled => rw [location]; exact denies.unled
  case refused => rw [status, wwwAuthenticate]; exact denies.refused
  case asked => rw [status, wwwAuthenticate]; exact denies.asked
  case unasked => rw [wwwAuthenticate]; exact denies.unasked
  case led =>
    intro browser text configured
    obtain ⟨found, noStore, page, added, read, leads⟩ := denies.led browser text configured
    rw [status, values .cacheControl (by decide)]
    refine ⟨found, noStore, page, added, read, status.trans leads.status, ?_⟩
    rw [location]
    exact leads.location
  case bare =>
    intro browser unset
    obtain ⟨told, none⟩ := denies.bare browser unset
    exact ⟨status.trans told, fun name other => (values name other).trans (none name other)⟩

/-- A request that the service does not approve of in time is answered as its client can understand it,
unless the time of the whole request runs out. -/
theorem exchange_denies {uri : Uri} (built : Gate.ofConfig config = .ok gate) (freshId : HeaderValue)
    (normal : arrival.request.uri.normalize = .ok uri)
    (found : gate.table.find? uri.path = some route) (guarded : route.auth ≠ .none)
    (unapproved : ∀ reply,
      gate.serviceReply? (arrival.admitted freshId uri) route = some reply → reply.status ≠ .ok)
    (timely : gate.elapsed (arrival.admitted freshId uri) route <
      1000 * config.timeouts.requestSecs) :
    Denies config route.auth (gate.serviceReply? (arrival.admitted freshId uri) route)
      (gate.exchange freshId arrival).response := by
  have parts := parts_of_ofConfig built
  have used := uses_auth built found
  have inTime : gate.isOverdue (arrival.admitted freshId uri) route = false :=
    (isLate_eq_false_iff built).mpr timely
  rw [(exchange_spec freshId normal found).2, answer_of_inTime inTime]
  generalize arrival.admitted freshId uri = admitted at unapproved inTime ⊢
  have denied := verdict_of_unapproved guarded unapproved (asked_in_time inTime)
  have given := challenge?_of_toOption (inquire_toOption gate admitted route)
  apply denies_deliver
  simp only [settled, denied, deny, given]
  by_cases machine : route.auth = .m2m
  · rw [if_pos (by simp [AuthMode.isMachine, machine])]
    exact DenialPolicy.denies_challenge parts.valid parts.denials machine (machine ▸ used)
  · rw [if_neg (by simp [AuthMode.isMachine, machine])]
    exact DenialPolicy.denies_respond (problems_of_ofConfig built) parts.denials machine _

end Gate

/-- One server behind a route for programs, in a realm of two words. -/
def GateConfig.forPrograms : GateConfig where
  routes := [{ pathBase := "/", server := "http://a", auth := .m2m }]
  auth := { basicRealm := "a b" }
  introspection := { m2m := some "http://b" }

namespace Gate

/-- A program that is approved of much too late. -/
def unanswered : Arrival where
  ip := .v4 0
  asking _ := .replies { response := .bare .ok, delay := 100000 }
  sending _ := .unreachable 0
  request := ⟨"GET", .origin ⟨"/a", none⟩, .empty, []⟩

theorem exchange_denies_unanswered : ∃ gate route, Gate.ofConfig .forPrograms = .ok gate ∧
    gate.table.find? "/a" = some route ∧ route.auth = .m2m ∧
    gate.serviceReply? (unanswered.admitted ⟨[69], rfl⟩ (.origin ⟨"/a", none⟩)) route = none ∧
    Denies .forPrograms .m2m none (gate.exchange ⟨[69], rfl⟩ unanswered).response ∧
    ((gate.exchange ⟨[69], rfl⟩ unanswered).response.headers.values .wwwAuthenticate).map
      (fun value => ofBytes value.bytes) = ["Basic realm=\"a b\"".toList] := by
  have seen : ((Gate.ofConfig .forPrograms).toOption.bind fun gate =>
      (gate.table.find? "/a").map fun route =>
        let admitted := unanswered.admitted ⟨[69], rfl⟩ (.origin ⟨"/a", none⟩)
        (route.auth, gate.serviceReply? admitted route, gate.elapsed admitted route,
          ((gate.exchange ⟨[69], rfl⟩ unanswered).response.headers.values .wwwAuthenticate).map
            (fun value => ofBytes value.bytes))) =
      some (.m2m, none, 5000, ["Basic realm=\"a b\"".toList]) := by
    decide +kernel
  obtain ⟨gate, route, built, found, same⟩ := built_of_seen seen
  simp only [Prod.mk.injEq] at same
  obtain ⟨machine, silent, elapsed, challenge⟩ := same
  have normal : unanswered.request.uri.normalize = .ok (.origin ⟨"/a", none⟩) := by rfl
  have timely : gate.elapsed (unanswered.admitted ⟨[69], rfl⟩ (.origin ⟨"/a", none⟩)) route <
      1000 * GateConfig.forPrograms.timeouts.requestSecs := by
    rw [elapsed]
    decide
  have denies := exchange_denies built ⟨[69], rfl⟩ normal found (by simp [machine])
    (by simp [silent]) timely
  rw [machine, silent] at denies
  exact ⟨gate, route, built, found, machine, silent, denies, challenge⟩

end Gate
end AuthGate
