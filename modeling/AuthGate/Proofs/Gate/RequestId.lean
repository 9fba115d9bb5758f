import AuthGate.Proofs.Gate.Cookies
import AuthGate.Proofs.Gate.Indistinct
import AuthGate.Proofs.Route.HopByHop

/-! The id of a request on its way through a gate. The introspection service, the server of the route
and the client all see the same one, with two exceptions: a client can have its id taken for a field of
its connection alone, and a server can give its response an id of its own. -/
namespace AuthGate

/-- The id of a request: the first one that it comes with, or else a fresh one. -/
def Arrival.idOr (arrival : Arrival) (freshId : HeaderValue) : HeaderValue :=
  arrival.requestId?.getD freshId

/-- The ids in the response of a server that are not taken away from it. -/
def Route.idsFrom (route : Route) : Option Response → List HeaderValue
  | none => []
  | some response =>
    if response.headers.ListsInAscii .requestId ∨ .requestId ∈ route.ignoredHeaders then []
    else response.headers.values .requestId

theorem Arrival.requestId?_admitted (arrival : Arrival) (freshId : HeaderValue) (uri : Uri) :
    (arrival.admitted freshId uri).requestId? = some (arrival.idOr freshId) := by
  cases given : arrival.request.headers.first? .requestId with
  | none =>
    have inserted : (arrival.request.headers.insert .requestId freshId).first? .requestId =
        some freshId := by
      simp [Headers.first?]
    simp [admitted, requestId?, idOr, Gate.identify, given, inserted]
  | some id => simp [admitted, requestId?, idOr, Gate.identify, given]

private theorem Arrival.listsInAscii_admitted (arrival : Arrival) (freshId : HeaderValue)
    (uri : Uri)
    (name : HeaderName) : (arrival.admitted freshId uri).request.headers.ListsInAscii name ↔
      arrival.request.headers.ListsInAscii name := by
  have different : HeaderName.requestId ≠ .connection := by decide
  cases given : arrival.request.headers.first? .requestId <;>
    simp [admitted, Gate.identify, given, Headers.ListsInAscii, different]

private theorem Introspector.values_question {introspector : Introspector} {mode : AuthMode}
    {credentials : Credentials} {requestedUri : String} {requestId : Option HeaderValue}
    {question : Request}
    (posed : introspector.question mode credentials requestedUri requestId = .ok question) :
    question.headers.values .requestId = requestId.toList := by
  have agent : HeaderName.userAgent ≠ .requestId := by decide
  have cookie : HeaderName.cookie ≠ .requestId := by decide
  have uri : HeaderName.requestUri ≠ .requestId := by decide
  have common : (commonHeaders credentials requestId).values .requestId = requestId.toList := by
    simp [commonHeaders, appendOptional, agent, cookie]
  obtain ⟨_, built⟩ := question_ok posed
  unfold questionHeaders at built
  split at built
  · split at built
    · cases built
    · rw [← Except.ok.inj built]
      simp [common, uri]
  · rw [← Except.ok.inj built]
    exact common

private theorem Route.requestId_notMem_ownNames (route : Route) : .requestId ∉ route.ownNames := by
  unfold ownNames
  cases route.auth.introspects <;> decide

namespace Gate

variable {gate : Gate} {arrival : Arrival} {route : Route}

/-- Of what a request with an id is answered, only an id stands in for that of the request. -/
theorem ids_deliver {id : HeaderValue} (known : arrival.requestId? = some id) (response : Response) :
    (deliver arrival response).headers.values .requestId =
      if response.headers.values .requestId = [] then [id]
      else response.headers.values .requestId := by
  cases ids : response.headers.values .requestId <;>
    simp [deliver, echoId, known, Headers.first?, ids, Response.mapHeaders]

/-- The ids in a response that are not those of its request. -/
def ownIds (gate : Gate) (arrival : Arrival) (route : Route) : List HeaderValue :=
  if gate.isOverdue arrival route then [] else route.idsFrom (gate.serverResponse? arrival route)

private theorem ids_answer (gate : Gate) (arrival : Arrival) (route : Route) :
    (gate.answer arrival route).headers.values .requestId = gate.ownIds arrival route := by
  have notCookie : HeaderName.setCookie ≠ .requestId := by decide
  have passed : HeaderName.requestId ∉ hopByHop := by decide
  have unsaid : HeaderName.requestId ∉ DenialPolicy.fieldNames := by decide
  unfold ownIds
  cases overdue : gate.isOverdue arrival route with
  | true =>
    rw [answer_of_overdue overdue]
    rfl
  | false =>
    rw [answer_of_inTime overdue]
    cases verdict : gate.verdict arrival route with
    | late => simp [settled, serverResponse?, verdict, Response.bare, Route.idsFrom]
    | denied denial =>
      simp [settled, serverResponse?, verdict, values_deny _ _ _ _ _ unsaid, Route.idsFrom]
    | cleared grant =>
      rcases headers_settled_of_cleared verdict with
        ⟨response, given, headers⟩ | ⟨none, cause, failed⟩
      · rw [headers, given, Route.values_relayHeaders_eq]
        simp [Route.idsFrom, notCookie, passed]
      · rw [failed, none, values_failure _ _ (by decide)]
        simp [Route.idsFrom, notCookie]

private theorem ids_of_asked {call : Call} {id : HeaderValue} (known : arrival.requestId? = some id)
    (member : call ∈ (gate.asked arrival route).calls) :
    call.request.headers.values .requestId = [id] := by
  rcases asked_calls gate arrival route with none | ⟨question, posed, once⟩
  · simp [none] at member
  · rw [once, List.mem_singleton] at member
    subst member
    unfold Gate.question at posed
    rw [Call.ofRequest, Call.named_values question (by decide),
      Introspector.values_question posed, known, Option.toList_some]

private theorem ids_of_sent {call : Call} (member : call ∈ gate.sent arrival route) :
    call.request.headers.values .requestId =
      if arrival.request.headers.ListsInAscii .requestId then []
      else arrival.request.headers.values .requestId := by
  have passed : HeaderName.requestId ∉ hopByHop := by decide
  obtain ⟨grant, request, _, outgoing, rfl⟩ := mem_sent member
  obtain ⟨target, host, _, same⟩ := Route.forwardRequest_ok outgoing
  rw [Call.ofRequest, Call.named_values request (by decide), same,
    Route.values_forwardHeaders_of_not_own route.requestId_notMem_ownNames,
    Headers.values_stripHopByHop_eq]
  simp only [passed, false_or]

/-- What holds of the id of a request with some fields on its route: of the calls that ask about the
request and that send it on, and of the response, into which a server may have put ids of its own. -/
structure Traced (id : HeaderValue) (headers : Headers) (own : List HeaderValue)
    (asked sent : List Call) (response : Response) : Prop where
  told : ∀ call ∈ asked, call.request.headers.values .requestId = [id]
  forwarded : ¬ headers.ListsInAscii .requestId →
    ∀ call ∈ sent, call.request.headers.first? .requestId = some id
  stripped : headers.ListsInAscii .requestId →
    ∀ call ∈ sent, call.request.headers.values .requestId = []
  echoed : own = [] → response.headers.values .requestId = [id]
  relayed : own ≠ [] → response.headers.values .requestId = own

/-- What holds of the id of a request that arrives at a gate. -/
structure KeepsId (gate : Gate) (freshId : HeaderValue) (arrival : Arrival)
    (exchange : Exchange) : Prop where
  routed : ∀ uri route, arrival.request.uri.normalize = .ok uri →
    gate.table.find? uri.path = some route →
    let admitted := arrival.admitted freshId uri
    exchange.calls = (gate.asked admitted route).calls ++ gate.sent admitted route ∧
      Traced (arrival.idOr freshId) arrival.request.headers (gate.ownIds admitted route)
        (gate.asked admitted route).calls (gate.sent admitted route) exchange.response
  unrouted : (∀ uri route, arrival.request.uri.normalize = .ok uri →
      gate.table.find? uri.path ≠ some route) →
    exchange.calls = [] ∧ exchange.response.headers.values .requestId = [arrival.idOr freshId]

private theorem traced_of_route {uri : Uri} (freshId : HeaderValue)
    (normal : arrival.request.uri.normalize = .ok uri)
    (found : gate.table.find? uri.path = some route) :
    let admitted := arrival.admitted freshId uri
    Traced (arrival.idOr freshId) arrival.request.headers (gate.ownIds admitted route)
      (gate.asked admitted route).calls (gate.sent admitted route)
      (gate.exchange freshId arrival).response := by
  have known := arrival.requestId?_admitted freshId uri
  have connection := arrival.listsInAscii_admitted freshId uri .requestId
  have response := ids_deliver known (gate.answer (arrival.admitted freshId uri) route)
  rw [ids_answer, ← (exchange_spec freshId normal found).2] at response
  constructor
  case told =>
    intro call member
    exact ids_of_asked known member
  case forwarded =>
    intro unlisted call member
    rw [Headers.first?, ids_of_sent member, if_neg (mt connection.mp unlisted)]
    exact known
  case stripped =>
    intro listed call member
    rw [ids_of_sent member, if_pos (connection.mpr listed)]
  case echoed =>
    intro none
    rw [response, if_pos none]
  case relayed =>
    intro own
    rw [response, if_neg own]

private theorem handled_of_no_route (gate : Gate) (arrival : Arrival)
    (missing : ∀ uri route, arrival.request.uri.normalize = .ok uri →
      gate.table.find? uri.path ≠ some route) :
    (gate.handle arrival).calls = [] ∧
      (gate.handle arrival).response.headers.values .requestId = [] := by
  unfold handle
  cases normal : arrival.request.uri.normalize with
  | error cause => exact ⟨rfl, rfl⟩
  | ok uri =>
    cases found : gate.table.find? uri.path with
    | none => simp only [found]; exact ⟨rfl, rfl⟩
    | some route => exact absurd found (missing uri route normal)

/-- Every request has one id. All who have to do with it are told this one, but for a server that the
connection fields of the request keep it from, and for a client whose server has ids of its own. -/
theorem exchange_keepsId (gate : Gate) (freshId : HeaderValue) (arrival : Arrival) :
    KeepsId gate freshId arrival (gate.exchange freshId arrival) where
  routed _ _ normal found :=
    ⟨(exchange_spec freshId normal found).1, traced_of_route freshId normal found⟩
  unrouted missing := by
    have known := arrival.requestId?_admitted freshId arrival.request.uri
    obtain ⟨calls, ids⟩ := handled_of_no_route gate
      (arrival.admitted freshId arrival.request.uri) missing
    rw [exchange_eq]
    by_cases absolute : Path.startsWith arrival.request.uri.path "/" = true
    · simp only [absolute, if_true]
      exact ⟨calls, by rw [ids_deliver known, if_pos ids]⟩
    · simp only [if_neg absolute]
      exact ⟨trivial, by rw [ids_deliver known]; rfl⟩

/-- A client that has its own id taken for a field of its connection, at servers with ids of their
own. -/
def untraced : Arrival where
  ip := .v4 0
  asking _ := .replies { response := .bare .ok }
  sending _ := .replies { response := ⟨.ok, ⟨[(.requestId, ⟨[81], rfl⟩)]⟩, .empty⟩ }
  request :=
    { method := "GET"
      uri := .origin ⟨"/a", none⟩
      headers := ⟨[(.requestId, ⟨[80], rfl⟩),
        (.connection, ⟨Text.utf8 "x-request-id".toList, by decide⟩)]⟩
      body := [] }

/-- The server of the route gets no id, and the client that of the server. -/
theorem exchange_untraced : ∃ gate route, Gate.ofConfig .guarded = .ok gate ∧
    gate.table.find? "/a" = some route ∧ untraced.idOr ⟨[69], rfl⟩ = ⟨[80], rfl⟩ ∧
    let exchange := gate.exchange ⟨[69], rfl⟩ untraced
    exchange.calls.map (fun call => (call.server, call.request.headers.values .requestId)) =
        [("b", [⟨[80], rfl⟩]), ("a", [])] ∧
      exchange.response.headers.values .requestId = [⟨[81], rfl⟩] := by
  have seen : ((Gate.ofConfig .guarded).toOption.bind fun gate =>
      (gate.table.find? "/a").map fun _ =>
        let exchange := gate.exchange ⟨[69], rfl⟩ untraced
        (exchange.calls.map fun call => (call.server, call.request.headers.values .requestId),
          exchange.response.headers.values .requestId)) =
      some ([("b", [⟨[80], rfl⟩]), ("a", [])], [⟨[81], rfl⟩]) := by decide +kernel
  obtain ⟨gate, route, built, found, same⟩ := built_of_seen seen
  obtain ⟨calls, ids⟩ := Prod.mk.inj same
  exact ⟨gate, route, built, found, rfl, calls, ids⟩

end Gate
end AuthGate
