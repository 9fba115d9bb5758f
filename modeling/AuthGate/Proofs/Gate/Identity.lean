import AuthGate.Proofs.Gate.FailClosed
import AuthGate.Proofs.Gate.Indistinct

/-! The identity that a client claims never gets past a route with authorization: the server of the
route sees what the introspection service has granted, and neither it nor the client can tell what
was claimed. -/
namespace AuthGate

namespace Headers

/-- The names of the fields that say who sends a request. -/
def identityNames : List HeaderName := [.authorization, .cookie]

variable {left right : Headers}

private theorem setIdentity_eq (headers : Headers) (grant : Grant) :
    headers.setIdentity grant =
      ((headers.eraseAll identityNames).appendAll .authorization
        grant.authorization.toList).appendAll .cookie grant.cookie.toList := by
  have different : HeaderName.authorization ≠ HeaderName.cookie := by decide
  have replaced (fields : Headers) (name : HeaderName) (value : Option HeaderValue) :
      fields.replace name value = (fields.erase name).appendAll name value.toList := by
    cases value with
    | none => simp [replace, appendAll]
    | some value => simp [replace, insert, append, appendAll]
  rw [setIdentity, replaced, replaced]
  simp [appendAll, erase, eraseAll, identityNames, List.filter_append, List.filter_map,
    Function.comp_def, different]

private theorem AgreeBeyond.setIdentity (agree : left.AgreeBeyond identityNames right)
    (grant : Grant) :
    left.setIdentity grant = right.setIdentity grant := by
  rw [setIdentity_eq, setIdentity_eq, agree]

private theorem values_setIdentity (headers : Headers) (mode : AuthMode) (reply : Headers)
    {name : HeaderName} (member : name ∈ identityNames) :
    (headers.setIdentity (.ofReply mode reply)).values name = (reply.first? name).toList := by
  have different : HeaderName.cookie ≠ HeaderName.authorization := by decide
  rcases List.mem_pair.mp member with rfl | rfl
  · simp [setIdentity, different, Grant.ofReply]
  · simp [setIdentity, Grant.ofReply]

end Headers

/-- Two arrivals that differ at most in the identity that their clients claim. -/
structure Arrival.SameButIdentity (left right : Arrival) : Prop where
  ip : left.ip = right.ip
  asking : left.asking = right.asking
  sending : left.sending = right.sending
  method : left.request.method = right.request.method
  uri : left.request.uri = right.request.uri
  body : left.request.body = right.request.body
  headers : left.request.headers.AgreeBeyond Headers.identityNames right.request.headers

theorem Arrival.SameButIdentity.sameBeyond {left right : Arrival}
    (same : left.SameButIdentity right) : left.SameBeyond Headers.identityNames right :=
  ⟨same.ip, same.asking, same.sending, same.method, same.uri, same.body, same.headers⟩

private theorem Route.values_forwardHeaders {route : Route} {trust : Bool} {client : Client}
    {mode : AuthMode} {host : HeaderValue} {headers reply : Headers} {name : HeaderName}
    (introspects : route.auth.introspects = true) (member : name ∈ Headers.identityNames) :
    (route.forwardHeaders trust client (some (.ofReply mode reply)) host headers).values name =
      (reply.first? name).toList := by
  simp only [forwardHeaders, introspects, if_true, Option.getD_some]
  exact Headers.values_setIdentity _ _ _ member

private theorem Introspector.question_destination (introspector : Introspector) (mode : AuthMode)
    (left right : Credentials) (requestedUri : String) (requestId : Option HeaderValue) :
    (introspector.question mode left requestedUri requestId).map Request.destination =
      (introspector.question mode right requestedUri requestId).map Request.destination := by
  unfold Introspector.question questionHeaders
  cases introspector.endpoint? mode with
  | none => rfl
  | some endpoint =>
    by_cases told : mode = .oauth2
    · cases HeaderValue.ofText? requestedUri with
      | none => simp [told]
      | some value => simp [told, Except.map, Request.destination]
    · simp [told, Except.map, Request.destination]

namespace PublicAddress

variable {left right : Headers}

/-- The address that a client used is told by other fields. -/
theorem host_congr (address : PublicAddress)
    (agree : left.AgreeBeyond Headers.identityNames right) (uri : Uri) :
    address.host left uri = address.host right uri := by
  have forwardedHost : left.firstText? .forwardedHost = right.firstText? .forwardedHost :=
    agree.firstText? (by decide)
  have namedHost : left.firstText? .host = right.firstText? .host := agree.firstText? (by decide)
  simp only [host, forwarded?, forwardedHost, namedHost]

theorem scheme_congr (address : PublicAddress)
    (agree : left.AgreeBeyond Headers.identityNames right) :
    address.scheme left = address.scheme right := by
  have forwardedProto : left.firstText? .forwardedProto = right.firstText? .forwardedProto :=
    agree.firstText? (by decide)
  simp only [scheme, forwarded?, forwardedProto]

end PublicAddress

namespace Gate

variable {config : GateConfig} {gate : Gate} {route : Route} {left right : Arrival}

private theorem requestId?_congr (same : left.SameButIdentity right) :
    left.requestId? = right.requestId? :=
  same.sameBeyond.requestId? (by decide)

private theorem admitted_congr (same : left.SameButIdentity right) (freshId : HeaderValue)
    (uri : Uri) :
    (left.admitted freshId uri).SameButIdentity (right.admitted freshId uri) :=
  have admitted := same.sameBeyond.admitted (by decide) freshId uri
  ⟨admitted.ip, admitted.asking, admitted.sending, admitted.method, admitted.uri, admitted.body,
    admitted.headers⟩

private theorem requestedUri_congr (same : left.SameButIdentity right) :
    gate.requestedUri left.request = gate.requestedUri right.request := by
  simp only [requestedUri, PublicAddress.requestedUri, same.uri,
    gate.address.scheme_congr same.headers, gate.address.host_congr same.headers]

private theorem outgoing_congr (introspects : route.auth.introspects = true)
    (same : left.SameButIdentity right) (grant : Option Grant) :
    gate.outgoing left route grant = gate.outgoing right route grant := by
  have client : gate.address.client (some left.ip) left.request.headers left.request.uri =
      gate.address.client (some right.ip) right.request.headers right.request.uri := by
    simp only [PublicAddress.client, same.ip, same.uri, gate.address.scheme_congr same.headers,
      gate.address.host_congr same.headers]
  have headers (described : Client) (host : HeaderValue) :
      route.forwardHeaders gate.trustForwarded described grant host left.request.headers =
        route.forwardHeaders gate.trustForwarded described grant host right.request.headers := by
    have stripped := (same.headers.stripHopByHop (by decide)).insert .host host
    have forwarded := stripped.setForwarded described gate.trustForwarded (by decide)
    simp only [Route.forwardHeaders, introspects, if_true]
    exact forwarded.setIdentity _
  rw [outgoing, outgoing, client]
  simp only [Route.forwardRequest, headers, same.uri, same.method, same.body]

private theorem indistinct_of_sameButIdentity (introspects : route.auth.introspects = true)
    (same : left.SameButIdentity right) : Indistinct gate route left right := by
  have asked : (gate.question left route.auth).map Request.destination =
      (gate.question right route.auth).map Request.destination := by
    rw [question, question, requestedUri_congr same, requestId?_congr same]
    exact Introspector.question_destination ..
  obtain ⟨heard, elapsed⟩ := inquire_congr same.asking asked
  constructor
  case sending => exact same.sending
  case method => exact same.method
  case requestId => exact requestId?_congr same
  case requestedUri => exact requestedUri_congr same
  case heard => exact heard
  case elapsed =>
    rw [asked_of_introspects gate left introspects, asked_of_introspects gate right introspects]
    exact elapsed
  case outgoing => exact outgoing_congr introspects same

private theorem identity_of_sent {call : Call} {arrival : Arrival}
    (built : Gate.ofConfig config = .ok gate) (guarded : route.auth ≠ .none)
    (member : call ∈ gate.sent arrival route) :
    ∃ question reply, Approved config gate arrival route question reply ∧
      ∀ name ∈ Headers.identityNames,
        call.request.headers.values name = (reply.response.headers.first? name).toList := by
  obtain ⟨grant, request, verdict, outgoing, rfl⟩ := mem_sent member
  obtain ⟨question, reply, approved, _, granted⟩ := approved_of_cleared built guarded verdict
  obtain ⟨target, host, _, same⟩ := Route.forwardRequest_ok outgoing
  refine ⟨question, reply, approved, ?_⟩
  intro name identity
  have other : HeaderName.host ≠ name := by
    rintro rfl
    exact absurd identity (by decide)
  rw [Call.ofRequest, Call.named_values request other, same, granted]
  exact Route.values_forwardHeaders (introspects_of_ne guarded) identity

private theorem hidden_of_sameButIdentity {uri : Uri} (built : Gate.ofConfig config = .ok gate)
    (freshId : HeaderValue) (normal : left.request.uri.normalize = .ok uri)
    (found : gate.table.find? uri.path = some route) (guarded : route.auth ≠ .none)
    (same : left.SameButIdentity right) :
    Guarded config gate (right.admitted freshId uri) route (gate.exchange freshId right)
        (gate.asked (right.admitted freshId uri) route).calls
        (gate.sent (left.admitted freshId uri) route) ∧
      (gate.exchange freshId left).response = (gate.exchange freshId right).response := by
  have rightNormal : right.request.uri.normalize = .ok uri := by rw [← same.uri, normal]
  have indistinct : Indistinct gate route (left.admitted freshId uri)
      (right.admitted freshId uri) :=
    indistinct_of_sameButIdentity (introspects_of_ne guarded) (admitted_congr same freshId uri)
  constructor
  · rw [indistinct.sent]
    exact exchange_guarded built freshId rightNormal found
  · rw [(exchange_spec freshId normal found).2, (exchange_spec freshId rightNormal found).2,
      indistinct.answer, indistinct.deliver]

/-- What holds of an exchange on a route with authorization: the server sees the granted identity
and no other, and neither it nor the client can tell what was claimed. -/
structure ConcealsIdentity (config : GateConfig) (gate : Gate) (route : Route)
    (freshId : HeaderValue) (uri : Uri) (arrival : Arrival) : Prop where
  guarded : Guarded config gate (arrival.admitted freshId uri) route
    (gate.exchange freshId arrival) (gate.asked (arrival.admitted freshId uri) route).calls
    (gate.sent (arrival.admitted freshId uri) route)
  granted : ∀ call ∈ gate.sent (arrival.admitted freshId uri) route, ∃ question reply,
    Approved config gate (arrival.admitted freshId uri) route question reply ∧
      ∀ name ∈ Headers.identityNames,
        call.request.headers.values name = (reply.response.headers.first? name).toList
  hidden : ∀ other, arrival.SameButIdentity other →
    Guarded config gate (other.admitted freshId uri) route (gate.exchange freshId other)
        (gate.asked (other.admitted freshId uri) route).calls
        (gate.sent (arrival.admitted freshId uri) route) ∧
      (gate.exchange freshId arrival).response = (gate.exchange freshId other).response

/-- An accepted gate conceals the identity that a client claims, whatever fields the client sends. -/
theorem exchange_concealsIdentity {uri : Uri} {arrival : Arrival}
    (built : Gate.ofConfig config = .ok gate) (freshId : HeaderValue)
    (normal : arrival.request.uri.normalize = .ok uri)
    (found : gate.table.find? uri.path = some route) (guarded : route.auth ≠ .none) :
    ConcealsIdentity config gate route freshId uri arrival where
  guarded := exchange_guarded built freshId normal found
  granted _ member := identity_of_sent built guarded member
  hidden _ same := hidden_of_sameButIdentity built freshId normal found guarded same

/-- A client that claims a login and two sessions, and asks for the sessions to be left out. -/
def claimant : Arrival where
  ip := .v4 0
  asking _ := .replies
    { response := { Response.bare .ok with headers := ⟨[(.authorization, ⟨[68], rfl⟩)]⟩ } }
  sending _ := .replies { response := .bare .ok }
  request :=
    { method := "GET"
      uri := .origin ⟨"/x/../a", none⟩
      headers := ⟨[(.authorization, ⟨[65], rfl⟩), (.cookie, ⟨[66], rfl⟩),
        (.connection, ⟨[99, 111, 111, 107, 105, 101], rfl⟩), (.cookie, ⟨[67], rfl⟩)]⟩
      body := [] }

theorem exchange_concealsIdentity_claimant : ∃ gate route, Gate.ofConfig .guarded = .ok gate ∧
    gate.table.find? "/a" = some route ∧ route.auth = .cookie ∧
    ConcealsIdentity .guarded gate route ⟨[69], rfl⟩ (.origin ⟨"/a", none⟩) claimant := by
  obtain ⟨gate, route, built, found, auth⟩ := GateConfig.guarded_built
  have normal : claimant.request.uri.normalize = .ok (.origin ⟨"/a", none⟩) := by decide +kernel
  refine ⟨gate, route, built, found, auth, ?_⟩
  exact exchange_concealsIdentity built _ normal found (by simp [auth])

end Gate
end AuthGate
