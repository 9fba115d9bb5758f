import AuthGate.Proofs.Gate.Assembly
import AuthGate.Proofs.Gate.Indistinct
import AuthGate.Proofs.Gate.PublicAddress
import AuthGate.Proofs.Header.Forwarded

namespace AuthGate
open Text

namespace Headers

/-- The identity of a request is told by other fields. -/
theorem values_setIdentity_of_ne {name : HeaderName} (authorization : .authorization ≠ name)
    (cookie : .cookie ≠ name) (headers : Headers) (grant : Grant) :
    (headers.setIdentity grant).values name = headers.values name := by
  simp [setIdentity, authorization, cookie]

end Headers

/-- The host that a client has addressed, as far as its request tells without forwarded fields. -/
def Arrival.addressedHost (arrival : Arrival) : String :=
  (arrival.request.headers.firstText? .host).getD
    (arrival.request.uri.authority?.getD PublicAddress.fallbackHost)

/-- The scheme that clients use. -/
def GateConfig.scheme (config : GateConfig) : String :=
  if config.listener.tls.isSome then "https" else "http"

theorem GateConfig.holds_scheme (config : GateConfig) : HeaderValue.Holds config.scheme := by
  have schemes : HeaderValue.Holds "https" ∧ HeaderValue.Holds "http" := by decide
  unfold GateConfig.scheme
  split
  · exact schemes.1
  · exact schemes.2

/-- The forwarded fields tell what the gate itself knows of a client. -/
structure GateConfig.Describes (config : GateConfig) (arrival : Arrival) (headers : Headers) :
    Prop where
  address : headers.Says .forwardedFor arrival.ip.text
  scheme : headers.Says .forwardedProto config.scheme
  host : headers.Says .forwardedHost arrival.addressedHost

namespace Gate

variable {config : GateConfig} {gate : Gate} {route : Route} {left right arrival : Arrival}

section Untrusted

variable (built : Gate.ofConfig config = .ok gate)
  (untrusted : config.external.trustForwarded = false)

include built untrusted

theorem forwarded?_of_untrusted (headers : Headers) (name : HeaderName) :
    gate.address.forwarded? headers name = none := by
  have address := (parts_of_ofConfig built).address
  simp [PublicAddress.forwarded?, address, PublicAddress.ofConfig, untrusted]

theorem scheme_of_untrusted (headers : Headers) : gate.address.scheme headers = config.scheme := by
  have address := (parts_of_ofConfig built).address
  rw [PublicAddress.scheme, forwarded?_of_untrusted built untrusted, address]
  rfl

theorem host_of_untrusted (arrival : Arrival) :
    gate.address.host arrival.request.headers arrival.request.uri = arrival.addressedHost := by
  simp only [PublicAddress.host, forwarded?_of_untrusted built untrusted, Arrival.addressedHost]
  cases arrival.request.headers.firstText? .host <;> rfl

theorem host_of_sameBeyond (same : left.SameBeyond Headers.forwardedNames right) :
    gate.address.host left.request.headers left.request.uri =
      gate.address.host right.request.headers right.request.uri := by
  have named : left.request.headers.firstText? .host = right.request.headers.firstText? .host :=
    same.headers.firstText? (by decide)
  rw [host_of_untrusted built untrusted, host_of_untrusted built untrusted]
  simp only [Arrival.addressedHost, named, same.uri]

theorem requestedUri_of_sameBeyond (same : left.SameBeyond Headers.forwardedNames right) :
    gate.requestedUri left.request = gate.requestedUri right.request := by
  simp only [requestedUri, PublicAddress.requestedUri, scheme_of_untrusted built untrusted,
    host_of_sameBeyond built untrusted same]
  rw [same.uri]

private theorem question_of_sameBeyond (same : left.SameBeyond Headers.forwardedNames right)
    (mode : AuthMode) : gate.question left mode = gate.question right mode := by
  have credentials : Credentials.ofHeaders left.request.headers =
      Credentials.ofHeaders right.request.headers := by
    have authorization : left.request.headers.first? .authorization =
        right.request.headers.first? .authorization := same.headers.first? (by decide)
    have cookies : left.request.headers.values .cookie = right.request.headers.values .cookie :=
      same.headers.values (by decide)
    simp only [Credentials.ofHeaders, authorization, cookies]
  rw [question, question, credentials, requestedUri_of_sameBeyond built untrusted same,
    same.requestId? (by decide)]

private theorem outgoing_of_sameBeyond (same : left.SameBeyond Headers.forwardedNames right)
    (received : HeaderValue.Holds left.addressedHost) (grant : Option Grant) :
    gate.outgoing left route grant = gate.outgoing right route grant := by
  have trust := (parts_of_ofConfig built).trustForwarded.trans untrusted
  have client : gate.address.client (some left.ip) left.request.headers left.request.uri =
      gate.address.client (some right.ip) right.request.headers right.request.uri := by
    simp only [PublicAddress.client, same.ip, host_of_sameBeyond built untrusted same,
      scheme_of_untrusted built untrusted]
  have headers (server : HeaderValue) :
      route.forwardHeaders false
          (gate.address.client (some left.ip) left.request.headers left.request.uri) grant server
          left.request.headers =
        route.forwardHeaders false
          (gate.address.client (some left.ip) left.request.headers left.request.uri) grant server
          right.request.headers := by
    have stripped := (same.headers.stripHopByHop (by decide)).insert .host server
    obtain ⟨_, _, _, _, _, _, replaced⟩ := Headers.setForwarded_of_untrusted left.ip
      config.holds_scheme received
    have erased : (left.request.headers.stripHopByHop.insert .host server).eraseAll
        Headers.forwardedNames = (right.request.headers.stripHopByHop.insert .host server).eraseAll
        Headers.forwardedNames := stripped
    simp only [Route.forwardHeaders, PublicAddress.client, scheme_of_untrusted built untrusted,
      host_of_untrusted built untrusted, replaced, erased]
  rw [outgoing, outgoing, ← client, trust]
  simp only [Route.forwardRequest, headers]
  rw [same.uri, same.method, same.body]

private theorem describes_of_outgoing {grant : Option Grant} {request : Request}
    (received : HeaderValue.Holds arrival.addressedHost)
    (sent : gate.outgoing arrival route grant = .ok request) :
    config.Describes arrival (Call.ofRequest request).request.headers := by
  have trust := (parts_of_ofConfig built).trustForwarded.trans untrusted
  obtain ⟨target, server, _, same⟩ := Route.forwardRequest_ok sent
  obtain ⟨first, second, third, address, scheme, host, replaced⟩ :=
    Headers.setForwarded_of_untrusted arrival.ip config.holds_scheme received
  have kept {name : HeaderName} (named : .host ≠ name) (authorization : .authorization ≠ name)
      (cookie : .cookie ≠ name) : (Call.ofRequest request).request.headers.values name =
        ((((arrival.request.headers.stripHopByHop.insert .host server).eraseAll
          Headers.forwardedNames).append .forwardedFor first).append
            .forwardedProto second |>.append .forwardedHost third).values name := by
    rw [Call.ofRequest, Call.named_values request named, same, trust]
    simp only [Route.forwardHeaders, PublicAddress.client, scheme_of_untrusted built untrusted,
      host_of_untrusted built untrusted, replaced]
    split
    · exact Headers.values_setIdentity_of_ne authorization cookie _ _
    · rfl
  have erased (headers : Headers) : headers.eraseAll Headers.forwardedNames =
      ((headers.erase .forwardedFor).erase .forwardedProto).erase .forwardedHost := rfl
  constructor
  case address =>
    apply Headers.says_of_values address
    rw [kept (by decide) (by decide) (by decide), erased]
    simp +decide
  case scheme =>
    apply Headers.says_of_values scheme
    rw [kept (by decide) (by decide) (by decide), erased]
    simp +decide
  case host =>
    apply Headers.says_of_values host
    rw [kept (by decide) (by decide) (by decide), erased]
    simp +decide

private theorem handleRoute_of_sameBeyond (same : left.SameBeyond Headers.forwardedNames right)
    (received : HeaderValue.Holds left.addressedHost) :
    gate.handleRoute left route = gate.handleRoute right route := by
  have inquired : gate.inquire left route.auth = gate.inquire right route.auth := by
    have asked := question_of_sameBeyond built untrusted same route.auth
    cases posed : gate.question right route.auth with
    | error cause => rw [inquire_of_error posed, inquire_of_error (asked.trans posed)]
    | ok question =>
      rw [inquire_of_question posed, inquire_of_question (asked.trans posed), same.asking]
  have sends (grant : Option Grant) :
      gate.send left route grant = gate.send right route grant := by
    have outgoing : gate.outgoing left route grant = gate.outgoing right route grant :=
      outgoing_of_sameBeyond built untrusted same received grant
    cases posed : gate.outgoing right route grant with
    | error cause => rw [send_of_error posed, send_of_error (outgoing.trans posed)]
    | ok request =>
      rw [send_of_outgoing posed, send_of_outgoing (outgoing.trans posed), same.sending]
  exact handleRoute_congr inquired sends (same.entry (by decide)) same.method
    (requestedUri_of_sameBeyond built untrusted same)

end Untrusted

private theorem addressedHost_admitted {uri : Uri} (freshId : HeaderValue)
    (normal : arrival.request.uri.normalize = .ok uri) :
    (arrival.admitted freshId uri).addressedHost = arrival.addressedHost := by
  have authority := (Uri.normalize_eq_ok normal).1
  have named : (identify freshId arrival.request).headers.firstText? .host =
      arrival.request.headers.firstText? .host := by
    have different : HeaderName.requestId ≠ .host := by decide
    unfold identify
    split
    · rfl
    · simp [Headers.firstText?, Headers.first?, different]
  simp only [Arrival.addressedHost, Arrival.admitted, named, authority]

private theorem holds_addressedHost {text : String}
    (received : Uri.parse text = .ok arrival.request.uri) :
    HeaderValue.Holds arrival.addressedHost := by
  unfold Arrival.addressedHost
  cases shown : arrival.request.headers.firstText? .host with
  | some host => exact Headers.holds_firstText? shown
  | none =>
    cases named : arrival.request.uri.authority? with
    | none => exact PublicAddress.holds_fallbackHost
    | some name => exact Uri.holds_authority received named

/-- What holds of the exchange for any arrival at a gate without trust: no other arrival that differs
in forwarded fields has another one, and servers are told what the gate itself knows. -/
structure IgnoresForwarded (config : GateConfig) (gate : Gate) (freshId : HeaderValue)
    (arrival : Arrival) : Prop where
  hidden : ∀ other, arrival.SameBeyond Headers.forwardedNames other →
    gate.exchange freshId arrival = gate.exchange freshId other
  described : ∀ uri route, arrival.request.uri.normalize = .ok uri →
    gate.table.find? uri.path = some route →
    (gate.exchange freshId arrival).calls =
        (gate.asked (arrival.admitted freshId uri) route).calls ++
          gate.sent (arrival.admitted freshId uri) route ∧
      ∀ call ∈ gate.sent (arrival.admitted freshId uri) route,
        config.Describes arrival call.request.headers

/-- A gate that does not trust forwarded fields exchanges a request in the same way whatever they
say: with the same calls, the same response, and the same entries in the log. -/
theorem exchange_ignoresForwarded {text : String} (built : Gate.ofConfig config = .ok gate)
    (untrusted : config.external.trustForwarded = false) (freshId : HeaderValue)
    (received : Uri.parse text = .ok arrival.request.uri) :
    IgnoresForwarded config gate freshId arrival := by
  have proper := holds_addressedHost received
  have admitted {uri : Uri} (normal : arrival.request.uri.normalize = .ok uri) :
      HeaderValue.Holds (arrival.admitted freshId uri).addressedHost := by
    rw [addressedHost_admitted freshId normal]
    exact proper
  constructor
  case hidden =>
    intro other same
    apply exchange_of_sameBeyond freshId same (by decide)
    intro uri route normal _
    exact handleRoute_of_sameBeyond built untrusted (same.admitted (by decide) freshId uri)
      (admitted (by rw [same.uri, normal]))
  case described =>
    intro uri route normal found
    refine ⟨(exchange_spec freshId normal found).1, ?_⟩
    intro call member
    obtain ⟨grant, request, _, sent, rfl⟩ := mem_sent member
    have described := describes_of_outgoing built untrusted (admitted normal) sent
    exact ⟨described.address, described.scheme,
      addressedHost_admitted freshId normal ▸ described.host⟩

/-- A client that claims to be behind two proxies, and whose name for the gate cannot be shown. -/
def pretender : Arrival where
  ip := .v6 [0, 0, 0, 0, 0, 0, 0, 1]
  asking _ := .replies { response := .bare .ok }
  sending _ := .replies { response := .bare .ok }
  request :=
    { method := "GET"
      uri := .absolute "http" "u@h:81" ⟨"/a", none⟩
      headers := ⟨[(.forwardedFor, ⟨[49], rfl⟩), (.host, ⟨[233], rfl⟩),
        (.forwardedHost, ⟨[101], rfl⟩), (.forwardedFor, ⟨[50], rfl⟩)]⟩
      body := [] }

theorem exchange_ignoresForwarded_pretender : ∃ gate route, Gate.ofConfig .guarded = .ok gate ∧
    gate.table.find? "/a" = some route ∧
    GateConfig.guarded.external.trustForwarded = false ∧
    Uri.parse "http://u@h:81/a" = .ok pretender.request.uri ∧
    pretender.addressedHost = "u@h:81" ∧
    IgnoresForwarded .guarded gate ⟨[69], rfl⟩ pretender := by
  obtain ⟨gate, route, built, found, _⟩ := GateConfig.guarded_built
  have received : Uri.parse "http://u@h:81/a" = .ok pretender.request.uri := by decide +kernel
  have addressed : pretender.addressedHost = "u@h:81" := by decide +kernel
  exact ⟨gate, route, built, found, rfl, received, addressed,
    exchange_ignoresForwarded built rfl _ received⟩

end Gate
end AuthGate
