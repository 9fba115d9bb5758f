import AuthGate.Proofs.Gate.Buildable
import AuthGate.Proofs.Gate.Confinement
import AuthGate.Proofs.Gate.FailClosed
import AuthGate.Proofs.Gate.Question
import AuthGate.Proofs.Url.Server

namespace AuthGate
open Text

/-- A text is the URL of a server of the web. -/
def Url.Serves (text server : String) : Prop :=
  ∃ url host, parse text = .ok url ∧ url.scheme = "http" ∧ url.hostText? = some host ∧
    server = host ++ url.portText

/-- A request goes to a server: its URI leads there, the only field with the name of a server has the
name of this one, and so the server gets the request as it is. -/
structure Request.GoesTo (request : Request) (server : String) : Prop where
  scheme : request.uri.scheme? = some "http"
  authority : request.uri.authority? = some server
  host : request.headers.Says .host server
  received : Call.ofRequest request = ⟨server, request⟩

namespace Target

variable {text : String} {target : Target}

/-- A target that has been read is the server of a URL of the web with the path of the URL. -/
theorem parse_eq_ok (read : parse text = .ok target) :
    ∃ url host, Url.parse text = .ok url ∧ url.scheme = "http" ∧ url.hostText? = some host ∧
      Authority.parse (host ++ url.portText) = .ok target.authority ∧
      target.basePath = trimSlashes url.path := by
  unfold parse at read
  split at read
  · cases read
  · rename_i url parsed
    split at read
    · cases read
    · rename_i scheme
      split at read
      · cases read
      · rename_i host named
        split at read
        · cases read
        · rename_i authority scanned
          cases read
          exact ⟨url, host, parsed, by simpa using scheme, named, scanned, rfl⟩

theorem serves_of_parse (read : parse text = .ok target) : Url.Serves text target.authority := by
  obtain ⟨url, host, parsed, scheme, named, scanned, _⟩ := parse_eq_ok read
  exact ⟨url, host, parsed, scheme, named, (Authority.parse_eq_ok scanned).1⟩

private theorem hostPort_of_parse (read : parse text = .ok target) :
    Call.hostPort target.authority = target.authority := by
  obtain ⟨url, host, parsed, scheme, named, same⟩ := serves_of_parse read
  obtain ⟨proper, present, rfl, _⟩ := Url.host_of_hostText? named
  obtain ⟨other, same', noAt⟩ := (Url.web_of_parse parsed (Url.isWebScheme_of_eq_http scheme)).host
  cases present.symm.trans same'
  apply Call.hostPort_of_plain
  simp [same, noAt.noAt, url.noAt_portText]

private theorem basePath_cases (read : parse text = .ok target) :
    target.basePath.toList = [] ∨ target.basePath.toList.head? = some '/' := by
  obtain ⟨url, _, parsed, scheme, _, _, path⟩ := parse_eq_ok read
  have web := Url.web_of_parse parsed (Url.isWebScheme_of_eq_http scheme)
  rw [path, ← web.rooted]
  exact (isTrimmed_dropEndWhile url.path).head_cases

theorem head_pathAndQuery {path : String} (read : parse text = .ok target)
    (absolute : path.toList.head? = some '/') (query : Option String) :
    (target.pathAndQuery path query).toList.head? = some '/' := by
  have joined : (target.basePath ++ path).toList.head? = some '/' := by
    rw [String.toList_append]
    rcases basePath_cases read with none | rooted
    · rw [none, List.nil_append, absolute]
    · obtain ⟨rest, chars⟩ := List.head?_eq_some_iff.mp rooted
      simp [chars]
  obtain ⟨rest, chars⟩ := List.head?_eq_some_iff.mp joined
  have nonempty : target.basePath ++ path ≠ "" := by
    intro none
    rw [none] at chars
    cases chars
  unfold pathAndQuery
  cases query with
  | none => simp [nonempty, chars]
  | some query => simp [nonempty, chars, String.toList_append] at joined ⊢

/-- What is sent on for a path begins with a slash. -/
theorem head_written {path : String} {query : Option String} {sent : PathAndQuery}
    (read : parse text = .ok target) (absolute : path.toList.head? = some '/')
    (parsed : PathAndQuery.parse (target.pathAndQuery path query) = .ok sent) :
    sent.written.toList.head? = some '/' := by
  obtain ⟨rest, chars⟩ := List.head?_eq_some_iff.mp (head_pathAndQuery read absolute query)
  rw [PathAndQuery.written_of_parse parsed, chars, List.takeWhile_cons_of_pos rfl]
  rfl

end Target

namespace Route

variable {index : Nat} {config : RouteConfig} {route : Route}

private theorem values_host_forwardHeaders (route : Route) (trust : Bool) (client : Client)
    (grant : Option Grant) (host : HeaderValue) (headers : Headers) :
    (route.forwardHeaders trust client grant host headers).values .host = [host] := by
  have described : ((headers.stripHopByHop.insert .host host).setForwarded client trust).values
      .host = [host] := by
    rw [Headers.values_setForwarded _ _ _ (by decide) (by decide) (by decide),
      Headers.values_insert, if_pos rfl]
  unfold forwardHeaders
  simp only
  split
  · rw [Headers.values_setIdentity_of_ne (by decide) (by decide), described]
  · exact described

private theorem goesTo_of_forwardRequest {trust : Bool} {client : Client} {grant : Option Grant}
    {request outgoing : Request} (compiled : compile index config = .ok route)
    (built : route.forwardRequest trust client grant request = .ok outgoing) :
    outgoing.GoesTo route.target.authority := by
  have server := Target.hostPort_of_parse (base_of_compile compiled)
  obtain ⟨target, host, ⟨_, written⟩, rfl⟩ := forwardRequest_ok built
  have only := route.values_host_forwardHeaders trust client grant host request.headers
  refine ⟨rfl, rfl, Headers.says_of_values written only, ?_⟩
  simp [Call.ofRequest, Call.serverOf, Uri.authority?, server, Call.named, Headers.first?, only]

private theorem parse_forwardRequest {trust : Bool} {client : Client} {grant : Option Grant}
    {request outgoing : Request} (compiled : compile index config = .ok route)
    (built : route.forwardRequest trust client grant request = .ok outgoing)
    (absolute : request.uri.path.toList.head? = some '/')
    (short : outgoing.uri.text.utf8ByteSize ≤ PathAndQuery.maxLength) :
    Uri.parse outgoing.uri.text = .ok outgoing.uri := by
  have read := base_of_compile compiled
  obtain ⟨_, _, _, _, _, server, _⟩ := Target.parse_eq_ok read
  obtain ⟨target, _, ⟨parsed, _⟩, rfl⟩ := forwardRequest_ok built
  have rooted := Target.head_written read (head_substitute absolute) parsed
  exact Uri.parse_absolute server parsed rooted short

end Route

namespace Introspector

variable {endpoint : String} {mark : Option String} {uri : Uri}

/-- An address is that of an endpoint with its mark. If the endpoint is a URL of the web, it has the
authority and the path of the URL and leads to its server. -/
structure Reaches (endpoint : String) (mark : Option String) (uri : Uri) : Prop where
  resolved : resolve endpoint mark = .ok uri
  web : ∀ url, Url.parse endpoint = .ok url → url.scheme = "http" →
    ∃ host target, url.host = some host ∧
      uri = .absolute "http" (url.loginText ++ host.text ++ url.portText) target ∧
      target.path = url.path ∧ Call.serverOf uri = host.text ++ url.portText

theorem resolve_eq_ok (resolved : resolve endpoint mark = .ok uri) :
    ∃ url, Url.parse endpoint = .ok url ∧ Uri.parse (marked url mark).text = .ok uri := by
  cases parsed : Url.parse endpoint with
  | error cause => simp [resolve, parsed] at resolved
  | ok url =>
    refine ⟨url, rfl, ?_⟩
    cases mark with
    | none =>
      simp only [resolve, parsed] at resolved
      split at resolved
      · cases resolved
      · cases resolved
        assumption
    | some id =>
      simp only [resolve, parsed] at resolved
      split at resolved
      · cases resolved
      · cases resolved
        assumption

private theorem marked_parts (url : Url) (mark : Option String) :
    (marked url mark).scheme = url.scheme ∧ (marked url mark).host = url.host ∧
      (marked url mark).loginText = url.loginText ∧ (marked url mark).portText = url.portText ∧
      (marked url mark).path = url.path := by
  cases mark with
  | none => exact ⟨rfl, rfl, rfl, rfl, rfl⟩
  | some id => exact ⟨rfl, rfl, rfl, rfl, rfl⟩

private theorem reaches_of_resolve (resolved : resolve endpoint mark = .ok uri) :
    Reaches endpoint mark uri where
  resolved := resolved
  web url parsed web := by
    obtain ⟨other, again, read⟩ := resolve_eq_ok resolved
    cases parsed.symm.trans again
    have parts := Url.web_of_parse parsed (Url.isWebScheme_of_eq_http web)
    obtain ⟨host, present, _⟩ := parts.host
    obtain ⟨scheme, sameHost, login, port, path⟩ := marked_parts url mark
    obtain ⟨target, same, kept⟩ := (web_marked parts mark).uri_of_parse (scheme.trans web)
      (sameHost.trans present) read
    rw [login, port] at same
    have server : Call.serverOf uri = host.text ++ url.portText := by
      rw [same]
      exact parts.hostPort_eq present
    exact ⟨host, target, present, same, kept.trans path, server⟩

/-- Whatever a request says, the question about it goes to the endpoint of the mode. -/
theorem reaches_of_question {introspection : IntrospectionConfig} {auth : AuthConfig}
    {introspector : Introspector} {mode : AuthMode}
    (resolved : ofConfig introspection auth = .ok introspector)
    (configured : introspector.endpoint? mode = some uri) :
    ∃ endpoint, introspection.endpoint? mode = some endpoint ∧
      Reaches endpoint (markOf auth mode) uri := by
  have found := endpoint?_of_ofConfig resolved mode
  rw [configured] at found
  unfold resolveFor at found
  split at found
  · cases found
  · rename_i endpoint present
    split at found
    · cases found
    · rename_i other written
      cases found
      exact ⟨endpoint, present, reaches_of_resolve written⟩

end Introspector

namespace Gate

/-- What holds of the destinations of a route that has been compiled and of an introspection service
that has been set up, whatever is requested. -/
structure FixedDestinations (config : RouteConfig) (introspection : IntrospectionConfig)
    (auth : AuthConfig) (gate : Gate) (route : Route) : Prop where
  serves : Url.Serves config.server route.target.authority
  forwarded : ∀ trust client grant request outgoing,
    route.forwardRequest trust client grant request = .ok outgoing →
    outgoing.GoesTo route.target.authority
  readAgain : ∀ trust client grant request outgoing,
    route.forwardRequest trust client grant request = .ok outgoing →
    request.uri.path.toList.head? = some '/' →
    outgoing.uri.text.utf8ByteSize ≤ PathAndQuery.maxLength →
    Uri.parse outgoing.uri.text = .ok outgoing.uri
  asked : ∀ credentials requestedUri requestId question,
    gate.introspector.question route.auth credentials requestedUri requestId = .ok question →
    ∃ endpoint, introspection.endpoint? config.auth = some endpoint ∧
      Introspector.Reaches endpoint (Introspector.markOf auth config.auth) question.uri
  contacted : ∀ freshId arrival uri, arrival.request.uri.normalize = .ok uri →
    gate.table.find? uri.path = some route →
    ∃ asked sent, (gate.exchange freshId arrival).calls = asked ++ sent ∧
      (∀ call ∈ asked, call.server = Call.serverOf call.request.uri ∧
        ∃ endpoint, introspection.endpoint? config.auth = some endpoint ∧
          Introspector.Reaches endpoint (Introspector.markOf auth config.auth) call.request.uri) ∧
      ∀ call ∈ sent, call.server = route.target.authority ∧
        call.request.GoesTo route.target.authority

/-- Neither a request nor a substitution has a say in which servers are contacted. -/
theorem fixedDestinations {index : Nat} {config : RouteConfig} {introspection : IntrospectionConfig}
    {auth : AuthConfig} {gate : Gate} {route : Route}
    (compiled : Route.compile index config = .ok route)
    (resolved : Introspector.ofConfig introspection auth = .ok gate.introspector) :
    FixedDestinations config introspection auth gate route := by
  have mode := Route.auth_of_compile compiled
  have reaches {uri : Uri} (configured : gate.introspector.endpoint? route.auth = some uri) :
      ∃ endpoint, introspection.endpoint? config.auth = some endpoint ∧
        Introspector.Reaches endpoint (Introspector.markOf auth config.auth) uri := by
    rw [mode] at configured
    exact Introspector.reaches_of_question resolved configured
  constructor
  case serves => exact Target.serves_of_parse (Route.base_of_compile compiled)
  case forwarded =>
    intro trust client grant request outgoing built
    exact Route.goesTo_of_forwardRequest compiled built
  case readAgain =>
    intro trust client grant request outgoing built absolute short
    exact Route.parse_forwardRequest compiled built absolute short
  case asked =>
    intro credentials requestedUri requestId question posed
    exact reaches (Introspector.question_uri posed)
  case contacted =>
    intro freshId arrival uri normal found
    refine ⟨_, _, (exchange_spec freshId normal found).1, ?_, ?_⟩
    · intro call member
      rcases asked_calls gate (arrival.admitted freshId uri) route with none | ⟨question, posed, once⟩
      · simp [none] at member
      · rw [once, List.mem_singleton] at member
        subst member
        simp only [Call.ofRequest, Call.named_uri, true_and]
        exact reaches (Introspector.question_uri posed)
    · intro call member
      obtain ⟨grant, request, _, outgoing, rfl⟩ := mem_sent member
      have goes := Route.goesTo_of_forwardRequest compiled outgoing
      rw [goes.received]
      exact ⟨rfl, goes⟩

end Gate

/-- A route whose substitution tries to name another server. -/
def RouteConfig.diverting : RouteConfig where
  pathBase := "/"
  substitution := some ⟨"^/", "//u@evil:1/http://evil/"⟩
  server := "http://u:p@a:81"
  auth := .cookieAnonymous

def GateConfig.diverting : GateConfig where
  routes := [.diverting]
  auth := { anonymousId := some "x" }
  introspection := { cookieAnonymous := some "http://u:p@b:82/i?q" }

namespace Gate

/-- A client that names another server wherever it can. -/
def diverter : Arrival where
  ip := .v4 0
  asking _ := .replies { response := .bare .ok }
  sending _ := .replies { response := .bare .ok }
  request :=
    { method := "GET"
      uri := .absolute "https" "evil" ⟨"/@evil", some "http://evil"⟩
      headers := ⟨[(.host, ⟨[100], rfl⟩), (.connection, ⟨[104, 111, 115, 116], rfl⟩),
        (.forwardedHost, ⟨[100], rfl⟩), (.host, ⟨[102], rfl⟩)]⟩
      body := [] }

theorem fixedDestinations_diverter : ∃ gate route index,
    Route.compile index .diverting = .ok route ∧
    Introspector.ofConfig GateConfig.diverting.introspection GateConfig.diverting.auth =
      .ok gate.introspector ∧
    FixedDestinations .diverting GateConfig.diverting.introspection GateConfig.diverting.auth gate
      route ∧
    diverter.request.uri.normalize = .ok diverter.request.uri ∧
    gate.table.find? "/@evil" = some route ∧
    (gate.exchange ⟨[69], rfl⟩ diverter).calls.map
      (fun call => (call.server, call.request.uri.text)) =
      [("b:82", "http://u:p@b:82/i?q&anonymous=x"),
        ("a:81", "http://a:81//u@evil:1/http://evil/@evil?http://evil")] := by
  have seen : ((Gate.ofConfig .diverting).toOption.bind fun gate =>
      (gate.table.find? "/@evil").map fun _ => (gate.exchange ⟨[69], rfl⟩ diverter).calls.map
        fun call => (call.server, call.request.uri.text)) =
      some [("b:82", "http://u:p@b:82/i?q&anonymous=x"),
        ("a:81", "http://a:81//u@evil:1/http://evil/@evil?http://evil")] := by decide +kernel
  obtain ⟨gate, route, built, found, calls⟩ := built_of_seen seen
  obtain ⟨index, config, member, compiled⟩ := route_compiled built found
  rw [List.mem_singleton.mp member] at compiled
  have resolved := (parts_of_ofConfig built).introspector
  have normal : diverter.request.uri.normalize = .ok diverter.request.uri := by decide +kernel
  exact ⟨gate, route, index, compiled, resolved, fixedDestinations compiled resolved, normal, found,
    calls⟩

end Gate
end AuthGate
