import AuthGate.Proofs.Gate.Assembly
import AuthGate.Proofs.Gate.Passage
import AuthGate.Proofs.Route.Confinement

namespace AuthGate

theorem Route.base_of_compile {index : Nat} {config : RouteConfig} {route : Route}
    (compiled : compile index config = .ok route) :
    Target.parse config.server = .ok route.target :=
  (parts_of_compile compiled).target

namespace Gate

variable {config : GateConfig} {gate : Gate} {arrival : Arrival} {route : Route}

private theorem sentPath_of_mem {text : String} {uri : Uri} {call : Call}
    (built : Gate.ofConfig config = .ok gate) (freshId : HeaderValue)
    (received : Uri.parse text = .ok arrival.request.uri)
    (normal : arrival.request.uri.normalize = .ok uri)
    (found : gate.table.find? uri.path = some route)
    (member : call ∈ gate.sent (arrival.admitted freshId uri) route) :
    ∃ below, route.SentPath uri.path call.request.uri.path.toList below := by
  obtain ⟨index, routeConfig, _, compiled⟩ := route_compiled built found
  have base := Target.isInside_basePath (Route.base_of_compile compiled)
  have inside := Uri.inside_of_parse received
  have accepted := Uri.normalize_path inside normal
  obtain ⟨grant, request, _, outgoing, rfl⟩ := mem_sent member
  obtain ⟨target, host, ⟨parsed, _⟩, same⟩ := Route.forwardRequest_ok outgoing
  have sent : (Call.ofRequest request).request.uri.path = target.path := by
    rw [Call.ofRequest, Call.named_uri, same]
    rfl
  rw [sent]
  exact Route.sentPath base (Path.head_of_normalize accepted) (Path.settled_of_normalize accepted)
    (Path.inside_of_normalize accepted inside) parsed

/-- Whatever path a client asks for, what is sent on goes to a path below that of the server. It is
confined there unless the substitution of the route has put a dot segment together. -/
theorem exchange_sentPath {text : String} {uri : Uri} (built : Gate.ofConfig config = .ok gate)
    (freshId : HeaderValue) (received : Uri.parse text = .ok arrival.request.uri)
    (normal : arrival.request.uri.normalize = .ok uri)
    (found : gate.table.find? uri.path = some route) :
    (gate.exchange freshId arrival).calls =
        (gate.asked (arrival.admitted freshId uri) route).calls ++
          gate.sent (arrival.admitted freshId uri) route ∧
      ∀ call ∈ gate.sent (arrival.admitted freshId uri) route,
        ∃ below, route.SentPath uri.path call.request.uri.path.toList below :=
  ⟨(exchange_spec freshId normal found).1,
    fun _ member => sentPath_of_mem built freshId received normal found member⟩

/-- A client that asks for a path beside the one that is taken away from it. -/
def stray : Arrival where
  ip := .v4 0
  asking _ := .replies { response := .bare .ok }
  sending _ := .replies { response := .bare .ok }
  request := ⟨"GET", .origin ⟨"/app../secret", none⟩, .empty, []⟩

end Gate

/-- One route that takes the beginning of paths away, as far as its text goes. -/
def GateConfig.stripping : GateConfig where
  routes := [{
    pathBase := "/app"
    substitution := some ⟨"^/app(.*)", "/$1"⟩
    server := "http://a/base" }]

theorem GateConfig.stripping_built : ∃ gate route, Gate.ofConfig stripping = .ok gate ∧
    gate.table.find? "/app../secret" = some route ∧ route.target.basePath = "/base" ∧
    (gate.sent (Gate.stray.admitted ⟨[65], rfl⟩ Gate.stray.request.uri) route).map
      (·.request.uri.path) = ["/base/../secret"] := by
  have evaluated : ((Gate.ofConfig stripping).toOption.bind fun gate =>
      (gate.table.find? "/app../secret").map fun route => (route.target.basePath,
        (gate.sent (Gate.stray.admitted ⟨[65], rfl⟩ Gate.stray.request.uri) route).map
          (·.request.uri.path))) = some ("/base", ["/base/../secret"]) := by decide +kernel
  cases built : Gate.ofConfig stripping with
  | error problems => simp [built, Except.toOption] at evaluated
  | ok gate =>
    cases found : gate.table.find? "/app../secret" with
    | none => simp [built, found, Except.toOption] at evaluated
    | some route =>
      obtain ⟨base, paths⟩ : route.target.basePath = "/base" ∧
          (gate.sent (Gate.stray.admitted ⟨[65], rfl⟩ Gate.stray.request.uri) route).map
            (·.request.uri.path) = ["/base/../secret"] := by
        simpa [built, found, Except.toOption] using evaluated
      exact ⟨gate, route, rfl, found, base, paths⟩

namespace Gate

theorem exchange_sentPath_stray : ∃ gate route, Gate.ofConfig .stripping = .ok gate ∧
    gate.table.find? "/app../secret" = some route ∧
    (gate.exchange ⟨[65], rfl⟩ stray).calls =
      (gate.asked (stray.admitted ⟨[65], rfl⟩ stray.request.uri) route).calls ++
        gate.sent (stray.admitted ⟨[65], rfl⟩ stray.request.uri) route ∧
    ∀ call ∈ gate.sent (stray.admitted ⟨[65], rfl⟩ stray.request.uri) route,
      ∃ below, route.SentPath "/app../secret" call.request.uri.path.toList below := by
  obtain ⟨gate, route, built, found, _⟩ := GateConfig.stripping_built
  have received : Uri.parse "/app../secret" = .ok stray.request.uri := by decide +kernel
  have normal : stray.request.uri.normalize = .ok stray.request.uri := by decide +kernel
  exact ⟨gate, route, built, found, exchange_sentPath built ⟨[65], rfl⟩ received normal found⟩

/-- A replacement without dots puts the end of one segment behind a slash, and the two dots there
lead out of the path of the server. -/
theorem stray_not_confined : ∃ gate route call, Gate.ofConfig .stripping = .ok gate ∧
    gate.table.find? "/app../secret" = some route ∧
    call ∈ gate.sent (stray.admitted ⟨[65], rfl⟩ stray.request.uri) route ∧
    Path.normalize call.request.uri.path = .ok "/secret" ∧
    ¬ ∃ below, call.request.uri.path.toList = route.target.basePath.toList ++ below ∧
      Path.Confined below := by
  obtain ⟨gate, route, built, found, base, paths⟩ := GateConfig.stripping_built
  obtain ⟨call, member, path⟩ : ∃ call,
      call ∈ gate.sent (stray.admitted ⟨[65], rfl⟩ stray.request.uri) route ∧
        call.request.uri.path = "/base/../secret" := by
    have present : "/base/../secret" ∈
        (gate.sent (stray.admitted ⟨[65], rfl⟩ stray.request.uri) route).map
          (·.request.uri.path) := by
      rw [paths]
      exact List.mem_singleton_self _
    exact List.mem_map.mp present
  refine ⟨gate, route, call, built, found, member, by rw [path]; rfl, ?_⟩
  rintro ⟨below, under, confined⟩
  rw [path, base] at under
  have same : below = "/../secret".toList :=
    (List.append_cancel_left (show "/base".toList ++ "/../secret".toList = _ from under)).symm
  have dots : Path.IsDotSegment ['.', '.'] :=
    .inr (.plain (by decide) (by decide) (.plain (by decide) (by decide) .nil))
  exact confined ['.', '.'] (by rw [same]; decide) dots

end Gate
end AuthGate
