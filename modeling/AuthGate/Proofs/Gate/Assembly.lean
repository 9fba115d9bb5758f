import AuthGate.Gate.Basic
import AuthGate.Proofs.Config.Validation
import AuthGate.Proofs.Except

namespace AuthGate

/-- The parts of a route, as they are configured. -/
structure Route.Parts (config : RouteConfig) (route : Route) : Prop where
  pathBase : route.pathBase = config.pathBase
  target : Target.parse config.server = .ok route.target
  auth : route.auth = config.auth

theorem Route.parts_of_compile {index : Nat} {config : RouteConfig} {route : Route}
    (compiled : compile index config = .ok route) : Parts config route := by
  unfold compile at compiled
  split at compiled
  · cases compiled
  · split at compiled
    · cases compiled
    · rename_i target parsed
      split at compiled
      · cases compiled
      · cases compiled
        exact ⟨rfl, parsed, rfl⟩

namespace RouteTable

theorem compileFrom_mem {index : Nat} {configs : List RouteConfig} {routes : List Route}
    (compiled : compileFrom index configs = .ok routes) {route : Route} (member : route ∈ routes) :
    ∃ position, ∃ config ∈ configs, Route.compile position config = .ok route := by
  induction configs generalizing index routes with
  | nil =>
    cases compiled
    cases member
  | cons config rest ih =>
    unfold compileFrom at compiled
    cases first : Route.compile index config with
    | error problem => simp [first] at compiled
    | ok head =>
      cases others : compileFrom (index + 1) rest with
      | error problem => simp [first, others] at compiled
      | ok tail =>
        have same : head :: tail = routes := by simpa [first, others] using compiled
        subst same
        rcases List.mem_cons.mp member with here | later
        · subst here
          exact ⟨index, config, List.mem_cons_self, first⟩
        · obtain ⟨position, owner, present, built⟩ := ih others later
          exact ⟨position, owner, List.mem_cons_of_mem _ present, built⟩

theorem compile_mem {configs : List RouteConfig} {table : RouteTable}
    (compiled : compile configs = .ok table) {route : Route} (member : route ∈ table.routes) :
    ∃ position, ∃ config ∈ configs, Route.compile position config = .ok route := by
  unfold compile at compiled
  cases routes : compileFrom 0 configs with
  | error problem => simp [routes] at compiled
  | ok list =>
    have same : (⟨list⟩ : RouteTable) = table := by simpa [routes] using compiled
    rw [← same] at member
    exact compileFrom_mem routes member

theorem closest_mem {routes : List Route} {route : Route} (found : closest routes = some route) :
    route ∈ routes := by
  induction routes with
  | nil => cases found
  | cons head rest ih =>
    unfold closest at found
    cases other : closest rest with
    | none =>
      simp only [other, Option.some.injEq] at found
      simp [found]
    | some later =>
      simp only [other] at found
      split at found
      · cases found
        exact List.mem_cons_of_mem _ (ih other)
      · cases found
        exact List.mem_cons_self

/-- The route of a path is one of the table and covers the path. -/
theorem find?_mem {table : RouteTable} {path : String} {route : Route}
    (found : table.find? path = some route) : route ∈ table.routes ∧ route.covers path = true :=
  List.mem_filter.mp (closest_mem found)

end RouteTable

namespace Gate

variable {config : GateConfig} {gate : Gate}

/-- The parts of a gate, each built from its section of a configuration without problems. -/
structure Parts (config : GateConfig) (gate : Gate) : Prop where
  valid : config.Valid
  table : RouteTable.compile config.routes = .ok gate.table
  introspector : Introspector.ofConfig config.introspection config.auth = .ok gate.introspector
  denials : DenialPolicy.ofConfig config.auth = .ok gate.denials
  address : gate.address = .ofConfig config.external config.listener.tls.isSome
  trustForwarded : gate.trustForwarded = config.external.trustForwarded
  serverTimeout : gate.serverTimeout = .ofSecs config.timeouts.serverSecs
  requestTimeout : gate.requestTimeout = .ofSecs config.timeouts.requestSecs

theorem problems_of_ofConfig (built : Gate.ofConfig config = .ok gate) : config.problems = [] := by
  unfold Gate.ofConfig at built
  cases checked : config.validate with
  | error problems => simp [checked] at built
  | ok _ => exact GateConfig.problems_of_validate checked

theorem parts_of_ofConfig (built : Gate.ofConfig config = .ok gate) : Parts config gate := by
  have valid := GateConfig.valid_of_problems (problems_of_ofConfig built)
  unfold Gate.ofConfig at built
  cases checked : config.validate with
  | error problems => simp [checked] at built
  | ok _ =>
    cases assembled : assemble config with
    | error problem => simp [checked, assembled] at built
    | ok other =>
      have same : other = gate := by simpa [checked, assembled] using built
      subst same
      obtain ⟨table, compiled, rest⟩ := bind_eq_ok assembled
      obtain ⟨introspector, resolved, rest⟩ := bind_eq_ok rest
      obtain ⟨denials, read, rest⟩ := bind_eq_ok rest
      cases rest
      exact ⟨valid, compiled, resolved, read, rfl, rfl, rfl, rfl⟩

/-- Every route that a gate finds is compiled from one of its configuration. -/
theorem route_compiled {path : String} {route : Route} (built : Gate.ofConfig config = .ok gate)
    (found : gate.table.find? path = some route) :
    ∃ index, ∃ routeConfig ∈ config.routes, Route.compile index routeConfig = .ok route :=
  RouteTable.compile_mem (parts_of_ofConfig built).table (RouteTable.find?_mem found).1

/-- The service is waited for as long as the configuration says. -/
theorem introspector_timeout (built : Gate.ofConfig config = .ok gate) :
    gate.introspector.timeout = .ofMillis config.auth.timeoutMs := by
  have resolved := (parts_of_ofConfig built).introspector
  obtain ⟨cookie, _, rest⟩ := bind_eq_ok resolved
  obtain ⟨oauth2, _, rest⟩ := bind_eq_ok rest
  obtain ⟨cookieAnonymous, _, rest⟩ := bind_eq_ok rest
  obtain ⟨m2m, _, rest⟩ := bind_eq_ok rest
  rw [← Except.ok.inj rest]

theorem introspector_limit (built : Gate.ofConfig config = .ok gate) :
    gate.introspector.timeout.micros = 1000 * config.auth.timeoutMs := by
  rw [introspector_timeout built]
  rfl

theorem server_limit (built : Gate.ofConfig config = .ok gate) :
    gate.serverTimeout.micros = 1000 * (1000 * config.timeouts.serverSecs) := by
  rw [(parts_of_ofConfig built).serverTimeout]
  simp only [Duration.ofSecs]
  omega

end Gate

/-- One server behind one route, which asks for a session cookie. -/
def GateConfig.guarded : GateConfig where
  routes := [{ pathBase := "/", server := "http://a", auth := .cookie }]
  introspection := { cookie := some "http://b" }

/-- What is seen of a gate and of one of its routes is seen of a gate that has been built. -/
theorem Gate.built_of_seen {α : Type} {config : GateConfig} {path : String}
    {view : Gate → Route → α} {value : α}
    (seen : ((Gate.ofConfig config).toOption.bind fun gate =>
      (gate.table.find? path).map (view gate)) = some value) :
    ∃ gate route, Gate.ofConfig config = .ok gate ∧ gate.table.find? path = some route ∧
      view gate route = value := by
  obtain ⟨gate, built, viewed⟩ := Option.bind_eq_some_iff.mp seen
  obtain ⟨route, found, same⟩ := Option.map_eq_some_iff.mp viewed
  exact ⟨gate, route, ok_of_toOption built, found, same⟩

theorem GateConfig.guarded_built : ∃ gate route, Gate.ofConfig guarded = .ok gate ∧
    gate.table.find? "/a" = some route ∧ route.auth = .cookie := by
  have seen : ((Gate.ofConfig guarded).toOption.bind fun gate =>
      (gate.table.find? "/a").map fun route => route.auth) = some .cookie := by decide +kernel
  exact Gate.built_of_seen seen

end AuthGate
