import AuthGate.Proofs.Path.Normal
import AuthGate.Proofs.Route.Selection
import AuthGate.Proofs.Url.Uri

/-! Which routes get requests. A route that has the beginning of an earlier one gets none, and is
reported. Of the others, one whose beginning is a path in normal form gets some; for any other one it
depends on how its beginning can be continued, and it may get none without being reported. -/
namespace AuthGate

namespace RouteTable

variable {table : RouteTable} {route : Route} {i : Nat}

/-- Some path, however it is written, selects the route at a position. -/
def Reached (table : RouteTable) (i : Nat) (route : Route) : Prop :=
  ∃ path normal, Path.normalize path = .ok normal ∧
    table.find? normal = some route ∧ table.position? normal = some i

/-- The beginning of a route goes on for a few characters to a path in normal form that no other route
is closer to. -/
def Continues (table : RouteTable) (route : Route) : Prop :=
  ∃ tail : String, tail.length ≤ 4 ∧
    Path.normalize (route.pathBase ++ tail) = .ok (route.pathBase ++ tail) ∧
    ∀ other ∈ table.routes, other.covers (route.pathBase ++ tail) = true →
      other.specificity ≤ route.specificity

private theorem Selects.not_repeats {path : String} (selects : table.Selects path i route) :
    ¬ table.Repeats i route := by
  rintro ⟨earlier, before, same⟩
  exact selects.first earlier before same

private theorem Selects.continues {path : String} (selects : table.Selects path i route)
    (normal : Path.Normal path.toList) (absolute : route.pathBase.toList.head? = some '/') :
    table.Continues route := by
  obtain ⟨tail, short, under, continued⟩ :=
    normal.shorten (Route.covers_iff.mp selects.covers) absolute
  have chars : (route.pathBase ++ String.ofList tail).toList = route.pathBase.toList ++ tail := by
    rw [String.toList_append, String.toList_ofList]
  refine ⟨String.ofList tail, by simpa using short, ?_, ?_⟩
  · exact Path.normalize_of_normal (chars.symm ▸ continued)
  · intro other member covers
    have closer := Route.covers_iff.mp covers
    rw [chars] at closer
    exact selects.closest other member (Route.covers_iff.mpr (closer.trans under))

theorem selects_of_not_repeats {path : String} (here : table.routes[i]? = some route)
    (fresh : ¬ table.Repeats i route) (covers : route.covers path = true)
    (closest : ∀ other ∈ table.routes, other.covers path = true →
      other.specificity ≤ route.specificity) :
    table.Selects path i route :=
  ⟨here, covers, closest, fun earlier before same => fresh ⟨earlier, before, same⟩⟩

private theorem reached_iff (here : table.routes[i]? = some route)
    (absolute : route.pathBase.toList.head? = some '/') :
    table.Reached i route ↔ ¬ table.Repeats i route ∧ table.Continues route := by
  constructor
  · rintro ⟨path, normal, accepted, found, position⟩
    have selects := selects_iff.mpr ⟨found, position⟩
    exact ⟨selects.not_repeats, selects.continues (Path.normal_of_normalize accepted) absolute⟩
  · rintro ⟨fresh, tail, _, normal, closest⟩
    have covers : route.covers (route.pathBase ++ tail) = true := by
      rw [Route.covers_iff, String.toList_append]
      exact List.prefix_append _ _
    have selects := selects_of_not_repeats here fresh covers closest
    exact ⟨_, _, normal, selects.find?_eq, selects.position?_eq⟩

private theorem specificity_le_of_covers {other : Route}
    (covers : other.covers route.pathBase = true) :
    other.specificity ≤ route.specificity := by
  obtain ⟨rest, _, longer⟩ := Route.specificity_of_under (Route.covers_iff.mp covers)
  omega

private theorem parse_of_normal {path : String} (normal : Path.normalize path = .ok path)
    (written : ∀ c ∈ path.toList, PathAndQuery.isPathChar c = true)
    (short : path.utf8ByteSize ≤ PathAndQuery.maxLength) :
    ∃ uri, Uri.parse path = .ok uri ∧ uri.normalize = .ok uri ∧ uri.path = path := by
  have parts : PathAndQuery.text ⟨path, none⟩ = path ++ "" :=
    (PathAndQuery.text_of_rooted (Path.head_of_normalize normal)).2
  rw [String.append_empty] at parts
  have target : PathAndQuery.parse path = .ok ⟨path, none⟩ := by
    have parsed := PathAndQuery.parse_text (Path.head_of_normalize normal) written
      (by rintro _ ⟨⟩) (parts.symm ▸ short)
    rwa [parts] at parsed
  obtain ⟨rest, rooted⟩ := List.head?_eq_some_iff.mp (Path.head_of_normalize normal)
  have same : (Uri.origin ⟨path, none⟩).path = path := by
    have nonempty : path ≠ "" := by
      rintro rfl
      cases rooted
    simp [Uri.path, Uri.target?, PathAndQuery.path, nonempty]
  refine ⟨.origin ⟨path, none⟩, ?_, ?_, same⟩
  · simp [Uri.parse, rooted, target, Nat.not_lt.mpr short, bind, Except.bind, pure, Except.pure]
  · simp [Uri.normalize, same, normal, target, Uri.query?, Uri.target?, Uri.withTarget?, bind,
      Except.bind]

/-- No path in normal form continues the beginning of a route in which a character is escaped that needs
no escape. -/
theorem not_reached_of_escape {before after : List Char} {first second : Char} {value : Nat}
    (chars : route.pathBase.toList = before ++ '%' :: first :: second :: after)
    (whole : Path.Whole before) (read : Path.escapeValue? first second = some value)
    (unreserved : Path.isUnreserved (Char.ofNat value) = true) : ¬ table.Reached i route := by
  rintro ⟨path, normal, accepted, found, _⟩
  obtain ⟨rest, under⟩ := Route.covers_iff.mp (find?_mem found).2
  have escaped : Path.Normal (before ++ '%' :: first :: second :: (after ++ rest)) := by
    have whole := Path.normal_of_normalize accepted
    rw [← under, chars] at whole
    simpa using whole
  exact Path.Normal.not_escaped whole read unreserved escaped

/-- What is known of whether the route at a position of a table gets requests. -/
structure Reachability (table : RouteTable) (i : Nat) (route : Route) : Prop where
  reached : table.Reached i route ↔ ¬ table.Repeats i route ∧ table.Continues route
  normal : Path.normalize route.pathBase = .ok route.pathBase →
    (table.Reached i route ↔ ¬ table.Repeats i route)
  requested : Path.normalize route.pathBase = .ok route.pathBase →
    (∀ c ∈ route.pathBase.toList, PathAndQuery.isPathChar c = true) →
    route.pathBase.utf8ByteSize ≤ PathAndQuery.maxLength → ¬ table.Repeats i route →
    ∃ uri, Uri.parse route.pathBase = .ok uri ∧ uri.normalize = .ok uri ∧
      table.find? uri.path = some route ∧ table.position? uri.path = some i
  escaped : ∀ before after first second value,
    route.pathBase.toList = before ++ '%' :: first :: second :: after → Path.Whole before →
    Path.escapeValue? first second = some value → Path.isUnreserved (Char.ofNat value) = true →
    ¬ table.Reached i route

private theorem absolute_of_compile {config : GateConfig} (checked : config.validate = .ok ())
    (compiled : compile config.routes = .ok table) (member : route ∈ table.routes) :
    route.pathBase.toList.head? = some '/' := by
  obtain ⟨_, routeConfig, configured, read⟩ := compile_mem compiled member
  have clean := GateConfig.checkRoutes_of_problems (GateConfig.problems_of_validate checked)
  obtain ⟨_, checkedRoute⟩ := GateConfig.check_of_checkRoutes clean routeConfig configured
  rw [(Route.parts_of_compile read).pathBase]
  exact RouteConfig.absolute_of_check checkedRoute

/-- The routes of a configuration without problems: those that repeat an earlier one are reported, and
each of the others gets requests just if its beginning goes on to a path of its own. -/
theorem reachability {config : GateConfig} (checked : config.validate = .ok ())
    (compiled : compile config.routes = .ok table) :
    table.shadowed =
      (table.routes.zipIdx.filter fun (route, i) => decide (table.Repeats i route)).map (·.1) ∧
    ∀ i route, table.routes[i]? = some route → table.Reachability i route := by
  refine ⟨table.shadowed_eq, ?_⟩
  intro i route here
  have reached := reached_iff here
    (absolute_of_compile checked compiled (List.mem_of_getElem? here))
  have closest : ∀ other ∈ table.routes, other.covers route.pathBase = true →
      other.specificity ≤ route.specificity := fun _ _ => specificity_le_of_covers
  constructor
  case reached => exact reached
  case normal =>
    intro normal
    rw [reached, and_iff_left]
    exact ⟨"", by decide, by simpa using normal, by simpa using closest⟩
  case requested =>
    intro normal written short fresh
    obtain ⟨uri, parsed, kept, same⟩ := parse_of_normal normal written short
    have selects := selects_of_not_repeats here fresh
      (Route.covers_iff.mpr List.prefix_rfl) closest
    exact ⟨uri, parsed, kept, same ▸ selects.find?_eq, same ▸ selects.position?_eq⟩
  case escaped =>
    intro before after first second value chars whole read unreserved
    exact not_reached_of_escape chars whole read unreserved

end RouteTable

/-- A route under an open root, and a second one with the same beginning. -/
def GateConfig.twofold : GateConfig where
  routes := [{ pathBase := "/", server := "http://a" },
    { pathBase := "/~root", server := "http://a", auth := .cookie },
    { pathBase := "/~root", server := "http://a" }]
  introspection := { cookie := some "http://b" }

namespace RouteTable

theorem reachability_twofold : ∃ table guarded again, GateConfig.twofold.validate = .ok () ∧
    compile GateConfig.twofold.routes = .ok table ∧
    table.routes[1]? = some guarded ∧ table.routes[2]? = some again ∧
    table.Reached 1 guarded ∧ ¬ table.Reached 2 again ∧ table.shadowed = [again] := by
  have checked : GateConfig.twofold.validate = .ok () := by decide +kernel
  have seen : (compile GateConfig.twofold.routes).toOption.map
      (fun table => table.routes.map (·.pathBase)) = some ["/", "/~root", "/~root"] := by
    decide +kernel
  obtain ⟨⟨routes⟩, succeeded, bases⟩ := Option.map_eq_some_iff.mp seen
  have compiled := ok_of_toOption succeeded
  obtain ⟨root, guarded, again, rfl, first, second, third⟩ : ∃ root guarded again,
      routes = [root, guarded, again] ∧ root.pathBase = "/" ∧ guarded.pathBase = "/~root" ∧
        again.pathBase = "/~root" := by
    simp only [List.map_eq_cons_iff, List.map_eq_nil_iff] at bases
    obtain ⟨root, _, rfl, first, guarded, _, rfl, second, again, _, rfl, third, rfl⟩ := bases
    exact ⟨root, guarded, again, rfl, first, second, third⟩
  obtain ⟨shadowed, reachability⟩ := reachability checked compiled
  have normal : Path.normalize "/~root" = .ok "/~root" := by decide
  have reached := (reachability 1 guarded rfl).normal (second.symm ▸ normal)
  have repeated := (reachability 2 again rfl).normal (third.symm ▸ normal)
  refine ⟨_, guarded, _, checked, compiled, rfl, rfl, ?_, ?_, ?_⟩
  · rw [reached]
    simp [Repeats, first, second]
  · rw [repeated]
    simp [Repeats, second, third]
  · rw [shadowed]
    simp [List.zipIdx, Repeats, first, second, third]

end RouteTable

/-- A route whose beginning has an escape that no path in normal form has, under an open root. -/
def GateConfig.escaping : GateConfig where
  routes := [{ pathBase := "/", server := "http://a" },
    { pathBase := "/%7Eroot", server := "http://a", auth := .cookie }]
  introspection := { cookie := some "http://b" }

namespace RouteTable

/-- It is reported nowhere and gets no request: those that are meant for it go to the open root. -/
theorem escaping_unreached : ∃ table guarded, GateConfig.escaping.validate = .ok () ∧
    compile GateConfig.escaping.routes = .ok table ∧ table.routes[1]? = some guarded ∧
    table.shadowed = [] ∧ ¬ table.Repeats 1 guarded ∧ ¬ table.Reached 1 guarded ∧
    Path.normalize "/%7Eroot" = .ok "/~root" ∧ table.position? "/~root" = some 0 := by
  have seen : (compile GateConfig.escaping.routes).toOption.map (fun table =>
      (table.routes.map (·.pathBase), table.position? "/~root")) =
        some (["/", "/%7Eroot"], some 0) := by
    decide +kernel
  obtain ⟨⟨routes⟩, succeeded, same⟩ := Option.map_eq_some_iff.mp seen
  have compiled := ok_of_toOption succeeded
  obtain ⟨bases, position⟩ := Prod.mk.inj same
  obtain ⟨root, guarded, rfl, first, second⟩ : ∃ root guarded,
      routes = [root, guarded] ∧ root.pathBase = "/" ∧ guarded.pathBase = "/%7Eroot" := by
    simp only [List.map_eq_cons_iff, List.map_eq_nil_iff] at bases
    obtain ⟨root, _, rfl, first, guarded, _, rfl, second, rfl⟩ := bases
    exact ⟨root, guarded, rfl, first, second⟩
  refine ⟨_, guarded, by decide +kernel, compiled, rfl, ?_, ?_, ?_, by decide, position⟩
  · rw [shadowed_eq]
    simp [List.zipIdx, Repeats, first, second]
  · simp [Repeats, first, second]
  · have chars : guarded.pathBase.toList = ['/'] ++ '%' :: '7' :: 'E' :: "root".toList := by
      rw [second]
      decide
    exact not_reached_of_escape chars (.plain (by decide) .nil) rfl (by decide)

end RouteTable
end AuthGate
