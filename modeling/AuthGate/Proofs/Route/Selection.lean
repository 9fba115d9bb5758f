import AuthGate.Proofs.Gate.Assembly
import Mathlib.Data.List.Infix

namespace AuthGate

namespace Route

variable {route other : Route} {path : String}

theorem covers_iff : route.covers path = true ↔ route.pathBase.toList <+: path.toList := by
  rw [covers, Path.startsWith, List.isPrefixOf_iff_prefix]

/-- A longer beginning is more specific by what it has more. -/
theorem specificity_of_under (under : route.pathBase.toList <+: other.pathBase.toList) :
    ∃ rest, other.pathBase = route.pathBase ++ rest ∧
      other.specificity = route.specificity + rest.utf8ByteSize := by
  obtain ⟨rest, longer⟩ := under
  have parts : other.pathBase = route.pathBase ++ String.ofList rest := by
    rw [← String.toList_inj, String.toList_append, String.toList_ofList, longer]
  exact ⟨_, parts, by rw [specificity, parts, String.utf8ByteSize_append, specificity]⟩

theorem pathBase_eq_of_under (under : route.pathBase.toList <+: other.pathBase.toList)
    (same : route.specificity = other.specificity) : route.pathBase = other.pathBase := by
  obtain ⟨rest, parts, size⟩ := specificity_of_under under
  have none : rest = "" := String.utf8ByteSize_eq_zero_iff.mp (by omega)
  rw [parts, none, String.append_empty]

/-- Two routes that cover a path and are equally close to it have one beginning. -/
theorem pathBase_eq_of_specificity (here : route.covers path = true)
    (there : other.covers path = true) (same : route.specificity = other.specificity) :
    route.pathBase = other.pathBase := by
  rcases List.prefix_or_prefix_of_prefix (covers_iff.mp here) (covers_iff.mp there) with under | beyond
  · exact pathBase_eq_of_under under same
  · exact (pathBase_eq_of_under beyond same.symm).symm

end Route

namespace RouteTable

variable {table : RouteTable} {route : Route} {path : String} {i : Nat}

/-- Of several routes one is the closest. -/
theorem closest_eq_none_iff {routes : List Route} : closest routes = none ↔ routes = [] := by
  cases routes with
  | nil => simp [closest]
  | cons head rest =>
    rw [closest]
    split
    · simp
    · split <;> simp

/-- No other route is closer than the closest one. -/
theorem specificity_le_closest {routes : List Route} (found : closest routes = some route) :
    ∀ other ∈ routes, other.specificity ≤ route.specificity := by
  induction routes generalizing route with
  | nil => cases found
  | cons head rest ih =>
    intro other member
    unfold closest at found
    cases later : closest rest with
    | none =>
      simp only [later, Option.some.injEq] at found
      rw [closest_eq_none_iff.mp later, List.mem_singleton] at member
      rw [member, found]
    | some best =>
      have least := ih later
      simp only [later] at found
      split at found
      · rename_i less
        cases found
        rcases List.mem_cons.mp member with rfl | behind
        · exact Nat.le_of_lt less
        · exact least other behind
      · rename_i noLess
        cases found
        rcases List.mem_cons.mp member with rfl | behind
        · exact Nat.le_refl _
        · exact Nat.le_trans (least other behind) (Nat.le_of_not_lt noLess)

theorem closest_append {before after : List Route}
    (less : ∀ other ∈ before, other.specificity < route.specificity)
    (noMore : ∀ other ∈ after, other.specificity ≤ route.specificity) :
    closest (before ++ route :: after) = some route := by
  induction before with
  | nil =>
    rw [List.nil_append, closest]
    cases later : closest after with
    | none => rfl
    | some other =>
      simp [Nat.not_lt.mpr (noMore other (closest_mem later))]
  | cons head rest ih =>
    rw [List.cons_append, closest, ih fun other member => less other (List.mem_cons_of_mem _ member)]
    simp [less head List.mem_cons_self]

/-- A path selects the route at a position: the route covers it, no other one that does is closer, and
no earlier one has the same beginning. -/
structure Selects (table : RouteTable) (path : String) (i : Nat) (route : Route) : Prop where
  here : table.routes[i]? = some route
  covers : route.covers path = true
  closest : ∀ other ∈ table.routes, other.covers path = true →
    other.specificity ≤ route.specificity
  first : ∀ other ∈ table.routes.take i, other.pathBase ≠ route.pathBase

theorem Selects.find?_eq (selects : table.Selects path i route) :
    table.find? path = some route := by
  obtain ⟨inRange, here⟩ := List.getElem?_eq_some_iff.mp selects.here
  have parts : table.routes = table.routes.take i ++ route :: table.routes.drop (i + 1) := by
    rw [← here, List.getElem_cons_drop, List.take_append_drop]
  rw [find?, parts]
  simp only [List.filter_append, List.filter_cons, selects.covers, if_true]
  apply closest_append
  · intro other member
    obtain ⟨early, covers⟩ := List.mem_filter.mp member
    refine Nat.lt_of_le_of_ne (selects.closest other (List.mem_of_mem_take early) covers) ?_
    intro same
    exact selects.first other early (Route.pathBase_eq_of_specificity covers selects.covers same)
  · intro other member
    obtain ⟨late, covers⟩ := List.mem_filter.mp member
    exact selects.closest other (List.mem_of_mem_drop late) covers

theorem Selects.position?_eq (selects : table.Selects path i route) :
    table.position? path = some i := by
  obtain ⟨inRange, here⟩ := List.getElem?_eq_some_iff.mp selects.here
  rw [position?, selects.find?_eq, Option.bind_some, List.findIdx?_eq_some_iff_getElem]
  refine ⟨inRange, by simp [here], ?_⟩
  intro j before
  have early : table.routes[j] ∈ table.routes.take i :=
    List.mem_take_iff_getElem.mpr ⟨j, by omega, rfl⟩
  simpa using selects.first _ early

/-- The route that is found for a path stands where the first one with its beginning does. -/
theorem selects_of_find? (found : table.find? path = some route) :
    ∃ i, table.Selects path i route := by
  obtain ⟨member, covers⟩ := find?_mem found
  obtain ⟨i, position⟩ : ∃ i, table.routes.findIdx? (·.pathBase = route.pathBase) = some i :=
    ⟨_, List.findIdx?_eq_some_of_exists ⟨route, member, by simp⟩⟩
  obtain ⟨inRange, same, first⟩ := List.findIdx?_eq_some_iff_getElem.mp position
  have same : table.routes[i].pathBase = route.pathBase := by simpa using same
  have size : table.routes[i].specificity = route.specificity := by
    rw [Route.specificity, Route.specificity, same]
  have selects : table.Selects path i table.routes[i] := by
    constructor
    case here => exact List.getElem?_eq_getElem inRange
    case covers => rwa [Route.covers, same]
    case closest =>
      intro other present covered
      rw [size]
      exact specificity_le_closest found other (List.mem_filter.mpr ⟨present, covered⟩)
    case first =>
      intro other early
      obtain ⟨j, before, rfl⟩ := List.mem_take_iff_getElem.mp early
      rw [same]
      simpa using first j (by omega)
  have found' := selects.find?_eq
  rw [found] at found'
  exact ⟨i, (Option.some.inj found').symm ▸ selects⟩

theorem selects_iff : table.Selects path i route ↔
    table.find? path = some route ∧ table.position? path = some i := by
  constructor
  · exact fun selects => ⟨selects.find?_eq, selects.position?_eq⟩
  · rintro ⟨found, position⟩
    obtain ⟨j, selects⟩ := selects_of_find? found
    rw [selects.position?_eq] at position
    exact Option.some.inj position ▸ selects

/-- A route has the beginning of an earlier one. -/
def Repeats (table : RouteTable) (i : Nat) (route : Route) : Prop :=
  ∃ earlier ∈ table.routes.take i, earlier.pathBase = route.pathBase

instance : Decidable (table.Repeats i route) :=
  inferInstanceAs (Decidable (∃ earlier ∈ table.routes.take i, earlier.pathBase = route.pathBase))

theorem shadowedAfter_eq (before routes : List Route) (earlier : List String)
    (seen : ∀ base, base ∈ earlier ↔ ∃ route ∈ before, route.pathBase = base) :
    shadowedAfter earlier routes =
      ((routes.zipIdx before.length).filter fun (route, i) =>
        decide (Repeats ⟨before ++ routes⟩ i route)).map (·.1) := by
  induction routes generalizing before earlier with
  | nil => rfl
  | cons route rest ih =>
    have more : ∀ base, base ∈ route.pathBase :: earlier ↔
        ∃ other ∈ before ++ [route], other.pathBase = base := by
      intro base
      rw [List.mem_cons, seen]
      simp [or_and_right, exists_or, or_comm, eq_comm]
    have later := ih (before ++ [route]) (route.pathBase :: earlier) more
    have repeats : Repeats ⟨before ++ route :: rest⟩ before.length route ↔
        route.pathBase ∈ earlier := by
      rw [Repeats, List.take_left, seen]
    rw [List.length_append, List.length_singleton, List.append_assoc, List.singleton_append] at later
    rw [shadowedAfter, later, List.zipIdx_cons, List.filter_cons]
    by_cases reported : route.pathBase ∈ earlier
    · simp [repeats, reported]
    · simp [repeats, reported]

/-- The routes that are reported are those that have the beginning of an earlier one. -/
theorem shadowed_eq (table : RouteTable) : table.shadowed =
    (table.routes.zipIdx.filter fun (route, i) => decide (table.Repeats i route)).map (·.1) :=
  shadowedAfter_eq [] table.routes [] (by simp)

end RouteTable
end AuthGate
