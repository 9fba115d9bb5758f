import AuthGate.Proofs.Route.Selection
import Mathlib.Data.List.Nodup

namespace AuthGate
namespace RouteTable

variable {table other : RouteTable} {path : String}

/-- A path gets no route just if it has the beginning of none. -/
theorem find?_eq_none_iff : table.find? path = none ↔
    ∀ route ∈ table.routes, ¬ route.pathBase.toList <+: path.toList := by
  rw [find?, closest_eq_none_iff, List.filter_eq_nil_iff]
  simp only [Route.covers_iff]

private theorem find?_eq_some_iff {route : Route} : table.find? path = some route ↔
    ∃ i, table.routes[i]? = some route ∧ route.pathBase.toList <+: path.toList ∧
      (∀ rival ∈ table.routes, rival.pathBase.toList <+: path.toList →
        rival.pathBase.utf8ByteSize ≤ route.pathBase.utf8ByteSize) ∧
      ∀ earlier ∈ table.routes.take i, earlier.pathBase ≠ route.pathBase := by
  constructor
  · intro found
    obtain ⟨i, selects⟩ := selects_of_find? found
    refine ⟨i, selects.here, Route.covers_iff.mp selects.covers, ?_, selects.first⟩
    exact fun rival member begins => selects.closest rival member (Route.covers_iff.mpr begins)
  · rintro ⟨i, here, begins, longest, first⟩
    have selects : table.Selects path i route :=
      ⟨here, Route.covers_iff.mpr begins,
        fun rival member covers => longest rival member (Route.covers_iff.mp covers), first⟩
    exact selects.find?_eq

/-- The beginning of the route of a path does not depend on the order of the table. -/
theorem pathBase_find?_perm (perm : table.routes.Perm other.routes) :
    (other.find? path).map (·.pathBase) = (table.find? path).map (·.pathBase) := by
  cases found : table.find? path with
  | none =>
    have none : other.find? path = none := find?_eq_none_iff.mpr fun route member =>
      find?_eq_none_iff.mp found route (perm.mem_iff.mpr member)
    rw [none]
  | some route =>
    obtain ⟨member, covers⟩ := find?_mem found
    cases again : other.find? path with
    | none =>
      have absent := find?_eq_none_iff.mp again route (perm.mem_iff.mp member)
      exact absurd (Route.covers_iff.mp covers) absent
    | some rival =>
      obtain ⟨rivalMember, rivalCovers⟩ := find?_mem again
      have least : rival.specificity ≤ route.specificity := specificity_le_closest found rival
        (List.mem_filter.mpr ⟨perm.mem_iff.mpr rivalMember, rivalCovers⟩)
      have most : route.specificity ≤ rival.specificity := specificity_le_closest again route
        (List.mem_filter.mpr ⟨perm.mem_iff.mp member, covers⟩)
      exact congrArg some
        (Route.pathBase_eq_of_specificity rivalCovers covers (Nat.le_antisymm least most))

private theorem find?_perm (perm : table.routes.Perm other.routes)
    (distinct : (table.routes.map (·.pathBase)).Nodup) : other.find? path = table.find? path := by
  have same : (other.find? path).map (·.pathBase) = (table.find? path).map (·.pathBase) :=
    pathBase_find?_perm perm
  cases found : table.find? path with
  | none => simpa [found] using same
  | some route =>
    obtain ⟨rival, again, base⟩ := Option.map_eq_some_iff.mp (found ▸ same)
    have rivalMember := perm.mem_iff.mpr (find?_mem again).1
    rw [again, List.inj_on_of_nodup_map distinct rivalMember (find?_mem found).1 base]

/-- The longest beginning wins, of several routes with it the first; and without such routes the order of
the table does not matter. -/
theorem longestFirst (table : RouteTable) (path : String) :
    (table.find? path = none ↔ ∀ route ∈ table.routes, ¬ route.pathBase.toList <+: path.toList) ∧
    (∀ route, table.find? path = some route ↔
      ∃ i, table.routes[i]? = some route ∧ route.pathBase.toList <+: path.toList ∧
        (∀ rival ∈ table.routes, rival.pathBase.toList <+: path.toList →
          rival.pathBase.utf8ByteSize ≤ route.pathBase.utf8ByteSize) ∧
        ∀ earlier ∈ table.routes.take i, earlier.pathBase ≠ route.pathBase) ∧
    ∀ other : RouteTable, table.routes.Perm other.routes →
      (other.find? path).map (·.pathBase) = (table.find? path).map (·.pathBase) ∧
      ((table.routes.map (·.pathBase)).Nodup → other.find? path = table.find? path) :=
  ⟨find?_eq_none_iff, fun _ => find?_eq_some_iff,
    fun _ perm => ⟨pathBase_find?_perm perm, find?_perm perm⟩⟩

/-- Three routes, each with the beginning of the one before it. -/
def nested : RouteTable where
  routes := ["/", "/api", "/apis"].map fun base => ⟨base, base, none, ⟨"a", ""⟩, .none, []⟩

/-- The route of a path in a table and in the reversed one. -/
theorem longestFirst_nested : nested.routes.Perm nested.routes.reverse ∧
    (nested.routes.map (·.pathBase)).Nodup ∧
    (⟨nested.routes.reverse⟩ : RouteTable).find? "/apis/x" = nested.find? "/apis/x" ∧
    (nested.find? "/apis/x").map (·.pathBase) = some "/apis" := by
  have perm : nested.routes.Perm nested.routes.reverse := (List.reverse_perm _).symm
  have distinct : (nested.routes.map (·.pathBase)).Nodup := by decide
  obtain ⟨_, _, reordered⟩ := longestFirst nested "/apis/x"
  exact ⟨perm, distinct, (reordered ⟨nested.routes.reverse⟩ perm).2 distinct, by decide⟩

end RouteTable
end AuthGate
