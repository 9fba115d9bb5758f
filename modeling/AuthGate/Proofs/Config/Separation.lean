import AuthGate.Config.Validation
import AuthGate.Proofs.Text.Lists
import Mathlib.Data.List.Forall2
import Mathlib.Logic.Equiv.Defs

/-! No problem of a configuration hides another one. What is reported of a route is what would be
reported of it alone, whatever stands around it, and the rest of a configuration is judged without a look
at the routes, but for whether there are any and how they are authorized. -/
namespace AuthGate
open Text

/-- Two problems are the same one of two routes, each named with the position of its own. -/
def Problem.Matches (position other : Nat) (left right : Problem) : Prop :=
  ∃ name, left.field = routeField position name ∧ right.field = routeField other name ∧
    left.fault = right.fault

/-- A problem is reported of the route at a position: the field begins with the path of that route. -/
def Problem.isOfRoute (position : Nat) (problem : Problem) : Bool :=
  (routeField position "").toList.isPrefixOf problem.field.toList

section Fields

/-- What each field of a route begins with. -/
def routesMark : List Char := ['r', 'o', 'u', 't', 'e', 's', '[']

theorem toList_routeField (position : Nat) (name : String) : (routeField position name).toList =
    routesMark ++ (Nat.toDigits 10 position ++ ']' :: '.' :: name.toList) := by
  have opening : "routes[".toList = routesMark := by decide
  have closing : "].".toList = [']', '.'] := by decide
  simp only [routeField, String.toList_append, Nat.toString_eq_ofList_toDigits,
    String.toList_ofList, opening, closing, List.append_assoc, List.cons_append, List.nil_append]

private theorem bracket_notMem_toDigits (position : Nat) : ∀ c ∈ Nat.toDigits 10 position,
    (c == ']') = false := by
  intro c member
  have digit := Nat.isDigit_of_mem_toDigits (by decide) (by decide) member
  rw [beq_eq_false_iff_ne]
  rintro rfl
  cases digit

private theorem isOfRoute_routeField (position other : Nat) (name : String) (fault : Fault) :
    Problem.isOfRoute other ⟨routeField position name, fault⟩ = decide (other = position) := by
  rw [Problem.isOfRoute, Bool.eq_iff_iff, List.isPrefixOf_iff_prefix, decide_eq_true_iff]
  constructor
  · rintro ⟨rest, whole⟩
    simp only [toList_routeField, List.append_assoc, List.append_cancel_left_eq,
      List.cons_append] at whole
    have digits := congrArg (fun text => (splitFirst (· == ']') text).1) whole
    simp only [splitFirst_append (bracket_notMem_toDigits _) (beq_self_eq_true ']')] at digits
    have values := congrArg (Nat.ofDigitChars 10 · 0) digits
    simpa only [Nat.ofDigitChars_ten_toDigits] using values
  · rintro rfl
    simp [toList_routeField, List.prefix_append_right_inj]

private theorem begins_of_isOfRoute {position : Nat} {problem : Problem}
    (reported : problem.isOfRoute position = true) : routesMark <+: problem.field.toList := by
  rw [Problem.isOfRoute, List.isPrefixOf_iff_prefix, toList_routeField] at reported
  exact (List.prefix_append _ _).trans reported

end Fields

section Checks

variable {left right : Nat}

theorem matches_problemIf (found : Bool) (name : String) (fault : Fault) :
    List.Forall₂ (Problem.Matches left right) (problemIf found ⟨routeField left name, fault⟩)
      (problemIf found ⟨routeField right name, fault⟩) := by
  cases found with
  | false => exact .nil
  | true => exact .cons ⟨name, rfl, rfl, rfl⟩ .nil

private theorem matches_checkUrl (name text : String) (schemes : List String) :
    List.Forall₂ (Problem.Matches left right) (checkUrl (routeField left name) text schemes)
      (checkUrl (routeField right name) text schemes) := by
  unfold checkUrl
  split
  · exact .cons ⟨name, rfl, rfl, rfl⟩ .nil
  · exact List.rel_append (List.rel_append (matches_problemIf _ _ _) (matches_problemIf _ _ _))
      (matches_problemIf _ _ _)

/-- A route has the same problems wherever it stands. -/
theorem RouteConfig.matches_check (route : RouteConfig) (left right : Nat) :
    List.Forall₂ (Problem.Matches left right) (route.check left) (route.check right) := by
  have pathBase : List.Forall₂ (Problem.Matches left right) (route.checkPathBase left)
      (route.checkPathBase right) :=
    List.rel_append (matches_problemIf _ _ _) (matches_problemIf _ _ _)
  have server : List.Forall₂ (Problem.Matches left right) (route.checkServer left)
      (route.checkServer right) :=
    List.rel_append (matches_checkUrl _ _ _) (matches_problemIf _ _ _)
  have substitution : List.Forall₂ (Problem.Matches left right) (route.checkSubstitution left)
      (route.checkSubstitution right) := by
    unfold checkSubstitution
    split
    · exact .nil
    · split
      · exact .nil
      · exact .cons ⟨_, rfl, rfl, rfl⟩ .nil
  have ignoredHeaders : List.Forall₂ (Problem.Matches left right) (route.checkIgnoredHeaders left)
      (route.checkIgnoredHeaders right) := by
    unfold checkIgnoredHeaders
    induction route.ignoredHeaders with
    | nil => exact .nil
    | cons name rest ih => exact List.rel_append (matches_problemIf _ _ _) ih
  exact List.rel_append (List.rel_append (List.rel_append pathBase server) substitution)
    ignoredHeaders

/-- What is found in a route is reported of its position and of no other. -/
theorem RouteConfig.isOfRoute_of_mem_check {route : RouteConfig} {position : Nat} {problem : Problem}
    (member : problem ∈ route.check position) (other : Nat) :
    problem.isOfRoute other = decide (other = position) := by
  obtain ⟨index, inRange, here⟩ := List.getElem_of_mem member
  obtain ⟨name, field, _, _⟩ := (route.matches_check position position).get inRange inRange
  rw [List.get_eq_getElem, here] at field
  obtain ⟨_, fault⟩ := problem
  cases field
  exact isOfRoute_routeField position other name fault

end Checks

private theorem flatMap_zipIdx_at {α β : Type} (items : List α) (collect : α → Nat → List β)
    (start offset : Nat) :
    ((items.zipIdx start).flatMap fun pair =>
      if start + offset = pair.2 then collect pair.1 pair.2 else []) =
      (items[offset]?.map (collect · (start + offset))).getD [] := by
  induction items generalizing start offset with
  | nil => rfl
  | cons item rest ih =>
    rw [List.zipIdx_cons, List.flatMap_cons]
    cases offset with
    | zero =>
      have later : ((rest.zipIdx (start + 1)).flatMap fun pair =>
          if start + 0 = pair.2 then collect pair.1 pair.2 else []) = [] := by
        apply List.flatMap_eq_nil_iff.mpr
        rintro ⟨other, position⟩ member
        have behind := (List.mem_zipIdx member).1
        exact if_neg (by omega)
      rw [later]
      simp
    | succ offset =>
      have behind := ih (start + 1) offset
      rw [show start + 1 + offset = start + (offset + 1) by omega] at behind
      simp [behind]

namespace GateConfig

variable {config other : GateConfig}

/-- The problems that are reported of a configuration. -/
def reported (config : GateConfig) : List Problem :=
  match config.validate with
  | .ok _ => []
  | .error problems => problems

/-- The problems that are reported of the route at a position. -/
def reportedOf (config : GateConfig) (position : Nat) : List Problem :=
  config.reported.filter (·.isOfRoute position)

/-- The problems that are reported of no route. -/
def reportedElsewhere (config : GateConfig) : List Problem :=
  config.reported.filter fun problem =>
    (List.range config.routes.length).all fun position => !problem.isOfRoute position

theorem reported_eq (config : GateConfig) : config.reported = config.problems := by
  unfold reported validate
  by_cases clean : config.problems = []
  · simp [clean]
  · simp [clean]

/-- The problems of the routes one by one. -/
def routeProblems (config : GateConfig) : List Problem :=
  config.routes.zipIdx.flatMap fun (route, position) => route.check position

/-- The checks that come before those of the routes. -/
def checksBefore (config : GateConfig) : List Problem :=
  config.checkListener ++ problemIf config.routes.isEmpty ⟨"routes", .noRoutes⟩

/-- The checks that come behind those of the routes. -/
def checksBehind (config : GateConfig) : List Problem :=
  config.checkEndpoints ++ config.checkAnonymousId ++ config.checkRealm ++ config.checkLogin
    ++ checkWebUrl "auth.denied_url" config.auth.deniedUrl
    ++ checkPositive "auth.timeout_ms" config.auth.timeoutMs
    ++ checkWebUrl "external.base_url" config.external.baseUrl
    ++ checkPositive "timeouts.request_secs" config.timeouts.requestSecs
    ++ checkPositive "timeouts.upstream_secs" config.timeouts.serverSecs

theorem problems_eq (config : GateConfig) :
    config.problems = config.checksBefore ++ config.routeProblems ++ config.checksBehind := by
  simp only [problems, checkRoutes, checksBefore, routeProblems, checksBehind, List.append_assoc]

section Elsewhere

/-- All problems of a list are in fields outside of the routes. -/
def Outside (problems : List Problem) : Prop :=
  ∀ problem ∈ problems, ¬ routesMark <+: problem.field.toList

theorem Outside.append {first second : List Problem} (left : Outside first)
    (right : Outside second) : Outside (first ++ second) := by
  intro problem member
  rcases List.mem_append.mp member with before | behind
  · exact left problem before
  · exact right problem behind

theorem outside_problemIf {field : String} (outside : ¬ routesMark <+: field.toList) (found : Bool)
    (fault : Fault) : Outside (problemIf found ⟨field, fault⟩) := by
  intro problem member
  unfold problemIf at member
  split at member
  · rw [List.mem_singleton.mp member]
    exact outside
  · cases member

theorem outside_checkUrl {field : String} (outside : ¬ routesMark <+: field.toList) (text : String)
    (schemes : List String) : Outside (checkUrl field text schemes) := by
  unfold checkUrl
  split
  · intro problem member
    rw [List.mem_singleton.mp member]
    exact outside
  · exact ((outside_problemIf outside _ _).append (outside_problemIf outside _ _)).append
      (outside_problemIf outside _ _)

private theorem outside_checkWebUrl {field : String} (outside : ¬ routesMark <+: field.toList)
    (url : Option String) : Outside (checkWebUrl field url) := by
  cases url with
  | none => exact fun _ member => nomatch member
  | some text => exact outside_checkUrl outside text webSchemes

theorem outside_checksBefore (config : GateConfig) : Outside config.checksBefore :=
  (outside_problemIf (by decide) _ _).append (outside_problemIf (by decide) _ _)

private theorem outside_checkEndpoints (config : GateConfig) : Outside config.checkEndpoints := by
  have fields : ∀ mode : AuthMode,
      ¬ routesMark <+: ("introspection." ++ mode.label).toList := by
    intro mode
    cases mode <;> decide
  intro problem member
  obtain ⟨mode, _, here⟩ := List.mem_flatMap.mp member
  simp only at here
  split at here
  · exact outside_checkUrl (fields mode) _ _ problem here
  · rw [List.mem_singleton.mp here]
    exact fields mode

private theorem outside_checkLogin (config : GateConfig) : Outside config.checkLogin := by
  unfold checkLogin
  split
  · exact fun _ member => nomatch member
  · exact (outside_checkUrl (by decide) _ _).append (outside_problemIf (by decide) _ _)

theorem outside_checksBehind (config : GateConfig) : Outside config.checksBehind := by
  have anonymousId : Outside config.checkAnonymousId := outside_problemIf (by decide) _ _
  have realm : Outside config.checkRealm := outside_problemIf (by decide) _ _
  have login := (((outside_checkEndpoints config).append anonymousId).append realm).append
    (outside_checkLogin config)
  have page {field : String} (outside : ¬ routesMark <+: field.toList) :=
    outside_checkWebUrl outside
  have limit {field : String} (outside : ¬ routesMark <+: field.toList) (value : Nat) :
      Outside (checkPositive field value) := outside_problemIf outside _ _
  exact ((((login.append (page (by decide) _)).append (limit (by decide) _)).append
    (page (by decide) _)).append (limit (by decide) _)).append (limit (by decide) _)

theorem isOfRoute_of_outside {problems : List Problem} (outside : Outside problems) {problem : Problem}
    (member : problem ∈ problems) (position : Nat) : problem.isOfRoute position = false := by
  rw [← Bool.not_eq_true]
  exact fun reported => outside problem member (begins_of_isOfRoute reported)

end Elsewhere

/-- What is reported of a position are the problems of the route there. -/
theorem reportedOf_eq (config : GateConfig) (position : Nat) :
    config.reportedOf position = (config.routes[position]?.map (·.check position)).getD [] := by
  have none {problems : List Problem} (outside : Outside problems) :
      problems.filter (·.isOfRoute position) = [] := by
    apply List.filter_eq_nil_iff.mpr
    intro problem member
    simp [isOfRoute_of_outside outside member]
  have each : ∀ pair ∈ config.routes.zipIdx, (pair.1.check pair.2).filter (·.isOfRoute position) =
      if 0 + position = pair.2 then pair.1.check pair.2 else [] := by
    rintro ⟨route, index⟩ _
    split
    · rename_i here
      apply List.filter_eq_self.mpr
      intro problem member
      simpa [route.isOfRoute_of_mem_check member] using here
    · rename_i apart
      apply List.filter_eq_nil_iff.mpr
      intro problem member
      simpa [route.isOfRoute_of_mem_check member] using apart
  rw [reportedOf, reported_eq, problems_eq, List.filter_append, List.filter_append,
    none (outside_checksBefore config), none (outside_checksBehind config), List.nil_append,
    List.append_nil, routeProblems, List.filter_flatMap, List.flatMap_congr each,
    flatMap_zipIdx_at config.routes RouteConfig.check 0 position, Nat.zero_add]

private theorem reportedElsewhere_eq (config : GateConfig) :
    config.reportedElsewhere = config.checksBefore ++ config.checksBehind := by
  have all {problems : List Problem} (outside : Outside problems) :
      (problems.filter fun problem =>
        (List.range config.routes.length).all fun position => !problem.isOfRoute position) =
        problems := by
    apply List.filter_eq_self.mpr
    intro problem member
    simp [isOfRoute_of_outside outside member]
  have none : (config.routeProblems.filter fun problem =>
      (List.range config.routes.length).all fun position => !problem.isOfRoute position) = [] := by
    apply List.filter_eq_nil_iff.mpr
    intro problem member
    obtain ⟨⟨route, index⟩, listed, found⟩ := List.mem_flatMap.mp member
    have inRange := (List.mem_zipIdx listed).2.1
    rw [Nat.zero_add] at inRange
    have here : problem.isOfRoute index = true := by
      simp [route.isOfRoute_of_mem_check found]
    simp only [List.all_eq_true, List.mem_range, Bool.not_eq_true']
    exact fun clean => by simp [clean index inRange] at here
  rw [reportedElsewhere, reported_eq, problems_eq, List.filter_append, List.filter_append,
    all (outside_checksBefore config), all (outside_checksBehind config), none, List.append_nil]

private theorem matches_reportedOf {left right : Nat}
    (same : config.routes[left]? = other.routes[right]?) :
    List.Forall₂ (Problem.Matches left right) (config.reportedOf left) (other.reportedOf right) := by
  rw [reportedOf_eq, reportedOf_eq, same]
  cases other.routes[right]? with
  | none => exact .nil
  | some route => exact route.matches_check left right

private theorem reportedElsewhere_congr {routes : List RouteConfig}
    (empty : routes = [] ↔ config.routes = [])
    (modes : ∀ mode,
      (∃ route ∈ routes, route.auth = mode) ↔ ∃ route ∈ config.routes, route.auth = mode) :
    ({ config with routes } : GateConfig).reportedElsewhere = config.reportedElsewhere := by
  have uses : ({ config with routes } : GateConfig).uses = config.uses := by
    funext mode
    rw [Bool.eq_iff_iff]
    simpa [GateConfig.uses] using modes mode
  have none : routes.isEmpty = config.routes.isEmpty := by
    rw [Bool.eq_iff_iff, List.isEmpty_iff, List.isEmpty_iff, empty]
  simp only [reportedElsewhere_eq, checksBefore, checksBehind, checkListener, checkEndpoints,
    checkAnonymousId, checkRealm, checkLogin, uses, none]

/-- What holds of the problems that are reported of a configuration. -/
structure Separate (config : GateConfig) : Prop where
  alone : ∀ position route, config.routes[position]? = some route →
    ∀ other : GateConfig, other.routes = [route] →
      List.Forall₂ (Problem.Matches position 0) (config.reportedOf position) (other.reportedOf 0)
  beyond : ∀ position, config.routes.length ≤ position → config.reportedOf position = []
  elsewhere : ∀ routes, (routes = [] ↔ config.routes = []) →
    (∀ mode, (∃ route ∈ routes, route.auth = mode) ↔ ∃ route ∈ config.routes, route.auth = mode) →
    ({ config with routes } : GateConfig).reportedElsewhere = config.reportedElsewhere
  permuted : ∀ (routes : List RouteConfig) (moved : Fin routes.length ≃ Fin config.routes.length),
    (∀ position : Fin routes.length, routes[position] = config.routes[moved position]) →
    (∀ position : Fin routes.length, List.Forall₂ (Problem.Matches position (moved position))
      (({ config with routes } : GateConfig).reportedOf position)
      (config.reportedOf (moved position))) ∧
    ({ config with routes } : GateConfig).reportedElsewhere = config.reportedElsewhere

/-- The problems of each route, and those of the rest, are reported apart from all others. -/
theorem reported_separate (config : GateConfig) : config.Separate := by
  constructor
  case alone =>
    intro position route here other single
    exact matches_reportedOf (here.trans (by simp [single]))
  case beyond =>
    intro position beyond
    rw [reportedOf_eq, List.getElem?_eq_none beyond]
    rfl
  case elsewhere => exact fun _ => reportedElsewhere_congr
  case permuted =>
    intro routes moved same
    have members : ∀ route, route ∈ routes ↔ route ∈ config.routes := by
      intro route
      rw [List.mem_iff_get, List.mem_iff_get]
      constructor
      · rintro ⟨position, rfl⟩
        exact ⟨moved position, (same position).symm⟩
      · rintro ⟨position, rfl⟩
        exact ⟨moved.symm position, by simpa using same (moved.symm position)⟩
    constructor
    · intro position
      apply matches_reportedOf
      have here := same position
      simp only [Fin.getElem_fin] at here
      rw [List.getElem?_eq_getElem position.isLt, List.getElem?_eq_getElem (moved position).isLt,
        here]
    · apply reportedElsewhere_congr
      · simp only [List.eq_nil_iff_forall_not_mem, members]
      · simp only [members, implies_true]

example : (({ routes := [{ pathBase := "a", server := "x" },
      { pathBase := "/b?", server := "http://h#f" }] } : GateConfig).reportedOf 1).map (·.field) =
    ["routes[1].path_prefix", "routes[1].upstream"] := by decide +kernel

end GateConfig
end AuthGate
