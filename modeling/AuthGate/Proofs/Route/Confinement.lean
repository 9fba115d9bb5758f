import AuthGate.Proofs.Url.Path
import AuthGate.Route.Basic

/-! The paths that routes send on. Such a path is put under that of the server, and leads out of it
only if a substitution puts a dot segment together from parts of other segments. -/
namespace AuthGate
open AuthGate.Path (isInside Settled Confined IsDotSegment)

namespace Pattern.Template

def isReference : Template → Bool
  | .literal _ => false
  | .group _ => true
  | .named _ => true

theorem isReference_ofReference (name : List Char) : (ofReference name).isReference = true := by
  unfold ofReference
  simp only
  split
  · split <;> rfl
  · rfl

theorem isReference_reference? {rest : List Char} {template : Template} {length : Nat}
    (found : reference? rest = some (template, length)) : template.isReference = true := by
  unfold reference? at found
  split at found
  · cases found
  · split at found
    · cases found
      exact isReference_ofReference _
    · cases found
  · simp only at found
    split at found
    · cases found
    · cases found
      exact isReference_ofReference _

theorem mem_literal {skipped : Nat} {replacement text : List Char}
    (member : .literal text ∈ read skipped replacement) : ∀ c ∈ text, c ∈ replacement := by
  induction replacement generalizing skipped with
  | nil => cases member
  | cons first rest ih =>
    have later {skipped : Nat} (found : .literal text ∈ read skipped rest) :
        ∀ c ∈ text, c ∈ first :: rest :=
      fun c inside => List.mem_cons_of_mem _ (ih found c inside)
    have here {c : Char} (same : first = c) {skipped : Nat}
        (found : .literal text ∈ .literal [c] :: read skipped rest) :
        ∀ other ∈ text, other ∈ first :: rest := by
      rcases List.mem_cons.mp found with literal | behind
      · cases literal
        simp [same]
      · exact later behind
    cases skipped with
    | succ skipped => exact later member
    | zero =>
      unfold read at member
      simp only at member
      split at member
      · rename_i dollar
        split at member
        · exact here dollar member
        · split at member
          · rename_i template length found
            rcases List.mem_cons.mp member with same | behind
            · have reference := isReference_reference? found
              rw [← same] at reference
              cases reference
            · exact later behind
          · exact here dollar member
      · exact here rfl member

end Pattern.Template

namespace Substitution

/-- The parts of a path that a substitution takes over: what is in front of the match and behind it,
and what the replacement refers to. Without a match it is all of the path. -/
def keptParts (substitution : Substitution) (path : List Char) : List (List Char) :=
  match substitution.pattern.find? path with
  | none => [path]
  | some found =>
    match found.span? 0 with
    | none => [path]
    | some (start, stop) =>
      path.take start :: path.drop stop ::
        ((Pattern.Template.read 0 substitution.replacement.toList).filter (·.isReference)).map
          (substitution.pattern.expandPart found path)

/-- A substitution that brings in neither dots nor escapes, and takes nothing over that has a dot
segment or an escape without its end when it stands alone. -/
structure Harmless (substitution : Substitution) (path : List Char) : Prop where
  noDot : '.' ∉ substitution.replacement.toList
  noPercent : '%' ∉ substitution.replacement.toList
  settled : ∀ part ∈ substitution.keptParts path, Settled part

variable {substitution : Substitution} {path : List Char}

theorem mem_expandPart {found : Pattern.Match} {template : Pattern.Template}
    (reference : template.isReference = true) :
    ∀ c ∈ substitution.pattern.expandPart found path template, c ∈ path := by
  have group (number : Nat) : ∀ c ∈ found.groupText path number, c ∈ path := by
    intro c member
    unfold Pattern.Match.groupText at member
    split at member
    · exact List.mem_of_mem_take (List.mem_of_mem_drop member)
    · cases member
  cases template with
  | literal text => cases reference
  | group number => exact group number
  | named name =>
    intro c member
    simp only [Pattern.expandPart] at member
    split at member
    · exact group _ c member
    · cases member

theorem mem_keptParts {part : List Char} (member : part ∈ substitution.keptParts path) :
    ∀ c ∈ part, c ∈ path := by
  intro c inside
  unfold keptParts at member
  split at member
  · rwa [List.mem_singleton.mp member] at inside
  · split at member
    · rwa [List.mem_singleton.mp member] at inside
    · rcases List.mem_cons.mp member with rfl | behind
      · exact List.mem_of_mem_take inside
      rcases List.mem_cons.mp behind with rfl | referred
      · exact List.mem_of_mem_drop inside
      obtain ⟨template, read, rfl⟩ := List.mem_map.mp referred
      exact mem_expandPart (List.mem_filter.mp read).2 c inside

theorem Harmless.tidy (harmless : substitution.Harmless path)
    (inside : ∀ c ∈ path, isInside c = true) {part : List Char}
    (member : part ∈ substitution.keptParts path) : Path.Tidy part :=
  .of_inside (harmless.settled part member)
    (fun c within => inside c (mem_keptParts member c within))

theorem tidy_expand (harmless : substitution.Harmless path)
    (inside : ∀ c ∈ path, isInside c = true) {found : Pattern.Match} {start stop : Nat}
    (matched : substitution.pattern.find? path = some found)
    (span : found.span? 0 = some (start, stop)) :
    Path.Tidy (substitution.pattern.expand found path substitution.replacement.toList) := by
  unfold Pattern.expand
  rw [List.flatMap_def]
  apply Path.Tidy.flatten
  intro part member
  obtain ⟨template, read, rfl⟩ := List.mem_map.mp member
  cases reference : template.isReference with
  | true =>
    apply harmless.tidy inside
    rw [keptParts, matched]
    simp only [span]
    have referred := List.mem_map_of_mem (f := substitution.pattern.expandPart found path)
      (List.mem_filter.mpr ⟨read, reference⟩)
    exact List.mem_cons_of_mem _ (List.mem_cons_of_mem _ referred)
  | false =>
    cases template with
    | literal text =>
      have absent {c : Char} (missing : c ∉ substitution.replacement.toList) : c ∉ text :=
        fun inText => missing (Pattern.Template.mem_literal read c inText)
      exact .of_literal (absent harmless.noDot) (absent harmless.noPercent)
    | group number => cases reference
    | named name => cases reference

theorem tidy_replaceFirst (harmless : substitution.Harmless path)
    (inside : ∀ c ∈ path, isInside c = true) {result : List Char}
    (replaced : substitution.pattern.replaceFirst? substitution.replacement.toList path =
      some result) : Path.Tidy result := by
  unfold Pattern.replaceFirst? at replaced
  obtain ⟨found, matched, rest⟩ := Option.bind_eq_some_iff.mp replaced
  obtain ⟨⟨start, stop⟩, span, rest⟩ := Option.bind_eq_some_iff.mp rest
  cases rest
  have ends : path.take start ∈ substitution.keptParts path ∧
      path.drop stop ∈ substitution.keptParts path := by
    rw [keptParts, matched]
    simp [span]
  have expanded := tidy_expand harmless inside matched span
  exact ((harmless.tidy inside ends.1).append expanded).append (harmless.tidy inside ends.2)

theorem head_absolute (text : List Char) : (absolute text).head? = some '/' := by
  unfold absolute
  split
  · assumption
  · rfl

end Substitution

namespace Route

variable {route : Route} {path : String}

/-- The substitution of a route, if it has one, does no harm to a path. -/
def Harmless (route : Route) (path : String) : Prop :=
  ∀ substitution, route.substitution = some substitution → substitution.Harmless path.toList

theorem head_substitute (absolute : path.toList.head? = some '/') :
    (route.substitute path).toList.head? = some '/' := by
  unfold substitute
  split
  · exact absolute
  · rename_i substitution _
    unfold Substitution.apply
    cases result : substitution.result? path with
    | none => exact absolute
    | some changed =>
      obtain ⟨text, _, rfl⟩ := Option.map_eq_some_iff.mp result
      simp only [Option.getD_some, String.toList_ofList]
      exact Substitution.head_absolute text

theorem tidy_substitute (harmless : route.Harmless path) (settled : Settled path.toList)
    (inside : ∀ c ∈ path.toList, isInside c = true) :
    Path.Tidy (route.substitute path).toList := by
  have unchanged : Path.Tidy path.toList := .of_inside settled inside
  unfold substitute
  split
  · exact unchanged
  · rename_i substitution found
    unfold Substitution.apply
    cases result : substitution.result? path with
    | none => exact unchanged
    | some changed =>
      obtain ⟨text, replaced, rfl⟩ := Option.map_eq_some_iff.mp result
      have tidy := Substitution.tidy_replaceFirst (harmless substitution found) inside replaced
      simp only [Option.getD_some, String.toList_ofList]
      unfold Substitution.absolute
      split
      · exact tidy
      · exact tidy.slash

/-- What holds of the path that is sent on for a path in normal form. The part below the path of
the server is confined unless a substitution has put a dot segment together, which a harmless one
does not; and where it is confined, the server stays below its path however it reads segments. -/
structure SentPath (route : Route) (path : String) (sent below : List Char) : Prop where
  under : sent = route.target.basePath.toList ++ below
  absolute : below.head? = some '/'
  unchanged : route.substitute path = path → below = path.toList
  confined_iff : Confined below ↔ ∀ segment ∈ below.splitOn '/',
    segment ∉ path.toList.splitOn '/' → ¬ IsDotSegment segment
  confined : route.Harmless path → Confined below
  stays : Confined below → ∀ read : List Char → List Char,
    (∀ segment, read segment = ['.'] ∨ read segment = ['.', '.'] → IsDotSegment segment) →
    ∃ rest, Path.resolve ((sent.splitOn '/').map read) =
      Path.resolve ((route.target.basePath.toList.splitOn '/').map read) ++ rest

theorem stays_of_confined {base below : List Char} (absolute : below.head? = some '/')
    (confined : Confined below) (read : List Char → List Char)
    (faithful : ∀ segment, read segment = ['.'] ∨ read segment = ['.', '.'] →
      IsDotSegment segment) :
    ∃ rest, Path.resolve (((base ++ below).splitOn '/').map read) =
      Path.resolve ((base.splitOn '/').map read) ++ rest := by
  obtain ⟨behind, rfl⟩ := List.head?_eq_some_iff.mp absolute
  rw [List.splitOn_append_cons_self, List.map_append]
  apply Path.resolve_append
  intro segment member
  obtain ⟨written, found, rfl⟩ := List.mem_map.mp member
  have noDot : ¬ IsDotSegment written := by
    apply confined
    rw [Path.splitOn_slash]
    exact List.mem_cons_of_mem _ found
  exact ⟨fun dot => noDot (faithful written (.inl dot)),
    fun dots => noDot (faithful written (.inr dots))⟩

theorem sentPath {query : Option String} {target : PathAndQuery}
    (base : ∀ c ∈ route.target.basePath.toList, isInside c = true)
    (absolute : path.toList.head? = some '/') (settled : Settled path.toList)
    (inside : ∀ c ∈ path.toList, isInside c = true)
    (parsed : PathAndQuery.parse (route.target.pathAndQuery (route.substitute path) query) =
      .ok target) :
    ∃ below, SentPath route path target.path.toList below := by
  have head : (route.substitute path).toList.head? = some '/' := head_substitute absolute
  obtain ⟨behind, chars⟩ := List.head?_eq_some_iff.mp head
  have belowHead : ((route.substitute path).toList.takeWhile isInside).head? = some '/' := by
    rw [chars, List.takeWhile_cons_of_pos rfl]
    rfl
  have under : target.path.toList = route.target.basePath.toList ++
      (route.substitute path).toList.takeWhile isInside := Target.path_under base head parsed
  refine ⟨(route.substitute path).toList.takeWhile isInside, ?_⟩
  constructor
  case under => exact under
  case absolute => exact belowHead
  case unchanged =>
    intro same
    rw [same, List.takeWhile_eq_self_iff.mpr inside]
  case confined_iff =>
    constructor
    · intro confined segment member _
      exact confined segment member
    · intro assembled segment member
      by_cases kept : segment ∈ path.toList.splitOn '/'
      · exact (settled segment kept).not_isDotSegment
      · exact assembled segment member kept
  case confined =>
    intro harmless
    exact (tidy_substitute harmless settled inside).cut.confined
  case stays =>
    intro confined read faithful
    rw [under]
    exact stays_of_confined belowHead confined read faithful

end Route
end AuthGate
