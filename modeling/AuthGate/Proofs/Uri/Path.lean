import AuthGate.Proofs.Path.DotSegment
import AuthGate.Proofs.Uri.Form

namespace AuthGate
open AuthGate.Path (isInside)

namespace PathAndQuery

/-- The path that is read is all before the query. -/
theorem written_of_parse {text : String} {target : PathAndQuery}
    (parsed : parse text = .ok target) :
    target.written.toList = text.toList.takeWhile isInside := by
  unfold parse at parsed
  split at parsed
  · cases parsed
  · split at parsed
    · cases parsed
    · simp only at parsed
      split at parsed
      · cases parsed
      · split at parsed
        · split at parsed
          · cases parsed
          · cases parsed
            exact String.toList_ofList
        · cases parsed
          exact String.toList_ofList

/-- Unless it is empty, it is the path. -/
theorem path_of_parse {text : String} {target : PathAndQuery} (parsed : parse text = .ok target)
    (nonempty : text.toList.takeWhile isInside ≠ []) :
    target.path.toList = text.toList.takeWhile isInside := by
  have written := written_of_parse parsed
  have shown : target.written.isEmpty = false := by
    cases empty : target.written.isEmpty with
    | false => rfl
    | true =>
      have none : target.written = "" := by simpa using empty
      rw [none] at written
      exact absurd written.symm nonempty
  rw [path, shown]
  exact written

theorem inside_of_parse {text : String} {target : PathAndQuery}
    (parsed : parse text = .ok target) : ∀ c ∈ target.path.toList, isInside c = true := by
  intro c member
  unfold path at member
  split at member
  · have slash : c = '/' := by simpa using member
    rw [slash]
    rfl
  · rw [written_of_parse parsed] at member
    exact List.all_eq_true.mp List.all_takeWhile c member

theorem rooted_of_parse {text : String} {target : PathAndQuery} (parsed : parse text = .ok target)
    (start : ∀ c, text.toList.head? = some c → Authority.isEnd c = true) :
    target.path.toList.head? = some '/' := by
  cases chars : text.toList.takeWhile isInside with
  | nil =>
    have empty : target.written = "" := by
      rw [← String.toList_inj, written_of_parse parsed, chars]
      rfl
    simp [path, empty]
  | cons c rest =>
    rw [path_of_parse parsed (by simp [chars]), chars]
    obtain ⟨first, inside⟩ : text.toList.head? = some c ∧ isInside c = true := by
      have kept : (text.toList.takeWhile isInside).head? = text.toList.head?.filter isInside :=
        List.head?_takeWhile
      rw [chars] at kept
      exact Option.filter_eq_some_iff.mp kept.symm
    have ended := start c first
    simp only [Authority.isEnd, isInside, Bool.or_eq_true, beq_iff_eq, Bool.and_eq_true,
      bne_iff_ne] at ended inside
    rcases ended with (rfl | rfl) | rfl
    · rfl
    · exact absurd rfl inside.1
    · exact absurd rfl inside.2

end PathAndQuery

namespace Uri

/-- The path of a URI that has been read ends before the query. -/
theorem inside_of_parse {text : String} {uri : Uri} (parsed : parse text = .ok uri) :
    ∀ c ∈ uri.path.toList, isInside c = true := by
  cases read_of_parse parsed with
  | origin _ read => exact PathAndQuery.inside_of_parse read
  | authorityOnly _ =>
    intro c member
    cases member
  | absolute _ read => exact PathAndQuery.inside_of_parse read

/-- A target with a path has an absolute one. -/
theorem HasPath.rooted {uri : Uri} (target : uri.HasPath) : uri.path.toList.head? = some '/' := by
  obtain ⟨text, parsed, noAsterisk⟩ := target.received
  cases read_of_parse parsed with
  | origin start read =>
    have slash := start.resolve_right noAsterisk
    exact PathAndQuery.rooted_of_parse read fun c first => by
      rw [slash] at first
      cases first
      rfl
  | authorityOnly _ => exact absurd rfl (target.noAuthority _)
  | @absolute _ chars _ _ _ scanned read =>
    refine PathAndQuery.rooted_of_parse read fun c first => ?_
    have ended := List.head?_dropWhile_not (!Authority.isEnd ·) chars
    rw [String.toList_ofList, (Authority.scan_eq_ok scanned).2.1] at first
    simpa [first] using ended

theorem path_of_withTarget? {uri changed : Uri} {target : PathAndQuery}
    (written : uri.withTarget? target = some changed) : changed.path = target.path := by
  cases uri with
  | origin _ =>
    cases written
    rfl
  | absolute _ _ _ =>
    cases written
    rfl
  | authorityOnly _ => cases written

theorem path_of_retarget {uri normal : Uri} {text : String} {cause : PathError}
    (nonempty : text.toList.takeWhile isInside ≠ [])
    (changed : (match PathAndQuery.parse text with
      | .error _ => Except.error cause
      | .ok target =>
        match uri.withTarget? target with
        | some normalized => .ok normalized
        | none => .error cause) = .ok normal) :
    normal.path.toList = text.toList.takeWhile isInside := by
  cases parsed : PathAndQuery.parse text with
  | error cause => simp [parsed] at changed
  | ok target =>
    cases retargeted : uri.withTarget? target with
    | none => simp [parsed, retargeted] at changed
    | some other =>
      have same : other = normal := by simpa [parsed, retargeted] using changed
      rw [← same, path_of_withTarget? retargeted]
      exact PathAndQuery.path_of_parse parsed nonempty

/-- The normal form of a URI has the normal form of its path. -/
theorem normalize_path {uri normal : Uri} (inside : ∀ c ∈ uri.path.toList, isInside c = true)
    (normalized : uri.normalize = .ok normal) : Path.normalize uri.path = .ok normal.path := by
  obtain ⟨path, accepted, rest⟩ := bind_eq_ok normalized
  have kept := Path.inside_of_normalize accepted inside
  have nonempty : path.toList ≠ [] := by
    obtain ⟨behind, chars⟩ := List.head?_eq_some_iff.mp (Path.head_of_normalize accepted)
    simp [chars]
  have same : normal.path.toList = path.toList := by
    cases query : uri.query? with
    | none =>
      have cut : path.toList.takeWhile isInside = path.toList := List.takeWhile_eq_self_iff.mpr kept
      simp only [query] at rest
      rw [path_of_retarget (cut.symm ▸ nonempty) rest, cut]
    | some text =>
      have cut : (path ++ "?" ++ text).toList.takeWhile isInside = path.toList := by
        have longer : (path ++ "?" ++ text).toList = path.toList ++ '?' :: text.toList := by simp
        rw [longer, List.takeWhile_append_of_pos kept, List.takeWhile_cons_of_neg (by decide),
          List.append_nil]
      simp only [query] at rest
      rw [path_of_retarget (cut.symm ▸ nonempty) rest, cut]
  rw [accepted, String.toList_injective same]

end Uri
end AuthGate
