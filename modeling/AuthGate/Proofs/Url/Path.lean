import AuthGate.Proofs.Text.Lists
import AuthGate.Proofs.Uri.Path
import AuthGate.Proofs.Url.Percent
import AuthGate.Route.Target

namespace AuthGate
open AuthGate.Path (isInside)
open PathAndQuery (isPathChar)
open Text

/-- The characters of a path do not end it. -/
theorem PathAndQuery.isInside_of_isPathChar {c : Char} (belongs : isPathChar c = true) :
    isInside c = true :=
  Path.inside_of_class (by decide) (by decide) belongs

theorem Percent.isPathChar_encode (text : List Char) :
    ∀ c ∈ encode inPath text, isPathChar c = true :=
  encode_belongs (List.all_eq_true.mp (by decide)) (by decide)
    (fun c controls => by simp [inPath, inFragment, controls]) text

namespace Url

theorem mem_leave {file : Bool} {done : List (List Char)} {segment : List Char}
    (member : segment ∈ leave file done) : segment ∈ done := by
  unfold leave at member
  split at member
  · split at member
    · exact member
    · cases member
  · exact List.mem_of_mem_tail member

theorem isPathChar_drive {file : Bool} {done : List (List Char)} {segment : List Char}
    (inside : ∀ c ∈ segment, isPathChar c = true) :
    ∀ c ∈ (match done, segment with
      | [], [c, '|'] => if file && isAlpha c then [c, ':'] else segment
      | _, _ => segment), isPathChar c = true := by
  split
  · rename_i letter
    split
    · intro c member
      have either : c = letter ∨ c = ':' := by simpa using member
      rcases either with rfl | rfl
      · exact inside c List.mem_cons_self
      · rfl
    · exact inside
  · exact inside

theorem isPathChar_resolve {file : Bool} {segments done : List (List Char)}
    (inside : ∀ segment ∈ done, ∀ c ∈ segment, isPathChar c = true) :
    ∀ segment ∈ resolve file done segments, ∀ c ∈ segment, isPathChar c = true := by
  induction segments generalizing done with
  | nil =>
    intro segment member
    exact inside segment (List.mem_reverse.mp member)
  | cons first rest ih =>
    have marked {kept : List (List Char)}
        (keptInside : ∀ segment ∈ kept, ∀ c ∈ segment, isPathChar c = true) :
        ∀ segment ∈ (if rest.isEmpty then [[]] else []) ++ kept, ∀ c ∈ segment,
          isPathChar c = true := by
      intro segment member
      rcases List.mem_append.mp member with mark | before
      · split at mark
        · rw [List.mem_singleton.mp mark]
          simp
        · cases mark
      · exact keptInside segment before
    unfold resolve
    simp only
    split
    · exact ih (marked fun segment member => inside segment (mem_leave member))
    · split
      · exact ih (marked inside)
      · apply ih
        intro segment member
        rcases List.mem_cons.mp member with rfl | before
        · exact isPathChar_drive (Percent.isPathChar_encode first)
        · exact inside segment before

theorem isPathChar_hierarchicalPath (special file : Bool) (text : List Char) :
    ∀ c ∈ (hierarchicalPath special file text).toList, isPathChar c = true := by
  intro c member
  have resolved : ∀ segment ∈ resolve file [] (text.splitOnP (isSlash special)), ∀ c ∈ segment,
      isPathChar c = true := isPathChar_resolve (by simp)
  unfold hierarchicalPath at member
  simp only [String.toList_ofList] at member
  obtain ⟨segment, shown, written⟩ := List.mem_flatMap.mp member
  rcases List.mem_cons.mp written with rfl | inside
  · rfl
  · have kept : segment = [] ∨ segment ∈ resolve file [] (text.splitOnP (isSlash special)) := by
      cases file with
      | false =>
        simp only [Bool.false_eq_true, if_false] at shown
        split at shown
        · exact .inl (List.mem_singleton.mp shown)
        · exact .inr shown
      | true =>
        simp only [if_true] at shown
        split at shown
        · exact .inl (List.mem_singleton.mp shown)
        · exact .inr ((List.dropWhile_sublist _).subset shown)
    rcases kept with rfl | found
    · cases inside
    · exact resolved segment found c inside

theorem isPathChar_pathAfterAuthority (special file : Bool) (path : List Char) :
    ∀ c ∈ (pathAfterAuthority special file path).toList, isPathChar c = true := by
  unfold pathAfterAuthority
  split
  · intro c member
    split at member
    · rw [show c = '/' by simpa using member]
      decide
    · cases member
  · exact isPathChar_hierarchicalPath _ _ _

/-- The parts of a URL that has been read from its authority on. -/
theorem withAuthority_eq_ok {scheme : String} {text : List Char} {url : Url}
    (read : withAuthority scheme text = .ok url) :
    ∃ user name host path tail,
      (if isSpecial scheme then specialHost name else plainHost name) = .ok host ∧
      url = ⟨scheme, userinfoText user, some host, url.port,
        pathAfterAuthority (isSpecial scheme) false path, (suffixes (isSpecial scheme) tail).1,
        (suffixes (isSpecial scheme) tail).2⟩ := by
  unfold withAuthority at read
  simp only at read
  split at read
  · cases read
  · cases special : isSpecial scheme
    all_goals
      simp only [special, Bool.false_eq_true, if_false, if_true] at read ⊢
      obtain ⟨host, named, rest⟩ := bind_eq_ok read
      split at rest
      · cases rest
      · split at rest
        all_goals
          obtain ⟨⟨port, behind⟩, _, built⟩ := bind_eq_ok rest
          exact ⟨_, _, host, _, _, named, by rw [← Except.ok.inj built]⟩

theorem scheme_of_ofFile {text : List Char} {url : Url} (read : ofFile text = .ok url) :
    url.scheme = "file" := by
  unfold ofFile at read
  simp only at read
  split at read
  · split at read
    · split at read
      · rw [← Except.ok.inj read]
      · split at read
        · rw [← Except.ok.inj read]
        · obtain ⟨host, _, built⟩ := bind_eq_ok read
          rw [← Except.ok.inj built]
    · rw [← Except.ok.inj read]
  · rw [← Except.ok.inj read]

/-- A scheme whose URLs have an authority and share the rules of the web. -/
def IsWebScheme (scheme : String) : Prop := isSpecial scheme = true ∧ scheme ≠ "file"

instance (scheme : String) : Decidable (IsWebScheme scheme) :=
  inferInstanceAs (Decidable (isSpecial scheme = true ∧ scheme ≠ "file"))

theorem isWebScheme_of_eq_http {scheme : String} (http : scheme = "http") : IsWebScheme scheme := by
  rw [http]
  decide

/-- A URL of the web is read from its authority on, behind any number of slashes. -/
theorem withAuthority_of_parse {text : String} {url : Url} (parsed : parse text = .ok url)
    (web : IsWebScheme url.scheme) :
    ∃ rest, splitScheme? (significant text) = some (url.scheme, rest) ∧
      withAuthority url.scheme (rest.dropWhile (isSlash true)) = .ok url := by
  have scheme {scheme : String} {rest : List Char} (read : withAuthority scheme rest = .ok url) :
      url.scheme = scheme := by
    obtain ⟨_, _, _, _, _, _, same⟩ := withAuthority_eq_ok read
    rw [same]
  unfold parse at parsed
  split at parsed
  · cases parsed
  · rename_i name rest found
    split at parsed
    · exact absurd (scheme_of_ofFile parsed) web.2
    · split at parsed
      · have named := scheme parsed
        subst named
        exact ⟨rest, found, parsed⟩
      · rename_i notSpecial
        have named : url.scheme = name := by
          split at parsed
          · exact scheme parsed
          · rw [← Except.ok.inj parsed]
            rfl
        rw [← named] at notSpecial
        exact absurd web.1 notSpecial

theorem isPathChar_path {text : String} {url : Url} (parsed : parse text = .ok url)
    (web : IsWebScheme url.scheme) : ∀ c ∈ url.path.toList, isPathChar c = true := by
  obtain ⟨rest, _, read⟩ := withAuthority_of_parse parsed web
  obtain ⟨_, _, _, path, _, _, same⟩ := withAuthority_eq_ok read
  rw [same]
  exact isPathChar_pathAfterAuthority _ _ _

end Url

/-- The path that all requests to a server are put under holds the characters of a path. -/
theorem Target.isPathChar_basePath {text : String} {target : Target}
    (parsed : parse text = .ok target) : ∀ c ∈ target.basePath.toList, isPathChar c = true := by
  unfold parse at parsed
  split at parsed
  · cases parsed
  · rename_i url read
    split at parsed
    · cases parsed
    · rename_i web
      split at parsed
      · cases parsed
      · split at parsed
        · cases parsed
        · cases parsed
          intro c member
          rw [trimSlashes, String.toList_ofList] at member
          exact Url.isPathChar_path read (Url.isWebScheme_of_eq_http (by simpa using web)) c
            (mem_of_mem_dropEndWhile member)

/-- It ends before the query. -/
theorem Target.isInside_basePath {text : String} {target : Target}
    (parsed : parse text = .ok target) : ∀ c ∈ target.basePath.toList, isInside c = true :=
  fun c member => PathAndQuery.isInside_of_isPathChar (isPathChar_basePath parsed c member)

/-- A path is sent on under that path, up to where a query begins in it. -/
theorem Target.path_under {target : Target} {path : String} {query : Option String}
    {sent : PathAndQuery} (base : ∀ c ∈ target.basePath.toList, isInside c = true)
    (absolute : path.toList.head? = some '/')
    (parsed : PathAndQuery.parse (target.pathAndQuery path query) = .ok sent) :
    sent.path.toList = target.basePath.toList ++ path.toList.takeWhile isInside := by
  obtain ⟨behind, chars⟩ := List.head?_eq_some_iff.mp absolute
  have nonempty : (target.basePath ++ path).isEmpty = false := by
    cases empty : (target.basePath ++ path).isEmpty with
    | false => rfl
    | true =>
      have none : (target.basePath ++ path).toList = [] := by simpa using empty
      rw [String.toList_append, chars] at none
      simp at none
  have cut : (target.pathAndQuery path query).toList.takeWhile isInside =
      target.basePath.toList ++ path.toList.takeWhile isInside := by
    unfold pathAndQuery
    simp only [nonempty]
    cases query with
    | none =>
      simp only [Bool.false_eq_true, if_false, String.toList_append]
      rw [List.takeWhile_append_of_pos base]
    | some query =>
      have longer : (target.basePath ++ path ++ "?" ++ query).toList =
          target.basePath.toList ++ (path.toList ++ '?' :: query.toList) := by simp
      have ended : (path.toList ++ '?' :: query.toList).takeWhile isInside =
          path.toList.takeWhile isInside := by
        rw [List.takeWhile_append, List.takeWhile_cons_of_neg (by decide), List.append_nil]
        split
        · rename_i whole
          exact ((List.takeWhile_sublist _).eq_of_length whole).symm
        · rfl
      simp only [Bool.false_eq_true, if_false, longer]
      rw [List.takeWhile_append_of_pos base, ended]
  rw [PathAndQuery.path_of_parse parsed, cut]
  rw [cut, chars, List.takeWhile_cons_of_pos rfl]
  simp

end AuthGate
