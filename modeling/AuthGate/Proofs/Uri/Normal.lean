import AuthGate.Proofs.Path.Shape
import AuthGate.Proofs.Uri.Printable
import AuthGate.Proofs.Url.Uri

namespace AuthGate
open PathAndQuery (isPathChar isQueryChar)
open Text

namespace Path

private theorem isPathChar_of_isUnreserved {c : Char} (unreserved : isUnreserved c = true) :
    isPathChar c = true :=
  ascii_forall (P := fun c => isUnreserved c = true → isPathChar c = true) (by decide +kernel)
    (ascii_of_isUnreserved unreserved) unreserved

private theorem isPathChar_upper {c : Char} (belongs : isPathChar c = true) :
    isPathChar (upper c) = true := by
  rcases upper_cases c with same | ⟨n, below, rfl⟩
  · rwa [same]
  · have all : ∀ n < 26, isPathChar (upper (Char.ofNat (97 + n))) = true := by decide
    exact all n below

private theorem isPathChar_of_normalize {path normal : String}
    (accepted : normalize path = .ok normal)
    (belongs : ∀ c ∈ path.toList, isPathChar c = true) :
    ∀ c ∈ normal.toList, isPathChar c = true := by
  obtain ⟨absolute, text, decoded, rfl⟩ := normalize_eq_ok_iff.mp accepted
  have decodedChars : ∀ c ∈ text, isPathChar c = true :=
    decoded.forall_mem (fun _ => isPathChar_of_isUnreserved) rfl (fun _ => isPathChar_upper) belongs
  intro c member
  rw [String.toList_ofList] at member
  exact decodedChars c ((canonical_sublist (decoded.absolute absolute)).subset member)

end Path

namespace PathAndQuery

private theorem prefix_of_parse {text : String} {target : PathAndQuery}
    (read : parse text = .ok target) :
    target.written.toList ++ target.querySuffix.toList <+: text.toList := by
  have whole := List.takeWhile_append_dropWhile (p := fun c => c != '?' && c != '#') (l := text.toList)
  unfold parse at read
  split at read
  · cases read
  · split at read
    · cases read
    · simp only at read
      split at read
      · cases read
      · split at read
        · rename_i rest behind
          split at read
          · cases read
          · cases read
            obtain ⟨fragment, cut⟩ := List.takeWhile_prefix (fun c => c != '#') (l := rest)
            refine ⟨fragment, ?_⟩
            rw [behind, ← cut] at whole
            simpa [querySuffix] using whole
        · cases read
          refine ⟨text.toList.dropWhile fun c => c != '?' && c != '#', ?_⟩
          simp [querySuffix]

private theorem size_of_parse {text : String} {target : PathAndQuery}
    (read : parse text = .ok target) :
    text.utf8ByteSize ≤ maxLength := by
  unfold parse at read
  split at read
  · cases read
  · omega

private theorem room_of_parse {text : String} {target : PathAndQuery}
    (read : parse text = .ok target)
    (room : target.written = "" → text.utf8ByteSize < maxLength) :
    (PathAndQuery.text ⟨target.path, target.query⟩).utf8ByteSize ≤ maxLength := by
  have within : target.written.utf8ByteSize + target.querySuffix.utf8ByteSize ≤ text.utf8ByteSize := by
    have short := String.utf8Len_le_of_prefix (prefix_of_parse read)
    simpa using short
  have nonempty : target.path ≠ "" := by
    unfold path
    split
    · decide
    · rename_i written
      simpa using written
  have parts : PathAndQuery.text ⟨target.path, target.query⟩ = target.path ++ target.querySuffix :=
    (text_of_written nonempty).2
  rw [parts, String.utf8ByteSize_append]
  by_cases none : target.written = ""
  · have root : target.path.utf8ByteSize = 1 := by
      rw [path, none]
      rfl
    have shorter := room none
    omega
  · have limit := size_of_parse read
    rw [(text_of_written none).1]
    omega

end PathAndQuery

namespace Uri

/-- A URI whose path, written out, and query are a text that can be read. -/
structure Fits (uri : Uri) : Prop where
  pathChars : ∀ c ∈ uri.path.toList, isPathChar c = true
  queryChars : ∀ query, uri.query? = some query → ∀ c ∈ query.toList, isQueryChar c = true
  room : (PathAndQuery.text ⟨uri.path, uri.query?⟩).utf8ByteSize ≤ PathAndQuery.maxLength

private theorem size_of_splitScheme {text behind : List Char} {scheme : String}
    (split : splitScheme text = .ok (some (scheme, behind))) :
    String.utf8Len behind < String.utf8Len text := by
  unfold splitScheme at split
  simp only at split
  split at split
  · cases split
  · split at split
    · cases split
    · rename_i rest found
      have shorter : String.utf8Len rest < String.utf8Len text := by
        have cut := String.utf8Len_le_of_suffix
          (List.drop_suffix (text.takeWhile isSchemeChar).length text)
        have colon : ':'.utf8Size = 1 := rfl
        rw [append_of_dropPrefix? found] at cut
        simp only [String.utf8Len_append, String.utf8Len_cons, colon] at cut
        omega
      split at split
      · cases split
        exact shorter
      · split at split
        · cases split
        · cases split
          exact shorter

theorem Fits.of_target {uri : Uri} {target : PathAndQuery} {text : String}
    (present : uri.target? = some target) (read : PathAndQuery.parse text = .ok target)
    (room : target.written = "" → text.utf8ByteSize < PathAndQuery.maxLength) : uri.Fits := by
  have path : uri.path = target.path := by rw [Uri.path, present]
  have query : uri.query? = target.query := by rw [query?, present]; rfl
  obtain ⟨pathChars, queryChars⟩ := PathAndQuery.parse_eq_ok read
  constructor
  case pathChars =>
    rw [path, PathAndQuery.path]
    split
    · intro c member
      rw [show c = '/' by simpa using member]
      rfl
    · exact pathChars
  case queryChars => rwa [query]
  case room =>
    rw [path, query]
    exact PathAndQuery.room_of_parse read room

private theorem target_of_parse {text scheme authority : String} {target : PathAndQuery}
    (parsed : parse text = .ok (.absolute scheme authority target)) :
    ∃ rest, PathAndQuery.parse rest = .ok target ∧ rest.utf8ByteSize < PathAndQuery.maxLength := by
  unfold parse at parsed
  split at parsed
  · cases parsed
  · rename_i short
    split at parsed
    · cases parsed
    · obtain ⟨_, _, rest⟩ := bind_eq_ok parsed
      cases rest
    · obtain ⟨_, _, rest⟩ := bind_eq_ok parsed
      cases rest
    · obtain ⟨_, _, rest⟩ := bind_eq_ok parsed
      cases rest
    · obtain ⟨scheme?, split, rest⟩ := bind_eq_ok parsed
      split at rest
      · obtain ⟨⟨name, behind⟩, _, rest⟩ := bind_eq_ok rest
        simp only at rest
        split at rest
        · cases rest
        · cases rest
      · rename_i found behind
        obtain ⟨⟨name, path⟩, scanned, rest⟩ := bind_eq_ok rest
        simp only at rest
        split at rest
        · cases rest
        · obtain ⟨_, read, rest⟩ := bind_eq_ok rest
          cases rest
          refine ⟨_, read, ?_⟩
          have suffix : path <:+ behind :=
            (Authority.scan_eq_ok scanned).2.1 ▸ List.dropWhile_suffix _
          have inner := String.utf8Len_le_of_suffix suffix
          have outer := size_of_splitScheme split
          rw [String.utf8Len_toList] at outer
          rw [String.utf8ByteSize_ofList]
          omega

private theorem fits_of_parse {text : String} {uri : Uri} (parsed : parse text = .ok uri) :
    uri.Fits := by
  cases read_of_parse parsed with
  | origin start read =>
    refine .of_target rfl read fun none => ?_
    have written := PathAndQuery.written_of_parse read
    rw [none] at written
    rcases start with slash | rfl
    · obtain ⟨rest, chars⟩ := List.head?_eq_some_iff.mp slash
      rw [chars] at written
      cases written
    · cases written
  | authorityOnly _ =>
    constructor
    case pathChars => exact List.forall_mem_nil _
    case queryChars =>
      intro query present
      cases present
    case room =>
      show (PathAndQuery.text ⟨"", none⟩).utf8ByteSize ≤ PathAndQuery.maxLength
      decide
  | absolute _ _ =>
    obtain ⟨_, read, shorter⟩ := target_of_parse parsed
    exact .of_target rfl read fun _ => shorter

/-- Another URI with the same parts but the path, which is its own normal form. -/
structure DiffersInPath (uri normal : Uri) (path : String) : Prop where
  scheme : normal.scheme? = uri.scheme?
  authority : normal.authority? = uri.authority?
  query : normal.query? = uri.query?
  path : normal.path = path
  again : normal.normalize = .ok normal

private theorem normalize_of_read {uri normal : Uri} {path : String} {target : PathAndQuery}
    (accepted : Path.normalize uri.path = .ok path)
    (read : PathAndQuery.parse (PathAndQuery.text ⟨path, uri.query?⟩) = .ok target)
    (written : uri.withTarget? target = some normal) : uri.normalize = .ok normal := by
  have parts : PathAndQuery.text ⟨path, uri.query?⟩ =
      path ++ PathAndQuery.querySuffix ⟨path, uri.query?⟩ :=
    (PathAndQuery.text_of_rooted (Path.head_of_normalize accepted)).2
  rw [parts, PathAndQuery.querySuffix] at read
  unfold normalize
  cases query : uri.query? with
  | none =>
    have read : PathAndQuery.parse path = .ok target := by simpa [query] using read
    simp [accepted, read, written, bind, Except.bind]
  | some text =>
    have read : PathAndQuery.parse (path ++ "?" ++ text) = .ok target := by
      simpa [query, String.append_assoc] using read
    simp [accepted, read, written, bind, Except.bind]

/-- Another path and query is all that changes. -/
theorem parts_of_withTarget? {uri changed : Uri} {target : PathAndQuery}
    (written : uri.withTarget? target = some changed) :
    changed.scheme? = uri.scheme? ∧ changed.authority? = uri.authority? ∧
      changed.target? = some target ∧ changed.withTarget? target = some changed := by
  cases uri with
  | origin _ =>
    cases written
    exact ⟨rfl, rfl, rfl, rfl⟩
  | absolute _ _ _ =>
    cases written
    exact ⟨rfl, rfl, rfl, rfl⟩
  | authorityOnly _ => cases written

/-- With a path that has a normal form, a URI that fits has one too. -/
theorem Fits.normalize_eq_ok {uri : Uri} {path : String} (fits : uri.Fits)
    (accepted : Path.normalize uri.path = .ok path) :
    ∃ target normal, PathAndQuery.parse (PathAndQuery.text ⟨path, uri.query?⟩) = .ok target ∧
      uri.withTarget? target = some normal ∧ uri.normalize = .ok normal ∧
      DiffersInPath uri normal path := by
  obtain ⟨samePath, parts⟩ := PathAndQuery.text_of_rooted
    (show (PathAndQuery.mk path uri.query?).written.toList.head? = some '/' from
      Path.head_of_normalize accepted)
  have before := (PathAndQuery.text_of_rooted
    (show (PathAndQuery.mk uri.path uri.query?).written.toList.head? = some '/' from
      (Path.normalize_eq_ok_iff.mp accepted).1)).2
  have short : (PathAndQuery.text ⟨path, uri.query?⟩).utf8ByteSize ≤ PathAndQuery.maxLength := by
    have room := fits.room
    have shorter := Path.utf8ByteSize_of_normalize accepted
    rw [before, String.utf8ByteSize_append] at room
    rw [parts, String.utf8ByteSize_append]
    exact Nat.le_trans (Nat.add_le_add_right shorter _) room
  have read := PathAndQuery.parse_text (Path.head_of_normalize accepted)
    (Path.isPathChar_of_normalize accepted fits.pathChars) fits.queryChars short
  obtain ⟨normal, written⟩ : ∃ normal, uri.withTarget? ⟨path, uri.query?⟩ = some normal := by
    cases uri with
    | origin _ => exact ⟨_, rfl⟩
    | absolute _ _ _ => exact ⟨_, rfl⟩
    | authorityOnly _ => cases accepted
  obtain ⟨scheme, authority, target, again⟩ := parts_of_withTarget? written
  have query : normal.query? = uri.query? := by rw [query?, target]; rfl
  have pathKept : normal.path = path := (path_of_withTarget? written).trans samePath
  have settled : Path.normalize normal.path = .ok path := by
    rw [pathKept]
    exact Path.normalize_of_normal (Path.normal_of_normalize accepted)
  exact ⟨_, normal, read, written, normalize_of_read accepted read written, scheme, authority, query,
    pathKept, normalize_of_read settled (query.symm ▸ read) again⟩

private theorem normalize_of_error {uri : Uri} {cause : PathError}
    (refused : Path.normalize uri.path = .error cause) : uri.normalize = .error cause := by
  unfold normalize
  rw [refused]
  rfl

private theorem Fits.normalize_eq_error_iff {uri : Uri} (fits : uri.Fits) (cause : PathError) :
    uri.normalize = .error cause ↔ Path.normalize uri.path = .error cause := by
  refine ⟨?_, normalize_of_error⟩
  intro failed
  cases result : Path.normalize uri.path with
  | error other =>
    rw [normalize_of_error result] at failed
    rw [Except.error.inj failed]
  | ok path =>
    obtain ⟨_, _, _, _, succeeded, _⟩ := fits.normalize_eq_ok result
    rw [succeeded] at failed
    cases failed

/-- What has been read changes in its path alone when it is normalized, and has no normal form just if the
path has none: the path and query is read again, and a URI that has a path has a place for it. -/
theorem normalize_onlyPath {text : String} {uri : Uri} (parsed : parse text = .ok uri) :
    (∀ cause, uri.normalize = .error cause ↔ Path.normalize uri.path = .error cause) ∧
    ∀ path, Path.normalize uri.path = .ok path →
      ∃ target normal, PathAndQuery.parse (PathAndQuery.text ⟨path, uri.query?⟩) = .ok target ∧
        uri.withTarget? target = some normal ∧ uri.normalize = .ok normal ∧
        DiffersInPath uri normal path :=
  have fits := fits_of_parse parsed
  ⟨fits.normalize_eq_error_iff, fun _ accepted => fits.normalize_eq_ok accepted⟩

/-- An absolute URI with a detour in its path, an empty query and a fragment. -/
theorem normalize_onlyPath_detour : ∃ uri normal,
    parse "HTTPS://u:p@h:80/x/%2e%2E/%7Ey?#z" = .ok uri ∧ Path.normalize uri.path = .ok "/~y" ∧
    uri.normalize = .ok normal ∧ DiffersInPath uri normal "/~y" ∧
    normal = .absolute "https" "u:p@h:80" ⟨"/~y", some ""⟩ := by
  have parsed : parse "HTTPS://u:p@h:80/x/%2e%2E/%7Ey?#z" =
      .ok (.absolute "https" "u:p@h:80" ⟨"/x/%2e%2E/%7Ey", some ""⟩) := by
    decide +kernel
  have accepted : Path.normalize "/x/%2e%2E/%7Ey" = .ok "/~y" := by decide
  obtain ⟨target, normal, read, written, normalized, differs⟩ :=
    (normalize_onlyPath parsed).2 "/~y" accepted
  refine ⟨_, normal, parsed, accepted, normalized, differs, ?_⟩
  have same : target = ⟨"/~y", some ""⟩ := by
    have again : PathAndQuery.parse (PathAndQuery.text ⟨"/~y", some ""⟩) = .ok ⟨"/~y", some ""⟩ := by
      decide +kernel
    exact Except.ok.inj (read.symm.trans again)
  rw [same] at written
  exact (Option.some.inj written).symm

end Uri
end AuthGate
