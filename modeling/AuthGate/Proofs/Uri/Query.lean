import AuthGate.Proofs.Uri.Normal

/-! The text of an address up to its query, and the query. The first question mark divides them, and a
number sign cuts off the rest, so a text that is put together from a path and a query is divided into them
just if the path holds neither mark. -/
namespace AuthGate
open AuthGate.Path (isInside)
open PathAndQuery (isPathChar isQueryChar)
open Text

namespace Uri

/-- The text of an address up to its query, and the query, which begins behind the first question mark
and ends before the fragment. -/
def splitQuery (text : String) : String × Option String :=
  match splitFirst (· == '?') (text.toList.takeWhile (· != '#')) with
  | (front, query) => (String.ofList front, query.map String.ofList)

/-- A query as it stands behind a path. -/
def queryText (query : Option String) : String := query.elim "" ("?" ++ ·)

theorem splitFirst_question (chars : List Char) : ∃ query,
    splitFirst (· == '?') (chars.takeWhile (· != '#')) = (chars.takeWhile isInside, query) ∧
      query.map String.ofList = PathAndQuery.queryIn (chars.dropWhile isInside) := by
  induction chars with
  | nil => exact ⟨none, rfl, rfl⟩
  | cons c rest ih =>
    by_cases sign : c = '#'
    · subst sign
      exact ⟨none, rfl, rfl⟩
    · by_cases mark : c = '?'
      · subst mark
        exact ⟨some (rest.takeWhile (· != '#')), rfl, rfl⟩
      · obtain ⟨query, split, same⟩ := ih
        have inside : isInside c = true := by simp [isInside, mark, sign]
        refine ⟨query, ?_, ?_⟩
        · simp [splitFirst, sign, mark, inside, split]
        · rwa [List.dropWhile_cons_of_pos inside]

/-- What stands in front of the query ends at the first of the two marks. -/
theorem splitQuery_eq (text : String) :
    splitQuery text = (String.ofList (text.toList.takeWhile isInside),
      PathAndQuery.queryIn (text.toList.dropWhile isInside)) := by
  obtain ⟨query, split, same⟩ := splitFirst_question text.toList
  rw [splitQuery, split, ← same]

theorem queryIn_queryText {query : Option String}
    (queried : ∀ text, query = some text → '#' ∉ text.toList) :
    PathAndQuery.queryIn (queryText query).toList = query := by
  cases query with
  | none => rfl
  | some text =>
    have unmarked : text.toList.takeWhile (· != '#') = text.toList := by
      apply List.takeWhile_eq_self_iff.mpr
      intro c member
      rw [bne_iff_ne]
      rintro rfl
      exact queried text rfl member
    have chars : (queryText (some text)).toList = '?' :: text.toList := by simp [queryText]
    rw [chars, PathAndQuery.queryIn, unmarked, String.ofList_toList]

theorem ended_queryText (query : Option String) :
    ∀ c, (queryText query).toList.head? = some c → isInside c = false := by
  cases query with
  | none => simp [queryText]
  | some text =>
    intro c first
    have mark : '?' = c := by simpa [queryText] using first
    rw [← mark]
    rfl

/-- What is put in front of a query stays there just if it holds neither of the marks. -/
theorem splitQuery_append_iff {front : String} {query : Option String}
    (queried : ∀ text, query = some text → '#' ∉ text.toList) :
    splitQuery (front ++ queryText query) = (front, query) ↔
      ∀ c ∈ front.toList, isInside c = true := by
  rw [splitQuery_eq, String.toList_append]
  constructor
  · intro same c member
    have path : (front.toList ++ (queryText query).toList).takeWhile isInside = front.toList := by
      rw [← String.toList_ofList (l := List.takeWhile _ _), (Prod.mk.inj same).1]
    rw [← path] at member
    exact List.all_eq_true.mp List.all_takeWhile c member
  · intro inside
    obtain ⟨taken, dropped⟩ := splitWhile_append inside (ended_queryText query)
    rw [taken, dropped, String.ofList_toList, queryIn_queryText queried]

/-- What a number sign stands in front of takes no part in the division. -/
theorem splitQuery_append_of_head {text fragment : String}
    (cut : ∀ c, fragment.toList.head? = some c → (c != '#') = false) :
    splitQuery (text ++ fragment) = splitQuery text := by
  rw [splitQuery, splitQuery, String.toList_append, takeWhile_append_of_head cut]

end Uri

namespace PathAndQuery

variable {text : String} {target : PathAndQuery}

/-- A path and query is the text up to its query and the query. -/
theorem splitQuery_of_parse (read : parse text = .ok target) :
    Uri.splitQuery text = (target.written, target.query) := by
  have written := written_of_parse read
  rw [Uri.splitQuery_eq, ← written, String.ofList_toList]
  unfold parse at read
  split at read
  · cases read
  · split at read
    · cases read
    · simp only at read
      split at read
      · cases read
      · split at read
        · rename_i rest behind
          split at read
          · cases read
          · cases read
            rw [show text.toList.dropWhile isInside = '?' :: rest from behind]
            rfl
        · rename_i behind
          cases read
          unfold queryIn
          split
          · rename_i rest found
            exact absurd found (behind rest)
          · rfl

theorem querySuffix_eq (target : PathAndQuery) :
    target.querySuffix = Uri.queryText target.query := by
  unfold querySuffix Uri.queryText
  cases target.query <;> rfl

/-- A text whose parts hold the characters of a path and of a query. -/
def Readable (text : String) : Prop :=
  (∀ c ∈ (Uri.splitQuery text).1.toList, isPathChar c = true) ∧
    ∀ query, (Uri.splitQuery text).2 = some query → ∀ c ∈ query.toList, isQueryChar c = true

theorem readable_of_parse (read : parse text = .ok target) : Readable text := by
  rw [Readable, splitQuery_of_parse read]
  exact parse_eq_ok read

theorem parse_of_readable (rooted : text.toList.head? = some '/')
    (short : text.utf8ByteSize ≤ maxLength) (readable : Readable text) :
    ∃ target, parse text = .ok target := by
  have whole : String.ofList (text.toList.takeWhile isInside ++ text.toList.dropWhile isInside) =
      text := by
    rw [List.takeWhile_append_dropWhile, String.ofList_toList]
  have start : (text.toList.takeWhile isInside).head? = some '/' := by
    rw [List.head?_takeWhile, rooted]
    rfl
  have ended : ∀ c, (text.toList.dropWhile isInside).head? = some c → isInside c = false := by
    intro c first
    have stopped := List.head?_dropWhile_not isInside text.toList
    simpa [first] using stopped
  rw [Readable, Uri.splitQuery_eq, String.toList_ofList] at readable
  have queried : ∀ rest, text.toList.dropWhile isInside = '?' :: rest →
      ∀ c ∈ rest.takeWhile (· != '#'), isQueryChar c = true := by
    intro rest behind c member
    rw [behind] at readable
    exact readable.2 _ rfl c (by rwa [String.toList_ofList])
  have read := parse_of_parts start readable.1 ended queried (by rwa [whole])
  rw [whole] at read
  exact ⟨_, read⟩

theorem parse_of_long (long : maxLength < text.utf8ByteSize) : parse text = .error .tooLong := by
  rw [parse, if_pos long]

theorem cause_of_parse {cause : UriError} (rooted : text.toList.head? = some '/')
    (short : text.utf8ByteSize ≤ maxLength) (failed : parse text = .error cause) :
    cause = .invalidCharacter := by
  obtain ⟨rest, chars⟩ := List.head?_eq_some_iff.mp rooted
  have proper : startsProperly text.toList = true := by simp [chars, startsProperly, Authority.isEnd]
  rw [parse, if_neg (Nat.not_lt.mpr short), if_neg (by simp [proper])] at failed
  simp only at failed
  split at failed
  · cases failed
    rfl
  · split at failed
    · split at failed
      · cases failed
        rfl
      · cases failed
    · cases failed

/-- A text that begins with a slash is a path and query if it is not too long and can be read. -/
theorem parse_decides (rooted : text.toList.head? = some '/') :
    Decides (parse text) (text.utf8ByteSize ≤ maxLength ∧ Readable text)
      (· = if text.utf8ByteSize ≤ maxLength then .invalidCharacter else .tooLong) := by
  by_cases short : text.utf8ByteSize ≤ maxLength
  · rw [if_pos short]
    cases read : parse text with
    | ok target => exact .of_ok rfl ⟨short, readable_of_parse read⟩
    | error cause =>
      refine .of_error rfl ?_ (cause_of_parse rooted short read)
      rintro ⟨_, readable⟩
      obtain ⟨target, succeeded⟩ := parse_of_readable rooted short readable
      rw [read] at succeeded
      cases succeeded
  · rw [if_neg short]
    exact .of_error (parse_of_long (Nat.lt_of_not_le short)) (fun both => short both.1) rfl

/-- A path in front of a query is read again if both hold the characters that belong there. -/
theorem readable_append {path : String} {query : Option String}
    (pathChars : ∀ c ∈ path.toList, isPathChar c = true)
    (queryChars : ∀ text, query = some text → ∀ c ∈ text.toList, isQueryChar c = true) :
    Readable (path ++ Uri.queryText query) := by
  have split : Uri.splitQuery (path ++ Uri.queryText query) = (path, query) := by
    apply (Uri.splitQuery_append_iff _).mpr
    · exact fun c member => isInside_of_isPathChar (pathChars c member)
    · exact fun text present member => absurd (queryChars text present _ member) (by decide)
  rw [Readable, split]
  exact ⟨pathChars, queryChars⟩

end PathAndQuery

namespace Uri

/-- A URI with an absolute path, as it is written and may be read again. -/
structure Normal (uri : Uri) : Prop extends uri.Fits where
  rooted : uri.path.toList.head? = some '/'
  written : ∃ target, uri.target? = some target ∧ target.text = uri.path ++ queryText uri.query?

theorem normal_of_normalize {received uri : Uri} (normalized : received.normalize = .ok uri) :
    uri.Normal := by
  obtain ⟨path, accepted, rest⟩ := bind_eq_ok normalized
  obtain ⟨behind, absolute⟩ := List.head?_eq_some_iff.mp (Path.head_of_normalize accepted)
  simp only at rest
  split at rest
  · cases rest
  · rename_i target read
    split at rest
    · rename_i other retargeted
      cases rest
      have present := (parts_of_withTarget? retargeted).2.2.1
      have rooted : target.written.toList.head? = some '/' := by
        rw [PathAndQuery.written_of_parse read]
        cases received.query? <;> simp [absolute, isInside]
      obtain ⟨shown, text⟩ := PathAndQuery.text_of_rooted rooted
      have path : uri.path = target.written := (path_of_withTarget? retargeted).trans shown
      have query : uri.query? = target.query := by rw [query?, present]; rfl
      refine ⟨.of_target present read fun none => ?_, path ▸ rooted, target, present, ?_⟩
      · rw [none] at rooted
        cases rooted
      · rw [text, path, query, PathAndQuery.querySuffix_eq]
    · cases rest

end Uri
end AuthGate
