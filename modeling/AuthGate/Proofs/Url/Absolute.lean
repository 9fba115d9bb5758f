import AuthGate.Proofs.Config.Validation
import AuthGate.Proofs.Url.Page

/-! URLs that are written as absolute URIs. The reader of URLs takes more than these: blanks around the
text, other slashes, hosts and paths that it brings into another form. What is written as an absolute URI
keeps its scheme, host and port whatever path and query stand behind the authority. -/
namespace AuthGate
open AuthGate.Path (isInside)
open PathAndQuery (isPathChar isQueryChar)
open Text

namespace Url

/-- What tells the servers of URLs apart. -/
def origin (url : Url) : String × Option Host × Option Nat := (url.scheme, url.host, url.port)

theorem eq_of_endsAuthority {c : Char} (ends : endsAuthority true c = true) :
    ((c = '/' ∨ c = '\\') ∨ c = '?') ∨ c = '#' := by
  simpa [endsAuthority, isSlash] using ends

theorem mem_splitUserinfo {authority : List Char} {c : Char}
    (member : c ∈ (splitUserinfo authority).2) : c ∈ authority := by
  have kept := isPrefix_splitFirst (· == '@') authority.reverse
  unfold splitUserinfo at member
  split at member
  · rename_i host user found
    rw [found] at kept
    exact List.mem_reverse.mp (kept.subset (List.mem_reverse.mp member))
  · exact member

/-- The port behind a host and what follows it. -/
def portAt (scheme : String) (chars : List Char) : Except UrlError (Option Nat × List Char) :=
  match chars with
  | ':' :: digits => takePort scheme digits
  | _ => .ok (none, chars)

section
variable {scheme : String} {rest : List Char}

theorem takePort_append {chars : List Char} (inside : ∀ c ∈ chars, endsAuthority true c = false)
    (ended : ∀ c, rest.head? = some c → endsAuthority true c = true) :
    (takePort scheme (chars ++ rest)).map Prod.fst = (takePort scheme chars).map Prod.fst := by
  have digits : (chars ++ rest).takeWhile isDigit = chars.takeWhile isDigit := by
    apply takeWhile_append_of_head
    intro c first
    rcases eq_of_endsAuthority (ended c first) with ((rfl | rfl) | rfl) | rfl <;> rfl
  have within : (chars.takeWhile isDigit).length ≤ chars.length :=
    (List.takeWhile_sublist _).length_le
  unfold takePort
  simp only [digits, List.drop_append_of_le_length within]
  cases left : chars.drop (chars.takeWhile isDigit).length with
  | nil =>
    cases rest with
    | nil => rfl
    | cons c others =>
      simp only [List.nil_append, ended c rfl]
      split <;> rfl
  | cons c others =>
    have member : c ∈ chars := List.mem_of_mem_drop (left ▸ List.mem_cons_self)
    simp [inside c member, Except.map]

theorem portAt_of_noColon {chars : List Char} (noColon : chars.head? ≠ some ':') :
    portAt scheme chars = .ok (none, chars) := by
  unfold portAt
  split
  · exact absurd rfl noColon
  · rfl

theorem portAt_append {chars : List Char} (inside : ∀ c ∈ chars, endsAuthority true c = false)
    (ended : ∀ c, rest.head? = some c → endsAuthority true c = true) :
    (portAt scheme (chars ++ rest)).map Prod.fst = (portAt scheme chars).map Prod.fst := by
  by_cases colon : chars.head? = some ':'
  · obtain ⟨digits, rfl⟩ := List.head?_eq_some_iff.mp colon
    exact takePort_append (fun c member => inside c (List.mem_cons_of_mem _ member)) ended
  · have noColon : (chars ++ rest).head? ≠ some ':' := by
      cases chars with
      | nil => exact fun first => absurd (ended ':' first) (by decide)
      | cons c others => exact colon
    rw [portAt_of_noColon colon, portAt_of_noColon noColon]
    rfl

variable {authority : List Char} (special : isSpecial scheme = true)
  (inside : ∀ c ∈ authority, endsAuthority true c = false)
include special inside

theorem withAuthority_append (ended : ∀ c, rest.head? = some c → endsAuthority true c = true) :
    withAuthority scheme (authority ++ rest) =
      let (user, host) := splitUserinfo authority
      if (takeHost false host).isEmpty then .error .emptyHost
      else
        specialHost (takeHost false host) >>= fun parsed =>
          portAt scheme (host.drop (takeHost false host).length ++ rest) >>= fun found =>
            .ok ⟨scheme, userinfoText (user.getD []), some parsed, found.1,
              pathAfterAuthority true false (splitPath found.2).1,
              (suffixes true (splitPath found.2).2).1, (suffixes true (splitPath found.2).2).2⟩ := by
  have kept : ∀ c ∈ authority, (!endsAuthority true c) = true := fun c member => by
    simp [inside c member]
  have stopped : ∀ c, rest.head? = some c → (!endsAuthority true c) = false := fun c first => by
    simp [ended c first]
  obtain ⟨taken, dropped⟩ := splitWhile_append kept stopped
  unfold withAuthority
  simp only [special, taken, dropped, if_true]
  cases splitUserinfo authority with
  | mk user host =>
    cases empty : (takeHost false host).isEmpty with
    | true => simp
    | false =>
      simp only [Bool.false_and, Bool.false_eq_true, if_false]
      generalize host.drop (takeHost false host).length ++ rest = behind
      cases specialHost (takeHost false host) with
      | error cause => rfl
      | ok parsed =>
        by_cases colon : behind.head? = some ':'
        · obtain ⟨digits, rfl⟩ := List.head?_eq_some_iff.mp colon
          rfl
        · rw [portAt_of_noColon colon]
          simp only [bind, Except.bind]
          split
          · exact absurd rfl colon
          · rfl

theorem origin_withAuthority (ended : ∀ c, rest.head? = some c → endsAuthority true c = true) :
    (withAuthority scheme (authority ++ rest)).map origin =
      (withAuthority scheme authority).map origin := by
  have nothing : ∀ c, ([] : List Char).head? = some c → endsAuthority true c = true := by simp
  have alone := withAuthority_append special inside nothing
  rw [List.append_nil] at alone
  rw [withAuthority_append special inside ended, alone]
  have within := fun c member => inside c (mem_splitUserinfo (c := c) member)
  cases parts : splitUserinfo authority with
  | mk user host =>
    simp only [parts, List.append_nil] at within ⊢
    split
    · rfl
    · cases specialHost (takeHost false host) with
      | error cause => rfl
      | ok parsed =>
        have port : ∀ c ∈ host.drop (takeHost false host).length, endsAuthority true c = false :=
          fun c member => within c (List.mem_of_mem_drop member)
        apply map_bind_congr (portAt_append port ended)
        intro value other same
        simp only [Except.map, origin, same]

end

/-- The characters of a class are neither controls nor blanks if none of those is in the class. -/
theorem visible_of_class {belongs : Char → Bool}
    (each : ∀ code < 33, belongs (Char.ofNat code) = false) {c : Char} (member : belongs c = true) :
    isControlOrBlank c = false := by
  cases blank : isControlOrBlank c with
  | false => rfl
  | true =>
    have below : c ≤ ' ' := by simpa [isControlOrBlank] using blank
    have code : c.toNat < 33 := Nat.lt_succ_of_le below
    have absent := each c.toNat code
    rw [Char.ofNat_toNat, member] at absent
    cases absent

theorem significant_of_visible {text : String}
    (visible : ∀ c ∈ text.toList, isControlOrBlank c = false) : significant text = text.toList := by
  rw [significant, trimWhile_of_forall visible, List.filter_eq_self]
  intro c member
  cases breaks : isBreak c with
  | false => rfl
  | true =>
    have either : (c = '\t' ∨ c = '\n') ∨ c = '\r' := by simpa [isBreak] using breaks
    rcases either with (rfl | rfl) | rfl <;> exact absurd (visible _ member) (by decide)

end Url

namespace Uri

/-- A letter and more characters of schemes. -/
structure IsScheme (scheme : String) : Prop where
  first : ∃ c, scheme.toList.head? = some c ∧ isAlpha c = true
  chars : ∀ c ∈ scheme.toList, isSchemeChar c = true

/-- A text in the form of an absolute URI: a scheme, an authority and what follows them. -/
structure IsAbsolute (text scheme authority rest : String) : Prop where
  shape : text = scheme ++ "://" ++ authority ++ rest
  scheme : IsScheme scheme
  authority : Authority.parse authority = .ok authority

end Uri

namespace Url

theorem splitScheme?_append {scheme : String} (proper : Uri.IsScheme scheme) (rest : List Char) :
    splitScheme? (scheme.toList ++ ':' :: rest) =
      some (String.ofList (scheme.toList.map lower), rest) := by
  obtain ⟨c, first, letter⟩ := proper.first
  obtain ⟨others, chars⟩ := List.head?_eq_some_iff.mp first
  have taken : (scheme.toList ++ ':' :: rest).takeWhile Uri.isSchemeChar = scheme.toList :=
    (splitWhile_append proper.chars fun c first => by
      rw [← Option.some.inj first]
      rfl).1
  unfold Uri.isSchemeChar at taken
  unfold splitScheme?
  rw [chars] at taken ⊢
  simp only [List.cons_append] at taken ⊢
  simp [taken, letter]

/-- The characters of an authority do not end it and are not lost. -/
theorem inside_authority {authority : String} (read : Authority.parse authority = .ok authority) :
    authority.toList ≠ [] ∧ ∀ c ∈ authority.toList,
      endsAuthority true c = false ∧ isControlOrBlank c = false := by
  obtain ⟨_, scanned⟩ := Authority.parse_eq_ok read
  constructor
  · intro none
    rw [none] at scanned
    cases scanned
  · intro c member
    have readable := Authority.isReadable_of_scan scanned c member
    refine ⟨?_, visible_of_class (by decide +kernel) readable⟩
    cases ends : endsAuthority true c with
    | false => rfl
    | true =>
      rcases eq_of_endsAuthority ends with ((rfl | rfl) | rfl) | rfl <;>
        exact absurd readable (by decide)

/-- The scheme as it is read. -/
def lowered (scheme : String) : String := String.ofList (scheme.toList.map lower)

section
variable {text scheme authority rest : String} (absolute : Uri.IsAbsolute text scheme authority rest)
  (visible : ∀ c ∈ rest.toList, isControlOrBlank c = false)
include absolute visible

theorem splitScheme?_of_absolute : splitScheme? (significant text) =
    some (lowered scheme, '/' :: '/' :: (authority.toList ++ rest.toList)) := by
  obtain ⟨_, inside⟩ := inside_authority absolute.authority
  have chars : text.toList = scheme.toList ++ ':' :: '/' :: '/' :: (authority.toList ++ rest.toList) := by
    simp [absolute.shape]
  have all : ∀ c ∈ text.toList, isControlOrBlank c = false := by
    intro c member
    simp only [chars, List.mem_append, List.mem_cons] at member
    rcases member with name | rfl | rfl | rfl | server | behind
    · exact visible_of_class (by decide +kernel) (absolute.scheme.chars c name)
    · decide
    · decide
    · decide
    · exact (inside c server).2
    · exact visible c behind
  rw [significant_of_visible all, chars, splitScheme?_append absolute.scheme]
  rfl

theorem parse_of_absolute (web : IsWebScheme (lowered scheme)) :
    parse text = withAuthority (lowered scheme) (authority.toList ++ rest.toList) := by
  obtain ⟨nonempty, inside⟩ := inside_authority absolute.authority
  unfold parse
  rw [splitScheme?_of_absolute absolute visible]
  simp only [web.1, web.2, if_true, if_false]
  have slashes : ('/' :: '/' :: (authority.toList ++ rest.toList)).dropWhile (isSlash true) =
      authority.toList ++ rest.toList := by
    cases chars : authority.toList with
    | nil => exact absurd chars nonempty
    | cons c others =>
      have first := (inside c (chars ▸ List.mem_cons_self)).1
      simp only [endsAuthority, Bool.or_eq_false_iff] at first
      rw [List.dropWhile_cons_of_pos rfl, List.dropWhile_cons_of_pos rfl, List.cons_append,
        List.dropWhile_cons_of_neg (by simp [first.1.1])]
  rw [slashes]

end

/-- What may stand behind an authority: it ends it, and none of it is lost. -/
structure IsBehindAuthority (rest : String) : Prop where
  visible : ∀ c ∈ rest.toList, isControlOrBlank c = false
  ended : ∀ c, rest.toList.head? = some c → endsAuthority true c = true

theorem origin_of_absolute {text other scheme authority rest behind : String} {url : Url}
    (absolute : Uri.IsAbsolute text scheme authority rest)
    (again : Uri.IsAbsolute other scheme authority behind)
    (follows : IsBehindAuthority rest) (followsToo : IsBehindAuthority behind)
    (read : parse text = .ok url) (web : IsWebScheme url.scheme) :
    ∃ next, parse other = .ok next ∧ next.origin = url.origin := by
  have name : url.scheme = lowered scheme := by
    obtain ⟨_, split, _⟩ := withAuthority_of_parse read web
    rw [splitScheme?_of_absolute absolute follows.visible] at split
    exact (Prod.mk.inj (Option.some.inj split)).1.symm
  rw [name] at web
  have inside := fun c member => ((inside_authority absolute.authority).2 c member).1
  rw [parse_of_absolute absolute follows.visible web] at read
  have server : (withAuthority (lowered scheme) (authority.toList ++ behind.toList)).map origin =
      .ok url.origin := by
    rw [origin_withAuthority web.1 inside followsToo.ended,
      ← origin_withAuthority web.1 inside follows.ended, read]
    rfl
  rw [parse_of_absolute again followsToo.visible web]
  exact map_eq_ok server

/-- A text is written as an absolute URI with the path of a URL, without the slashes at its end. -/
def WrittenAs (url : Url) (text : String) : Prop :=
  ∃ scheme authority path, IsTrimmed url.path path ∧ Uri.IsAbsolute text scheme authority path

/-- A text is an absolute URI with the scheme, the host and the port of a URL. Its path is that of a
request below the one of the URL, and its query that of the request. -/
structure ContinuedBy (url : Url) (uri : Uri) (text : String) : Prop where
  written : ∃ scheme authority base, IsTrimmed url.path base ∧
    Uri.IsAbsolute text scheme authority (base ++ uri.path ++ Uri.queryText uri.query?) ∧
    ∀ c ∈ (base ++ uri.path).toList, isPathChar c = true
  query : ∀ query, uri.query? = some query → ∀ c ∈ query.toList, isQueryChar c = true
  server : ∃ other, parse text = .ok other ∧ other.origin = url.origin

namespace IsBehindAuthority

theorem of_slashes (count : Nat) : IsBehindAuthority (String.ofList (List.replicate count '/')) := by
  have slash : ∀ c ∈ (String.ofList (List.replicate count '/')).toList, c = '/' := by
    intro c member
    rw [String.toList_ofList] at member
    exact (List.mem_replicate.mp member).2
  constructor
  case visible =>
    intro c member
    rw [slash c member]
    rfl
  case ended =>
    intro c first
    rw [slash c (List.mem_of_head? first)]
    rfl

theorem of_query {query : Option String}
    (queried : ∀ text, query = some text → ∀ c ∈ text.toList, isQueryChar c = true) :
    IsBehindAuthority (Uri.queryText query) := by
  cases query with
  | none => exact ⟨by simp [Uri.queryText], by simp [Uri.queryText]⟩
  | some text =>
    have chars : (Uri.queryText (some text)).toList = '?' :: text.toList := by simp [Uri.queryText]
    constructor
    case visible =>
      intro c member
      rw [chars] at member
      rcases List.mem_cons.mp member with rfl | behind
      · rfl
      · exact visible_of_class (by decide +kernel) (queried text rfl c behind)
    case ended =>
      intro c first
      rw [chars] at first
      rw [← Option.some.inj first]
      rfl

theorem append {path rest : String} (written : ∀ c ∈ path.toList, isPathChar c = true)
    (rooted : path.toList = [] ∨ path.toList.head? = some '/') (behind : IsBehindAuthority rest) :
    IsBehindAuthority (path ++ rest) := by
  constructor
  case visible =>
    intro c member
    rw [String.toList_append] at member
    rcases List.mem_append.mp member with before | after
    · exact visible_of_class (by decide +kernel) (written c before)
    · exact behind.visible c after
  case ended =>
    intro c first
    rw [String.toList_append] at first
    rcases rooted with none | slash
    · rw [none] at first
      exact behind.ended c first
    · obtain ⟨others, chars⟩ := List.head?_eq_some_iff.mp slash
      rw [chars] at first
      rw [← Option.some.inj first]
      rfl

end IsBehindAuthority

variable {text base : String} {url : Url} {uri : Uri}

/-- There is neither a query nor a fragment in what is written as an absolute URI. -/
theorem WrittenAs.inside (page : IsPage text url) (written : url.WrittenAs base) :
    ∀ c ∈ base.toList, isInside c = true := by
  obtain ⟨scheme, authority, path, short, absolute⟩ := written
  have web := web_of_parse page.read (isWebScheme_of_mem page.scheme)
  intro c member
  rw [absolute.shape] at member
  simp only [String.toList_append, List.mem_append] at member
  rcases member with ((name | marks) | server) | behind
  · exact Path.inside_of_class (by decide) (by decide) (absolute.scheme.chars c name)
  · exact List.all_eq_true.mp (by decide) c marks
  · have readable := Authority.isReadable_of_scan (Authority.parse_eq_ok absolute.authority).2 c server
    exact Path.inside_of_class (by decide) (by decide) readable
  · exact PathAndQuery.isInside_of_isPathChar (web.path c (short.subset behind))

/-- What is put behind a base that has been read stays at its server and below its path just if the base
is written as an absolute URI. -/
theorem continuedBy_iff (page : IsPage text url) (trimmed : IsTrimmed text base)
    (normal : uri.Normal) :
    url.ContinuedBy uri (base ++ uri.path ++ Uri.queryText uri.query?) ↔ url.WrittenAs base := by
  constructor
  · intro continued
    obtain ⟨scheme, authority, path, short, absolute, _⟩ := continued.written
    refine ⟨scheme, authority, path, short, ?_, absolute.scheme, absolute.authority⟩
    have lists : base.toList ++ (uri.path ++ Uri.queryText uri.query?).toList =
        (scheme ++ "://" ++ authority ++ path).toList ++
          (uri.path ++ Uri.queryText uri.query?).toList := by
      have shape := congrArg String.toList absolute.shape
      simpa only [String.toList_append, List.append_assoc] using shape
    exact String.toList_injective (List.append_cancel_right lists)
  · rintro ⟨scheme, authority, path, short, absolute⟩
    have web := web_of_parse page.read (isWebScheme_of_mem page.scheme)
    have written : ∀ c ∈ path.toList, isPathChar c = true :=
      fun c member => web.path c (short.subset member)
    have rooted : path.toList = [] ∨ path.toList.head? = some '/' := web.rooted ▸ short.head_cases
    have whole : Uri.IsAbsolute (base ++ uri.path ++ Uri.queryText uri.query?) scheme authority
        (path ++ uri.path ++ Uri.queryText uri.query?) :=
      ⟨by simp only [absolute.shape, String.append_assoc], absolute.scheme, absolute.authority⟩
    obtain ⟨count, slashes⟩ := trimmed.slashes
    have configured : Uri.IsAbsolute text scheme authority
        (path ++ String.ofList (List.replicate count '/')) := by
      refine ⟨?_, absolute.scheme, absolute.authority⟩
      rw [← String.toList_inj, slashes, absolute.shape]
      simp
    have follows := IsBehindAuthority.append written rooted (.of_slashes count)
    have followsToo := IsBehindAuthority.append written rooted
      (.append normal.pathChars (.inr normal.rooted) (.of_query normal.queryChars))
    rw [← String.append_assoc] at followsToo
    constructor
    case written =>
      refine ⟨scheme, authority, path, short, whole, ?_⟩
      intro c member
      rw [String.toList_append] at member
      rcases List.mem_append.mp member with before | after
      · exact written c before
      · exact normal.pathChars c after
    case query => exact normal.queryChars
    case server =>
      exact origin_of_absolute configured whole follows followsToo page.read
        (isWebScheme_of_mem page.scheme)

end Url
end AuthGate
