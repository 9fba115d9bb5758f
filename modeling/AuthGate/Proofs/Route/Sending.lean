import AuthGate.Proofs.Gate.Destination
import AuthGate.Proofs.Pattern.Span
import AuthGate.Proofs.Uri.Query

/-! What becomes of the path and the query of a request that is sent on. A path without a substitution
arrives as it is, below the path of the server and in front of its query. One that a substitution has made
does so unless the replacement brings in a mark that ends a path. -/
namespace AuthGate
open AuthGate.Path (isInside)
open PathAndQuery (isPathChar isQueryChar Readable maxLength)
open Text

/-- A request goes to a path with the query, the method and the body of another one. -/
structure Request.SentTo (outgoing request : Request) (path : String) : Prop where
  path : outgoing.uri.path = path
  query : outgoing.uri.query? = request.uri.query?
  method : outgoing.method = request.method
  body : outgoing.body = request.body

/-- What comes of sending a request on to a path. The path and the query are put together and read again:
if they cannot be read the request is not sent, and else it gets whatever is in front of the first question
mark and behind it. -/
structure ForwardedTo (outcome : Except ForwardError Request) (request : Request) (path : String) :
    Prop where
  decided : Decides outcome
    ((path ++ Uri.queryText request.uri.query?).utf8ByteSize ≤ maxLength ∧
      Readable (path ++ Uri.queryText request.uri.query?))
    (· = .invalidUri (if (path ++ Uri.queryText request.uri.query?).utf8ByteSize ≤ maxLength
      then .invalidCharacter else .tooLong))
  sent : ∀ outgoing, outcome = .ok outgoing →
    (outgoing.uri.path, outgoing.uri.query?) =
        Uri.splitQuery (path ++ Uri.queryText request.uri.query?) ∧
      outgoing.method = request.method ∧ outgoing.body = request.body

namespace ForwardedTo

variable {outcome : Except ForwardError Request} {request : Request} {path : String}

/-- A request arrives at the path that it is sent to just if nothing in the path ends it. -/
theorem sentTo_iff (forwarded : ForwardedTo outcome request path) (normal : request.uri.Normal)
    {outgoing : Request} (succeeded : outcome = .ok outgoing) :
    outgoing.SentTo request path ↔ ∀ c ∈ path.toList, isInside c = true := by
  obtain ⟨parts, method, body⟩ := forwarded.sent outgoing succeeded
  have queried : ∀ text, request.uri.query? = some text → '#' ∉ text.toList :=
    fun text present member => absurd (normal.queryChars text present _ member) (by decide)
  rw [← Uri.splitQuery_append_iff queried, ← parts, Prod.mk.injEq]
  constructor
  · exact fun sent => ⟨sent.path, sent.query⟩
  · exact fun both => ⟨both.1, both.2, method, body⟩

end ForwardedTo

namespace Target

variable {text : String} {target : Target}

theorem isTrimmed_basePath (read : parse text = .ok target) :
    ∃ url, Url.parse text = .ok url ∧ IsTrimmed url.path target.basePath := by
  obtain ⟨url, _, parsed, _, _, _, path⟩ := parse_eq_ok read
  exact ⟨url, parsed, path ▸ isTrimmed_dropEndWhile url.path⟩

private theorem pathAndQuery_of_absolute {path : String} (absolute : path.toList.head? = some '/')
    (query : Option String) :
    target.pathAndQuery path query = target.basePath ++ path ++ Uri.queryText query := by
  have nonempty : target.basePath ++ path ≠ "" := by
    intro none
    have both : target.basePath = "" ∧ path = "" := by simpa using none
    rw [both.2] at absolute
    cases absolute
  unfold pathAndQuery Uri.queryText
  cases query with
  | none => simp [nonempty]
  | some text => simp [nonempty, String.append_assoc]

end Target

namespace Substitution

/-- What a substitution makes of a path: the first match is replaced, and a slash is added in front if it
is missing. A path that does not match is kept. -/
inductive Applied (substitution : Substitution) (path : String) : String → Prop where
  | kept (unmatched : substitution.pattern.find? path.toList = none) : Applied substitution path path
  | replaced {found : Pattern.Match} {start stop : Nat}
      (matched : substitution.pattern.find? path.toList = some found)
      (span : found.span? 0 = some (start, stop)) (order : start ≤ stop)
      (within : stop ≤ path.toList.length) :
      Applied substitution path (String.ofList (absolute (path.toList.take start ++
        substitution.pattern.expand found path.toList substitution.replacement.toList ++
        path.toList.drop stop)))

/-- A replacement has none of the marks that end a path outside of its references. -/
def AddsNoMark (substitution : Substitution) : Prop :=
  ∀ text, .literal text ∈ Pattern.Template.read 0 substitution.replacement.toList →
    ∀ c ∈ text, isInside c = true

variable {pattern replacement : String} {substitution : Substitution} {path : String}

private theorem applied_apply (read : parse pattern replacement = .ok substitution)
    (path : String) :
    substitution.Applied path (substitution.apply path) := by
  obtain ⟨compiled, parsed, same⟩ := bind_eq_ok read
  cases same
  unfold apply result? Pattern.replaceFirst?
  cases matched : compiled.find? path.toList with
  | none => exact .kept matched
  | some found =>
    obtain ⟨start, stop, span, order, within⟩ := Pattern.span_of_find? parsed matched
    simp only [bind, Option.bind, span, Option.map, Option.getD]
    exact .replaced matched span order within

private theorem inside_absolute_iff {text : List Char} :
    (∀ c ∈ absolute text, isInside c = true) ↔ ∀ c ∈ text, isInside c = true := by
  unfold absolute
  split
  · exact Iff.rfl
  · simp [isInside]

private theorem inside_expand_iff {found : Pattern.Match}
    (inside : ∀ c ∈ path.toList, isInside c = true) :
    (∀ c ∈ substitution.pattern.expand found path.toList substitution.replacement.toList,
      isInside c = true) ↔ substitution.AddsNoMark := by
  constructor
  · intro expanded text literal c member
    exact expanded c (List.mem_flatMap.mpr ⟨.literal text, literal, member⟩)
  · intro adds c member
    obtain ⟨template, read, written⟩ := List.mem_flatMap.mp member
    cases template with
    | literal text => exact adds text read c written
    | group number => exact inside c (mem_expandPart rfl c written)
    | named name => exact inside c (mem_expandPart rfl c written)

private theorem Applied.inside_iff {changed : String} (applied : substitution.Applied path changed)
    (inside : ∀ c ∈ path.toList, isInside c = true) :
    (∀ c ∈ changed.toList, isInside c = true) ↔
      substitution.pattern.find? path.toList = none ∨ substitution.AddsNoMark := by
  cases applied with
  | kept unmatched => exact ⟨fun _ => .inl unmatched, fun _ => inside⟩
  | replaced matched _ _ _ =>
    rw [String.toList_ofList, inside_absolute_iff, matched]
    simp only [List.forall_mem_append, inside_expand_iff inside, reduceCtorEq, false_or]
    constructor
    · exact fun parts => parts.1.2
    · exact fun adds => ⟨⟨fun c member => inside c (List.mem_of_mem_take member), adds⟩,
        fun c member => inside c (List.mem_of_mem_drop member)⟩

end Substitution

namespace Route

variable {index : Nat} {config : RouteConfig} {route : Route}

theorem substitution_of_compile (compiled : compile index config = .ok route) :
    compileSubstitution config.substitution = .ok route.substitution := by
  unfold compile at compiled
  split at compiled
  · cases compiled
  · rename_i substitution read
    split at compiled
    · cases compiled
    · split at compiled
      · cases compiled
      · cases compiled
        exact read

/-- A request on a route is sent on to the path that the route makes of its own, below that of the
server. The name of the server can always be written. -/
theorem forwardedTo_forwardRequest (compiled : compile index config = .ok route) (trust : Bool)
    (client : Client) (grant : Option Grant) {request : Request}
    (absolute : request.uri.path.toList.head? = some '/') :
    ForwardedTo (route.forwardRequest trust client grant request) request
      (route.target.basePath ++ route.substitute request.uri.path) := by
  have read := base_of_compile compiled
  have head : (route.substitute request.uri.path).toList.head? = some '/' := head_substitute absolute
  have written := route.target.pathAndQuery_of_absolute head request.uri.query?
  have rooted := Target.head_pathAndQuery read head request.uri.query?
  rw [written] at rooted
  obtain ⟨host, named⟩ : ∃ host, HeaderValue.ofText? route.target.authority = some host := by
    obtain ⟨_, _, _, _, _, server, _⟩ := Target.parse_eq_ok read
    obtain ⟨named, scanned⟩ := Authority.parse_eq_ok server
    have holds := Authority.holds_of_scan scanned
    rw [String.ofList_toList, ← named] at holds
    exact HeaderValue.exists_ofText?_iff.mpr holds
  constructor
  case decided =>
    refine (PathAndQuery.parse_decides rooted).carry ?_ ?_
    · intro target parsed
      simp [forwardRequest, Target.uriFor, written, parsed, named, bind, Except.bind, pure, Except.pure]
    · intro cause failed because
      simp [forwardRequest, Target.uriFor, written, failed, because, bind, Except.bind]
  case sent =>
    intro outgoing succeeded
    obtain ⟨target, _, ⟨parsed, _⟩, rfl⟩ := forwardRequest_ok succeeded
    have path := (PathAndQuery.text_of_rooted (Target.head_written read head parsed)).1
    rw [written] at parsed
    refine ⟨?_, rfl, rfl⟩
    rw [PathAndQuery.splitQuery_of_parse parsed, ← path]
    rfl

/-- On a route without a substitution every request with a path in normal form is sent on unless it is too
long: below the path of the server, and with its query as it came. -/
theorem forwardRequest_plain (compiled : compile index config = .ok route)
    (plain : config.substitution = none) :
    ∃ url base, Url.parse config.server = .ok url ∧ IsTrimmed url.path base ∧
      ∀ trust client grant (received : Uri) request, received.normalize = .ok request.uri →
        Decides (route.forwardRequest trust client grant request)
            ((base ++ request.uri.path ++ Uri.queryText request.uri.query?).utf8ByteSize ≤ maxLength)
            (· = .invalidUri .tooLong) ∧
          ∀ outgoing, route.forwardRequest trust client grant request = .ok outgoing →
            outgoing.SentTo request (base ++ request.uri.path) := by
  obtain ⟨url, parsed, trimmed⟩ := Target.isTrimmed_basePath (base_of_compile compiled)
  refine ⟨url, route.target.basePath, parsed, trimmed, ?_⟩
  intro trust client grant received request normalized
  have normal := Uri.normal_of_normalize normalized
  have same : route.substitute request.uri.path = request.uri.path := by
    have none := substitution_of_compile compiled
    rw [plain] at none
    rw [substitute, ← Except.ok.inj none]
  have pathChars : ∀ c ∈ (route.target.basePath ++ request.uri.path).toList, isPathChar c = true := by
    intro c member
    rw [String.toList_append] at member
    rcases List.mem_append.mp member with base | below
    · exact Target.isPathChar_basePath (base_of_compile compiled) c base
    · exact normal.pathChars c below
  have readable := PathAndQuery.readable_append pathChars normal.queryChars
  have forwarded := forwardedTo_forwardRequest compiled trust client grant normal.rooted
  rw [same] at forwarded
  constructor
  · constructor
    case succeeds => exact fun short => forwarded.decided.succeeds ⟨short, readable⟩
    case fails =>
      intro long
      obtain ⟨cause, failed, because⟩ := forwarded.decided.fails fun both => long both.1
      exact ⟨cause, failed, by rw [because, if_neg long]⟩
  · intro outgoing succeeded
    exact (forwarded.sentTo_iff normal succeeded).mpr
      fun c member => PathAndQuery.isInside_of_isPathChar (pathChars c member)

/-- What is seen of a route and of what it sends on belongs to a route that has been compiled. -/
theorem sent_of_seen {α : Type} {request : Request} (look : Route → Request → α) {view : α}
    (seen : ((compile 0 config).toOption.bind fun route =>
      (route.forwardRequest false ⟨none, "http", "h"⟩ none request).toOption.map (look route)) =
        some view) :
    ∃ route outgoing, compile 0 config = .ok route ∧
      route.forwardRequest false ⟨none, "http", "h"⟩ none request = .ok outgoing ∧
      look route outgoing = view := by
  obtain ⟨route, compiled, sent⟩ := Option.bind_eq_some_iff.mp seen
  obtain ⟨outgoing, succeeded, same⟩ := Option.map_eq_some_iff.mp sent
  exact ⟨route, outgoing, ok_of_toOption compiled, ok_of_toOption succeeded, same⟩

/-- A request for a path with a query. -/
def asking (path query : String) : Request := ⟨"GET", .origin ⟨path, some query⟩, .empty, []⟩

/-- A route to a server whose path has a blank in it and two slashes at its end. -/
def nested : RouteConfig where
  pathBase := "/"
  server := "http://a/b c//"

theorem forwardRequest_plain_nested : ∃ route outgoing url base, compile 0 nested = .ok route ∧
    Uri.normalize (.origin ⟨"/x/../%7e", some ""⟩) = .ok (asking "/~" "").uri ∧
    Url.parse "http://a/b c//" = .ok url ∧ IsTrimmed url.path base ∧
    route.forwardRequest false ⟨none, "http", "h"⟩ none (asking "/~" "") = .ok outgoing ∧
    outgoing.SentTo (asking "/~" "") (base ++ "/~") ∧ outgoing.uri.text = "http://a/b%20c/~?" := by
  have seen : ((compile 0 nested).toOption.bind fun route =>
      (route.forwardRequest false ⟨none, "http", "h"⟩ none (asking "/~" "")).toOption.map
        (·.uri.text)) = some "http://a/b%20c/~?" := by decide +kernel
  have normalized : Uri.normalize (.origin ⟨"/x/../%7e", some ""⟩) = .ok (asking "/~" "").uri := by
    decide +kernel
  obtain ⟨route, outgoing, compiled, succeeded, text⟩ :=
    sent_of_seen (fun _ outgoing => outgoing.uri.text) seen
  obtain ⟨url, base, parsed, trimmed, each⟩ := forwardRequest_plain compiled rfl
  have sent := (each false ⟨none, "http", "h"⟩ none _ _ normalized).2 outgoing succeeded
  exact ⟨route, outgoing, url, base, compiled, normalized, parsed, trimmed, succeeded, sent, text⟩

/-- On a route with a substitution a request is sent on to what the substitution makes of its path, below
the path of the server. All of that arrives, with the query as it came, unless the path matches and the
replacement brings in a question mark or a number sign. -/
theorem forwardRequest_substituted {written : SubstitutionConfig}
    (compiled : compile index config = .ok route) (present : config.substitution = some written) :
    ∃ url base substitution, Url.parse config.server = .ok url ∧ IsTrimmed url.path base ∧
      Substitution.parse written.pattern written.replacement = .ok substitution ∧
      ∀ trust client grant (received : Uri) request, received.normalize = .ok request.uri →
        ∃ path, substitution.Applied request.uri.path path ∧
          ForwardedTo (route.forwardRequest trust client grant request) request (base ++ path) ∧
          ∀ outgoing, route.forwardRequest trust client grant request = .ok outgoing →
            (outgoing.SentTo request (base ++ path) ↔
              substitution.pattern.find? request.uri.path.toList = none ∨ substitution.AddsNoMark) := by
  obtain ⟨url, parsed, trimmed⟩ := Target.isTrimmed_basePath (base_of_compile compiled)
  have read := substitution_of_compile compiled
  rw [present] at read
  obtain ⟨substitution, parsedToo, same⟩ := map_eq_ok read
  refine ⟨url, route.target.basePath, substitution, parsed, trimmed, parsedToo, ?_⟩
  intro trust client grant received request normalized
  have normal := Uri.normal_of_normalize normalized
  have forwarded := forwardedTo_forwardRequest compiled trust client grant normal.rooted
  have applied : route.substitute request.uri.path = substitution.apply request.uri.path := by
    rw [substitute, ← same]
  rw [applied] at forwarded
  have changed := Substitution.applied_apply parsedToo request.uri.path
  refine ⟨_, changed, forwarded, ?_⟩
  intro outgoing succeeded
  have base := Target.isInside_basePath (base_of_compile compiled)
  have inside := fun c member => PathAndQuery.isInside_of_isPathChar (normal.pathChars c member)
  rw [forwarded.sentTo_iff normal succeeded, ← changed.inside_iff inside, String.toList_append,
    List.forall_mem_append]
  exact ⟨And.right, And.intro base⟩

/-- A route whose replacement ends in a fragment. -/
def marking : RouteConfig where
  pathBase := "/app"
  substitution := some ⟨"^/app/(.*)", "/$1#v"⟩
  server := "http://a"

theorem marking_seen : ((compile 0 marking).toOption.bind fun route =>
    (route.forwardRequest false ⟨none, "http", "h"⟩ none (asking "/app/x" "a=1")).toOption.map
      fun outgoing => (route.target.basePath, route.substitute "/app/x", outgoing.uri.path,
        outgoing.uri.query?)) = some ("", "/x#v", "/x", none) := by decide +kernel

theorem forwardRequest_substituted_marking : ∃ route outgoing url base substitution path,
    compile 0 marking = .ok route ∧ Url.parse "http://a" = .ok url ∧ IsTrimmed url.path base ∧
    Substitution.parse "^/app/(.*)" "/$1#v" = .ok substitution ∧
    (asking "/app/x" "a=1").uri.normalize = .ok (asking "/app/x" "a=1").uri ∧
    substitution.Applied "/app/x" path ∧
    route.forwardRequest false ⟨none, "http", "h"⟩ none (asking "/app/x" "a=1") = .ok outgoing ∧
    ForwardedTo (.ok outgoing) (asking "/app/x" "a=1") (base ++ path) ∧
    (outgoing.SentTo (asking "/app/x" "a=1") (base ++ path) ↔
      substitution.pattern.find? "/app/x".toList = none ∨ substitution.AddsNoMark) := by
  obtain ⟨route, outgoing, compiled, succeeded, _⟩ := sent_of_seen _ marking_seen
  have normalized : (asking "/app/x" "a=1").uri.normalize = .ok (asking "/app/x" "a=1").uri := by
    decide +kernel
  obtain ⟨url, base, substitution, parsed, trimmed, read, each⟩ :=
    forwardRequest_substituted compiled rfl
  obtain ⟨path, applied, forwarded, sent⟩ := each false ⟨none, "http", "h"⟩ none _ _ normalized
  exact ⟨route, outgoing, url, base, substitution, path, compiled, parsed, trimmed, read, normalized,
    applied, succeeded, succeeded ▸ forwarded, sent outgoing succeeded⟩

/-- The number sign of the replacement cuts the query off with the end of the path. -/
theorem marking_cuts_query : ∃ route outgoing, compile 0 marking = .ok route ∧
    (asking "/app/x" "a=1").uri.normalize = .ok (asking "/app/x" "a=1").uri ∧
    route.forwardRequest false ⟨none, "http", "h"⟩ none (asking "/app/x" "a=1") = .ok outgoing ∧
    outgoing.uri.path ≠ route.target.basePath ++ route.substitute (asking "/app/x" "a=1").uri.path ∧
    outgoing.uri.query? ≠ (asking "/app/x" "a=1").uri.query? := by
  obtain ⟨route, outgoing, compiled, succeeded, view⟩ := sent_of_seen _ marking_seen
  simp only [Prod.mk.injEq] at view
  obtain ⟨base, changed, path, query⟩ := view
  have asked : (asking "/app/x" "a=1").uri.path = "/app/x" := by decide
  refine ⟨route, outgoing, compiled, by decide +kernel, succeeded, ?_, ?_⟩
  · rw [path, base, asked, changed]
    decide
  · rw [query]
    decide

end Route
end AuthGate
