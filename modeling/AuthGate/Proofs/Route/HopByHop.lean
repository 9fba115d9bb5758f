import AuthGate.Proofs.Gate.Cookies
import AuthGate.Proofs.Gate.Forwarded
import AuthGate.Proofs.Header.Connection

/-! What of one connection gets across a gate. The fields that always concern one connection never do,
and of those that a `Connection` field of ASCII lists only what the gate itself adds is on the other
side. A field that is listed beside a byte that is not ASCII gets across as it is. -/
namespace AuthGate

namespace Headers

variable {left right : Headers} {name other : HeaderName}

/-- What an operation leaves of a name depends on what there was of this name alone. -/
theorem values_insert_congr (same : left.values name = right.values name) (other : HeaderName)
    (value : HeaderValue) :
    (left.insert other value).values name = (right.insert other value).values name := by
  rw [values_insert, values_insert, same]

private theorem values_insertText_congr (same : left.values name = right.values name)
    (text : String) :
    (left.insertText other text).values name = (right.insertText other text).values name := by
  unfold insertText
  split
  · exact values_insert_congr same _ _
  · exact same

private theorem values_setForwarded_congr (same : left.values name = right.values name)
    (client : Client)
    (trust : Bool) :
    (left.setForwarded client trust).values name = (right.setForwarded client trust).values name := by
  unfold setForwarded
  apply values_insertText_congr
  apply values_insertText_congr
  cases client.ip with
  | some ip =>
    by_cases chained : .forwardedFor = name
    · subst chained
      have chain : left.forwardedChain trust ip = right.forwardedChain trust ip := by
        simp only [forwardedChain, firstText?, first?, same]
      simp only [chain]
      exact values_insertText_congr same _
    · simp only [values_insertText _ chained, same]
  | none =>
    cases trust with
    | true => exact same
    | false => simp only [Bool.false_eq_true, if_false, values_erase, same]

private theorem values_setIdentity_congr (same : left.values name = right.values name)
    (grant : Grant) :
    (left.setIdentity grant).values name = (right.setIdentity grant).values name := by
  rw [setIdentity, setIdentity, values_replace, values_replace, values_replace, values_replace, same]

end Headers

namespace Route

variable {name : HeaderName} {left right : Headers}

/-- The names of the fields that a gate gives each request on a route. -/
def ownNames (route : Route) : List HeaderName :=
  [.host, .forwardedFor, .forwardedProto, .forwardedHost] ++
    if route.auth.introspects then [.authorization, .cookie] else []

/-- Fields with other names are only taken away. -/
theorem values_forwardHeaders_of_not_own {route : Route} (foreign : name ∉ route.ownNames)
    (trust : Bool) (client : Client) (grant : Option Grant) (host : HeaderValue)
    (headers : Headers) :
    (route.forwardHeaders trust client grant host headers).values name =
      headers.stripHopByHop.values name := by
  simp only [ownNames, List.mem_append, List.mem_cons, List.not_mem_nil, or_false, not_or] at foreign
  obtain ⟨⟨notHost, notFor, notProto, notForwardedHost⟩, notIdentity⟩ := foreign
  have described : ((headers.stripHopByHop.insert .host host).setForwarded client trust).values
      name = headers.stripHopByHop.values name := by
    rw [Headers.values_setForwarded _ _ _ (Ne.symm notFor) (Ne.symm notProto)
      (Ne.symm notForwardedHost), Headers.values_insert, if_neg (Ne.symm notHost)]
  cases introspects : route.auth.introspects with
  | false => simpa [forwardHeaders, introspects] using described
  | true =>
    simp only [introspects, if_true, List.mem_cons, List.not_mem_nil, or_false, not_or] at notIdentity
    simp only [forwardHeaders, introspects, if_true]
    rw [Headers.values_setIdentity_of_ne (Ne.symm notIdentity.1) (Ne.symm notIdentity.2), described]

private theorem values_forwardHeaders_congr (route : Route)
    (same : left.stripHopByHop.values name = right.stripHopByHop.values name) (trust : Bool)
    (client : Client) (grant : Option Grant) (host : HeaderValue) :
    (route.forwardHeaders trust client grant host left).values name =
      (route.forwardHeaders trust client grant host right).values name := by
  have described := Headers.values_setForwarded_congr
    (Headers.values_insert_congr same .host host) client trust
  cases introspects : route.auth.introspects with
  | false => simpa [forwardHeaders, introspects] using described
  | true =>
    simp only [forwardHeaders, introspects, if_true]
    exact Headers.values_setIdentity_congr described _

end Route

/-- Of the fields of a message, what concerns one connection is not among those that are passed on, but
for a gate's own, which are those of a message without fields. That holds of all listed names, those
that the gate sets apart, exactly if each that is there is listed in a field of ASCII, or is one of
those that are removed anyway. -/
structure Headers.Stopped (headers passed own : Headers) (set removed : List HeaderName) : Prop where
  always : ∀ name ∈ hopByHop, passed.values name = []
  listed : ∀ name, headers.ListsInAscii name → passed.values name = own.values name
  exactly : (∀ name, headers.Lists name → name ∉ set → passed.values name = own.values name) ↔
    ∀ name, headers.Lists name → name ∉ set → headers.values name ≠ [] →
      name ∈ hopByHop ∨ name ∈ removed ∨ headers.ListsInAscii name

theorem Headers.stopped_of_values {headers passed own : Headers} {set removed : List HeaderName}
    (always : ∀ name ∈ hopByHop, passed.values name = [])
    (listed : ∀ name, headers.ListsInAscii name → passed.values name = own.values name)
    (removes : ∀ name ∈ removed, passed.values name = own.values name)
    (unset : ∀ name ∈ hopByHop, own.values name = [])
    (passes : ∀ name, name ∉ set → name ∉ hopByHop → name ∉ removed → ¬ headers.ListsInAscii name →
      passed.values name = headers.values name ++ own.values name) :
    headers.Stopped passed own set removed where
  always := always
  listed := listed
  exactly := by
    constructor
    · intro confined name lists foreign present
      by_contra! stray
      obtain ⟨notAlways, kept, hidden⟩ := stray
      have own := confined name lists foreign
      rw [passes name foreign notAlways kept hidden] at own
      exact present (List.append_left_eq_self.mp own)
    · intro seen name lists foreign
      by_cases hop : name ∈ hopByHop
      · rw [always name hop, unset name hop]
      · by_cases removal : name ∈ removed
        · exact removes name removal
        · by_cases inAscii : headers.ListsInAscii name
          · exact listed name inAscii
          · have absent : headers.values name = [] := by
              by_contra present
              rcases seen name lists foreign present with here | here | here
              · exact hop here
              · exact removal here
              · exact inAscii here
            rw [passes name foreign hop removal inAscii, absent, List.nil_append]

namespace Route

/-- What holds of a route and of all messages that are passed on there. -/
structure StopsHopByHop (route : Route) : Prop where
  forwarded : ∀ trust client grant request outgoing,
    route.forwardRequest trust client grant request = .ok outgoing →
    ∃ host, HeaderValue.ofText? route.target.authority = some host ∧
      request.headers.Stopped outgoing.headers
        (route.forwardHeaders trust client grant host .empty) route.ownNames []
  relayed : ∀ (grant : Option Grant) (headers : Headers),
    headers.Stopped (route.relayHeaders grant headers) (route.relayHeaders grant .empty) []
      route.ignoredHeaders
  setForRequest : ∀ trust client grant host name, name ∉ route.ownNames →
    (route.forwardHeaders trust client grant host .empty).values name = []
  granted : route.auth.introspects = true → ∀ trust client grant host,
    let own := route.forwardHeaders trust client grant host .empty
    own.values .authorization = (grant.getD {}).authorization.toList ∧
      own.values .cookie = (grant.getD {}).cookie.toList
  setForResponse : ∀ grant name, (route.relayHeaders grant .empty).values name =
    if .setCookie = name then Grant.cookies grant else []

private theorem stopped_forwardHeaders (route : Route) (trust : Bool) (client : Client)
    (grant : Option Grant) (host : HeaderValue) (headers : Headers) :
    headers.Stopped (route.forwardHeaders trust client grant host headers)
      (route.forwardHeaders trust client grant host .empty) route.ownNames [] := by
  have foreign {name : HeaderName} (always : name ∈ hopByHop) : name ∉ route.ownNames := by
    have apart : ∀ name ∈ hopByHop, name ∉ [.host, .forwardedFor, .forwardedProto, .forwardedHost,
        HeaderName.authorization, .cookie] := by decide
    have absent := apart name always
    unfold ownNames
    split
    · exact absent
    · simp only [List.mem_cons, List.append_nil] at absent ⊢
      tauto
  have left (name : HeaderName) : Headers.empty.stripHopByHop.values name = [] := by
    rw [Headers.values_stripHopByHop_eq]
    simp
  apply Headers.stopped_of_values
  case always =>
    intro name always
    rw [values_forwardHeaders_of_not_own (foreign always), Headers.values_stripHopByHop_eq,
      if_pos (.inl always)]
  case listed =>
    intro name listed
    apply values_forwardHeaders_congr
    rw [left, Headers.values_stripHopByHop_eq, if_pos (.inr listed)]
  case removes => simp
  case unset =>
    intro name always
    rw [values_forwardHeaders_of_not_own (foreign always), left]
  case passes =>
    intro name foreign notAlways _ hidden
    rw [values_forwardHeaders_of_not_own foreign, values_forwardHeaders_of_not_own foreign, left,
      List.append_nil, Headers.values_stripHopByHop_eq, if_neg (by tauto)]

theorem stopped_relayHeaders (route : Route) (grant : Option Grant) (headers : Headers) :
    headers.Stopped (route.relayHeaders grant headers) (route.relayHeaders grant .empty) []
      route.ignoredHeaders := by
  have own (name : HeaderName) : (route.relayHeaders grant .empty).values name =
      if .setCookie = name then Grant.cookies grant else [] := by
    rw [values_relayHeaders_eq]
    simp
  have unset {name : HeaderName} (always : name ∈ hopByHop) :
      (if .setCookie = name then Grant.cookies grant else []) = [] := by
    have different : ∀ name ∈ hopByHop, HeaderName.setCookie ≠ name := by decide
    exact if_neg (different name always)
  apply Headers.stopped_of_values
  case always =>
    intro name always
    rw [values_relayHeaders_eq, if_pos (.inl always), unset always, List.append_nil]
  case listed =>
    intro name listed
    rw [values_relayHeaders_eq, if_pos (.inr (.inl listed)), own, List.nil_append]
  case removes =>
    intro name ignored
    rw [values_relayHeaders_eq, if_pos (.inr (.inr ignored)), own, List.nil_append]
  case unset =>
    intro name always
    rw [own, unset always]
  case passes =>
    intro name _ notAlways kept hidden
    rw [values_relayHeaders_eq, if_neg (by tauto), own]

/-- What concerns one connection stays on its side of the gate, as far as the gate can read which
fields these are. -/
theorem stopsHopByHop (route : Route) : route.StopsHopByHop where
  forwarded trust client grant request outgoing built := by
    obtain ⟨target, host, ⟨_, named⟩, rfl⟩ := forwardRequest_ok built
    exact ⟨host, named, route.stopped_forwardHeaders trust client grant host request.headers⟩
  relayed := route.stopped_relayHeaders
  setForRequest trust client grant host name foreign := by
    rw [values_forwardHeaders_of_not_own foreign, Headers.values_stripHopByHop_eq]
    simp
  granted introspects trust client grant host := by
    have different : HeaderName.cookie ≠ .authorization := by decide
    simp [forwardHeaders, introspects, Headers.setIdentity, different]
  setForResponse grant name := by
    rw [values_relayHeaders_eq]
    simp

end Route

/-- A field that the `Connection` field lists before an entry that is not ASCII. -/
def Headers.smuggling : Headers :=
  ⟨[(.connection, ⟨Text.utf8 "x-request-uri,".toList ++ [233], by decide⟩),
    (.requestUri, ⟨[47], rfl⟩)]⟩

namespace Route

/-- It crosses the gate in both directions. -/
theorem smuggling_crosses : ∃ route outgoing,
    compile 0 { pathBase := "/", server := "http://a" } = .ok route ∧
    route.forwardRequest false ⟨none, "http", "h"⟩ none
      ⟨"GET", .origin ⟨"/", none⟩, .smuggling, []⟩ = .ok outgoing ∧
    Headers.smuggling.Lists .requestUri ∧ .requestUri ∉ route.ownNames ∧
    outgoing.headers.values .requestUri = [⟨[47], rfl⟩] ∧
    (route.relayHeaders none .smuggling).values .requestUri = [⟨[47], rfl⟩] := by
  have seen : ((compile 0 { pathBase := "/", server := "http://a" }).toOption.bind fun route =>
      (route.forwardRequest false ⟨none, "http", "h"⟩ none
        ⟨"GET", .origin ⟨"/", none⟩, .smuggling, []⟩).toOption.map fun outgoing =>
          (decide (.requestUri ∈ route.ownNames), outgoing.headers.values .requestUri,
            (route.relayHeaders none .smuggling).values .requestUri)) =
      some (false, [⟨[47], rfl⟩], [⟨[47], rfl⟩]) := by decide +kernel
  obtain ⟨route, compiled, seen⟩ := Option.bind_eq_some_iff.mp seen
  obtain ⟨outgoing, built, same⟩ := Option.map_eq_some_iff.mp seen
  simp only [Prod.mk.injEq, decide_eq_false_iff_not] at same
  exact ⟨route, outgoing, ok_of_toOption compiled, ok_of_toOption built, by decide +kernel, same⟩

end Route
end AuthGate
