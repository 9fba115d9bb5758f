import AuthGate.Proofs.Route.HopByHop

namespace AuthGate.Route

variable {route : Route} {trust : Bool} {client : Client} {grant : Option Grant}
  {request outgoing : Request}

/-- What a request that is sent on has in common with the one that has been received. -/
structure Keeps (route : Route) (trust : Bool) (client : Client) (request outgoing : Request) :
    Prop where
  method : outgoing.method = request.method
  body : outgoing.body = request.body
  kept : ∀ name, name ∉ hopByHop → ¬ request.headers.Lists name → name ∉ route.ownNames →
    outgoing.headers.values name = request.headers.values name
  known : ∀ name, outgoing.headers.values name ≠ [] →
    request.headers.values name ≠ [] ∨ name ∈ route.ownNames
  identity : route.auth = .none → ∀ name ∈ [.authorization, .cookie],
    ¬ request.headers.Lists name → outgoing.headers.values name = request.headers.values name
  ungranted : route.auth = .none →
    ∀ other, route.forwardRequest trust client other request = .ok outgoing

private theorem notMem_ownNames_of_open (free : route.auth = .none) :
    ∀ name ∈ [.authorization, .cookie], name ∉ route.ownNames ∧ name ∉ hopByHop := by
  have introspects : route.auth.introspects = false := by simp [AuthMode.introspects, free]
  rw [ownNames, introspects]
  decide

private theorem values_forwardHeaders_of_kept {headers : Headers} {name : HeaderName}
    (passed : name ∉ hopByHop) (unlisted : ¬ headers.Lists name) (foreign : name ∉ route.ownNames)
    (trust : Bool) (client : Client) (grant : Option Grant) (host : HeaderValue) :
    (route.forwardHeaders trust client grant host headers).values name = headers.values name := by
  have unseen : ¬ headers.ListsInAscii name := fun seen => unlisted seen.lists
  rw [values_forwardHeaders_of_not_own foreign, Headers.values_stripHopByHop_eq,
    if_neg (not_or.mpr ⟨passed, unseen⟩)]

private theorem forwardRequest_of_open (free : route.auth = .none) (trust : Bool) (client : Client)
    (grant other : Option Grant) (request : Request) :
    route.forwardRequest trust client grant request =
      route.forwardRequest trust client other request := by
  have same (host : HeaderValue) : route.forwardHeaders trust client grant host request.headers =
      route.forwardHeaders trust client other host request.headers := by
    simp [forwardHeaders, AuthMode.introspects, free]
  simp only [forwardRequest, same]

/-- A request is sent on with all that is neither of the connection nor the gate's own. -/
theorem forwardRequest_keeps
    (built : route.forwardRequest trust client grant request = .ok outgoing) :
    route.Keeps trust client request outgoing := by
  obtain ⟨target, host, _, rfl⟩ := forwardRequest_ok built
  have kept {name : HeaderName} (passed : name ∉ hopByHop)
      (unlisted : ¬ request.headers.Lists name) (foreign : name ∉ route.ownNames) :=
    values_forwardHeaders_of_kept passed unlisted foreign trust client grant host
  constructor
  case method => rfl
  case body => rfl
  case kept => exact fun _ => kept
  case known =>
    intro name present
    by_cases own : name ∈ route.ownNames
    · exact .inr own
    · left
      intro absent
      rw [values_forwardHeaders_of_not_own own, Headers.values_stripHopByHop_eq, absent,
        ite_self] at present
      exact present rfl
  case identity =>
    intro free name member unlisted
    obtain ⟨foreign, passed⟩ := notMem_ownNames_of_open free name member
    exact kept passed unlisted foreign
  case ungranted =>
    intro free other
    rw [forwardRequest_of_open free trust client other grant]
    exact built

/-- A request with fields of many names, some of them twice, and with `Connection` fields that list
names of the gate's own and, in one that is not ASCII, the id. -/
def crowded : Request where
  method := "PUT"
  uri := .origin ⟨"/", none⟩
  headers :=
    ⟨[(.connection, ⟨Text.utf8 "host, X-Forwarded-For ,te".toList, by decide⟩),
      (.cookie, ⟨Text.utf8 "a=2".toList, by decide⟩),
      (.authorization, ⟨Text.utf8 "Bearer d".toList, by decide⟩),
      (.contentType, ⟨Text.utf8 "text/plain".toList, by decide⟩),
      (.forwardedFor, ⟨Text.utf8 "192.0.2.7".toList, by decide⟩),
      (.cookie, ⟨Text.utf8 "e=3".toList, by decide⟩),
      (.contentType, ⟨Text.utf8 "text/html".toList, by decide⟩),
      (.connection, ⟨Text.utf8 "x-request-id,".toList ++ [233], by decide⟩),
      (.requestId, ⟨Text.utf8 "f4".toList, by decide⟩)]⟩
  body := [1]

theorem forwardRequest_keeps_crowded : ∃ route outgoing,
    compile 0 { pathBase := "/", server := "http://a" } = .ok route ∧ route.auth = .none ∧
    route.forwardRequest true ⟨some (.v4 0), "http", "h"⟩ none crowded = .ok outgoing ∧
    route.Keeps true ⟨some (.v4 0), "http", "h"⟩ crowded outgoing := by
  have seen : ((compile 0 { pathBase := "/", server := "http://a" }).toOption.bind fun route =>
      (route.forwardRequest true ⟨some (.v4 0), "http", "h"⟩ none crowded).toOption.map
        fun _ => route.auth) = some .none := by decide +kernel
  obtain ⟨route, compiled, seen⟩ := Option.bind_eq_some_iff.mp seen
  obtain ⟨outgoing, built, free⟩ := Option.map_eq_some_iff.mp seen
  exact ⟨route, outgoing, ok_of_toOption compiled, free, ok_of_toOption built,
    forwardRequest_keeps (ok_of_toOption built)⟩

end AuthGate.Route
