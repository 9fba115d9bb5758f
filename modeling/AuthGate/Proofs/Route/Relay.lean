import AuthGate.Proofs.Route.HopByHop
import AuthGate.Proofs.Text.Lists

namespace AuthGate
open Text

namespace Headers

variable {headers : Headers} {names others : List HeaderName}

/-- Erasing takes nothing away just if there is nothing with these names. -/
theorem eraseAll_eq_self_iff :
    headers.eraseAll names = headers ↔ ∀ name ∈ names, headers.values name = [] := by
  constructor
  · intro same name member
    rw [← same, values_eraseAll, if_pos member]
  · intro absent
    have kept : headers.lines.filter (·.1 ∉ names) = headers.lines := by
      apply List.filter_eq_self.mpr
      rintro ⟨name, value⟩ line
      simp only [decide_eq_true_eq]
      intro member
      have present : value ∈ headers.values name :=
        List.mem_map.mpr ⟨(name, value), List.mem_filter.mpr ⟨line, by simp⟩, rfl⟩
      rw [absent name member] at present
      cases present
    have lines := (eraseAll_lines headers names).trans kept
    cases erased : headers.eraseAll names with
    | mk left => cases headers with | mk right => simpa [erased] using lines

private theorem eraseAll_congr (headers : Headers) (same : ∀ name, name ∈ names ↔ name ∈ others) :
    headers.eraseAll names = headers.eraseAll others := by
  have lines : (headers.eraseAll names).lines = (headers.eraseAll others).lines := by
    simp only [eraseAll_lines, same]
  cases left : headers.eraseAll names with
  | mk _ => cases right : headers.eraseAll others with | mk _ => simpa [left, right] using lines

private theorem stripHopByHop_eq_self (clean : ∀ name ∈ hopByHop, headers.values name = []) :
    headers.stripHopByHop = headers := by
  have unlisted : headers.nominated = [] := by
    rw [nominated, clean .connection (by decide)]
    rfl
  rw [stripHopByHop, unlisted]
  exact eraseAll_eq_self_iff.mpr clean

end Headers

/-- A configured route is told to ignore a name, in any case. -/
def RouteConfig.Ignores (config : RouteConfig) (name : HeaderName) : Prop :=
  ∃ text ∈ config.ignoredHeaders, text.toList.map lower = name.text.toList

namespace Route

variable {index : Nat} {config : RouteConfig} {route : Route}

private theorem compile_withIgnored (compiled : compile index config = .ok route)
    {texts : List String}
    {names : List HeaderName} (read : texts.mapM HeaderName.parse = some names) :
    compile index { config with ignoredHeaders := texts } =
      .ok { route with ignoredHeaders := names } := by
  unfold compile at compiled ⊢
  split at compiled
  · cases compiled
  · rename_i substitution parsed
    split at compiled
    · cases compiled
    · rename_i target resolved
      split at compiled
      · cases compiled
      · cases compiled
        simp [parsed, resolved, read]

/-- The names to ignore are read from the configured texts. -/
theorem ignoredHeaders_of_compile (compiled : compile index config = .ok route) :
    config.ignoredHeaders.mapM HeaderName.parse = some route.ignoredHeaders := by
  unfold compile at compiled
  split at compiled
  · cases compiled
  · split at compiled
    · cases compiled
    · split at compiled
      · cases compiled
      · rename_i names read
        cases compiled
        exact read

private theorem mem_ignoredHeaders_iff (compiled : compile index config = .ok route)
    {name : HeaderName} :
    name ∈ route.ignoredHeaders ↔ config.Ignores name := by
  rw [mem_mapM_iff (ignoredHeaders_of_compile compiled)]
  simp only [HeaderName.parse_eq_some_iff, RouteConfig.Ignores]

private theorem relayHeaders_congr {other : Route}
    (same : ∀ name, name ∈ route.ignoredHeaders ↔ name ∈ other.ignoredHeaders)
    (grant : Option Grant) (headers : Headers) :
    route.relayHeaders grant headers = other.relayHeaders grant headers := by
  simp only [relayHeaders, Headers.eraseAll_congr _ same]

private theorem relayHeaders_again_iff (route : Route) (grant : Option Grant) (headers : Headers) :
    route.relayHeaders none (route.relayHeaders grant headers) = route.relayHeaders grant headers ↔
      (.setCookie ∈ route.ignoredHeaders → Grant.cookies grant = []) := by
  have clean := (route.stopped_relayHeaders grant headers).always
  have again : route.relayHeaders none (route.relayHeaders grant headers) =
      (route.relayHeaders grant headers).eraseAll route.ignoredHeaders := by
    simp only [relayHeaders.eq_def route none, Headers.stripHopByHop_eq_self clean]
  have left {name : HeaderName} (ignored : name ∈ route.ignoredHeaders) :
      (route.relayHeaders grant headers).values name =
        if .setCookie = name then Grant.cookies grant else [] := by
    rw [values_relayHeaders_eq, if_pos (.inr (.inr ignored)), List.nil_append]
  rw [again, Headers.eraseAll_eq_self_iff]
  constructor
  · intro absent ignored
    simpa [left ignored] using absent .setCookie ignored
  · intro ungranted name ignored
    rw [left ignored]
    split
    · rename_i cookie
      exact ungranted (cookie ▸ ignored)
    · rfl

/-- What holds of all responses that are relayed on a route. -/
structure Relays (index : Nat) (config : RouteConfig) (route : Route) : Prop where
  ignored : ∀ text ∈ config.ignoredHeaders, ∀ spelling name,
    spelling.toList.map lower = text.toList.map lower → HeaderName.parse spelling = some name →
    ∀ grant headers, (route.relayHeaders grant headers).values name =
      if .setCookie = name then Grant.cookies grant else []
  kept : ∀ grant headers name, name ≠ .setCookie → name ∉ hopByHop → ¬ headers.Lists name →
    ¬ config.Ignores name → (route.relayHeaders grant headers).values name = headers.values name
  unaltered : ∀ grant headers name, name ≠ .setCookie →
    (route.relayHeaders grant headers).values name = [] ∨
      (route.relayHeaders grant headers).values name = headers.values name
  unordered : ∀ texts, (∀ text, text ∈ texts ↔ text ∈ config.ignoredHeaders) →
    ∃ other, compile index { config with ignoredHeaders := texts } = .ok other ∧
      ∀ grant headers, other.relayHeaders grant headers = route.relayHeaders grant headers
  settled : ∀ grant headers,
    route.relayHeaders none (route.relayHeaders grant headers) = route.relayHeaders grant headers ↔
      (config.Ignores .setCookie → Grant.cookies grant = [])

/-- A response loses what concerns the connection and what its route ignores, and nothing else. -/
theorem relayHeaders_exact (compiled : compile index config = .ok route) :
    Relays index config route := by
  constructor
  case ignored =>
    intro text configured spelling name alike read grant headers
    have ignores : config.Ignores name :=
      ⟨text, configured, alike.symm.trans (HeaderName.parse_eq_some_iff.mp read)⟩
    rw [values_relayHeaders_eq, if_pos (.inr (.inr ((mem_ignoredHeaders_iff compiled).mpr ignores))),
      List.nil_append]
  case kept =>
    intro grant headers name noCookie passed unlisted heeded
    have unseen : ¬ headers.ListsInAscii name := fun seen => unlisted seen.lists
    have unread : name ∉ route.ignoredHeaders := mt (mem_ignoredHeaders_iff compiled).mp heeded
    rw [values_relayHeaders_eq, if_neg (by tauto), if_neg (Ne.symm noCookie), List.append_nil]
  case unaltered =>
    intro grant headers name noCookie
    rw [values_relayHeaders_eq, if_neg (Ne.symm noCookie), List.append_nil]
    split
    · exact .inl rfl
    · exact .inr rfl
  case unordered =>
    intro texts same
    have all : ∀ text ∈ texts, ∃ name, HeaderName.parse text = some name := by
      intro text member
      exact exists_of_mapM (ignoredHeaders_of_compile compiled) ((same text).mp member)
    obtain ⟨names, read⟩ := mapM_of_forall all
    refine ⟨_, compile_withIgnored compiled read, relayHeaders_congr fun name => ?_⟩
    rw [mem_mapM_iff read, mem_mapM_iff (ignoredHeaders_of_compile compiled)]
    simp only [same]
  case settled =>
    intro grant headers
    rw [relayHeaders_again_iff, mem_ignoredHeaders_iff compiled]

/-- A route that ignores two names, one of them twice. -/
def pruning : RouteConfig where
  pathBase := "/"
  server := "http://a"
  auth := .cookieAnonymous
  ignoredHeaders := ["Cache-Control", "SET-COOKIE", "cache-control"]

/-- A response that lists one of its fields as one of the connection. -/
def burdened : Headers :=
  ⟨[(.cacheControl, ⟨utf8 "no-cache".toList, rfl⟩),
    (.connection, ⟨utf8 "Location".toList, rfl⟩),
    (.setCookie, ⟨utf8 "a=1".toList, rfl⟩),
    (.contentType, ⟨utf8 "text/plain".toList, rfl⟩),
    (.location, ⟨utf8 "/b".toList, rfl⟩),
    (.cacheControl, ⟨utf8 "no-store".toList, rfl⟩)]⟩

theorem relayHeaders_exact_pruning : ∃ route, compile 0 pruning = .ok route ∧
    Relays 0 pruning route ∧
    route.relayHeaders (some { setCookie := [⟨[99], rfl⟩] }) burdened =
      ⟨[(.contentType, ⟨utf8 "text/plain".toList, rfl⟩), (.setCookie, ⟨[99], rfl⟩)]⟩ := by
  have seen : ((compile 0 pruning).toOption.map fun route =>
      route.relayHeaders (some { setCookie := [⟨[99], rfl⟩] }) burdened) =
      some ⟨[(.contentType, ⟨utf8 "text/plain".toList, rfl⟩),
        (.setCookie, ⟨[99], rfl⟩)]⟩ := by decide +kernel
  obtain ⟨route, compiled, same⟩ := Option.map_eq_some_iff.mp seen
  exact ⟨route, ok_of_toOption compiled, relayHeaders_exact (ok_of_toOption compiled), same⟩

end Route
end AuthGate
