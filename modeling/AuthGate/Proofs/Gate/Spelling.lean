import AuthGate.Proofs.Gate.Passage
import AuthGate.Proofs.Path.Respelling

namespace AuthGate

/-- Two arrivals that differ at most in their paths. -/
structure Arrival.SameBeyondPath (left right : Arrival) : Prop where
  ip : left.ip = right.ip
  asking : left.asking = right.asking
  sending : left.sending = right.sending
  method : left.request.method = right.request.method
  scheme : left.request.uri.scheme? = right.request.uri.scheme?
  authority : left.request.uri.authority? = right.request.uri.authority?
  query : left.request.uri.query? = right.request.uri.query?
  headers : left.request.headers = right.request.headers
  body : left.request.body = right.request.body

/-- The route of a request. -/
def Gate.routeOf? (gate : Gate) (request : Request) : Option Route :=
  match request.uri.normalize with
  | .error _ => none
  | .ok uri => gate.table.find? uri.path

private theorem Path.ne_empty_of_normalize {path normal : String}
    (accepted : normalize path = .ok normal) :
    path ≠ "" := by
  rintro rfl
  cases accepted

namespace Uri

variable {left right : Uri}

private theorem withTarget?_congr (scheme : left.scheme? = right.scheme?)
    (authority : left.authority? = right.authority?) (leftPath : left.path ≠ "")
    (rightPath : right.path ≠ "") (target : PathAndQuery) :
    left.withTarget? target = right.withTarget? target := by
  cases left with
  | authorityOnly name => exact absurd rfl leftPath
  | origin first =>
    cases right with
    | authorityOnly name => exact absurd rfl rightPath
    | origin second => rfl
    | absolute _ _ second => cases scheme
  | absolute _ _ first =>
    cases right with
    | authorityOnly name => exact absurd rfl rightPath
    | origin second => cases scheme
    | absolute _ _ second =>
      cases scheme
      cases authority
      rfl

private theorem normalize_congr {normal : String} (scheme : left.scheme? = right.scheme?)
    (authority : left.authority? = right.authority?) (query : left.query? = right.query?)
    (leftPath : Path.normalize left.path = .ok normal)
    (rightPath : Path.normalize right.path = .ok normal) : left.normalize = right.normalize := by
  have written := withTarget?_congr scheme authority (Path.ne_empty_of_normalize leftPath)
    (Path.ne_empty_of_normalize rightPath)
  simp only [normalize, leftPath, rightPath, query, written]

end Uri

namespace Gate

variable {gate : Gate} {left right : Arrival}

private theorem admitted_of_sameBeyondPath (same : left.SameBeyondPath right)
    (freshId : HeaderValue)
    (uri : Uri) : left.admitted freshId uri = right.admitted freshId uri := by
  unfold Arrival.admitted identify
  rw [same.headers]
  cases right.request.headers.first? .requestId <;>
    simp only [same.ip, same.asking, same.sending, same.method, same.headers, same.body]

private theorem exchange_congr (same : left.SameBeyondPath right)
    (normal : left.request.uri.normalize = right.request.uri.normalize)
    (leftAbsolute : Path.startsWith left.request.uri.path "/" = true)
    (rightAbsolute : Path.startsWith right.request.uri.path "/" = true) (freshId : HeaderValue) :
    (gate.exchange freshId left).calls = (gate.exchange freshId right).calls ∧
      (gate.exchange freshId left).response = (gate.exchange freshId right).response := by
  cases rightNormal : right.request.uri.normalize with
  | error cause =>
    rw [exchange_of_malformed freshId leftAbsolute (normal.trans rightNormal),
      exchange_of_malformed freshId rightAbsolute rightNormal,
      admitted_of_sameBeyondPath same freshId left.request.uri]
    exact ⟨rfl, rfl⟩
  | ok uri =>
    have admitted := admitted_of_sameBeyondPath same freshId uri
    cases found : gate.table.find? uri.path with
    | none =>
      rw [exchange_of_no_route freshId (normal.trans rightNormal) found,
        exchange_of_no_route freshId rightNormal found, admitted]
      exact ⟨rfl, rfl⟩
    | some route =>
      rw [exchange_of_route freshId (normal.trans rightNormal) found,
        exchange_of_route freshId rightNormal found, admitted]
      exact ⟨rfl, rfl⟩

/-- No gate tells two paths apart: requests for them take the same route, with the same
authorization, to the same calls and the same response. -/
def Alike (path other : String) : Prop :=
  ∀ (gate : Gate) (freshId : HeaderValue) (left right : Arrival), left.SameBeyondPath right →
    left.request.uri.path = path → right.request.uri.path = other →
    gate.routeOf? left.request = gate.routeOf? right.request ∧
      (gate.exchange freshId left).calls = (gate.exchange freshId right).calls ∧
      (gate.exchange freshId left).response = (gate.exchange freshId right).response

/-- A path that is spelled in another way has the same normal form, and is alike to every gate. -/
theorem alike_of_respelling {path other normal : String}
    (accepted : Path.normalize path = .ok normal)
    (respelling : Path.Respelling path.toList other.toList) :
    Path.normalize other = .ok normal ∧ Alike path other := by
  have otherAccepted := Path.normalize_respelling respelling accepted
  refine ⟨otherAccepted, ?_⟩
  rintro gate freshId left right same rfl rfl
  have normal : left.request.uri.normalize = right.request.uri.normalize :=
    Uri.normalize_congr same.scheme same.authority same.query accepted otherAccepted
  refine ⟨?_, ?_⟩
  · simp only [routeOf?, normal]
  · exact exchange_congr same normal (Path.startsWith_of_normalize accepted)
      (Path.startsWith_of_normalize otherAccepted) freshId

/-- The detour is through a directory of three dots. -/
theorem alike_of_respelling_tilde :
    Path.Respelling "/~/b".toList "/%2e%2E./../%7e/.//b".toList ∧
      Path.normalize "/%2e%2E./../%7e/.//b" = .ok "/~/b" ∧
      Alike "/~/b" "/%2e%2E./../%7e/.//b" := by
  have accepted : Path.normalize "/~/b" = .ok "/~/b" := rfl
  have encode : Path.Edit (['/'] ++ '~' :: ['/', 'b']) (['/'] ++ '%' :: '7' :: 'E' :: ['/', 'b']) :=
    @Path.Edit.encode _ _ _ _ _ 7 14 (.plain (by decide) .nil) (by decide) (by decide) (by decide)
      (by decide)
  have recase : Path.Edit (['/'] ++ '%' :: '7' :: 'E' :: ['/', 'b'])
      (['/'] ++ '%' :: '7' :: 'e' :: ['/', 'b']) :=
    .recase (.plain (by decide) .nil) (by decide) (by decide)
  have slash : Path.Edit ("/%7e".toList ++ '/' :: ['b']) ("/%7e".toList ++ '/' :: '/' :: ['b']) :=
    .slash
  have dot : Path.Edit ("/%7e".toList ++ '/' :: ['/', 'b'])
      ("/%7e".toList ++ '/' :: '.' :: '/' :: ['/', 'b']) := .dot
  have dots : Path.Spells "%2e%2E.".toList ['.', '.', '.'] :=
    @Path.Spells.escape _ _ 2 14 _ _ (by decide) (by decide) (by decide)
      (@Path.Spells.escape _ _ 2 14 _ _ (by decide) (by decide) (by decide)
        (.plain (by decide) (by decide) .nil))
  have detour : Path.Edit ([] ++ '/' :: "%7e/.//b".toList)
      ([] ++ '/' :: ("%2e%2E.".toList ++ '/' :: '.' :: '.' :: '/' :: "%7e/.//b".toList)) :=
    .detour (by decide) dots (by decide) (by decide)
  have respelling : Path.Respelling "/~/b".toList "/%2e%2E./../%7e/.//b".toList :=
    ((((Relation.ReflTransGen.single encode).tail recase).tail slash).tail dot).tail detour
  exact ⟨respelling, alike_of_respelling accepted respelling⟩

end Gate
end AuthGate
