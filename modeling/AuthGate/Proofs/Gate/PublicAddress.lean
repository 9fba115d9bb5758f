import AuthGate.Gate.PublicAddress
import AuthGate.Proofs.Text.Lists
import AuthGate.Proofs.Uri.Printable

namespace AuthGate
open Text

namespace PublicAddress

variable {address : PublicAddress} {headers : Headers} {uri : Uri}

theorem holds_forwarded? {name : HeaderName} {text : String}
    (told : address.forwarded? headers name = some text) : HeaderValue.Holds text := by
  unfold forwarded? at told
  split at told
  · obtain ⟨entry, _⟩ := Option.filter_eq_some_iff.mp told
    obtain ⟨whole, shown, rfl⟩ := Option.map_eq_some_iff.mp entry
    intro c member
    rw [firstEntry, String.toList_ofList] at member
    have inside := (List.takeWhile_sublist _).subset (mem_of_mem_trimWhile member)
    exact Headers.holds_firstText? shown c inside
  · cases told

theorem holds_scheme (headers : Headers) (proper : HeaderValue.Holds address.defaultScheme) :
    HeaderValue.Holds (address.scheme headers) := by
  unfold scheme
  cases told : address.forwarded? headers .forwardedProto with
  | none => exact proper
  | some text => exact holds_forwarded? told

theorem holds_fallbackHost : HeaderValue.Holds fallbackHost := by
  decide

theorem holds_host (address : PublicAddress) (headers : Headers)
    (named : ∀ name, uri.authority? = some name → HeaderValue.Holds name) :
    HeaderValue.Holds (address.host headers uri) := by
  unfold host
  split
  · rename_i told
    exact holds_forwarded? told
  · split
    · rename_i shown
      exact Headers.holds_firstText? shown
    · cases authority : uri.authority? with
      | none => exact holds_fallbackHost
      | some name => exact named name authority

theorem holds_pathAndQuery
    (target : ∀ target, uri.target? = some target → HeaderValue.Holds target.text) :
    HeaderValue.Holds (pathAndQuery uri) := by
  unfold pathAndQuery
  split
  · rename_i target' written
    exact target target' written
  · decide

/-- The URI that a client used can be written into a header value unless the base cannot. -/
theorem holds_requestedUri_iff (headers : Headers)
    (proper : HeaderValue.Holds address.defaultScheme)
    (named : ∀ name, uri.authority? = some name → HeaderValue.Holds name)
    (target : ∀ target, uri.target? = some target → HeaderValue.Holds target.text) :
    HeaderValue.Holds (address.requestedUri headers uri) ↔
      ∀ base, address.base = some base → HeaderValue.Holds base := by
  have path := holds_pathAndQuery target
  have host := address.holds_host headers named
  unfold requestedUri
  cases configured : address.base with
  | none =>
    have marks : HeaderValue.Holds "://" := by decide
    simpa using (((holds_scheme headers proper).append marks).append host).append path
  | some base =>
    constructor
    · rintro whole other ⟨⟩ c member
      exact whole c (by simp [member])
    · intro held
      exact (held base rfl).append path

/-- Slashes at the end of a base make no difference. -/
theorem holds_trimSlashes_iff {text : String} :
    HeaderValue.Holds (trimSlashes text) ↔ HeaderValue.Holds text := by
  unfold HeaderValue.Holds trimSlashes
  rw [String.toList_ofList]
  constructor
  · intro held c member
    rcases mem_dropEndWhile_or (p := (· == '/')) member with kept | slash
    · exact held c kept
    · rw [beq_iff_eq.mp slash]
      decide
  · exact fun held c member => held c (mem_of_mem_dropEndWhile member)

end PublicAddress
end AuthGate
