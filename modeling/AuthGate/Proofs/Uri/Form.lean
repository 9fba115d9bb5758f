import AuthGate.Proofs.Uri.Authority
import AuthGate.Uri.Basic

namespace AuthGate.Uri

/-- How a URI has been read: as a path and query, as an authority alone, or as both of them behind a
scheme. -/
inductive Read (text : String) : Uri → Prop where
  | origin {target : PathAndQuery} (start : text.toList.head? = some '/' ∨ text = "*")
      (read : PathAndQuery.parse text = .ok target) : Read text (.origin target)
  | authorityOnly {name : String} {chars rest : List Char}
      (scanned : Authority.scan chars = .ok (name.toList, rest)) : Read text (.authorityOnly name)
  | absolute {scheme : String} {chars authority rest : List Char} {target : PathAndQuery}
      (scanned : Authority.scan chars = .ok (authority, rest))
      (read : PathAndQuery.parse (String.ofList rest) = .ok target) :
      Read text (.absolute scheme (String.ofList authority) target)

theorem read_of_parse {text : String} {uri : Uri} (parsed : parse text = .ok uri) :
    Read text uri := by
  have origin (start : text.toList.head? = some '/' ∨ text = "*")
      (succeeded : (do return .origin (← PathAndQuery.parse text)) = Except.ok uri) :
      Read text uri := by
    obtain ⟨target, read, rest⟩ := bind_eq_ok succeeded
    rw [← Except.ok.inj rest]
    exact .origin start read
  unfold parse at parsed
  split at parsed
  · cases parsed
  · split at parsed
    · cases parsed
    · rename_i rest chars
      exact origin (.inl (by rw [chars]; rfl)) parsed
    · rename_i chars
      exact origin (.inr (String.toList_injective chars)) parsed
    · obtain ⟨name, named, rest⟩ := bind_eq_ok parsed
      obtain ⟨rfl, scanned⟩ := Authority.parse_eq_ok named
      rw [← Except.ok.inj rest]
      exact .authorityOnly scanned
    · obtain ⟨scheme?, _, rest⟩ := bind_eq_ok parsed
      split at rest
      · obtain ⟨⟨authority, behind⟩, scanned, rest⟩ := bind_eq_ok rest
        simp only at rest
        split at rest
        · cases rest
          exact .authorityOnly (by rw [String.toList_ofList]; exact scanned)
        · cases rest
      · obtain ⟨⟨authority, behind⟩, scanned, rest⟩ := bind_eq_ok rest
        simp only at rest
        split at rest
        · cases rest
        · obtain ⟨target, read, rest⟩ := bind_eq_ok rest
          rw [← Except.ok.inj rest]
          exact .absolute scanned read

/-- A request target in origin form or in absolute form. -/
structure HasPath (uri : Uri) : Prop where
  received : ∃ text, parse text = .ok uri ∧ text ≠ "*"
  noAuthority : ∀ name, uri ≠ .authorityOnly name

end AuthGate.Uri
