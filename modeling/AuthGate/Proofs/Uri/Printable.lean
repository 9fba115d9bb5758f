import AuthGate.Proofs.Uri.Form

namespace AuthGate
open Text

theorem Authority.holds_of_scan {text authority rest : List Char}
    (read : scan text = .ok (authority, rest)) : HeaderValue.Holds (String.ofList authority) := by
  intro c member
  rw [String.toList_ofList] at member
  exact HeaderValue.isTextChar_of_class (by decide +kernel) (isReadable_of_scan read c member)

namespace PathAndQuery

/-- A path and query that has been read holds the characters of its parts. -/
theorem parse_eq_ok {text : String} {target : PathAndQuery} (read : parse text = .ok target) :
    (∀ c ∈ target.written.toList, isPathChar c = true) ∧
      ∀ query, target.query = some query → ∀ c ∈ query.toList, isQueryChar c = true := by
  unfold parse at read
  split at read
  · cases read
  · split at read
    · cases read
    · simp only at read
      split at read
      · cases read
      · rename_i pathChars
        have written := List.all_eq_true.mp (by simpa using pathChars)
        split at read
        · split at read
          · cases read
          · rename_i queryChars
            have queried := List.all_eq_true.mp (by simpa using queryChars)
            cases read
            refine ⟨by simpa using written, ?_⟩
            rintro query ⟨⟩
            simpa using queried
        · cases read
          refine ⟨by simpa using written, ?_⟩
          rintro query ⟨⟩

theorem holds_text {text : String} {target : PathAndQuery} (read : parse text = .ok target) :
    HeaderValue.Holds target.text := by
  obtain ⟨written, queried⟩ := parse_eq_ok read
  have path : HeaderValue.Holds target.written := fun c member =>
    HeaderValue.isTextChar_of_class (by decide) (written c member)
  have suffix : HeaderValue.Holds target.querySuffix := by
    unfold querySuffix
    cases query : target.query with
    | none =>
      intro c member
      cases member
    | some query' =>
      apply HeaderValue.Holds.append (by decide)
      exact fun c member => HeaderValue.isTextChar_of_class (by decide) (queried _ query c member)
  unfold PathAndQuery.text
  split
  · decide
  · exact path.append suffix

end PathAndQuery

namespace Uri

theorem authority_of_parse {text name : String} {uri : Uri} (read : parse text = .ok uri)
    (named : uri.authority? = some name) :
    ∃ chars rest, Authority.scan chars = .ok (name.toList, rest) := by
  cases read_of_parse read with
  | origin _ _ => cases named
  | authorityOnly scanned =>
    cases named
    exact ⟨_, _, scanned⟩
  | absolute scanned _ =>
    cases named
    exact ⟨_, _, by rw [String.toList_ofList]; exact scanned⟩

theorem holds_authority {text name : String} {uri : Uri} (read : parse text = .ok uri)
    (named : uri.authority? = some name) : HeaderValue.Holds name := by
  obtain ⟨chars, rest, scanned⟩ := authority_of_parse read named
  have held := Authority.holds_of_scan scanned
  rwa [String.ofList_toList] at held

/-- The normal form of a URI has the authority of the URI and a path and query that has been read. -/
theorem normalize_eq_ok {uri normal : Uri} (normalized : uri.normalize = .ok normal) :
    normal.authority? = uri.authority? ∧
      ∃ text target, PathAndQuery.parse text = .ok target ∧ normal.target? = some target := by
  obtain ⟨path, _, rest⟩ := bind_eq_ok normalized
  simp only at rest
  split at rest
  · cases rest
  · rename_i target read
    split at rest
    · rename_i other written
      cases rest
      refine ⟨?_, _, target, read, ?_⟩
      · cases uri <;> cases written <;> rfl
      · cases uri <;> cases written <;> rfl
    · cases rest

end Uri
end AuthGate
