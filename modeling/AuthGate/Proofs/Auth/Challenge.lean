import AuthGate.Proofs.Auth.Redirect
import AuthGate.Proofs.Header.Connection

namespace AuthGate
open Text

/-- Read what stands in quotation marks, from behind the first mark up to the last one: a backslash has
the next character taken as it is. What stands behind the last mark is left. -/
def readQuoted : List Char → Option (List Char × List Char)
  | [] => none
  | '"' :: rest => some ([], rest)
  | '\\' :: c :: rest => (readQuoted rest).map fun (text, left) => (c :: text, left)
  | ['\\'] => none
  | c :: rest => (readQuoted rest).map fun (text, left) => (c :: text, left)

theorem readQuoted_append {text : List Char} (plain : ∀ c ∈ text, c ≠ '"' ∧ c ≠ '\\')
    (left : List Char) : readQuoted (text ++ '"' :: left) = some (text, left) := by
  induction text with
  | nil => rfl
  | cons c rest ih =>
    obtain ⟨noMark, noBackslash⟩ := plain c List.mem_cons_self
    have behind := ih fun other member => plain other (List.mem_cons_of_mem _ member)
    rw [List.cons_append, readQuoted, behind]
    · rfl
    · exact noMark
    · exact fun _ _ same => absurd same noBackslash
    · exact fun same => absurd same noBackslash

/-- The realm of a challenge of the scheme Basic that says nothing else. -/
def HeaderValue.basicRealm? (value : HeaderValue) : Option String :=
  (dropPrefix? "Basic realm=\"".toList (ofBytes value.bytes)).bind fun quoted =>
    match readQuoted quoted with
    | some (realm, []) => some (String.ofList realm)
    | _ => none

theorem GateConfig.isRealmChar_ascii {c : Char} (printable : GateConfig.isRealmChar c = true) :
    c.toNat < 128 := by
  by_contra beyond
  have large := not_le_of_beyond beyond '~' (by decide)
  simp [GateConfig.isRealmChar, large] at printable

/-- The challenge for a printable realm is read as one for this realm. -/
theorem HeaderValue.basicRealm?_of_challengeText {realm : String} {value : HeaderValue}
    (written : ofText? (DenialPolicy.challengeText realm) = some value)
    (printable : ∀ c ∈ realm.toList, GateConfig.isRealmChar c = true) :
    value.basicRealm? = some realm := by
  have chars : (DenialPolicy.challengeText realm).toList =
      "Basic realm=\"".toList ++ (realm.toList ++ '"' :: []) := by
    simp [DenialPolicy.challengeText]
  have ascii : ∀ c ∈ (DenialPolicy.challengeText realm).toList, c.toNat < 128 := by
    have marks : ("Basic realm=\"".toList.all fun c => c.toNat < 128) = true := by decide
    intro c member
    rw [chars] at member
    simp only [List.mem_append, List.mem_singleton] at member
    rcases member with scheme | inside | rfl
    · simpa using List.all_eq_true.mp marks c scheme
    · exact GateConfig.isRealmChar_ascii (printable c inside)
    · decide
  have plain : ∀ c ∈ realm.toList, c ≠ '"' ∧ c ≠ '\\' := by
    intro c member
    have own := printable c member
    simp only [GateConfig.isRealmChar, Bool.and_eq_true, bne_iff_ne] at own
    exact ⟨own.1.1.1, own.1.1.2⟩
  have opened : dropPrefix? "Basic realm=\"".toList (DenialPolicy.challengeText realm).toList =
      some (realm.toList ++ '"' :: []) := by
    rw [chars]
    rfl
  simp only [basicRealm?, bytes_of_ofText? written, ofBytes_utf8 ascii, opened, Option.bind_some,
    readQuoted_append plain, String.ofList_toList]

namespace DenialPolicy

variable {config : AuthConfig} {policy : DenialPolicy}

/-- The challenge of a policy is the one for the configured realm. -/
theorem challenge_of_ofConfig (built : ofConfig config = .ok policy) :
    HeaderValue.ofText? (challengeText config.basicRealm) = some policy.basicChallenge := by
  obtain ⟨authorizeUrl, authorize, rest⟩ := bind_eq_ok built
  obtain ⟨deniedUrl, denied, rest⟩ := bind_eq_ok rest
  split at rest
  · cases rest
  · rename_i challenge written
    cases rest
    exact written

/-- The page that is configured for a denial. -/
def page? (config : AuthConfig) : Denial → Option String
  | .unauthenticated => config.authorizeUrl
  | .forbidden => config.deniedUrl

/-- Without a configured page a denial leads nowhere. -/
theorem respond_of_noPage {denial : Denial} (built : ofConfig config = .ok policy)
    (unset : page? config denial = none) (requestedUri : String) :
    policy.respond denial requestedUri = .bare denial.status := by
  have keeps := keeps_of_ofConfig built
  have nowhere : policy.location? denial requestedUri = none := by
    cases denial with
    | unauthenticated =>
      have authorize := keeps.authorizeUrl
      rw [show config.authorizeUrl = none from unset] at authorize
      rw [location?, ← Except.ok.inj authorize]
      rfl
    | forbidden =>
      have denied := keeps.deniedUrl
      rw [show config.deniedUrl = none from unset] at denied
      rw [location?, ← Except.ok.inj denied]
      rfl
  simp only [respond, nowhere, Option.bind_none]

/-- What a browser gets is a redirect or the bare status. -/
theorem respond_cases (policy : DenialPolicy) (denial : Denial) (requestedUri : String) :
    (∃ location, policy.respond denial requestedUri = redirect location) ∨
      policy.respond denial requestedUri = .bare denial.status := by
  unfold respond
  split
  · exact .inl ⟨_, rfl⟩
  · exact .inr rfl

/-- A configured page is where a denial leads. -/
theorem respond_of_page {config : GateConfig} {denial : Denial} {text : String}
    (clean : config.problems = []) (built : ofConfig config.auth = .ok policy)
    (configured : page? config.auth denial = some text) (requestedUri : String) :
    ∃ page added, Url.parse text = .ok page ∧
      (policy.respond denial requestedUri).RedirectsTo page added := by
  have keeps := keeps_of_ofConfig built
  cases denial with
  | unauthenticated =>
    have linked : config.auth.authorizeUrl = some text := configured
    obtain ⟨page, checked⟩ := GateConfig.isPage_of_problems clean (.login linked)
    have authorize := keeps.authorizeUrl
    rw [linked] at authorize
    refine ⟨page, policy.loginPairs requestedUri, checked.read, redirectsTo_of_location checked ?_⟩
    rw [location?, eq_some_of_parseUrl authorize checked.read]
    rfl
  | forbidden =>
    have linked : config.auth.deniedUrl = some text := configured
    obtain ⟨page, checked⟩ := GateConfig.isPage_of_problems clean (.denied linked)
    have denied := keeps.deniedUrl
    rw [linked] at denied
    refine ⟨page, deniedPairs requestedUri, checked.read, redirectsTo_of_location checked ?_⟩
    rw [location?, eq_some_of_parseUrl denied checked.read]
    rfl

end DenialPolicy
end AuthGate
