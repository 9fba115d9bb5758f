import AuthGate.Auth.Decision

/-! What a client gets whose request is denied: a redirect to a page of the login service, a bare
status, or a challenge. -/
namespace AuthGate
open Text

structure DenialPolicy where
  authorizeUrl : Option Url
  clientId : String
  scope : String
  prompt : String
  deniedUrl : Option Url
  basicChallenge : HeaderValue
  deriving DecidableEq, Repr

namespace DenialPolicy

def parseUrl (field : String) (text : Option String) : Except Problem (Option Url) :=
  match text with
  | none => .ok none
  | some text =>
    match Url.parse text with
    | .error cause => .error ⟨field, .url cause⟩
    | .ok url => .ok (some url)

/-- The challenge for a realm. -/
def challengeText (realm : String) : String := "Basic realm=\"" ++ realm ++ "\""

def ofConfig (config : AuthConfig) : Except Problem DenialPolicy := do
  let authorizeUrl ← parseUrl "auth.authorize_url" config.authorizeUrl
  let deniedUrl ← parseUrl "auth.denied_url" config.deniedUrl
  match HeaderValue.ofText? (challengeText config.basicRealm) with
  | none => .error ⟨"auth.basic_realm", .headerValue⟩
  | some basicChallenge =>
    return ⟨authorizeUrl, config.clientId, config.scope, config.prompt, deniedUrl, basicChallenge⟩

/-- The pairs of a request for a login that ends at the requested URI. -/
def loginPairs (policy : DenialPolicy) (requestedUri : String) : List (String × String) :=
  [("response_type", "code"), ("scope", policy.scope), ("client_id", policy.clientId),
    ("prompt", policy.prompt), ("redirect_uri", requestedUri)]

def deniedPairs (requestedUri : String) : List (String × String) :=
  [("error", "access_denied"), ("what", requestedUri)]

/-- The page that a denial leads to, if one is configured. -/
def location? (policy : DenialPolicy) (denial : Denial) (requestedUri : String) : Option Url :=
  match denial with
  | .unauthenticated => policy.authorizeUrl.map (·.appendPairs (policy.loginPairs requestedUri))
  | .forbidden => policy.deniedUrl.map (·.appendPairs (deniedPairs requestedUri))

def noStore : HeaderValue := ⟨utf8 "no-store".toList, by decide⟩

def redirect (location : HeaderValue) : Response :=
  ⟨.found, (Headers.empty.append .location location).append .cacheControl noStore, .empty⟩

/-- The response to a browser. -/
def respond (policy : DenialPolicy) (denial : Denial) (requestedUri : String) : Response :=
  match (policy.location? denial requestedUri).bind fun url => HeaderValue.ofText? url.text with
  | some location => redirect location
  | none => .bare denial.status

/-- The response to a program, which is never redirected. The service's own challenge goes before
the configured one. -/
def challenge (policy : DenialPolicy) (denial : Denial) (given : Option HeaderValue) : Response :=
  match denial with
  | .forbidden => .bare denial.status
  | .unauthenticated =>
    (Response.bare denial.status).mapHeaders
      (·.insert .wwwAuthenticate (given.getD policy.basicChallenge))

end DenialPolicy
end AuthGate
