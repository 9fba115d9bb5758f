import AuthGate.Auth.Introspection

namespace AuthGate

/-- The identity that a request is sent on with, and the cookies for the client. -/
structure Grant where
  authorization : Option HeaderValue := none
  cookie : Option HeaderValue := none
  setCookie : List HeaderValue := []
  deriving DecidableEq, Repr

/-- Why a request is not let through. -/
inductive Denial where
  | unauthenticated
  | forbidden
  deriving DecidableEq, Repr

def Denial.status : Denial → Status
  | .unauthenticated => .unauthorized
  | .forbidden => .forbidden

inductive Decision where
  | allow (grant : Grant)
  | deny (denial : Denial)
  deriving DecidableEq, Repr

def Decision.label : Decision → String
  | .allow _ => "allow"
  | .deny .unauthenticated => "deny_401"
  | .deny .forbidden => "deny_403"

/-- What a reply grants. Cookies for the client are taken for anonymous sessions alone. -/
def Grant.ofReply (mode : AuthMode) (headers : Headers) : Grant where
  authorization := headers.first? .authorization
  cookie := headers.first? .cookie
  setCookie := if mode.isAnonymous then headers.values .setCookie else []

/-- Only the status 200 lets a request through. No answer is as good as an unknown client. -/
def Decision.ofOutcome (mode : AuthMode) : IntrospectionOutcome → Decision
  | .error _ => .deny .unauthenticated
  | .ok reply =>
    if reply.status = .ok then .allow (.ofReply mode reply.headers)
    else if reply.status = .forbidden then .deny .forbidden
    else .deny .unauthenticated

/-- How the service asks to be authenticated. -/
def challenge? : IntrospectionOutcome → Option HeaderValue
  | .error _ => none
  | .ok reply => reply.headers.first? .wwwAuthenticate

namespace Headers

/-- Add the cookies of a grant behind those that are there. -/
def appendGranted (headers : Headers) (grant : Grant) : Headers :=
  headers.appendAll .setCookie grant.setCookie

end Headers
end AuthGate
