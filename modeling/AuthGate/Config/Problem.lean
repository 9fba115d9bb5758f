import AuthGate.Auth.Mode
import AuthGate.Header.Basic
import AuthGate.Pattern.Replacement
import AuthGate.Route.Target

namespace AuthGate
open Text

inductive Fault where
  | notSocketAddress (text : String)
  | noRoutes
  | noLeadingSlash
  | unroutable
  | invalidUrl (text : String) (error : UrlError)
  | scheme (allowed : List String) (found : String)
  | noHost
  | hasFragment
  | hasQuery
  | invalidPattern (error : PatternError)
  | invalidHeaderName (text : String)
  | missingEndpoint (mode : AuthMode)
  | missingAnonymousId
  | unprintableRealm
  | missingClientId
  | notPositive
  | pattern (error : PatternError)
  | target (error : TargetError)
  | headerName
  | url (error : UrlError)
  | uri (error : UriError)
  | headerValue
  deriving DecidableEq, Repr

def Fault.message : Fault → String
  | .notSocketAddress text => "not a socket address: " ++ quoted text
  | .noRoutes => "at least one route is required"
  | .noLeadingSlash => "must start with '/'"
  | .unroutable => "must not contain whitespace, '?' or '#'"
  | .invalidUrl text cause => "invalid URL " ++ quoted text ++ ": " ++ cause.message
  | .scheme allowed found =>
    "scheme must be one of " ++ quotedList allowed ++ ", got " ++ quoted found
  | .noHost => "URL must have a host"
  | .hasFragment => "URL must not have a fragment"
  | .hasQuery => "URL must not have a query"
  | .invalidPattern cause => "invalid regex: " ++ cause.message
  | .invalidHeaderName text => "invalid header name: " ++ quoted text
  | .missingEndpoint mode => "required by routes with auth = \"" ++ mode.label ++ "\""
  | .missingAnonymousId =>
    "required by routes with auth = \"" ++ AuthMode.cookieAnonymous.label ++ "\""
  | .unprintableRealm => "must be printable ASCII without quotes or backslashes"
  | .missingClientId => "required when auth.authorize_url is set"
  | .notPositive => "must be greater than zero"
  | .pattern cause => cause.message
  | .target cause => cause.message
  | .headerName => HeaderName.problem
  | .url cause => cause.message
  | .uri cause => cause.message
  | .headerValue => HeaderValue.problem

/-- A fault and the dotted path of the field that has it. -/
structure Problem where
  field : String
  fault : Fault
  deriving DecidableEq, Repr

def Problem.message (problem : Problem) : String := problem.fault.message

def Problem.text (problem : Problem) : String := problem.field ++ ": " ++ problem.message

/-- The path of a field of a route. -/
def routeField (index : Nat) (name : String) : String :=
  "routes[" ++ toString index ++ "]." ++ name

end AuthGate
