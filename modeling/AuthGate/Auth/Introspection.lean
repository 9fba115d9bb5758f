import AuthGate.Auth.Credentials
import AuthGate.Config.Basic
import AuthGate.Config.Problem
import AuthGate.Duration
import AuthGate.Message.Basic
import AuthGate.Url.Form

namespace AuthGate
open Text

/-- What the service says. -/
structure IntrospectionReply where
  status : Status
  headers : Headers
  deriving DecidableEq, Repr

/-- Why the service says nothing. -/
inductive IntrospectionError where
  | noEndpoint (mode : AuthMode)
  | unbuildable
  | transport
  | timedOut (limit : Duration)
  deriving DecidableEq, Repr

def IntrospectionError.message : IntrospectionError → String
  | .noEndpoint mode => "no introspection endpoint configured for auth mode " ++ mode.label
  | .unbuildable => "failed to build introspection request: " ++ HeaderValue.problem
  | .transport => "introspection transport error"
  | .timedOut limit => "introspection timed out after " ++ limit.text

abbrev IntrospectionOutcome := Except IntrospectionError IntrospectionReply

/-- The endpoints of the service and how long to wait for it. -/
structure Introspector where
  cookie : Option Uri
  oauth2 : Option Uri
  cookieAnonymous : Option Uri
  m2m : Option Uri
  timeout : Duration
  deriving DecidableEq, Repr

namespace Introspector

/-- The name of the pair that asks for an anonymous session. -/
def anonymousKey : String := "anonymous"

/-- The address of an endpoint, marked with the anonymous identity if there is one. -/
def resolve (endpoint : String) (anonymousId : Option String) : Except Fault Uri :=
  match Url.parse endpoint with
  | .error cause => .error (.url cause)
  | .ok url =>
    let marked := match anonymousId with
      | none => url
      | some id => url.appendPairs [(anonymousKey, id)]
    match Uri.parse marked.text with
    | .error cause => .error (.uri cause)
    | .ok uri => .ok uri

/-- The address for a mode, if one is configured. -/
def resolveFor (introspection : IntrospectionConfig) (auth : AuthConfig) (mode : AuthMode) :
    Except Problem (Option Uri) :=
  match introspection.endpoint? mode with
  | none => .ok none
  | some endpoint =>
    match resolve endpoint (if mode.isAnonymous then auth.anonymousId else none) with
    | .error fault => .error ⟨"introspection." ++ mode.label, fault⟩
    | .ok uri => .ok (some uri)

def ofConfig (introspection : IntrospectionConfig) (auth : AuthConfig) :
    Except Problem Introspector := do
  let cookie ← resolveFor introspection auth .cookie
  let oauth2 ← resolveFor introspection auth .oauth2
  let cookieAnonymous ← resolveFor introspection auth .cookieAnonymous
  let m2m ← resolveFor introspection auth .m2m
  return ⟨cookie, oauth2, cookieAnonymous, m2m, .ofMillis auth.timeoutMs⟩

/-- The endpoint for a mode. -/
def endpoint? (introspector : Introspector) : AuthMode → Option Uri
  | .none => none
  | .cookie => introspector.cookie
  | .oauth2 => introspector.oauth2
  | .cookieAnonymous => introspector.cookieAnonymous
  | .m2m => introspector.m2m

def agent : HeaderValue := ⟨utf8 "auth-proxy-introspection".toList, by decide⟩

def appendOptional (headers : Headers) (name : HeaderName) (value : Option HeaderValue) : Headers :=
  headers.appendAll name value.toList

/-- The fields that every question has. -/
def commonHeaders (credentials : Credentials) (requestId : Option HeaderValue) : Headers :=
  appendOptional
    (appendOptional (Headers.empty.append .userAgent agent) .cookie credentials.cookie)
    .requestId requestId

/-- The requested URI is told to the service in one mode alone. -/
def questionHeaders (mode : AuthMode) (credentials : Credentials) (requestedUri : String)
    (requestId : Option HeaderValue) : Except IntrospectionError Headers :=
  let common := commonHeaders credentials requestId
  if mode = .oauth2 then
    match HeaderValue.ofText? requestedUri with
    | none => .error .unbuildable
    | some value => .ok (common.append .requestUri value)
  else .ok common

/-- The question about a request: its credentials, posted to the endpoint of the mode. -/
def question (introspector : Introspector) (mode : AuthMode) (credentials : Credentials)
    (requestedUri : String) (requestId : Option HeaderValue) : Except IntrospectionError Request :=
  match introspector.endpoint? mode with
  | none => .error (.noEndpoint mode)
  | some endpoint =>
    match questionHeaders mode credentials requestedUri requestId with
    | .error cause => .error cause
    | .ok headers =>
      .ok ⟨"POST", endpoint, headers, (credentials.authorization.map (·.bytes)).getD []⟩

end Introspector
end AuthGate
