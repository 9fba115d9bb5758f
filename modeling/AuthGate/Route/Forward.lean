import AuthGate.Auth.Decision
import AuthGate.Header.Forwarded
import AuthGate.Header.HopByHop
import AuthGate.Route.Basic

namespace AuthGate

/-- Why the server of a route gives no response. -/
inductive ForwardError where
  | invalidUri (error : UriError)
  | invalidHost
  | transport
  | timedOut (limit : Duration)
  deriving DecidableEq, Repr

namespace ForwardError

def message : ForwardError → String
  | .invalidUri cause => "invalid upstream request: " ++ cause.message
  | .invalidHost => "invalid upstream request: " ++ HeaderValue.problem
  | .transport => "upstream transport error"
  | .timedOut limit => "upstream timed out after " ++ limit.text

def status : ForwardError → Status
  | .timedOut _ => .gatewayTimeout
  | _ => .badGateway

end ForwardError

namespace Headers

/-- Put the granted identity in the place of the client's own. -/
def setIdentity (headers : Headers) (grant : Grant) : Headers :=
  (headers.replace .authorization grant.authorization).replace .cookie grant.cookie

end Headers

namespace Route

/-- The fields of a request on its way to the server. On a route with authorization the client's own
identity never gets through, granted or not. -/
def forwardHeaders (route : Route) (trust : Bool) (client : Client) (grant : Option Grant)
    (host : HeaderValue) (headers : Headers) : Headers :=
  let described := (headers.stripHopByHop.insert .host host).setForwarded client trust
  if route.auth.introspects then described.setIdentity (grant.getD {}) else described

/-- The request for the server. -/
def forwardRequest (route : Route) (trust : Bool) (client : Client) (grant : Option Grant)
    (request : Request) : Except ForwardError Request :=
  match route.target.uriFor (route.substitute request.uri.path) request.uri.query? with
  | .error cause => .error (.invalidUri cause)
  | .ok uri =>
    match HeaderValue.ofText? route.target.authority with
    | none => .error .invalidHost
    | some host =>
      .ok { request with
        uri := uri
        headers := route.forwardHeaders trust client grant host request.headers }

/-- The fields of a response on its way to the client. -/
def relayHeaders (route : Route) (grant : Option Grant) (headers : Headers) : Headers :=
  let kept := headers.stripHopByHop.eraseAll route.ignoredHeaders
  match grant with
  | none => kept
  | some grant => kept.appendGranted grant

end Route
end AuthGate
