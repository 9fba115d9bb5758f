import AuthGate.Text.Quoted
import AuthGate.Uri.Basic
import AuthGate.Url.Parser

/-! Where a route sends its requests: a server, and a path that all requests are put under. -/
namespace AuthGate
open Text

/-- Why a text names no server that requests can be sent to. -/
inductive TargetError where
  | url (error : UrlError)
  | scheme (scheme : String)
  | noHost
  | authority (error : UriError)
  deriving DecidableEq, Repr

def TargetError.message : TargetError → String
  | .url cause => cause.message
  | .scheme found => "unsupported scheme " ++ quoted found
  | .noHost => "missing host"
  | .authority cause => cause.message

/-- The server of a route and the beginning of every path on it, without a slash at its end. -/
structure Target where
  authority : String
  basePath : String
  deriving DecidableEq, Repr

namespace Target

def trimSlashes (path : String) : String := String.ofList (dropEndWhile (· == '/') path.toList)

/-- Read the URL of a server. -/
def parse (text : String) : Except TargetError Target :=
  match Url.parse text with
  | .error error => .error (.url error)
  | .ok url =>
    if url.scheme ≠ "http" then .error (.scheme url.scheme)
    else
      match url.hostText? with
      | none => .error .noHost
      | some host =>
        match Authority.parse (host ++ url.portText) with
        | .error error => .error (.authority error)
        | .ok authority => .ok ⟨authority, trimSlashes url.path⟩

/-- The text of path and query under the base path; an empty path is the root. -/
def pathAndQuery (target : Target) (path : String) (query : Option String) : String :=
  let joined := target.basePath ++ path
  let rooted := if joined.isEmpty then "/" else joined
  match query with
  | none => rooted
  | some query => rooted ++ "?" ++ query

/-- The address of a path on the server. -/
def uriFor (target : Target) (path : String) (query : Option String) : Except UriError Uri := do
  return .absolute "http" target.authority (← PathAndQuery.parse (target.pathAndQuery path query))

end Target
end AuthGate
