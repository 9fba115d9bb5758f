import AuthGate.Message.Basic

namespace AuthGate
open Text

/-- A response of a server, the milliseconds until it comes, and those after it until its body has been
read or turns out to be too long. -/
structure Reply where
  response : Response
  delay : Nat := 0
  drain : Nat := 0
  deriving DecidableEq, Repr

/-- What becomes of a request to a server, and after how many milliseconds. -/
inductive Service where
  | unreachable (delay : Nat)
  | closes (delay : Nat)
  | replies (reply : Reply)
  deriving DecidableEq, Repr

/-- The servers by host and port. -/
abbrev Services := String → Service

/-- A request as a server gets it. -/
structure Call where
  server : String
  request : Request
  deriving DecidableEq, Repr

namespace Call

/-- The host and port of an authority. -/
def hostPort (authority : String) : String :=
  match splitFirst (· == '@') authority.toList with
  | (_, some host) => String.ofList host
  | (host, none) => String.ofList host

/-- The server that a URI leads to. -/
def serverOf (uri : Uri) : String := hostPort (uri.authority?.getD "")

/-- The field that names the server, without the port that its scheme implies. -/
def hostText (uri : Uri) : String :=
  let server := (serverOf uri).toList
  let implied := if uri.scheme? = some "https" then ":443" else ":80"
  if implied.toList.isSuffixOf server then
    String.ofList (server.take (server.length - implied.toList.length))
  else String.ofList server

/-- A request that does not name its server gets to name it. -/
def named (request : Request) : Request :=
  match request.headers.first? .host with
  | some _ => request
  | none => { request with headers := request.headers.insertText .host (hostText request.uri) }

def ofRequest (request : Request) : Call := ⟨serverOf request.uri, named request⟩

/-- The path and query that a server is asked for. -/
def target (call : Call) : String :=
  match call.request.uri.target? with
  | none => "/"
  | some target => target.path ++ target.querySuffix

end Call

/-- What comes of a call within a limit of time. -/
inductive CallResult where
  | reply (response : Response)
  | failed
  | timedOut
  deriving DecidableEq, Repr

/-- A call with the requests that servers received for it, the milliseconds until it is over, and those
until the body of its response has been read too. -/
structure CallReport where
  result : CallResult
  received : List Call
  elapsed : Nat
  drained : Nat
  deriving DecidableEq, Repr

namespace Service

/-- The milliseconds until a response comes, or until there will be none. -/
def delay : Service → Nat
  | .unreachable delay | .closes delay => delay
  | .replies reply => reply.delay

/-- The milliseconds that the body of the response takes. -/
def drain : Service → Nat
  | .unreachable _ | .closes _ => 0
  | .replies reply => reply.drain

/-- What comes of a request if it is waited for. -/
def result (method : String) : Service → CallResult
  | .unreachable _ | .closes _ => .failed
  | .replies reply => .reply (reply.response.received method)

/-- What comes of a request that is waited for only until a limit in microseconds. -/
def resultWithin (limit : Nat) (method : String) (service : Service) : CallResult :=
  if limit ≤ 1000 * service.delay then .timedOut else service.result method

/-- The calls that a server has got when one has been made. -/
def received (made : Call) : Service → List Call
  | .unreachable _ => []
  | .closes _ | .replies _ => [made]

end Service

namespace Services

/-- The milliseconds of a wait that ends with a limit in microseconds. The limits of a gate are whole
milliseconds. -/
def waited (limit delay : Nat) : Nat := min delay (limit / 1000)

/-- What comes of a request whose answer is awaited for a number of microseconds. -/
def call (services : Services) (limit : Nat) (request : Request) : CallReport :=
  let made := Call.ofRequest request
  let service := services made.server
  { result := service.resultWithin limit request.method
    received := service.received made
    elapsed := waited limit service.delay
    drained := waited limit (service.delay + service.drain) }

end Services
end AuthGate
