import AuthGate.Header.Basic
import AuthGate.Message.Status
import AuthGate.Uri.Basic

namespace AuthGate
open Text

structure Request where
  method : String
  uri : Uri
  headers : Headers
  body : List UInt8
  deriving DecidableEq, Repr

/-- A body as it arrives: all of it, or a connection that breaks off before its end. -/
inductive Body where
  | complete (bytes : List UInt8)
  | broken
  deriving DecidableEq, Repr

def Body.empty : Body := .complete []

structure Response where
  status : Status
  headers : Headers
  body : Body
  deriving DecidableEq, Repr

namespace Response

/-- A status and nothing else. -/
def bare (status : Status) : Response := ⟨status, .empty, .empty⟩

def plainText : HeaderValue := ⟨utf8 "text/plain; charset=utf-8".toList, by decide⟩

def ofText (status : Status) (text : String) : Response :=
  ⟨status, Headers.empty.append .contentType plainText, .complete (utf8 text.toList)⟩

/-- The path of the request has no normal form. -/
def badRequest : Response := ofText .badRequest "Bad Request"

/-- No route has the path of the request. -/
def notFound : Response := ofText .notFound "Not Found"

/-- The server of a route gave no response. -/
def gatewayFailure (status : Status) : Response :=
  ofText status (status.phrase?.getD "Gateway Error")

def mapHeaders (response : Response) (change : Headers → Headers) : Response :=
  { response with headers := change response.headers }

/-- What arrives of a response: to some methods and with some codes it has no body. -/
def received (response : Response) (method : String) : Response :=
  if method = "HEAD" || response.status.isBodyless then { response with body := .empty }
  else response

end Response
end AuthGate
