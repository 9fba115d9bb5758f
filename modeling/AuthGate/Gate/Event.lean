import AuthGate.Auth.Decision
import AuthGate.Log.Record
import AuthGate.Path
import AuthGate.Route.Forward

namespace AuthGate

/-- A request as the log shows it. -/
structure AccessEntry where
  requestId : String
  method : String
  path : String
  deriving DecidableEq, Repr

inductive Event where
  | rejected (entry : AccessEntry) (error : PathError)
  | unrouted (entry : AccessEntry)
  | completed (entry : AccessEntry) (route outcome : String) (status : Status)
  | introspectionFailed (route : String) (mode : AuthMode) (error : IntrospectionError)
  | forwardFailed (route : String) (error : ForwardError)
  deriving DecidableEq, Repr

namespace Event

def entryValues (entry : AccessEntry) : List (String × LogValue) :=
  [("request_id", .text entry.requestId), ("method", .text entry.method), ("path", .text entry.path)]

def statusValue (status : Status) : String × LogValue := ("status", .number status.code)

def level : Event → LogLevel
  | .rejected .. | .unrouted .. | .completed .. => .info
  | .introspectionFailed .. => .warn
  | .forwardFailed .. => .error

def message : Event → String
  | .rejected .. => "Rejected request path"
  | .unrouted .. => "No route matched"
  | .completed .. => "Request completed"
  | .introspectionFailed .. => "Introspection failed"
  | .forwardFailed .. => "Upstream request failed"

def values : Event → List (String × LogValue)
  | .rejected entry cause =>
    entryValues entry ++ [statusValue .badRequest, ("error", .text cause.message)]
  | .unrouted entry => entryValues entry ++ [statusValue .notFound]
  | .completed entry route outcome status =>
    entryValues entry ++ [("route", .text route), ("auth", .text outcome), statusValue status]
  | .introspectionFailed route mode cause =>
    [("route", .text route), ("auth", .text mode.label), ("error", .text cause.message)]
  | .forwardFailed route cause => [("route", .text route), ("error", .text cause.message)]

def record (event : Event) : LogRecord :=
  ⟨event.level, "auth_proxy::http::server", event.message, event.values⟩

/-- The status that an access event gives; the events of failures give none. -/
def status? : Event → Option Status
  | .rejected .. => some .badRequest
  | .unrouted _ => some .notFound
  | .completed _ _ _ status => some status
  | .introspectionFailed .. | .forwardFailed .. => none

end Event

/-- What is counted: a finished request, or a decision. -/
inductive Measure where
  | request (route method : String) (status : Status)
  | decision (mode : AuthMode) (outcome : String)
  deriving DecidableEq, Repr

/-- The route of requests that have none. -/
def Measure.noRoute : String := "none"

end AuthGate
