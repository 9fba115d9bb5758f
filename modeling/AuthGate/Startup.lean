import AuthGate.Gate.Basic
import AuthGate.Log.Filter
import AuthGate.Machine

namespace AuthGate

/-- Why the gate does not start. -/
inductive StartupError where
  | config (error : LoadError)
  | metricsAddress
  | gate (problems : List Problem)
  | addressTaken
  | tls (error : TlsError)
  deriving DecidableEq, Repr

/-- The kind of an error, as the command line names it. -/
def StartupError.kind : StartupError → String
  | .config (.unreadable _) => "Io"
  | .config (.undecodable _) => "Parse"
  | .config (.invalid _) => "Validation"
  | .metricsAddress => "AddrParseError"
  | .gate _ => "Validation"
  | .addressTaken => "Os"
  | .tls .unreadable => "Os"
  | .tls _ => "Custom"

/-- What stops the gate. -/
inductive StopSignal where
  | terminate
  | interrupt
  deriving DecidableEq, Repr

def StopSignal.name : StopSignal → String
  | .terminate => "SIGTERM"
  | .interrupt => "SIGINT"

/-- Records up to a point, and the error that ends the start there. -/
structure Launch where
  records : List LogRecord
  error : Option StartupError := none
  deriving DecidableEq, Repr

namespace Launch

def fail (error : StartupError) : Launch := ⟨[], some error⟩

/-- One part of the start after another, as long as nothing fails. -/
def andThen (first second : Launch) : Launch :=
  match first.error with
  | some _ => first
  | none => ⟨first.records ++ second.records, second.error⟩

def sequence (parts : List Launch) : Launch := parts.foldl andThen ⟨[], none⟩

end Launch

namespace Startup

def startupPart : String := "auth_proxy::lifecycle::startup"
def serverPart : String := "auth_proxy::http::server"
def version : String := "0.1.0"

def info (part message : String) (values : List (String × LogValue)) : LogRecord :=
  ⟨.info, part, message, values⟩

def greeting (config : GateConfig) : Launch :=
  ⟨[info startupPart ("auth-proxy v" ++ version ++ " starting") [],
    info startupPart "Configuration loaded"
      [("bind_address", .text config.listener.bindAddress),
        ("tls", .truth config.listener.tls.isSome), ("routes", .number config.routes.length),
        ("introspection_timeout_ms", .number config.auth.timeoutMs),
        ("upstream_timeout_secs", .number config.timeouts.serverSecs)]], none⟩

/-- The address that metrics are shown at, if they are. -/
def metricsAddress? (config : GateConfig) : Option SocketAddress :=
  if config.observability.metricsEnabled then
    SocketAddress.parse config.observability.metricsAddress
  else none

def openMetrics (config : GateConfig) : Launch :=
  if config.observability.metricsEnabled then
    match metricsAddress? config with
    | none => .fail .metricsAddress
    | some address =>
      ⟨[info "auth_proxy::observability::metrics" "Metrics exporter listening"
        [("address", .text address.text)]], none⟩
  else ⟨[], none⟩

/-- A route that never gets a request. -/
def shadowedRecord (route : Route) : LogRecord :=
  ⟨.warn, "auth_proxy::routing::router",
    "Duplicate path prefix; the earlier route takes precedence",
    [("route", .text route.name), ("prefix", .text route.pathBase)]⟩

def routeRecord (route : Route) : LogRecord :=
  ⟨.debug, serverPart, "Route",
    [("route", .text route.name), ("prefix", .text route.pathBase),
      ("upstream", .text route.target.authority), ("auth", .text route.auth.label)]⟩

/-- The routes that are told of before the rest of the gate is built. -/
def shadowed (config : GateConfig) : Launch :=
  match config.validate, RouteTable.compile config.routes with
  | .ok _, .ok table => ⟨table.shadowed.map shadowedRecord, none⟩
  | _, _ => ⟨[], none⟩

def build (config : GateConfig) : Launch :=
  match Gate.ofConfig config with
  | .error problems => .fail (.gate problems)
  | .ok gate =>
    ⟨info serverPart "Route table compiled" [("routes", .number gate.table.routes.length)]
      :: gate.table.routes.map routeRecord, none⟩

/-- The address of the listener is one that metrics are shown at. -/
def isTaken (config : GateConfig) (address : SocketAddress) : Bool :=
  ((metricsAddress? config).map address.collides).getD false

def starting (protocol address : String) : LogRecord :=
  info serverPart (protocol ++ " server starting") [("address", .text address)]

/-- The name of the protocol that the listener speaks. -/
def protocol (config : GateConfig) : String := if config.listener.tls.isSome then "HTTPS" else "HTTP"

def listen (machine : Machine) (config : GateConfig) : Launch :=
  match SocketAddress.parse config.listener.bindAddress with
  | none => ⟨[], none⟩
  | some address =>
    let taken := if isTaken config address then some .addressTaken else none
    match config.listener.tls with
    | some tls =>
      match tls.check machine.files with
      | .error cause => .fail (.tls cause)
      | .ok _ =>
        ⟨[info "auth_proxy::net::tls" "TLS certificate loaded" [("cert", .text tls.certPath)],
          starting (protocol config) address.text], taken⟩
    | none =>
      if taken.isSome then ⟨[], taken⟩
      else ⟨[starting (protocol config) (address.textOpened machine.chosenPort)], none⟩

/-- Start with a configuration. -/
def launch (machine : Machine) (config : GateConfig) : Launch :=
  .sequence
    [greeting config, openMetrics config, shadowed config, build config, listen machine config]

/-- What is logged from the signal to stop until the end. -/
def ending (config : GateConfig) (signal : StopSignal) : List LogRecord :=
  [info "auth_proxy::lifecycle::signals" ("Received " ++ signal.name) [],
    info serverPart "Shutdown signal received" [],
    info serverPart (protocol config ++ " server stopped") [],
    info startupPart "Shutdown complete" []]

/-- The filter of the log: one given for this run goes before the configured level. -/
def filter (given : Option String) (config : GateConfig) : LogFilter :=
  (given.bind LogFilter.parse).getD (.ofLevel config.observability.logLevel)

/-- The lines of the records that are written. -/
def lines (given : Option String) (config : GateConfig) (records : List LogRecord) : List String :=
  let written := records.filter (filter given config).admits
  match config.observability.logFormat with
  | .pretty => written.map (·.plainLine)
  | .json => written.map (·.jsonLine)

end Startup
end AuthGate
