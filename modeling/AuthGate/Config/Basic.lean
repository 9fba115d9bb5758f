import AuthGate.Auth.Mode

namespace AuthGate

structure TlsConfig where
  certPath : String
  keyPath : String
  deriving DecidableEq, Repr

structure ListenerConfig where
  bindAddress : String := "0.0.0.0:8080"
  tls : Option TlsConfig := none
  deriving DecidableEq, Repr

structure SubstitutionConfig where
  pattern : String
  replacement : String
  deriving DecidableEq, Repr

/-- A route from a beginning of paths to the URL of a server. -/
structure RouteConfig where
  name : Option String := none
  pathBase : String
  substitution : Option SubstitutionConfig := none
  server : String
  auth : AuthMode := .none
  ignoredHeaders : List String := []
  deriving DecidableEq, Repr

structure AuthConfig where
  authorizeUrl : Option String := none
  clientId : String := ""
  scope : String := "openid cookie"
  prompt : String := "login"
  deniedUrl : Option String := none
  anonymousId : Option String := none
  basicRealm : String := "auth-proxy"
  timeoutMs : Nat := 5000
  deriving DecidableEq, Repr

structure IntrospectionConfig where
  cookie : Option String := none
  oauth2 : Option String := none
  cookieAnonymous : Option String := none
  m2m : Option String := none
  deriving DecidableEq, Repr

/-- The endpoint that is configured for a mode. -/
def IntrospectionConfig.endpoint? (config : IntrospectionConfig) : AuthMode → Option String
  | .none => none
  | .cookie => config.cookie
  | .oauth2 => config.oauth2
  | .cookieAnonymous => config.cookieAnonymous
  | .m2m => config.m2m

structure ExternalConfig where
  baseUrl : Option String := none
  trustForwarded : Bool := false
  deriving DecidableEq, Repr

structure TimeoutConfig where
  requestSecs : Nat := 60
  serverSecs : Nat := 30
  deriving DecidableEq, Repr

inductive LogFormat where
  | pretty
  | json
  deriving DecidableEq, Repr

def LogFormat.label : LogFormat → String
  | .pretty => "pretty"
  | .json => "json"

structure ObservabilityConfig where
  logLevel : String := "info"
  logFormat : LogFormat := .pretty
  metricsEnabled : Bool := false
  metricsAddress : String := "0.0.0.0:9090"
  deriving DecidableEq, Repr

structure GateConfig where
  listener : ListenerConfig := {}
  routes : List RouteConfig := []
  auth : AuthConfig := {}
  introspection : IntrospectionConfig := {}
  external : ExternalConfig := {}
  timeouts : TimeoutConfig := {}
  observability : ObservabilityConfig := {}
  deriving DecidableEq, Repr

end AuthGate
