import AuthGate.Config.Basic
import AuthGate.Config.Problem
import AuthGate.Route.Substitution

namespace AuthGate

/-- A route from a beginning of paths to a server. -/
structure Route where
  name : String
  pathBase : String
  substitution : Option Substitution
  target : Target
  auth : AuthMode
  ignoredHeaders : List HeaderName

namespace Route

def compileSubstitution (config : Option SubstitutionConfig) :
    Except PatternError (Option Substitution) :=
  match config with
  | none => .ok none
  | some config => some <$> Substitution.parse config.pattern config.replacement

/-- Read the texts of a route. The first one that cannot be read decides the problem. -/
def compile (index : Nat) (config : RouteConfig) : Except Problem Route :=
  match compileSubstitution config.substitution with
  | .error cause => .error ⟨routeField index "rewrite.pattern", .pattern cause⟩
  | .ok substitution =>
    match Target.parse config.server with
    | .error cause => .error ⟨routeField index "upstream", .target cause⟩
    | .ok target =>
      match config.ignoredHeaders.mapM HeaderName.parse with
      | none => .error ⟨routeField index "ignored_response_headers", .headerName⟩
      | some ignoredHeaders =>
        .ok ⟨config.name.getD config.pathBase, config.pathBase, substitution, target, config.auth,
          ignoredHeaders⟩

/-- A path belongs to the route. -/
def covers (route : Route) (path : String) : Bool := Path.startsWith path route.pathBase

/-- Of two routes that cover a path, the one with the longer beginning is closer to it. -/
def specificity (route : Route) : Nat := route.pathBase.utf8ByteSize

/-- The path to send on. -/
def substitute (route : Route) (path : String) : String :=
  match route.substitution with
  | none => path
  | some substitution => substitution.apply path

end Route
end AuthGate
