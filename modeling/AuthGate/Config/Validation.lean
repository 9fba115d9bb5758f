import AuthGate.Address.Socket
import AuthGate.Config.Basic
import AuthGate.Config.Problem

namespace AuthGate
open Text Unicode

def problemIf (found : Bool) (problem : Problem) : List Problem := if found then [problem] else []

/-- A URL has to have one of the schemes and a host, and no fragment. -/
def checkUrl (field text : String) (schemes : List String) : List Problem :=
  match Url.parse text with
  | .error cause => [⟨field, .invalidUrl text cause⟩]
  | .ok url =>
    problemIf (!schemes.contains url.scheme) ⟨field, .scheme schemes url.scheme⟩
      ++ problemIf url.hostText?.isNone ⟨field, .noHost⟩
      ++ problemIf url.fragment.isSome ⟨field, .hasFragment⟩

def webSchemes : List String := ["http", "https"]

/-- Nothing but blanks. -/
def isBlankText (text : String) : Bool := text.toList.all isBlank

namespace RouteConfig

def checkPathBase (route : RouteConfig) (index : Nat) : List Problem :=
  let field := routeField index "path_prefix"
  problemIf (route.pathBase.toList.head? != some '/') ⟨field, .noLeadingSlash⟩
    ++ problemIf (route.pathBase.toList.any fun c => isBlank c || c == '?' || c == '#')
      ⟨field, .unroutable⟩

def checkServer (route : RouteConfig) (index : Nat) : List Problem :=
  let field := routeField index "upstream"
  let hasQuery := match Url.parse route.server with
    | .ok url => url.query.isSome
    | .error _ => false
  checkUrl field route.server ["http"] ++ problemIf hasQuery ⟨field, .hasQuery⟩

def checkSubstitution (route : RouteConfig) (index : Nat) : List Problem :=
  match route.substitution with
  | none => []
  | some substitution =>
    match Pattern.parse substitution.pattern with
    | .ok _ => []
    | .error cause => [⟨routeField index "rewrite.pattern", .invalidPattern cause⟩]

def checkIgnoredHeaders (route : RouteConfig) (index : Nat) : List Problem :=
  route.ignoredHeaders.flatMap fun name =>
    problemIf (HeaderName.parse name).isNone
      ⟨routeField index "ignored_response_headers", .invalidHeaderName name⟩

/-- The problems of one route. -/
def check (route : RouteConfig) (index : Nat) : List Problem :=
  route.checkPathBase index ++ route.checkServer index ++ route.checkSubstitution index
    ++ route.checkIgnoredHeaders index

end RouteConfig

namespace GateConfig

/-- A mode is used by some route. -/
def uses (config : GateConfig) (mode : AuthMode) : Bool := config.routes.any (·.auth = mode)

/-- The modes that introspect, sorted by their labels. -/
def introspectingModes : List AuthMode := [.cookie, .cookieAnonymous, .m2m, .oauth2]

def checkListener (config : GateConfig) : List Problem :=
  let address := config.listener.bindAddress
  problemIf (SocketAddress.parse address).isNone ⟨"listener.bind_address", .notSocketAddress address⟩

def checkRoutes (config : GateConfig) : List Problem :=
  problemIf config.routes.isEmpty ⟨"routes", .noRoutes⟩
    ++ (config.routes.zipIdx.flatMap fun (route, index) => route.check index)

/-- Every mode in use needs an endpoint. -/
def checkEndpoints (config : GateConfig) : List Problem :=
  (introspectingModes.filter config.uses).flatMap fun mode =>
    let field := "introspection." ++ mode.label
    match config.introspection.endpoint? mode with
    | some endpoint => checkUrl field endpoint ["http"]
    | none => [⟨field, .missingEndpoint mode⟩]

def checkAnonymousId (config : GateConfig) : List Problem :=
  let missing := (config.auth.anonymousId.map isBlankText).getD true
  problemIf (config.uses .cookieAnonymous && missing) ⟨"auth.anonymous_id", .missingAnonymousId⟩

/-- A character that stands for itself between quotation marks. -/
def isRealmChar (c : Char) : Bool := c != '"' && c != '\\' && ' ' ≤ c && c ≤ '~'

def checkRealm (config : GateConfig) : List Problem :=
  problemIf (config.uses .m2m && !config.auth.basicRealm.toList.all isRealmChar)
    ⟨"auth.basic_realm", .unprintableRealm⟩

def checkLogin (config : GateConfig) : List Problem :=
  match config.auth.authorizeUrl with
  | none => []
  | some url =>
    checkUrl "auth.authorize_url" url webSchemes
      ++ problemIf (isBlankText config.auth.clientId) ⟨"auth.client_id", .missingClientId⟩

def checkWebUrl (field : String) (url : Option String) : List Problem :=
  match url with
  | none => []
  | some url => checkUrl field url webSchemes

def checkPositive (field : String) (value : Nat) : List Problem :=
  problemIf (value == 0) ⟨field, .notPositive⟩

/-- All problems of a configuration. -/
def problems (config : GateConfig) : List Problem :=
  config.checkListener ++ config.checkRoutes ++ config.checkEndpoints ++ config.checkAnonymousId
    ++ config.checkRealm ++ config.checkLogin ++ checkWebUrl "auth.denied_url" config.auth.deniedUrl
    ++ checkPositive "auth.timeout_ms" config.auth.timeoutMs
    ++ checkWebUrl "external.base_url" config.external.baseUrl
    ++ checkPositive "timeouts.request_secs" config.timeouts.requestSecs
    ++ checkPositive "timeouts.upstream_secs" config.timeouts.serverSecs

def validate (config : GateConfig) : Except (List Problem) Unit :=
  if config.problems.isEmpty then .ok () else .error config.problems

end GateConfig
end AuthGate
