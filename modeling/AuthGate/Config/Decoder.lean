import AuthGate.Config.Basic
import AuthGate.Toml.Parser

/-! Reading the configuration from the value of a document. Fields are read in the order in which the
document has them, and unknown ones are passed over. A list gives the fields in their own order. -/
namespace AuthGate
open Toml

/-- Why a value does not describe what is expected. -/
inductive DecodeError where
  | malformed
  | invalidType (found expected : String)
  | invalidValue (found expected : String)
  | missingField (name : String)
  | unknownVariant (found : String) (variants : List String)
  | wrongShape
  deriving DecidableEq, Repr

/-- The names of a choice as messages list them. -/
def listVariants (variants : List String) : String :=
  let marked := variants.map fun name => "`" ++ name ++ "`"
  match marked with
  | [only] => "expected " ++ only
  | [first, second] => "expected " ++ first ++ " or " ++ second
  | _ => "expected one of " ++ String.intercalate ", " marked

/-- The message of an error, where it has one of its own. -/
def DecodeError.message? : DecodeError → Option String
  | .invalidType found expected => some ("invalid type: " ++ found ++ ", expected " ++ expected)
  | .invalidValue found expected => some ("invalid value: " ++ found ++ ", expected " ++ expected)
  | .missingField name => some ("missing field `" ++ name ++ "`")
  | .unknownVariant found variants =>
    some ("unknown variant `" ++ found ++ "`, " ++ listVariants variants)
  | .malformed | .wrongShape => none

abbrev Decoder (α : Type) := Value → Except DecodeError α

namespace Decoder

def mismatch (value : Value) (expected : String) : Except DecodeError α :=
  .error (.invalidType value.describe expected)

def string : Decoder String
  | .string text => .ok text
  | value => mismatch value "a string"

def boolean : Decoder Bool
  | .boolean value => .ok value
  | value => mismatch value "a boolean"

/-- A number that is not negative. -/
def natural : Decoder Nat
  | .integer number =>
    if number < 0 then .error (.invalidValue (Value.integer number).describe "u64")
    else .ok number.toNat
  | value => mismatch value "u64"

def list (item : Decoder α) : Decoder (List α)
  | .array _ items => items.mapM item
  | value => mismatch value "a sequence"

def isEmptyContainer : Value → Bool
  | .array _ [] => true
  | .table _ [] => true
  | _ => false

/-- One of several names. A table with one name and nothing under it stands for the name. -/
def choice (variants : List (String × α)) : Decoder α
  | .string name =>
    match variants.lookup name with
    | some variant => .ok variant
    | none => .error (.unknownVariant name (variants.map (·.1)))
  | .table _ [(name, inner)] =>
    match variants.lookup name with
    | some variant => if isEmptyContainer inner then .ok variant else .error .wrongShape
    | none => .error (.unknownVariant name (variants.map (·.1)))
  | _ => .error .wrongShape

/-- Read fields one after another into what has been read so far. -/
def fields (name : String) (keys : List String) (set : α → String → Decoder α) (start : α) :
    Decoder α
  | .table _ entries => entries.foldlM (fun current entry => set current entry.1 entry.2) start
  | .array _ items =>
    (keys.zip items).foldlM (fun current entry => set current entry.1 entry.2) start
  | .moment => .ok start
  | value => mismatch value ("struct " ++ name)

/-- A field that has to be there. A list that is too short has no name for what it lacks. -/
def required (value : Value) (name : String) (field : Option α) : Except DecodeError α :=
  match field, value with
  | some found, _ => .ok found
  | none, .array _ _ => .error .wrongShape
  | none, _ => .error (.missingField name)

def optional (item : Decoder α) : Decoder (Option α) := fun value => some <$> item value

end Decoder

open Decoder

def AuthMode.decode : Decoder AuthMode :=
  choice (AuthMode.all.map fun mode => (mode.label, mode))

def LogFormat.decode : Decoder LogFormat :=
  choice ([LogFormat.pretty, .json].map fun format => (format.label, format))

structure TlsDraft where
  certPath : Option String := none
  keyPath : Option String := none

def TlsConfig.decode : Decoder TlsConfig := fun value => do
  let draft ← fields "TlsConfig" ["cert_path", "key_path"]
    (fun (draft : TlsDraft) key value =>
      match key with
      | "cert_path" => return { draft with certPath := ← optional string value }
      | "key_path" => return { draft with keyPath := ← optional string value }
      | _ => return draft)
    {} value
  return ⟨← required value "cert_path" draft.certPath, ← required value "key_path" draft.keyPath⟩

def ListenerConfig.decode : Decoder ListenerConfig :=
  fields "ListenerConfig" ["bind_address", "tls"]
    (fun config key value =>
      match key with
      | "bind_address" => return { config with bindAddress := ← string value }
      | "tls" => return { config with tls := ← optional TlsConfig.decode value }
      | _ => return config)
    {}

structure SubstitutionDraft where
  pattern : Option String := none
  replacement : Option String := none

def SubstitutionConfig.decode : Decoder SubstitutionConfig := fun value => do
  let draft ← fields "RewriteConfig" ["pattern", "replacement"]
    (fun (draft : SubstitutionDraft) key value =>
      match key with
      | "pattern" => return { draft with pattern := ← optional string value }
      | "replacement" => return { draft with replacement := ← optional string value }
      | _ => return draft)
    {} value
  return ⟨← required value "pattern" draft.pattern,
    ← required value "replacement" draft.replacement⟩

/-- A route whose required fields may not have been read yet. -/
structure RouteDraft where
  pathBase : Option String := none
  server : Option String := none
  rest : RouteConfig := { pathBase := "", server := "" }

def RouteDraft.set (draft : RouteDraft) (key : String) : Decoder RouteDraft := fun value =>
  match key with
  | "name" => return { draft with rest.name := ← optional string value }
  | "path_prefix" => return { draft with pathBase := ← optional string value }
  | "rewrite" => return { draft with rest.substitution := ← optional SubstitutionConfig.decode value }
  | "upstream" => return { draft with server := ← optional string value }
  | "auth" => return { draft with rest.auth := ← AuthMode.decode value }
  | "ignored_response_headers" => return { draft with rest.ignoredHeaders := ← list string value }
  | _ => return draft

def RouteConfig.decode : Decoder RouteConfig := fun value => do
  let draft ← fields "RouteConfig"
    ["name", "path_prefix", "rewrite", "upstream", "auth", "ignored_response_headers"]
    RouteDraft.set {} value
  let pathBase ← required value "path_prefix" draft.pathBase
  let server ← required value "upstream" draft.server
  return { draft.rest with pathBase, server }

def AuthConfig.decode : Decoder AuthConfig :=
  fields "AuthConfig"
    ["authorize_url", "client_id", "scope", "prompt", "denied_url", "anonymous_id", "basic_realm",
      "timeout_ms"]
    (fun config key value =>
      match key with
      | "authorize_url" => return { config with authorizeUrl := ← optional string value }
      | "client_id" => return { config with clientId := ← string value }
      | "scope" => return { config with scope := ← string value }
      | "prompt" => return { config with prompt := ← string value }
      | "denied_url" => return { config with deniedUrl := ← optional string value }
      | "anonymous_id" => return { config with anonymousId := ← optional string value }
      | "basic_realm" => return { config with basicRealm := ← string value }
      | "timeout_ms" => return { config with timeoutMs := ← natural value }
      | _ => return config)
    {}

def IntrospectionConfig.decode : Decoder IntrospectionConfig :=
  fields "IntrospectionConfig" ["cookie", "oauth2", "cookie_anonymous", "m2m"]
    (fun config key value =>
      match key with
      | "cookie" => return { config with cookie := ← optional string value }
      | "oauth2" => return { config with oauth2 := ← optional string value }
      | "cookie_anonymous" => return { config with cookieAnonymous := ← optional string value }
      | "m2m" => return { config with m2m := ← optional string value }
      | _ => return config)
    {}

def ExternalConfig.decode : Decoder ExternalConfig :=
  fields "ExternalConfig" ["base_url", "trust_forwarded_headers"]
    (fun config key value =>
      match key with
      | "base_url" => return { config with baseUrl := ← optional string value }
      | "trust_forwarded_headers" => return { config with trustForwarded := ← boolean value }
      | _ => return config)
    {}

def TimeoutConfig.decode : Decoder TimeoutConfig :=
  fields "TimeoutConfig" ["request_secs", "upstream_secs"]
    (fun config key value =>
      match key with
      | "request_secs" => return { config with requestSecs := ← natural value }
      | "upstream_secs" => return { config with serverSecs := ← natural value }
      | _ => return config)
    {}

def ObservabilityConfig.decode : Decoder ObservabilityConfig :=
  fields "ObservabilityConfig" ["log_level", "log_format", "metrics_enabled", "metrics_address"]
    (fun config key value =>
      match key with
      | "log_level" => return { config with logLevel := ← string value }
      | "log_format" => return { config with logFormat := ← LogFormat.decode value }
      | "metrics_enabled" => return { config with metricsEnabled := ← boolean value }
      | "metrics_address" => return { config with metricsAddress := ← string value }
      | _ => return config)
    {}

def GateConfig.decode : Decoder GateConfig :=
  fields "ProxyConfig"
    ["listener", "routes", "auth", "introspection", "external", "timeouts", "observability"]
    (fun config key value =>
      match key with
      | "listener" => return { config with listener := ← ListenerConfig.decode value }
      | "routes" => return { config with routes := ← list RouteConfig.decode value }
      | "auth" => return { config with auth := ← AuthConfig.decode value }
      | "introspection" => return { config with introspection := ← IntrospectionConfig.decode value }
      | "external" => return { config with external := ← ExternalConfig.decode value }
      | "timeouts" => return { config with timeouts := ← TimeoutConfig.decode value }
      | "observability" => return { config with observability := ← ObservabilityConfig.decode value }
      | _ => return config)
    {}

end AuthGate
