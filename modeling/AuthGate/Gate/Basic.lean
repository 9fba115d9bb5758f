import AuthGate.Auth.DenialPolicy
import AuthGate.Config.Validation
import AuthGate.Gate.PublicAddress
import AuthGate.Route.Table

/-! The gate: all that its configuration says, ready to use. -/
namespace AuthGate

structure Gate where
  table : RouteTable
  introspector : Introspector
  denials : DenialPolicy
  address : PublicAddress
  trustForwarded : Bool
  serverTimeout : Duration
  requestTimeout : Duration

namespace Gate

/-- Build the parts of a gate: first the routes, then the introspection, then the denials. -/
def assemble (config : GateConfig) : Except Problem Gate := do
  let table ← RouteTable.compile config.routes
  let introspector ← Introspector.ofConfig config.introspection config.auth
  let denials ← DenialPolicy.ofConfig config.auth
  return {
    table, introspector, denials
    address := .ofConfig config.external config.listener.tls.isSome
    trustForwarded := config.external.trustForwarded
    serverTimeout := .ofSecs config.timeouts.serverSecs
    requestTimeout := .ofSecs config.timeouts.requestSecs }

/-- Check a configuration and build the gate. -/
def ofConfig (config : GateConfig) : Except (List Problem) Gate :=
  match config.validate with
  | .error problems => .error problems
  | .ok _ =>
    match assemble config with
    | .error problem => .error [problem]
    | .ok gate => .ok gate

end Gate
end AuthGate
