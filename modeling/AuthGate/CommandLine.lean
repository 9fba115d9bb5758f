import AuthGate.Startup

namespace AuthGate
open Text

/-- The values that the surroundings of a run give. -/
structure Surroundings where
  config : Option String := none
  logFilter : Option String := none
  deriving DecidableEq, Repr

/-- What a command line asks for. -/
inductive Invocation where
  | run (configPath : String)
  | help
  | misuse
  deriving DecidableEq, Repr

namespace Invocation

def defaultPath : String := "auth-proxy.toml"

/-- An argument that is an option: a dash and something behind it. -/
def isOption (argument : String) : Bool :=
  match argument.toList with
  | '-' :: _ :: _ => true
  | _ => false

/-- An option as it is written: its path in the same argument, or in the next one. -/
inductive OptionForm where
  | help
  | attached (path : String)
  | separate
  | unknown
  deriving DecidableEq, Repr

def longForm (text : List Char) : OptionForm :=
  match splitFirst (· == '=') text with
  | (name, none) =>
    if name = "help".toList then .help
    else if name = "config".toList then .separate
    else .unknown
  | (name, some path) =>
    if name = "config".toList then .attached (String.ofList path) else .unknown

def shortForm (text : List Char) : OptionForm :=
  match text with
  | 'h' :: _ => .help
  | ['c'] => .separate
  | 'c' :: '=' :: path => .attached (String.ofList path)
  | 'c' :: path => .attached (String.ofList path)
  | _ => .unknown

def optionForm (argument : String) : OptionForm :=
  match argument.toList with
  | '-' :: '-' :: name => longForm name
  | '-' :: letters => shortForm letters
  | _ => .unknown

/-- No path was given on the command line. -/
def ofSurroundings (surroundings : Surroundings) : Invocation :=
  match surroundings.config with
  | none => .run defaultPath
  | some "" => .misuse
  | some path => .run path

/-- Read arguments one after another. A path may be given once and not be empty; nothing but
options is expected. -/
def parseFrom (surroundings : Surroundings) (given : Option String) : List String → Invocation
  | [] =>
    match given with
    | some path => .run path
    | none => ofSurroundings surroundings
  | ["--"] => parseFrom surroundings given []
  | argument :: rest =>
    match optionForm argument with
    | .help => .help
    | .unknown => .misuse
    | .attached path =>
      if path.isEmpty || given.isSome then .misuse else parseFrom surroundings (some path) rest
    | .separate =>
      match rest with
      | [] => .misuse
      | path :: rest =>
        if path.isEmpty || isOption path || given.isSome then .misuse
        else parseFrom surroundings (some path) rest

def parse (surroundings : Surroundings) (arguments : List String) : Invocation :=
  parseFrom surroundings none arguments

end Invocation

/-- The text that explains the command line. -/
def helpLines (surroundings : Surroundings) : List String :=
  ["Reverse proxy that authorizes requests by token introspection", "",
    "Usage: auth-proxy [OPTIONS]", "", "Options:",
    "  -c, --config <CONFIG>  Path to the TOML configuration file [env: AUTH_PROXY_CONFIG="
      ++ surroundings.config.getD "" ++ "] [default: " ++ Invocation.defaultPath ++ "]",
    "  -h, --help             Print help"]

/-- A run of the program: what it writes before and after it is stopped, unless it never gets so
far, and how it ends. -/
structure Run where
  exitCode : Nat
  started : List String
  stopped : Option (List String) := none
  error : Option StartupError := none
  deriving DecidableEq, Repr

namespace Run

/-- A run with a configuration that has been read. -/
def ofConfig (surroundings : Surroundings) (machine : Machine) (signal : StopSignal)
    (config : GateConfig) : Run :=
  let written := Startup.lines surroundings.logFilter config
  let launch := Startup.launch machine config
  let started := written launch.records
  match launch.error with
  | some cause => { exitCode := 1, started, error := some cause }
  | none => { exitCode := 0, started, stopped := some (written (Startup.ending config signal)) }

def ofArguments (surroundings : Surroundings) (machine : Machine) (signal : StopSignal)
    (arguments : List String) : Run :=
  match Invocation.parse surroundings arguments with
  | .help => { exitCode := 0, started := helpLines surroundings }
  | .misuse => { exitCode := 2, started := [] }
  | .run path =>
    match (machine.files path).loadConfig with
    | .error cause => { exitCode := 1, started := [], error := some (.config cause) }
    | .ok config => ofConfig surroundings machine signal config

end Run
end AuthGate
