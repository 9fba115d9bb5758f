import AuthGate.Config.Decoder
import AuthGate.Config.Validation

namespace AuthGate
open Text

/-- Why a configuration cannot be loaded. -/
inductive LoadError where
  | unreadable (reason : String)
  | undecodable (error : DecodeError)
  | invalid (problems : List Problem)
  deriving DecidableEq, Repr

def problemsText (problems : List Problem) : String :=
  "Validation failed: " ++ String.intercalate ", " (problems.map (·.text))

namespace GateConfig

/-- Read and check a document. -/
def parse (text : String) : Except LoadError GateConfig :=
  match Toml.parse text with
  | none => .error (.undecodable .malformed)
  | some value =>
    match GateConfig.decode value with
    | .error error => .error (.undecodable error)
    | .ok config =>
      match config.validate with
      | .error problems => .error (.invalid problems)
      | .ok _ => .ok config

/-- Read and check the bytes of a file. -/
def ofBytes (bytes : List UInt8) : Except LoadError GateConfig :=
  match ofUtf8? bytes with
  | some text => parse text
  | none => .error (.unreadable "stream did not contain valid UTF-8")

end GateConfig
end AuthGate
