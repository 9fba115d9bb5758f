import AuthGate.Text.Ascii

namespace AuthGate
open Text

/-- How much a record matters, from the most to the least. -/
inductive LogLevel where
  | error
  | warn
  | info
  | debug
  | trace
  deriving DecidableEq, Repr

namespace LogLevel

def label : LogLevel → String
  | .error => "ERROR"
  | .warn => "WARN"
  | .info => "INFO"
  | .debug => "DEBUG"
  | .trace => "TRACE"

/-- The number of levels that matter at least as much. -/
def rank : LogLevel → Nat
  | .error => 1
  | .warn => 2
  | .info => 3
  | .debug => 4
  | .trace => 5

end LogLevel

inductive LogValue where
  | text (value : String)
  | number (value : Nat)
  | truth (value : Bool)
  deriving DecidableEq, Repr

/-- A message of a part of the program, with named values. -/
structure LogRecord where
  level : LogLevel
  part : String
  message : String
  values : List (String × LogValue)
  deriving DecidableEq, Repr

/-- A character inside a quoted string of a JSON document: quotes, backslashes and controls are
escaped. -/
def jsonChar (c : Char) : List Char :=
  match c with
  | '"' => ['\\', '"']
  | '\\' => ['\\', '\\']
  | '\x08' => ['\\', 'b']
  | '\t' => ['\\', 't']
  | '\n' => ['\\', 'n']
  | '\x0c' => ['\\', 'f']
  | '\r' => ['\\', 'r']
  | _ =>
    if c.toNat < 0x20 then
      "\\u00".toList ++ (hexByte (UInt8.ofNat c.toNat)).map lower
    else [c]

def jsonString (text : String) : String :=
  String.ofList ('"' :: text.toList.flatMap jsonChar ++ ['"'])

def jsonObject (members : List (String × String)) : String :=
  "\x7b" ++ String.intercalate "," (members.map fun member => jsonString member.1 ++ ":" ++ member.2)
    ++ "\x7d"

namespace LogValue

def plain : LogValue → String
  | .text value => value
  | .number value => toString value
  | .truth value => if value then "true" else "false"

def json : LogValue → String
  | .text value => jsonString value
  | value => value.plain

end LogValue

namespace LogRecord

/-- A line for readers: the level, the part, the message and the values by name. -/
def plainLine (record : LogRecord) : String :=
  record.level.label ++ " " ++ record.part ++ ": " ++ record.message
    ++ String.join (record.values.map fun value => " " ++ value.1 ++ "=" ++ value.2.plain)

/-- A line for programs: an object with the message among the values. -/
def jsonLine (record : LogRecord) : String :=
  let values := ("message", jsonString record.message)
    :: record.values.map fun value => (value.1, value.2.json)
  jsonObject
    [("level", jsonString record.level.label), ("fields", jsonObject values),
      ("target", jsonString record.part)]

end LogRecord
end AuthGate
