import AuthGate.Decimal.Binary
import AuthGate.Text.Quoted

namespace AuthGate.Toml
open Text

/-- How a table came about: by its own header, on the way to the header of another, by a dotted key,
or in braces. -/
inductive TableForm where
  | headed
  | implied
  | dotted
  | braced
  deriving DecidableEq, Repr

inductive Value where
  | string (text : String)
  | integer (number : Int)
  | float (number : Binary)
  | boolean (value : Bool)
  | moment
  | array (headed : Bool) (items : List Value)
  | table (form : TableForm) (entries : List (String × Value))

namespace Value

/-- A value as messages name it. -/
def describe : Value → String
  | .string text => "string " ++ quoted text
  | .integer number => "integer `" ++ toString number ++ "`"
  | .float number => "floating point `" ++ number.text ++ "`"
  | .boolean value => "boolean `" ++ (if value then "true" else "false") ++ "`"
  | .moment => "map"
  | .array _ _ => "sequence"
  | .table _ _ => "map"

end Value

abbrev Entries := List (String × Value)

/-- Replace the value of a key that is there, keeping the order. -/
def Entries.replace (entries : Entries) (key : String) (value : Value) : Entries :=
  entries.map fun entry => if entry.1 = key then (key, value) else entry

def Entries.without (entries : Entries) (key : String) : Entries :=
  entries.filter (·.1 ≠ key)

/-- Replace or add the value of a key. -/
def Entries.put (entries : Entries) (key : String) (value : Value) : Entries :=
  if (entries.lookup key).isSome then entries.replace key value else entries ++ [(key, value)]

end AuthGate.Toml
