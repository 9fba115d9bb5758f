import AuthGate.Pattern.Replacement

namespace AuthGate

/-- Replaces the first match of a pattern in a path. -/
structure Substitution where
  pattern : Pattern
  replacement : String

namespace Substitution

def parse (pattern replacement : String) : Except PatternError Substitution := do
  return ⟨← Pattern.parse pattern, replacement⟩

/-- A path that begins with a slash, which is added if it is missing. -/
def absolute (path : List Char) : List Char :=
  if path.head? = some '/' then path else '/' :: path

/-- The changed path; `none` if the pattern does not match. -/
def result? (substitution : Substitution) (path : String) : Option String :=
  (substitution.pattern.replaceFirst? substitution.replacement.toList path.toList).map fun path =>
    String.ofList (absolute path)

/-- The path to send on: a path that the pattern does not match is kept. -/
def apply (substitution : Substitution) (path : String) : String :=
  (substitution.result? path).getD path

end Substitution
end AuthGate
