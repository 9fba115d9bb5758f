import AuthGate.Header.Name
import AuthGate.Header.Value

namespace AuthGate

/-- The fields of a message in the order in which they were added. -/
structure Headers where
  lines : List (HeaderName × HeaderValue)
  deriving DecidableEq, Repr

namespace Headers

def empty : Headers := ⟨[]⟩

/-- All values of a name in order. -/
def values (headers : Headers) (name : HeaderName) : List HeaderValue :=
  (headers.lines.filter (·.1 = name)).map (·.2)

def first? (headers : Headers) (name : HeaderName) : Option HeaderValue :=
  (headers.values name).head?

def append (headers : Headers) (name : HeaderName) (value : HeaderValue) : Headers :=
  ⟨headers.lines ++ [(name, value)]⟩

def appendAll (headers : Headers) (name : HeaderName) (values : List HeaderValue) : Headers :=
  ⟨headers.lines ++ values.map (name, ·)⟩

def erase (headers : Headers) (name : HeaderName) : Headers :=
  ⟨headers.lines.filter (·.1 ≠ name)⟩

def eraseAll (headers : Headers) (names : List HeaderName) : Headers :=
  names.foldl erase headers

/-- Replace all values of a name by one. -/
def insert (headers : Headers) (name : HeaderName) (value : HeaderValue) : Headers :=
  (headers.erase name).append name value

/-- Replace all values of a name by one, or remove them. -/
def replace (headers : Headers) (name : HeaderName) (value : Option HeaderValue) : Headers :=
  match value with
  | some value => headers.insert name value
  | none => headers.erase name

/-- Replace all values of a name by a text, unless the text is no value. -/
def insertText (headers : Headers) (name : HeaderName) (text : String) : Headers :=
  match HeaderValue.ofText? text with
  | some value => headers.insert name value
  | none => headers

/-- The text of the first value of a name, if that is visible. -/
def firstText? (headers : Headers) (name : HeaderName) : Option String :=
  (headers.first? name).bind (·.text?)

/-- The fields sorted by name. -/
def sorted (headers : Headers) : List (HeaderName × HeaderValue) :=
  headers.lines.mergeSort fun a b => a.1.text ≤ b.1.text

end Headers
end AuthGate
