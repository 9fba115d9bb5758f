import AuthGate.Path
import AuthGate.Uri.PathAndQuery

namespace AuthGate

/-- A URI has an origin form, an absolute form, or names an authority alone. -/
inductive Uri where
  | origin (target : PathAndQuery)
  | absolute (scheme authority : String) (target : PathAndQuery)
  | authorityOnly (name : String)
  deriving DecidableEq, Repr

namespace Uri
open Text

def scheme? : Uri → Option String
  | .absolute scheme _ _ => some scheme
  | _ => none

def authority? : Uri → Option String
  | .origin _ => none
  | .absolute _ authority _ => some authority
  | .authorityOnly name => some name

def target? : Uri → Option PathAndQuery
  | .origin target => some target
  | .absolute _ _ target => some target
  | .authorityOnly _ => none

/-- The path; an authority alone has none. -/
def path (uri : Uri) : String :=
  match uri.target? with
  | some target => target.path
  | none => ""

def query? (uri : Uri) : Option String := uri.target?.bind (·.query)

/-- The text of a URI. -/
def text : Uri → String
  | .origin target => target.path ++ target.querySuffix
  | .absolute scheme authority target =>
    scheme ++ "://" ++ authority ++ target.path ++ target.querySuffix
  | .authorityOnly name => name

def isSchemeChar (c : Char) : Bool := isAlphanum c || c == '+' || c == '-' || c == '.'

def maxSchemeLength : Nat := 64

/-- Split a scheme and its two slashes off a text. The two schemes of the web are written in lower
case, any other is kept as it is. -/
def splitScheme (text : List Char) : Except UriError (Option (String × List Char)) :=
  let scheme := text.takeWhile isSchemeChar
  if text.length ≤ 3 then .ok none
  else match dropPrefix? [':', '/', '/'] (text.drop scheme.length) with
  | none => .ok none
  | some rest =>
    let common := scheme.map lower
    if common = ['h', 't', 't', 'p'] || common = ['h', 't', 't', 'p', 's'] then
      .ok (some (String.ofList common, rest))
    else if scheme.length > maxSchemeLength then .error .schemeTooLong
    else .ok (some (String.ofList scheme, rest))

/-- Read a URI. -/
def parse (text : String) : Except UriError Uri := do
  if text.utf8ByteSize > PathAndQuery.maxLength then .error .tooLong
  else
    match text.toList with
    | [] => .error .emptyText
    | '/' :: _ => return .origin (← PathAndQuery.parse text)
    | ['*'] => return .origin (← PathAndQuery.parse text)
    | [_] => return .authorityOnly (← Authority.parse text)
    | chars =>
      match ← splitScheme chars with
      | none =>
        let (authority, rest) ← Authority.scan chars
        if rest.isEmpty then return .authorityOnly (String.ofList authority) else .error .invalidFormat
      | some (scheme, behind) =>
        let (authority, rest) ← Authority.scan behind
        if authority.isEmpty then .error .invalidFormat
        else return .absolute scheme (String.ofList authority) (← PathAndQuery.parse (String.ofList rest))

/-- Replace the path and query, keeping scheme and authority. A URI that names an authority alone
has no place for them. -/
def withTarget? (uri : Uri) (target : PathAndQuery) : Option Uri :=
  match uri with
  | .origin _ => some (.origin target)
  | .absolute scheme authority _ => some (.absolute scheme authority target)
  | .authorityOnly _ => none

/-- The URI with its path in normal form. The query is kept as it was sent. -/
def normalize (uri : Uri) : Except PathError Uri := do
  let path ← Path.normalize uri.path
  let text :=
    match uri.query? with
    | some query => path ++ "?" ++ query
    | none => path
  match PathAndQuery.parse text with
  | .error _ => .error .badEscape
  | .ok target =>
    match uri.withTarget? target with
    | some normalized => .ok normalized
    | none => .error .badEscape

end Uri
end AuthGate
