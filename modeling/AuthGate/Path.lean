import AuthGate.Text.Ascii

/-! Request paths. A path has one normal form: escapes of unreserved characters are decoded, other
escapes are in upper case, dot segments are resolved and slashes are merged. -/
namespace AuthGate

/-- Why a path has no normal form. -/
inductive PathError where
  | notAbsolute
  | badEscape
  | encodedSeparator
  deriving DecidableEq, Repr

def PathError.message : PathError → String
  | .notAbsolute => "path is not absolute"
  | .badEscape => "malformed percent-encoding"
  | .encodedSeparator => "percent-encoded path separator"

namespace Path
open Text

/-- Characters that mean the same with and without an escape. -/
def isUnreserved (c : Char) : Bool :=
  isAlphanum c || c == '-' || c == '.' || c == '_' || c == '~'

def isSeparator (c : Char) : Bool := c == '/' || c == '\\'

/-- The number behind a percent sign. A plus sign is accepted in place of the first digit. -/
def escapeValue? (first second : Char) : Option Nat :=
  match hexValue? first, hexValue? second with
  | some high, some low => some (16 * high + low)
  | none, some low => if first = '+' then some low else none
  | _, none => none

/-- Decode the escapes of unreserved characters and write the others in upper case. The first
escape that is malformed or hides a separator decides the error. -/
def decodeUnreserved : List Char → Except PathError (List Char)
  | [] => .ok []
  | '%' :: first :: second :: rest =>
    match escapeValue? first second with
    | none => .error .badEscape
    | some value =>
      let c := Char.ofNat value
      if isSeparator c then .error .encodedSeparator
      else if isUnreserved c then (c :: ·) <$> decodeUnreserved rest
      else ('%' :: upper first :: upper second :: ·) <$> decodeUnreserved rest
  | '%' :: _ => .error .badEscape
  | c :: rest => (c :: ·) <$> decodeUnreserved rest

/-- One step of resolution on the segments kept so far, the last one first. -/
def pushSegment (kept : List (List Char)) (segment : List Char) : List (List Char) :=
  if segment = [] ∨ segment = ['.'] then kept
  else if segment = ['.', '.'] then kept.tail
  else segment :: kept

/-- The segments that remain in order after dot segments are resolved, never above the root. -/
def resolve (segments : List (List Char)) : List (List Char) :=
  (segments.foldl pushSegment []).reverse

/-- A last segment that is empty or a dot segment names a directory. -/
def namesDirectory (segments : List (List Char)) : Bool :=
  match segments.getLast? with
  | none => false
  | some last => last = [] || last = ['.'] || last = ['.', '.']

/-- Write segments as an absolute path. The root is always a directory. -/
def render (segments : List (List Char)) (directory : Bool) : List Char :=
  segments.flatMap ('/' :: ·) ++ if segments.isEmpty || directory then ['/'] else []

/-- The normal form of a path. -/
def normalize (path : String) : Except PathError String :=
  match path.toList with
  | '/' :: rest => do
    let decoded ← decodeUnreserved rest
    let segments := decoded.splitOn '/'
    return String.ofList (render (resolve segments) (namesDirectory segments))
  | _ => .error .notAbsolute

/-- Paths are matched by plain text: `/api` is also the beginning of `/apix`. -/
def startsWith (path beginning : String) : Bool :=
  beginning.toList.isPrefixOf path.toList

end Path
end AuthGate
