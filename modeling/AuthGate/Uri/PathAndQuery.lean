import AuthGate.Uri.Authority

namespace AuthGate

/-- A path as it was written, possibly empty, and what follows its first question mark. -/
structure PathAndQuery where
  written : String
  query : Option String
  deriving DecidableEq, Repr

namespace PathAndQuery
open Text

/-- The characters that a path may hold: those that need no escape, the brackets and quotes of
embedded data, and everything beyond ASCII. -/
def isPathChar (c : Char) : Bool :=
  c == '!' || ('$' ≤ c && c ≤ ';') || c == '=' || ('@' ≤ c && c ≤ '_') || isLower c
    || c == '|' || c == '~' || c == '"' || c == '\x7b' || c == '\x7d' || !isAscii c

/-- The characters that a query may hold. -/
def isQueryChar (c : Char) : Bool :=
  c == '!' || ('$' ≤ c && c ≤ ';') || c == '=' || ('?' ≤ c && c ≤ '~') || !isAscii c

/-- The most bytes that a URI, or its path and query, may have. -/
def maxLength : Nat := 65534

/-- A path and query begins with one of its delimiters, or is the asterisk alone. -/
def startsProperly (text : List Char) : Bool :=
  match text with
  | [] => true
  | c :: rest => Authority.isEnd c || (c == '*' && rest.isEmpty)

/-- Read a path and query. A fragment is cut off. -/
def parse (text : String) : Except UriError PathAndQuery :=
  if text.utf8ByteSize > maxLength then .error .tooLong
  else if !startsProperly text.toList then .error .noLeadingSlash
  else
    let written := text.toList.takeWhile fun c => c != '?' && c != '#'
    let behind := text.toList.dropWhile fun c => c != '?' && c != '#'
    if !written.all isPathChar then .error .invalidCharacter
    else
      match behind with
      | '?' :: rest =>
        let query := rest.takeWhile (· != '#')
        if !query.all isQueryChar then .error .invalidCharacter
        else .ok ⟨String.ofList written, some (String.ofList query)⟩
      | _ => .ok ⟨String.ofList written, none⟩

/-- The path; one that was not written is the root. -/
def path (target : PathAndQuery) : String :=
  if target.written.isEmpty then "/" else target.written

def querySuffix (target : PathAndQuery) : String :=
  match target.query with
  | none => ""
  | some query => "?" ++ query

/-- The text as it was written; when nothing was written it is the root. -/
def text (target : PathAndQuery) : String :=
  if target.written.isEmpty && target.query.isNone then "/" else target.written ++ target.querySuffix

end PathAndQuery
end AuthGate
