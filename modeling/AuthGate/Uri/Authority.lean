import AuthGate.Text.Ascii

namespace AuthGate

/-- Why a text is not a URI, or not the part of one that was asked for. -/
inductive UriError where
  | tooLong
  | emptyText
  | invalidCharacter
  | invalidAuthority
  | invalidFormat
  | schemeTooLong
  | noLeadingSlash
  deriving DecidableEq, Repr

def UriError.message : UriError → String
  | .tooLong => "uri too long"
  | .emptyText => "empty string"
  | .invalidCharacter => "invalid uri character"
  | .invalidAuthority => "invalid authority"
  | .invalidFormat => "invalid format"
  | .schemeTooLong => "scheme too long"
  | .noLeadingSlash => "path does not start with slash"

namespace Authority
open Text

/-- The characters that an authority may hold apart from a percent sign. -/
def isPlain (c : Char) : Bool :=
  isAlphanum c || "!$&'()*+,-.:;=@[]_~".toList.contains c

/-- A path, a query or a fragment ends the authority. -/
def isEnd (c : Char) : Bool := c == '/' || c == '?' || c == '#'

/-- What has been seen since the last `@` or `]`, and the brackets of the whole text. -/
structure Scan where
  colons : Nat := 0
  opened : Bool := false
  closed : Bool := false
  percent : Bool := false
  endsWithAt : Bool := false
  deriving Repr, DecidableEq

/-- The most colons that may stand together, as in a full address of version six. -/
def maxColons : Nat := 8

def Scan.step (scan : Scan) (c : Char) : Except UriError Scan :=
  let next := { scan with endsWithAt := c == '@' }
  if c = ':' then
    if scan.colons ≥ maxColons then .error .invalidAuthority
    else .ok { next with colons := scan.colons + 1 }
  else if c = '[' then
    if scan.percent || scan.opened then .error .invalidAuthority else .ok { next with opened := true }
  else if c = ']' then
    if !scan.opened || scan.closed then .error .invalidAuthority
    else .ok { next with closed := true, colons := 0, percent := false }
  else if c = '@' then .ok { next with colons := 0, percent := false }
  else if c = '%' then .ok { next with percent := true }
  else if isPlain c then .ok next
  else .error .invalidCharacter

/-- Brackets pair, at most a port follows the host, and the host has no escape. -/
def Scan.accepts (scan : Scan) : Bool :=
  scan.opened == scan.closed && scan.colons ≤ 1 && !scan.endsWithAt && !scan.percent

/-- Split a text into the authority at its beginning and the rest. -/
def scan (text : List Char) : Except UriError (List Char × List Char) := do
  if text.isEmpty then .error .emptyText
  else
    let authority := text.takeWhile (!isEnd ·)
    let last ← authority.foldlM Scan.step {}
    if last.accepts then .ok (authority, text.dropWhile (!isEnd ·)) else .error .invalidAuthority

/-- Read a text that is an authority and nothing more. -/
def parse (text : String) : Except UriError String := do
  let (authority, rest) ← scan text.toList
  if rest.isEmpty then return String.ofList authority else .error .invalidCharacter

end Authority
end AuthGate
