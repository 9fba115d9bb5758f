import AuthGate.Domain.Basic
import AuthGate.Url.Basic
import AuthGate.Url.Percent

/-! Reading URLs by the rules of the web: blanks around the text and line breaks inside it are
ignored, hosts are brought into their one form, dot segments are resolved, and what a part cannot
hold is escaped. -/
namespace AuthGate.Url
open Text

def isControlOrBlank (c : Char) : Bool := c ≤ ' '

def isBreak (c : Char) : Bool := c == '\t' || c == '\n' || c == '\r'

/-- The characters of a text that count. -/
def significant (text : String) : List Char :=
  (trimWhile isControlOrBlank text.toList).filter (!isBreak ·)

/-- The scheme in lower case and what follows its colon. -/
def splitScheme? (text : List Char) : Option (String × List Char) :=
  match text with
  | [] => none
  | c :: _ =>
    let scheme := text.takeWhile fun c => isAlphanum c || c == '+' || c == '-' || c == '.'
    match text.drop scheme.length with
    | ':' :: rest => if isAlpha c then some (String.ofList (scheme.map lower), rest) else none
    | _ => none

/-- A slash; in special URLs a backslash is one as well. -/
def isSlash (special : Bool) (c : Char) : Bool := c == '/' || (special && c == '\\')

/-- A character that ends the authority. -/
def endsAuthority (special : Bool) (c : Char) : Bool := isSlash special c || c == '?' || c == '#'

/-- Split at the last `@` of an authority. -/
def splitUserinfo (authority : List Char) : Option (List Char) × List Char :=
  match splitFirst (· == '@') authority.reverse with
  | (host, some user) => (some user.reverse, host.reverse)
  | (_, none) => (none, authority)

/-- User and password as they are written; an empty password has no colon. -/
def userinfoText (user : List Char) : String :=
  let (name, password) := splitFirst (· == ':') user
  let encode := Percent.encode Percent.inUserinfo
  match password with
  | none | some [] => String.ofList (encode name)
  | some secret => String.ofList (encode name ++ ':' :: encode secret)

/-- The host at the beginning of a text, up to a colon outside brackets. -/
def takeHost (bracket : Bool) : List Char → List Char
  | [] => []
  | c :: rest =>
    if c = ':' && !bracket then []
    else c :: takeHost (if c = '[' then true else if c = ']' then false else bracket) rest

/-- An address of version six in its brackets. -/
def bracketed (text : List Char) : Except UrlError Host :=
  if text.getLast? = some ']' then
    match Ip.v6? (text.drop 1).dropLast with
    | some pieces => .ok (.ip (.v6 pieces))
    | none => .error .invalidIpv6
  else .error .invalidIpv6

/-- The host of a special URL. -/
def specialHost (text : List Char) : Except UrlError Host :=
  if text.head? = some '[' then bracketed text
  else
    match (ofUtf8? (Percent.decode (utf8 text))).bind fun name => Domain.toAscii? name.toList with
    | none => .error .invalidName
    | some name =>
      if name.isEmpty then .error .emptyHost
      else if Host.endsInNumber name then
        match Host.ipv4? name with
        | some address => .ok (.ip (.v4 address))
        | none => .error .invalidIpv4
      else .ok (.name (String.ofList name))

/-- The host of any other URL, which is taken as it is. -/
def plainHost (text : List Char) : Except UrlError Host :=
  if text.head? = some '[' then bracketed text
  else if text.any fun c => c == '\x00' || " #/:<>?@[\\]^|".toList.contains c then
    .error .invalidCharacter
  else .ok (.name (String.ofList (Percent.encode Percent.inControls text)))

/-- A port of at most sixteen bits and what follows it; the default port of the scheme is left
out. -/
def takePort (scheme : String) (text : List Char) : Except UrlError (Option Nat × List Char) :=
  let digits := text.takeWhile isDigit
  let rest := text.drop digits.length
  let port := digitsValue? 10 digits
  let ended := match rest with
    | [] => true
    | c :: _ => endsAuthority true c
  if (port.getD 0) > 65535 || !ended then .error .invalidPort
  else .ok (port.filter fun port => defaultPort? scheme ≠ some port, rest)

def isDot (segment : List Char) : Bool :=
  [".", "%2e"].contains (String.ofList (segment.map lower))

def isDoubleDot (segment : List Char) : Bool :=
  ["..", "%2e.", ".%2e", "%2e%2e"].contains (String.ofList (segment.map lower))

/-- The letter of a drive and its mark, as paths of files may begin with. -/
def isDrive : List Char → Bool
  | [c, mark] => isAlpha c && (mark == ':' || mark == '|')
  | _ => false

/-- Leave a directory; the first segment of a file's path stays if it names a drive. -/
def leave (file : Bool) (done : List (List Char)) : List (List Char) :=
  match done with
  | [only] => if file && isDrive only then [only] else []
  | _ => done.tail

/-- Resolve the segments of a path; `done` is reversed. A dot segment at the end leaves an empty
segment behind. -/
def resolve (file : Bool) (done : List (List Char)) : List (List Char) → List (List Char)
  | [] => done.reverse
  | segment :: rest =>
    let mark := if rest.isEmpty then [[]] else []
    if isDoubleDot segment then resolve file (mark ++ leave file done) rest
    else if isDot segment then resolve file (mark ++ done) rest
    else
      let encoded := Percent.encode Percent.inPath segment
      let driven := match done, encoded with
        | [], [c, '|'] => if file && isAlpha c then [c, ':'] else encoded
        | _, _ => encoded
      resolve file (driven :: done) rest

/-- The path of a URL that has a hierarchy, from the text behind its first slash. -/
def hierarchicalPath (special file : Bool) (text : List Char) : String :=
  let segments := resolve file [] (text.splitOnP (isSlash special))
  let kept := if file then segments.dropWhile (·.isEmpty) else segments
  let shown := if kept.isEmpty then [[]] else kept
  String.ofList (shown.flatMap ('/' :: ·))

/-- The query and the fragment at the end of a text. -/
def suffixes (special : Bool) (text : List Char) : Option String × Option String :=
  let (before, fragment) := splitFirst (· == '#') text
  let set := if special then Percent.inSpecialQuery else Percent.inQuery
  let query := match before with
    | '?' :: query => some (String.ofList (Percent.encode set query))
    | _ => none
  (query, fragment.map fun f => String.ofList (Percent.encode Percent.inFragment f))

/-- The part before the query and the rest. -/
def splitPath (text : List Char) : List Char × List Char :=
  let inPath (c : Char) : Bool := c != '?' && c != '#'
  (text.takeWhile inPath, text.dropWhile inPath)

/-- The path behind an authority. A special URL always has one. -/
def pathAfterAuthority (special file : Bool) (path : List Char) : String :=
  match path with
  | [] => if special then "/" else ""
  | c :: rest => hierarchicalPath special file (if isSlash special c then rest else path)

/-- A URL from its authority on. -/
def withAuthority (scheme : String) (text : List Char) : Except UrlError Url := do
  let special := isSpecial scheme
  let (user, host) := splitUserinfo (text.takeWhile (!endsAuthority special ·))
  let behind := text.dropWhile (!endsAuthority special ·)
  let userinfo := userinfoText (user.getD [])
  let hostChars := takeHost false host
  if hostChars.isEmpty && (special || (user == some [] && !behind.isEmpty)) then .error .emptyHost
  else
    let parsed ← if special then specialHost hostChars else plainHost hostChars
    let portChars := host.drop hostChars.length ++ behind
    if hostChars.isEmpty && (portChars.head? == some ':' || !userinfo.isEmpty) then .error .emptyHost
    else
      let (port, rest) ← match portChars with
        | ':' :: digits => takePort scheme digits
        | _ => .ok (none, portChars)
      let (path, tail) := splitPath rest
      let (query, fragment) := suffixes special tail
      return ⟨scheme, userinfo, some parsed, port, pathAfterAuthority special false path, query,
        fragment⟩

/-- A URL without an authority, whose path may be plain text. -/
def withoutAuthority (scheme : String) (text : List Char) : Url :=
  let (path, tail) := splitPath text
  let shown := match path with
    | '/' :: rest => hierarchicalPath false false rest
    | _ => String.ofList (Percent.encode Percent.inControls path)
  let (query, fragment) := suffixes false tail
  ⟨scheme, "", none, none, shown, query, fragment⟩

/-- A path begins with the letter of a drive. -/
def beginsWithDrive (path : List Char) : Bool :=
  isDrive ((path.dropWhile (isSlash true)).takeWhile (!isSlash true ·))

/-- A URL of a file. The local host is the same as none, and so is any host before a drive. -/
def ofFile (text : List Char) : Except UrlError Url := do
  let (before, tail) := splitPath text
  let (query, fragment) := suffixes true tail
  let build (host : Host) (path : List Char) : Url :=
    ⟨"file", "", some (if beginsWithDrive path then .name "" else host), none,
      pathAfterAuthority true true path, query, fragment⟩
  match before with
  | a :: b :: rest =>
    if isSlash true a && isSlash true b then
      let name := rest.takeWhile (!isSlash true ·)
      if isDrive name then return build (.name "") rest
      else if name.isEmpty then return build (.name "") rest
      else
        let host ← specialHost name
        return build (if host = .name "localhost" then .name "" else host) (rest.drop name.length)
    else return build (.name "") before
  | _ => return build (.name "") before

/-- Read a URL. -/
def parse (text : String) : Except UrlError Url :=
  match splitScheme? (significant text) with
  | none => .error .relative
  | some (scheme, rest) =>
    if scheme = "file" then ofFile rest
    else if isSpecial scheme then withAuthority scheme (rest.dropWhile (isSlash true))
    else
      match rest with
      | '/' :: '/' :: behind => withAuthority scheme behind
      | _ => .ok (withoutAuthority scheme rest)

end AuthGate.Url
