import AuthGate.Url.Host

/-! URLs in parts. Each part is kept as it is written in the serialized URL. -/
namespace AuthGate

/-- Why a text is not a URL. -/
inductive UrlError where
  | relative
  | emptyHost
  | invalidPort
  | invalidIpv4
  | invalidIpv6
  | invalidName
  | invalidCharacter
  deriving DecidableEq, Repr

def UrlError.message : UrlError → String
  | .relative => "relative URL without a base"
  | .emptyHost => "empty host"
  | .invalidPort => "invalid port number"
  | .invalidIpv4 => "invalid IPv4 address"
  | .invalidIpv6 => "invalid IPv6 address"
  | .invalidName => "invalid international domain name"
  | .invalidCharacter => "invalid domain character"

/-- A URL. Without an authority it has no host, and an authority may have an empty one. -/
structure Url where
  scheme : String
  userinfo : String
  host : Option Host
  port : Option Nat
  path : String
  query : Option String
  fragment : Option String
  deriving DecidableEq, Repr

namespace Url

/-- The schemes that share the rules of the web. -/
def isSpecial (scheme : String) : Bool :=
  ["http", "https", "ws", "wss", "ftp", "file"].contains scheme

def defaultPort? (scheme : String) : Option Nat :=
  if scheme = "http" || scheme = "ws" then some 80
  else if scheme = "https" || scheme = "wss" then some 443
  else if scheme = "ftp" then some 21
  else none

/-- The text of the host, unless there is none or it is empty. -/
def hostText? (url : Url) : Option String := (url.host.map (·.text)).filter (· ≠ "")

def portText (url : Url) : String :=
  match url.port with
  | none => ""
  | some port => ":" ++ toString port

def authorityText (url : Url) : String :=
  match url.host with
  | none => if url.path.toList.take 2 = ['/', '/'] then "/." else ""
  | some host =>
    "//" ++ (if url.userinfo.isEmpty then "" else url.userinfo ++ "@") ++ host.text ++ url.portText

def querySuffix (url : Url) : String :=
  match url.query with
  | none => ""
  | some query => "?" ++ query

def fragmentSuffix (url : Url) : String :=
  match url.fragment with
  | none => ""
  | some fragment => "#" ++ fragment

/-- The serialized URL. -/
def text (url : Url) : String :=
  url.scheme ++ ":" ++ url.authorityText ++ url.path ++ url.querySuffix ++ url.fragmentSuffix

end Url
end AuthGate
