import AuthGate.Header.Basic

namespace AuthGate
open Text

structure Credentials where
  authorization : Option HeaderValue
  cookie : Option HeaderValue
  deriving DecidableEq, Repr

namespace Credentials

def cookieSeparator : List UInt8 := utf8 "; ".toList

/-- All cookies in one value. -/
def foldCookies : List HeaderValue → Option HeaderValue
  | [] => none
  | first :: rest =>
    some ((HeaderValue.ofBytes? (HeaderValue.joinBytes cookieSeparator (first :: rest))).getD first)

def ofHeaders (headers : Headers) : Credentials :=
  ⟨headers.first? .authorization, foldCookies (headers.values .cookie)⟩

def isEmpty (credentials : Credentials) : Bool :=
  credentials.authorization.isNone && credentials.cookie.isNone

end Credentials
end AuthGate
