import AuthGate.Text.Ascii

/-! Names of header fields. A name is kept in lower case, so names that differ in case alone are
equal. -/
namespace AuthGate
open Text

/-- The characters of a name in lower case. -/
def isNameChar (c : Char) : Bool :=
  isLower c || isDigit c || "!#$%&'*+-.^_`|~".toList.contains c

/-- A text that is a name as it stands: not empty, not too long, and without capitals. -/
def isHeaderName (text : String) : Bool :=
  !text.toList.isEmpty && text.toList.length ≤ 65535 && text.toList.all isNameChar

structure HeaderName where
  text : String
  valid : isHeaderName text = true
  deriving DecidableEq

namespace HeaderName

instance : Repr HeaderName := ⟨fun name _ => repr name.text⟩

/-- Read a name in any case. -/
def parse (text : String) : Option HeaderName :=
  let lowered := String.ofList (text.toList.map lower)
  if h : isHeaderName lowered = true then some ⟨lowered, h⟩ else none

/-- What is said of a text that is no name. -/
def problem : String := "invalid HTTP header name"

def authorization : HeaderName := ⟨"authorization", by decide⟩
def cacheControl : HeaderName := ⟨"cache-control", by decide⟩
def connection : HeaderName := ⟨"connection", by decide⟩
def contentType : HeaderName := ⟨"content-type", by decide⟩
def cookie : HeaderName := ⟨"cookie", by decide⟩
def host : HeaderName := ⟨"host", by decide⟩
def keepAlive : HeaderName := ⟨"keep-alive", by decide⟩
def location : HeaderName := ⟨"location", by decide⟩
def proxyAuthenticate : HeaderName := ⟨"proxy-authenticate", by decide⟩
def proxyAuthorization : HeaderName := ⟨"proxy-authorization", by decide⟩
def setCookie : HeaderName := ⟨"set-cookie", by decide⟩
def te : HeaderName := ⟨"te", by decide⟩
def trailer : HeaderName := ⟨"trailer", by decide⟩
def transferEncoding : HeaderName := ⟨"transfer-encoding", by decide⟩
def upgrade : HeaderName := ⟨"upgrade", by decide⟩
def userAgent : HeaderName := ⟨"user-agent", by decide⟩
def wwwAuthenticate : HeaderName := ⟨"www-authenticate", by decide⟩
def forwardedFor : HeaderName := ⟨"x-forwarded-for", by decide⟩
def forwardedProto : HeaderName := ⟨"x-forwarded-proto", by decide⟩
def forwardedHost : HeaderName := ⟨"x-forwarded-host", by decide⟩
def requestId : HeaderName := ⟨"x-request-id", by decide⟩
def requestUri : HeaderName := ⟨"x-request-uri", by decide⟩

end HeaderName
end AuthGate
