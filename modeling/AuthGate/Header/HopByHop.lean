import AuthGate.Header.Basic

namespace AuthGate
open Text

/-- The names that always concern one connection. -/
def hopByHop : List HeaderName :=
  [.connection, .keepAlive, .proxyAuthenticate, .proxyAuthorization, .te, .trailer,
    .transferEncoding, .upgrade]

namespace Headers

def isSpaceOrTab (c : Char) : Bool := c == ' ' || c == '\t'

/-- The entries of a list that commas separate, without the blanks around them. -/
def listEntries (text : String) : List String :=
  (text.toList.splitOn ',').map fun entry => String.ofList (trimWhile isSpaceOrTab entry)

/-- The names that visible values of `Connection` list. -/
def nominated (headers : Headers) : List HeaderName :=
  (((headers.values .connection).filterMap (·.text?)).flatMap listEntries).filterMap HeaderName.parse

/-- Remove what concerns one connection. -/
def stripHopByHop (headers : Headers) : Headers :=
  (headers.eraseAll headers.nominated).eraseAll hopByHop

end Headers
end AuthGate
