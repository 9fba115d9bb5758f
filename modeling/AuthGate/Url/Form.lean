import AuthGate.Url.Basic
import AuthGate.Url.Percent

/-! Queries as lists of pairs: names and values are joined by `=`, pairs by `&`, and a blank is
written as a plus sign. -/
namespace AuthGate.Form
open Text

/-- The bytes that are written as they are. -/
def isPlain (b : UInt8) : Bool :=
  let c := Char.ofNat b.toNat
  isAlphanum c || c == '*' || c == '-' || c == '.' || c == '_'

def encodeByte (b : UInt8) : List Char :=
  if isPlain b then [Char.ofNat b.toNat] else if b = 0x20 then ['+'] else Percent.escapeByte b

def encode (text : String) : List Char := (utf8 text.toList).flatMap encodeByte

/-- One pair of a query. -/
def encodePair (pair : String × String) : List Char := encode pair.1 ++ '=' :: encode pair.2

/-- Pairs behind the text that a query already has. -/
def append (query : String) (pairs : List (String × String)) : String :=
  pairs.foldl
    (fun query pair =>
      (if query.isEmpty then query else query ++ "&") ++ String.ofList (encodePair pair))
    query

end AuthGate.Form

namespace AuthGate.Url

/-- The URL with pairs appended to its query. -/
def appendPairs (url : Url) (pairs : List (String × String)) : Url :=
  { url with query := some (Form.append (url.query.getD "") pairs) }

end AuthGate.Url
