import AuthGate.Address.Ip
import AuthGate.Header.Basic

/-! Fields that tell a server which client, scheme and host a request came from. -/
namespace AuthGate

/-- The client side of a connection. -/
structure Client where
  ip : Option Ip
  proto : String
  host : String
  deriving DecidableEq, Repr

namespace Headers

/-- The chain of addresses with the client's own at its end. A chain that came with the request is
kept only if it is trusted. -/
def forwardedChain (headers : Headers) (trust : Bool) (ip : Ip) : String :=
  match headers.firstText? .forwardedFor with
  | some existing => if trust then existing ++ ", " ++ ip.text else ip.text
  | none => ip.text

/-- Describe the client. -/
def setForwarded (headers : Headers) (client : Client) (trust : Bool) : Headers :=
  let chained := match client.ip with
    | some ip => headers.insertText .forwardedFor (headers.forwardedChain trust ip)
    | none => if trust then headers else headers.erase .forwardedFor
  (chained.insertText .forwardedProto client.proto).insertText .forwardedHost client.host

end Headers
end AuthGate
