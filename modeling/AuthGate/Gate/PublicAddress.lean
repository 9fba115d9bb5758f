import AuthGate.Config.Basic
import AuthGate.Header.Forwarded
import AuthGate.Header.HopByHop
import AuthGate.Message.Basic

/-! The address that a client used for a request, as far as the gate can tell. -/
namespace AuthGate
open Text

/-- A configured base of all addresses, and what is assumed without one. -/
structure PublicAddress where
  base : Option String
  trustForwarded : Bool
  defaultScheme : String
  deriving DecidableEq, Repr

namespace PublicAddress

def trimSlashes (text : String) : String := String.ofList (dropEndWhile (· == '/') text.toList)

def ofConfig (config : ExternalConfig) (tls : Bool) : PublicAddress :=
  ⟨config.baseUrl.map trimSlashes, config.trustForwarded, if tls then "https" else "http"⟩

/-- The first entry of a list that commas separate. -/
def firstEntry (text : String) : String :=
  String.ofList (trimWhile Headers.isSpaceOrTab (text.toList.takeWhile (· != ',')))

/-- What a proxy in front of the gate says, if it is trusted and says something. -/
def forwarded? (address : PublicAddress) (headers : Headers) (name : HeaderName) : Option String :=
  if address.trustForwarded then
    ((headers.firstText? name).map firstEntry).filter (!·.isEmpty)
  else none

def scheme (address : PublicAddress) (headers : Headers) : String :=
  (address.forwarded? headers .forwardedProto).getD address.defaultScheme

def fallbackHost : String := "localhost"

/-- The host that a client addressed. -/
def host (address : PublicAddress) (headers : Headers) (uri : Uri) : String :=
  match address.forwarded? headers .forwardedHost with
  | some host => host
  | none =>
    match headers.firstText? .host with
    | some host => host
    | none => uri.authority?.getD fallbackHost

/-- Path and query as they were written; an authority alone stands for the root. -/
def pathAndQuery (uri : Uri) : String :=
  match uri.target? with
  | some target => target.text
  | none => "/"

/-- The URI that the client used. -/
def requestedUri (address : PublicAddress) (headers : Headers) (uri : Uri) : String :=
  match address.base with
  | some base => base ++ pathAndQuery uri
  | none => address.scheme headers ++ "://" ++ address.host headers uri ++ pathAndQuery uri

/-- The client of a request. -/
def client (address : PublicAddress) (ip : Option Ip) (headers : Headers) (uri : Uri) : Client :=
  ⟨ip, address.scheme headers, address.host headers uri⟩

end PublicAddress
end AuthGate
