import AuthGate.Address.Socket
import AuthGate.Config.Loader

namespace AuthGate
open Text

/-- What is found under a path. -/
inductive FileEntry where
  | missing
  | directory
  | document (bytes : List UInt8)
  deriving DecidableEq, Repr

abbrev Files := String → FileEntry

namespace FileEntry

/-- The configuration in a file. -/
def loadConfig : FileEntry → Except LoadError GateConfig
  | .missing => .error (.unreadable "No such file or directory (os error 2)")
  | .directory => .error (.unreadable "Is a directory (os error 21)")
  | .document bytes => GateConfig.ofBytes bytes

end FileEntry

/-- Why the files of a certificate and its key cannot be used. -/
inductive TlsError where
  | notFound (role path : String)
  | unreadable
  | unusable
  deriving DecidableEq, Repr

def TlsError.message? : TlsError → Option String
  | .notFound role path => some (role ++ " file not found: " ++ path)
  | .unreadable | .unusable => none

/-- A file holds a block of its kind, between lines of dashes. -/
def holdsBlock (kind : String) (bytes : List UInt8) : Bool :=
  occursIn (utf8 ("-----BEGIN " ++ kind ++ "-----").toList) bytes

def keyKinds : List String := ["PRIVATE KEY", "RSA PRIVATE KEY", "EC PRIVATE KEY"]

namespace TlsConfig

/-- Look for the certificate and its key, first whether they are there and then what they hold. -/
def check (config : TlsConfig) (files : Files) : Except TlsError Unit :=
  match files config.certPath, files config.keyPath with
  | .missing, _ => .error (.notFound "Certificate" config.certPath)
  | _, .missing => .error (.notFound "Private key" config.keyPath)
  | .document cert, .document key =>
    if holdsBlock "CERTIFICATE" cert && keyKinds.any (holdsBlock · key) then .ok ()
    else .error .unusable
  | _, _ => .error .unreadable

end TlsConfig

namespace Ip

/-- The address that stands for all addresses of a machine. -/
def isWildcard : Ip → Bool
  | .v4 address => address == 0
  | .v6 pieces => pieces.all (· == 0)

end Ip

namespace SocketAddress

/-- Two addresses that cannot both be listened at. A port of zero lets the machine choose one. -/
def collides (first second : SocketAddress) : Bool :=
  first.port == second.port && first.port != 0
    && (first.ip == second.ip || first.ip.isWildcard || second.ip.isWildcard)

/-- The text of an address that is listened at, with the port that the machine chose. -/
def textOpened (address : SocketAddress) (chosenPort : String) : String :=
  if address.port = 0 then
    let host := match address.ip with
      | .v4 _ => address.ip.text
      | .v6 _ => "[" ++ address.ip.text ++ "]"
    host ++ ":" ++ chosenPort
  else address.text

end SocketAddress

/-- The files of a machine and the port that it chooses where none is given. -/
structure Machine where
  files : Files
  chosenPort : String

end AuthGate
