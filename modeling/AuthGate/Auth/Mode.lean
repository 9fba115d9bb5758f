namespace AuthGate

inductive AuthMode where
  | none
  | cookie
  | oauth2
  | cookieAnonymous
  | m2m
  deriving DecidableEq, Repr

namespace AuthMode

def label : AuthMode → String
  | .none => "none"
  | .cookie => "cookie"
  | .oauth2 => "oauth2"
  | .cookieAnonymous => "cookie_anonymous"
  | .m2m => "m2m"

/-- All modes in the order in which they are listed. -/
def all : List AuthMode := [.none, .cookie, .oauth2, .cookieAnonymous, .m2m]

def parse (text : String) : Option AuthMode := all.find? (·.label = text)

/-- Requests are introspected before they are sent on. -/
def introspects (mode : AuthMode) : Bool := mode ≠ .none

/-- A failed login still gives an anonymous session. -/
def isAnonymous (mode : AuthMode) : Bool := mode = .cookieAnonymous

/-- Clients are programs that cannot follow a redirect to a login page. -/
def isMachine (mode : AuthMode) : Bool := mode = .m2m

end AuthMode
end AuthGate
