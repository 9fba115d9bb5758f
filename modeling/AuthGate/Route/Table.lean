import AuthGate.Route.Basic

namespace AuthGate

structure RouteTable where
  routes : List Route

namespace RouteTable

/-- Read routes from a position on. -/
def compileFrom : Nat → List RouteConfig → Except Problem (List Route)
  | _, [] => .ok []
  | index, config :: configs =>
    match Route.compile index config with
    | .error problem => .error problem
    | .ok route =>
      match compileFrom (index + 1) configs with
      | .error problem => .error problem
      | .ok routes => .ok (route :: routes)

def compile (configs : List RouteConfig) : Except Problem RouteTable :=
  match compileFrom 0 configs with
  | .error problem => .error problem
  | .ok routes => .ok ⟨routes⟩

/-- Routes behind another one with the same beginning, which never get a request. -/
def shadowedAfter (earlier : List String) : List Route → List Route
  | [] => []
  | route :: routes =>
    let behind := shadowedAfter (route.pathBase :: earlier) routes
    if earlier.contains route.pathBase then route :: behind else behind

def shadowed (table : RouteTable) : List Route := shadowedAfter [] table.routes

/-- The closest of several routes; of equally close ones the first. -/
def closest : List Route → Option Route
  | [] => none
  | route :: routes =>
    match closest routes with
    | none => some route
    | some other => if route.specificity < other.specificity then some other else some route

/-- The route of a path. -/
def find? (table : RouteTable) (path : String) : Option Route :=
  closest (table.routes.filter (·.covers path))

/-- Where the route of a path stands in the table: it is the first one with its beginning. -/
def position? (table : RouteTable) (path : String) : Option Nat :=
  (table.find? path).bind fun route => table.routes.findIdx? (·.pathBase = route.pathBase)

end RouteTable
end AuthGate
