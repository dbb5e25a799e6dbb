import RequestDispatch.Route.Basic

/-!
# Route Tables

An ordered table of named routes. A request goes to the first route that matches it; a URL is
generated by the route of a given name. A route that is added under a name in use takes the
place of the old one, in the same position.
-/

namespace RequestDispatch

open Route Text

/-- A named route as it is configured. -/
structure RouteSetting where
  /-- The route's name. -/
  name : String
  /-- Its pattern. -/
  pattern : String
  /-- Its default parameters. -/
  defaults : Params := ∅
deriving DecidableEq

/-- An ordered table of named routes. -/
structure RouteTable where
  /-- The routes with their names, in matching order. -/
  routes : List (String × Route) := []
  /-- Where the route of each name stands. -/
  positions : NameMap Nat := ∅

namespace RouteTable

/-- The table without routes. -/
def empty : RouteTable := {}

/-- The number of routes. -/
def size (table : RouteTable) : Nat := table.routes.length

/-- Whether there are no routes. -/
def isEmpty (table : RouteTable) : Bool := table.routes.isEmpty

/-- Add a route under a name, in place of the route of that name if there is one. -/
def add (table : RouteTable) (name : String) (route : Route) : RouteTable :=
  match table.positions.get? name with
  | some position => { table with routes := table.routes.set position (name, route) }
  | none =>
    { routes := table.routes ++ [(name, route)]
      positions := table.positions.insert name table.routes.length }

/-- Add a route and report a replacement. -/
def addLogged (table : RouteTable) (name : String) (route : Route) : Logged RouteTable :=
  let replaced : LogLine :=
    { level := .warn
      component := .table
      message := "Replaced existing route"
      fields := [("route_name", .text name), ("pattern", .text route.pattern.source)] }
  ⟨table.add name route, if table.positions.contains name then [replaced] else []⟩

/-- The route of a name. -/
def get? (table : RouteTable) (name : String) : Option Route :=
  (table.positions.get? name).bind fun position => (table.routes[position]?).map (·.2)

/-- The names with their patterns, in matching order. -/
def patterns (table : RouteTable) : List (String × String) :=
  table.routes.map fun entry => (entry.1, entry.2.pattern.source)

/-- Compile configured routes one after another and add them to a table, up to the first that
does not compile. -/
def addSettings (table : RouteTable) :
    List RouteSetting → Logged (Except RouteError RouteTable)
  | [] => return .ok table
  | setting :: settings => do
    match ← Route.compile setting.pattern setting.defaults with
    | .error error => return .error error
    | .ok route =>
      let table ← table.addLogged setting.name route
      table.addSettings settings

/-- How many routes the report of a new table lists. -/
def summaryLength : Nat := 10

/-- The line that reports a new table. -/
def loadedLine (table : RouteTable) : LogLine where
  level := .info
  component := .table
  message := "Routing table loaded"
  fields := [
    ("routes_count", .number table.size),
    ("routes_summary", .text (quotedList ((table.patterns.take summaryLength).map
      fun entry => s!"{entry.1} {entry.2}")))]

/-- The table of configured routes, in the configured order. -/
def ofSettings (settings : List RouteSetting) : Logged (Except RouteError RouteTable) := do
  match ← empty.addSettings settings with
  | .error error => return .error error
  | .ok table =>
    Logged.write table.loadedLine
    return .ok table

/-- The line that lists a route: name and pattern, then its defaults if it has any, and a mark
if it answers by itself. -/
def routeLine (name : String) (route : Route) : String :=
  let defaults := route.defaults.entries.map fun entry => s!"{entry.1}={entry.2}"
  s!"{name}\t{route.pattern.source}"
    ++ (if defaults.isEmpty then "" else "\t" ++ ",".intercalate defaults)
    ++ (if route.callback.isSome then "\t(callback)" else "")
    ++ "\n"

/-- One line for every route, in matching order. -/
def listing (table : RouteTable) : String :=
  String.join (table.routes.map fun entry => routeLine entry.1 entry.2)

/-- Generate a URL by the route of a name. -/
def url (table : RouteTable) (name : String) (params : Params) (query fragment : String) :
    Logged (Except RouteError String) :=
  match table.get? name with
  | none => pure (.error (.unknownRoute name))
  | some route => route.url params query fragment

/-- Try routes in order. The result is the first one that matches, with the request it makes;
the request is handed on from each route to the next. -/
def tryRoutes : List (String × Route) → Request →
    Logged (Except RouteError (Option (String × Route)) × Request)
  | [], request => return (.ok none, request)
  | (name, route) :: routes, request => do
    match ← route.parse request with
    | (.error error, request) => return (.error error, request)
    | (.ok .matched, request) => return (.ok (some (name, route)), request)
    | (.ok .noMatch, request) => tryRoutes routes request

/-- Route a request: the route that matches it, with its name, and the request afterwards. -/
def routeNamed (table : RouteTable) (request : Request) :
    Logged (Except RouteError (String × Route) × Request) := do
  Logged.write {
    level := .debug, component := .table
    message := "Route match attempt"
    fields := [
      ("request_uri", .text request.uri),
      ("base_url", .text request.baseUrl),
      ("routes", .number table.size)] }
  match ← tryRoutes table.routes request with
  | (.error error, request) => return (.error error, request)
  | (.ok (some (name, route)), request) =>
    Logged.write {
      level := .info, component := .table
      message := "Route matched"
      fields := [
        ("route_name", .text name),
        ("pattern", .text route.pattern.source),
        ("module", .text request.module),
        ("controller", .text request.controller),
        ("action", .text request.action)] }
    return (.ok (name, route), request)
  | (.ok none, request) =>
    Logged.write {
      level := .warn, component := .table
      message := "No route matched"
      fields := [("request_uri", .text request.uri)] }
    return (.error (.notFound request.url), request)

/-- Route a request: the route that matches it, and the request afterwards. -/
def route (table : RouteTable) (request : Request) :
    Logged (Except RouteError Route × Request) := do
  let (result, request) ← table.routeNamed request
  return (result.map (·.2), request)

end RouteTable

end RequestDispatch
