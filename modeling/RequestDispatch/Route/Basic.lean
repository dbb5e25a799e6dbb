import RequestDispatch.Http.Response
import RequestDispatch.Route.Generation

/-!
# Routes

A route is a pattern with default parameters and, if it answers requests itself, a callback.
Matching a request against a route merges three layers of parameters: those the request has,
those captured from its path, and the route's defaults, later layers winning. The names
`module`, `controller` and `action` are not kept as parameters; they become the request's
identity.
-/

namespace RequestDispatch

open Route Text

/-- A function that answers a request without a controller. Callbacks are restricted to functions of
the request: unlike listeners, routers and controllers, they can neither use the plugins and the
memory of the application nor register listeners or write log lines. -/
abbrev RouteCallback := Request → Response

/-- A pattern with default parameters and an optional callback. -/
structure Route where
  /-- The compiled pattern. -/
  pattern : Pattern
  /-- Parameters that every matching request gets. -/
  defaults : Params
  /-- Answers matching requests without a controller. -/
  callback : Option RouteCallback := none

/-- Whether a route applies to a request. -/
inductive RouteMatch where
  /-- It applies, and the request has been routed. -/
  | matched
  /-- It does not apply, and the request is as it was. -/
  | noMatch
deriving DecidableEq, Repr

/-- Give a request an identity and parameters from merged parameters. The reserved names are
taken out of the parameters; a reserved name that is not there leaves its part of the identity
as it was. -/
def Request.route (request : Request) (merged : Params) : Request :=
  { request with
    module := (merged.get? "module").getD request.module
    controller := (merged.get? "controller").getD request.controller
    action := (merged.get? "action").getD request.action
    params := ((merged.erase "module").erase "controller").erase "action" }

/-- The part of a request's URL that routes are matched against: what follows the base URL,
the slash at its end included. There is none if the URL does not begin with the base URL. -/
def Request.routedPath? (request : Request) : Option String :=
  let base := request.baseUrl.toList
  let url := request.url.toList
  if base.isPrefixOf url then
    some (String.ofList (url.drop ((init? ['/'] base).getD base).length))
  else none

namespace Route

/-- Compile a pattern into a route. -/
def compile (pattern : String) (defaults : Params) : Logged (Except RouteError Route) := do
  match ← Pattern.compileLogged pattern with
  | .error error => return .error error
  | .ok pattern => return .ok { pattern, defaults }

/-- Answer a request by the callback, if there is one. -/
def answer? (route : Route) (request : Request) : Option Response :=
  route.callback.map fun callback => callback request

/-- Match a request against the route. The second component is the request afterwards. -/
def parse (route : Route) (request : Request) :
    Logged (Except RouteError RouteMatch × Request) := do
  match request.routedPath? with
  | none =>
    Logged.write {
      level := .warn, component := .route
      message := "Request url does not match base url"
      fields := [("request_url", .text request.url), ("base_url", .text request.baseUrl)] }
    return (.error (.mismatch request.url request.baseUrl), request)
  | some path =>
    match route.pattern.captures path with
    | none =>
      Logged.write {
        level := .debug, component := .route
        message := "Route did not match"
        fields := [("pattern", .text route.pattern.source), ("path", .text path)] }
      return (.ok .noMatch, request)
    | some captured =>
      let routed := request.route ((request.params.override captured).override route.defaults)
      Logged.write {
        level := .debug, component := .route
        message := "Route pattern matched"
        fields := [
          ("pattern", .text route.pattern.source),
          ("module", .text routed.module),
          ("controller", .text routed.controller),
          ("action", .text routed.action),
          ("params", .text (quotedMap routed.params.entries))] }
      return (.ok .matched, routed)

/-- Generate a URL. -/
def url (route : Route) (params : Params) (query fragment : String) :
    Logged (Except RouteError String) :=
  route.pattern.buildLogged params query fragment

end Route

end RequestDispatch
