import RequestDispatch.Controller.Registry
import RequestDispatch.Controller.Resolver
import RequestDispatch.Kernel.Handling
import RequestDispatch.Route.Table

/-!
# The Request Pipeline

The kernel takes a request through its stages: the event before routing, routing, the route's
callback, building the controller, the event of the built controller, dispatching it, and the
event of its outcome. Each of these can answer the request, and then those after it are
skipped. Whatever response there is goes through the event that filters responses.
-/

namespace RequestDispatch

open Text

/-- What chooses a route for a request. The second component of its result is the request
afterwards. -/
abbrev Router (app : Application) := Request → AppAction app (Except RouteError Route × Request)

/-- A route table as a router. It uses nothing of the application. -/
def RouteTable.router {app : Application} (table : RouteTable) : Router app :=
  fun request => .ofLogged (table.route request)

/-- What builds a controller for a routed request. -/
abbrev ControllerFactory (app : Application) := Request → AppAction app app.Controller

/-- A request-dispatch kernel. -/
structure Kernel (app : Application) where
  /-- What chooses a route. -/
  router : Router app
  /-- What finds the controller of a routed request. -/
  resolver : ControllerResolver
  /-- The files that controllers and views are looked for in. -/
  files : FileSystem
  /-- What builds controllers. -/
  controllers : ControllerRegistry (ControllerFactory app) := {}
  /-- What a controller does with a request: its outcome, or why it failed, and the request
  afterwards. -/
  dispatch : app.Controller → Request → AppAction app (Except Failure Outcome × Request)
  /-- What the listeners of the application do. -/
  hooks : Hooks app
  /-- The base URL of requests that have none of their own. -/
  baseUrl : Option String := none

/-- What comes of an event that can answer a request early. -/
inductive Early (α : Type) where
  /-- The request is answered. -/
  | answered (response : Response)
  /-- Handling goes on. -/
  | goOn (value : α)

namespace Kernel

variable {app : Application} (kernel : Kernel app)

/-- Give a request that has no base URL of its own the kernel's. -/
def stampBaseUrl (request : Request) : Request :=
  match kernel.baseUrl with
  | some baseUrl => if request.baseUrl = "/" then { request with baseUrl } else request
  | none => request

/-- The event before routing. Listeners may change the request, even if one of them fails. -/
def fireRoute : Handling app (Option Response) := do
  let request ← Handling.request
  let (failure, event) ← Handling.deliver (routeDelivery kernel.hooks) { request }
  Handling.setRequest event.request
  match failure with
  | some failure => Handling.fail (.listener .route failure)
  | none => return event.response

/-- Route the request. -/
def runRouter : Handling app Route := do
  Handling.record .routed
  let (result, request) ← Handling.act (kernel.router (← Handling.request))
  Handling.setRequest request
  match result with
  | .error error => Handling.fail (.route error)
  | .ok route => return route

/-- The event before routing, routing, and the callback of the route. -/
def routeStage : Handling app (Early Unit) := do
  match ← kernel.fireRoute with
  | some response =>
    Handling.write .debug "Short-circuit: listener answered before routing"
      [("event", .text EventName.route.text)]
    return .answered response
  | none =>
    let route ← kernel.runRouter
    match route.answer? (← Handling.request) with
    | some response =>
      Handling.write .debug "Short-circuit: route callback answered"
        [("pattern", .text route.pattern.source)]
      return .answered response
    | none => return .goOn ()

/-- The identity and the factory of the controller that the request was routed to. -/
def findController : Handling app (String × ControllerFactory app) := do
  let request ← Handling.request
  match ← Handling.ofLogged
      (kernel.resolver.resolve kernel.files request.module request.controller) with
  | .error error => Handling.fail (.configuration error)
  | .ok resolved =>
    match kernel.controllers.get? resolved.identity with
    | some factory => return (resolved.identity, factory)
    | none =>
      Handling.write .warn "Controller not registered" [
        ("identity", .text resolved.identity),
        ("registered", .text (quotedList kernel.controllers.identities))]
      Handling.fail (.configuration (.controllerNotRegistered resolved.identity))

/-- Build the controller that the request was routed to. -/
def buildController : Handling app (String × app.Controller) := do
  let (identity, factory) ← kernel.findController
  Handling.record (.built identity)
  let controller ← Handling.act (factory (← Handling.request))
  Handling.write .debug "Controller built" [("identity", .text identity)]
  return (identity, controller)

/-- The event of the built controller. -/
def controllerStage (controller : app.Controller) : Handling app (Early app.Controller) := do
  let request ← Handling.request
  let event ← Handling.fire (controllerDelivery kernel.hooks) { request, controller }
  match event.response with
  | some response =>
    Handling.write .debug "Short-circuit: listener answered before dispatch"
      [("event", .text EventName.controller.text)]
    return .answered response
  | none => return .goOn event.controller

/-- Dispatch the controller. -/
def dispatchController (identity : String) (controller : app.Controller) : Handling app Outcome := do
  Handling.record (.dispatched identity)
  let (result, request) ← Handling.act (kernel.dispatch controller (← Handling.request))
  Handling.setRequest request
  match result with
  | .ok outcome => return outcome
  | .error failure =>
    Handling.write .error "Controller dispatch failed"
      [("identity", .text identity), ("error", .text failure.message)]
    Handling.fail (.controller identity failure)

/-- Turn an outcome into a response. -/
def resultStage (controller : app.Controller) (outcome : Outcome) : Handling app Response := do
  match outcome with
  | .response response => return response
  | outcome =>
    let request ← Handling.request
    let event ←
      Handling.fire (resultDelivery kernel.hooks kernel.files) { request, controller, outcome }
    match event.response with
    | some response => return response
    | none =>
      Handling.write .error "No response produced"
        [("outcome", .text event.outcome.kindName)]
      Handling.fail (.integrity event.outcome.kindName)

/-- The stages up to the outcome of the controller that is dispatched. -/
def outcomeStage : Handling app (Early (app.Controller × Outcome)) := do
  match ← kernel.routeStage with
  | .answered response => return .answered response
  | .goOn () =>
    let (identity, controller) ← kernel.buildController
    match ← kernel.controllerStage controller with
    | .answered response => return .answered response
    | .goOn controller =>
      let outcome ← kernel.dispatchController identity controller
      return .goOn (controller, outcome)

/-- The response to the request, before it is filtered. -/
def decide : Handling app Response := do
  match ← kernel.outcomeStage with
  | .answered response => return response
  | .goOn (controller, outcome) => kernel.resultStage controller outcome

/-- The event of the response. -/
def filterStage (response : Response) : Handling app Response := do
  let request ← Handling.request
  let event ← Handling.fire (filterDelivery kernel.hooks) { request, response }
  return event.response

/-- Take the request through all stages. -/
def pipeline : Handling app Response := do
  Handling.setRequest (kernel.stampBaseUrl (← Handling.request))
  let response ← kernel.filterStage (← kernel.decide)
  Handling.write .info "Request handled" [("status", .number response.status)]
  return response

/-- Handle a request: the response, or why there is none, with the request and the scene
afterwards. -/
def handle (request : Request) (scene : Scene app) : Handled app Response :=
  kernel.pipeline { request, scene }

end Kernel

end RequestDispatch
