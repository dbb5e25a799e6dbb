import RequestDispatch.Application
import RequestDispatch.Controller.Outcome

/-!
# Events

What listeners see of a request at its four events, and what they can change. A listener of
the application does not get hold of an event itself; it answers with a reply that says what
to change. A reply can set a response, but it cannot take one away.
-/

namespace RequestDispatch

/-- The events of a request, in the order in which they are fired. -/
inductive EventName where
  /-- The request has come in and is not yet routed. -/
  | route
  /-- The controller has been built and is not yet dispatched. -/
  | controller
  /-- The controller has answered with something that is no response. -/
  | controllerResult
  /-- There is a response, which can still be changed. -/
  | filterResponse
deriving DecidableEq, Repr

/-- The name of an event. -/
def EventName.text : EventName → String
  | route => "onRoute"
  | controller => "onController"
  | controllerResult => "onControllerResult"
  | filterResponse => "onFilterResponse"

/-- A request before it is routed. -/
structure RouteEvent where
  /-- The request. -/
  request : Request
  /-- The response that answers it early, if one has been set. -/
  response : Option Response := none

/-- A request whose controller has been built. -/
structure ControllerEvent (app : Application) where
  /-- The request. -/
  request : Request
  /-- The controller. -/
  controller : app.Controller
  /-- The response that answers it early, if one has been set. -/
  response : Option Response := none

/-- A request whose controller has answered with something that is no response. -/
structure ResultEvent (app : Application) where
  /-- The request. -/
  request : Request
  /-- The controller. -/
  controller : app.Controller
  /-- The outcome. -/
  outcome : Outcome
  /-- The response that the outcome was turned into, if it has been. -/
  response : Option Response := none
  /-- Whether the listeners after the present one are passed over. -/
  stopped : Bool := false

/-- A request with its response. -/
structure FilterEvent where
  /-- The request. -/
  request : Request
  /-- The response. -/
  response : Response

/-- What a listener does to a request before it is routed. -/
structure RouteReply where
  /-- The request from now on. -/
  request : Request
  /-- A response that answers it. -/
  response : Option Response := none
  /-- Why the listener failed, if it did. -/
  failure : Option Failure := none

/-- What a listener does once the controller has been built. -/
structure ControllerReply (app : Application) where
  /-- Another controller. -/
  controller : Option app.Controller := none
  /-- A response that answers the request. -/
  response : Option Response := none
  /-- Why the listener failed, if it did. -/
  failure : Option Failure := none

/-- What a listener does with an outcome. -/
structure ResultReply where
  /-- Another outcome. -/
  outcome : Option Outcome := none
  /-- A response for the outcome. -/
  response : Option Response := none
  /-- Whether to pass over the listeners after this one. A response has this effect too. -/
  stop : Bool := false
  /-- Why the listener failed, if it did. -/
  failure : Option Failure := none

/-- What a listener does to a response. -/
structure FilterReply where
  /-- The response from now on. -/
  response : Response
  /-- Why the listener failed, if it did. -/
  failure : Option Failure := none

/-- What the listeners of an application do at each event. -/
structure Hooks (app : Application) where
  /-- Before routing. -/
  onRoute : app.Listener → RouteEvent → AppAction app RouteReply
  /-- When the controller has been built. -/
  onController : app.Listener → ControllerEvent app → AppAction app (ControllerReply app)
  /-- When there is an outcome. -/
  onControllerResult : app.Listener → ResultEvent app → AppAction app ResultReply
  /-- When there is a response. -/
  onFilterResponse : app.Listener → FilterEvent → AppAction app FilterReply

/-- The event after a reply. -/
def RouteEvent.after (event : RouteEvent) (reply : RouteReply) : RouteEvent :=
  ⟨reply.request, reply.response.or event.response⟩

/-- The event after a reply. -/
def ControllerEvent.after {app : Application} (event : ControllerEvent app)
    (reply : ControllerReply app) : ControllerEvent app :=
  { event with
    controller := reply.controller.getD event.controller
    response := reply.response.or event.response }

/-- The event after a reply. -/
def ResultEvent.after {app : Application} (event : ResultEvent app) (reply : ResultReply) :
    ResultEvent app :=
  { event with
    outcome := reply.outcome.getD event.outcome
    response := reply.response.or event.response
    stopped := event.stopped || reply.stop || reply.response.isSome }

/-- The event after a reply. -/
def FilterEvent.after (event : FilterEvent) (reply : FilterReply) : FilterEvent :=
  { event with response := reply.response }

end RequestDispatch
