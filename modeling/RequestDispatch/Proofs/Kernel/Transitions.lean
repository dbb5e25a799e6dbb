import Mathlib.Logic.Relation
import RequestDispatch.Kernel.Pipeline

/-!
# The Stages as a Transition System

The stages of a kernel, drawn as arrows between the positions that the handling of a request
can be at. `Kernel.Transition` has one rule per arrow, with the condition under which it is
taken, what it does to the request and the scene, and the step that it records.

`Kernel.Reaches` says what the handling of a request comes to along the arrows. At most one
arrow leaves a configuration (`Kernel.rightUnique_transition`) and none leaves a final one
(`Kernel.not_transition_of_isFinal`), so that whatever a request reaches lies on the way to
where its handling ends (`Kernel.Reaches.reaches_final`).
-/

namespace RequestDispatch

/-- What can produce a response. -/
inductive Source where
  /-- A listener, before routing. -/
  | routeListener
  /-- The callback of the route. -/
  | callback
  /-- A listener, before the controller is dispatched. -/
  | controllerListener
  /-- The controller itself. -/
  | outcome
  /-- A listener that turns the outcome into a response. -/
  | resultListener
deriving DecidableEq, Repr

/-- How far the handling of a request has come. -/
inductive Position (app : Application) where
  /-- The request has been received. -/
  | received
  /-- No listener has answered before routing. -/
  | unrouted
  /-- The router has chosen a route. -/
  | routed (route : Route)
  /-- The route's callback has not answered. -/
  | unserved
  /-- The factory of the controller has been found. -/
  | found (identity : String) (factory : ControllerFactory app)
  /-- The controller has been built. -/
  | built (identity : String) (controller : app.Controller)
  /-- No listener has answered before dispatch. -/
  | accepted (identity : String) (controller : app.Controller)
  /-- The controller has been dispatched. -/
  | dispatched (controller : app.Controller) (outcome : Outcome)
  /-- There is a response. -/
  | answered (source : Source) (response : Response)
  /-- The response has been filtered. -/
  | filtered (response : Response)
  /-- Handling has failed. -/
  | failed (error : KernelError)

/-- A position with the request and the scene there, and the steps taken up to it. -/
structure Configuration (app : Application) where
  /-- The position. -/
  position : Position app
  /-- The request and the scene. -/
  state : HandlingState app
  /-- The steps so far, in order. -/
  steps : List KernelStep

namespace Position

variable {app : Application}

/-- Where handling ends, given what comes of it. -/
def ofResult : Except KernelError Response → Position app
  | .ok response => filtered response
  | .error error => failed error

/-- Different results end at different positions. -/
theorem ofResult_injective :
    Function.Injective (ofResult : Except KernelError Response → Position app) := by
  rintro (_ | _) (_ | _) heq <;> cases heq <;> rfl

/-- Handling ends here. -/
def IsFinal (position : Position app) : Prop := ∃ result, position = ofResult result

end Position

namespace Kernel

open Delivery (Delivered)
open Relation (ReflTransGen)

variable {app : Application} (kernel : Kernel app)

/-- What comes of the event before routing. -/
def onRoute (state : HandlingState app) : Delivered app RouteEvent :=
  ((routeDelivery kernel.hooks).fire { request := state.request } state.scene).value

/-- What comes of the event of a built controller. -/
def onController (state : HandlingState app) (controller : app.Controller) :
    Delivered app (ControllerEvent app) :=
  ((controllerDelivery kernel.hooks).fire { request := state.request, controller }
    state.scene).value

/-- What comes of the event of an outcome. -/
def onControllerResult (state : HandlingState app) (controller : app.Controller)
    (outcome : Outcome) : Delivered app (ResultEvent app) :=
  ((resultDelivery kernel.hooks kernel.files).fire
    { request := state.request, controller, outcome } state.scene).value

/-- What comes of the event of a response. -/
def onFilterResponse (state : HandlingState app) (response : Response) :
    Delivered app FilterEvent :=
  ((filterDelivery kernel.hooks).fire { request := state.request, response } state.scene).value

/-- What comes of looking for the controller of a request. -/
def resolved (request : Request) : Except ConfigurationError ResolvedController :=
  (kernel.resolver.resolve kernel.files request.module request.controller).value

/-- One arrow between the stages of a kernel. -/
inductive Transition : Configuration app → Configuration app → Prop where
  /-- A listener fails before routing. What it did to the request stays. -/
  | routeListenerFails {state steps failure event scene heard}
      (hfired : kernel.onRoute state = ⟨some failure, event, scene, heard⟩) :
      Transition ⟨.received, state, steps⟩
        ⟨.failed (.listener .route failure), ⟨event.request, scene⟩,
          steps ++ [.fired .route heard]⟩
  /-- A listener answers before routing. -/
  | routeListenerAnswers {state steps event scene heard response}
      (hfired : kernel.onRoute state = ⟨none, event, scene, heard⟩)
      (hanswer : event.response = some response) :
      Transition ⟨.received, state, steps⟩
        ⟨.answered .routeListener response, ⟨event.request, scene⟩,
          steps ++ [.fired .route heard]⟩
  /-- The request goes to the router. -/
  | routeListenersPass {state steps event scene heard}
      (hfired : kernel.onRoute state = ⟨none, event, scene, heard⟩)
      (hanswer : event.response = none) :
      Transition ⟨.received, state, steps⟩
        ⟨.unrouted, ⟨event.request, scene⟩, steps ++ [.fired .route heard]⟩
  /-- The router finds no route. -/
  | routerFails {state steps error request scene}
      (hrouted : (state.scene.run (kernel.router state.request)).value =
        ((.error error, request), scene)) :
      Transition ⟨.unrouted, state, steps⟩
        ⟨.failed (.route error), ⟨request, scene⟩, steps ++ [.routed]⟩
  /-- The router finds a route. -/
  | routerSucceeds {state steps route request scene}
      (hrouted : (state.scene.run (kernel.router state.request)).value =
        ((.ok route, request), scene)) :
      Transition ⟨.unrouted, state, steps⟩
        ⟨.routed route, ⟨request, scene⟩, steps ++ [.routed]⟩
  /-- The route's callback answers. -/
  | callbackAnswers {state steps route response}
      (hanswer : route.answer? state.request = some response) :
      Transition ⟨.routed route, state, steps⟩ ⟨.answered .callback response, state, steps⟩
  /-- The route has no callback, or it does not answer. -/
  | callbackPasses {state steps route} (hanswer : route.answer? state.request = none) :
      Transition ⟨.routed route, state, steps⟩ ⟨.unserved, state, steps⟩
  /-- The request is not resolved to a controller. -/
  | resolverFails {state steps error} (hresolved : kernel.resolved state.request = .error error) :
      Transition ⟨.unserved, state, steps⟩ ⟨.failed (.configuration error), state, steps⟩
  /-- There is no factory for the controller. -/
  | factoryMissing {state steps controller}
      (hresolved : kernel.resolved state.request = .ok controller)
      (hfactory : kernel.controllers.get? controller.identity = none) :
      Transition ⟨.unserved, state, steps⟩
        ⟨.failed (.configuration (.controllerNotRegistered controller.identity)), state, steps⟩
  /-- There is a factory for the controller. -/
  | factoryFound {state steps controller factory}
      (hresolved : kernel.resolved state.request = .ok controller)
      (hfactory : kernel.controllers.get? controller.identity = some factory) :
      Transition ⟨.unserved, state, steps⟩ ⟨.found controller.identity factory, state, steps⟩
  /-- The factory builds the controller. -/
  | factoryBuilds {state steps identity factory controller scene}
      (hbuilt : (state.scene.run (factory state.request)).value = (controller, scene)) :
      Transition ⟨.found identity factory, state, steps⟩
        ⟨.built identity controller, { state with scene }, steps ++ [.built identity]⟩
  /-- A listener fails before dispatch. -/
  | controllerListenerFails {state steps identity controller failure event scene heard}
      (hfired : kernel.onController state controller = ⟨some failure, event, scene, heard⟩) :
      Transition ⟨.built identity controller, state, steps⟩
        ⟨.failed (.listener .controller failure), { state with scene },
          steps ++ [.fired .controller heard]⟩
  /-- A listener answers before dispatch. -/
  | controllerListenerAnswers {state steps identity controller event scene heard response}
      (hfired : kernel.onController state controller = ⟨none, event, scene, heard⟩)
      (hanswer : event.response = some response) :
      Transition ⟨.built identity controller, state, steps⟩
        ⟨.answered .controllerListener response, { state with scene },
          steps ++ [.fired .controller heard]⟩
  /-- The controller that the listeners have left goes to dispatch. -/
  | controllerListenersPass {state steps identity controller event scene heard}
      (hfired : kernel.onController state controller = ⟨none, event, scene, heard⟩)
      (hanswer : event.response = none) :
      Transition ⟨.built identity controller, state, steps⟩
        ⟨.accepted identity event.controller, { state with scene },
          steps ++ [.fired .controller heard]⟩
  /-- The controller fails. -/
  | dispatchFails {state steps identity controller failure request scene}
      (hran : (state.scene.run (kernel.dispatch controller state.request)).value =
        ((.error failure, request), scene)) :
      Transition ⟨.accepted identity controller, state, steps⟩
        ⟨.failed (.controller identity failure), ⟨request, scene⟩,
          steps ++ [.dispatched identity]⟩
  /-- The controller has an outcome. -/
  | dispatchSucceeds {state steps identity controller outcome request scene}
      (hran : (state.scene.run (kernel.dispatch controller state.request)).value =
        ((.ok outcome, request), scene)) :
      Transition ⟨.accepted identity controller, state, steps⟩
        ⟨.dispatched controller outcome, ⟨request, scene⟩, steps ++ [.dispatched identity]⟩
  /-- The outcome is a response. -/
  | outcomeAnswers {state steps controller response} :
      Transition ⟨.dispatched controller (.response response), state, steps⟩
        ⟨.answered .outcome response, state, steps⟩
  /-- A listener fails to make a response of the outcome. -/
  | resultListenerFails {state steps controller outcome failure event scene heard}
      (houtcome : outcome.isResponse = false)
      (hfired : kernel.onControllerResult state controller outcome =
        ⟨some failure, event, scene, heard⟩) :
      Transition ⟨.dispatched controller outcome, state, steps⟩
        ⟨.failed (.listener .controllerResult failure), { state with scene },
          steps ++ [.fired .controllerResult heard]⟩
  /-- A listener makes a response of the outcome. -/
  | resultListenerAnswers {state steps controller outcome event scene heard response}
      (houtcome : outcome.isResponse = false)
      (hfired : kernel.onControllerResult state controller outcome =
        ⟨none, event, scene, heard⟩)
      (hanswer : event.response = some response) :
      Transition ⟨.dispatched controller outcome, state, steps⟩
        ⟨.answered .resultListener response, { state with scene },
          steps ++ [.fired .controllerResult heard]⟩
  /-- No listener makes a response of the outcome. -/
  | resultListenersPass {state steps controller outcome event scene heard}
      (houtcome : outcome.isResponse = false)
      (hfired : kernel.onControllerResult state controller outcome =
        ⟨none, event, scene, heard⟩)
      (hanswer : event.response = none) :
      Transition ⟨.dispatched controller outcome, state, steps⟩
        ⟨.failed (.integrity event.outcome.kindName), { state with scene },
          steps ++ [.fired .controllerResult heard]⟩
  /-- A listener fails to filter the response. -/
  | filterFails {state steps source response failure event scene heard}
      (hfired : kernel.onFilterResponse state response = ⟨some failure, event, scene, heard⟩) :
      Transition ⟨.answered source response, state, steps⟩
        ⟨.failed (.listener .filterResponse failure), { state with scene },
          steps ++ [.fired .filterResponse heard]⟩
  /-- The listeners filter the response. -/
  | filterSucceeds {state steps source response event scene heard}
      (hfired : kernel.onFilterResponse state response = ⟨none, event, scene, heard⟩) :
      Transition ⟨.answered source response, state, steps⟩
        ⟨.filtered event.response, { state with scene }, steps ++ [.fired .filterResponse heard]⟩

/-- What the handling of a request comes to. It begins with the kernel's base URL stamped on the
request. -/
def Reaches (request : Request) (scene : Scene app) : Configuration app → Prop :=
  ReflTransGen kernel.Transition ⟨.received, ⟨kernel.stampBaseUrl request, scene⟩, []⟩

/-- A source produces a response to a request, which leaves this state for the response to be
filtered in. -/
def Produces (request : Request) (scene : Scene app) (source : Source) (response : Response)
    (state : HandlingState app) : Prop :=
  ∃ steps, kernel.Reaches request scene ⟨.answered source response, state, steps⟩

/-- At most one arrow leaves a configuration. -/
theorem rightUnique_transition : Relator.RightUnique kernel.Transition := by
  intro configuration first second hfirst hsecond
  -- two arrows from one position tell what is computed there differently, unless they agree
  cases hfirst <;> cases hsecond <;> simp_all [Outcome.isResponse]

variable {kernel}

/-- No arrow leaves a final configuration. -/
theorem not_transition_of_isFinal {first second : Configuration app}
    (hfinal : first.position.IsFinal) : ¬ kernel.Transition first second := by
  obtain ⟨position, state, steps⟩ := first
  obtain ⟨_ | _, rfl⟩ := hfinal <;> rintro ⟨⟩

/-- Only a final configuration itself is reached from it. -/
theorem eq_of_reflTransGen_of_isFinal {first second : Configuration app}
    (hfinal : first.position.IsFinal) (hreaches : ReflTransGen kernel.Transition first second) :
    second = first := by
  rcases hreaches.cases_head with heq | ⟨next, hnext, _⟩
  · exact heq.symm
  · exact absurd hnext (not_transition_of_isFinal hfinal)

/-- Whatever a request reaches lies on the way to where its handling ends. -/
theorem Reaches.reaches_final {request : Request} {scene : Scene app}
    {reached final : Configuration app} (hreached : kernel.Reaches request scene reached)
    (hfinal : final.position.IsFinal) (hends : kernel.Reaches request scene final) :
    ReflTransGen kernel.Transition reached final := by
  rcases hreached.total_of_right_unique kernel.rightUnique_transition hends with hon | hback
  · exact hon
  · rw [eq_of_reflTransGen_of_isFinal hfinal hback]

end Kernel

end RequestDispatch
