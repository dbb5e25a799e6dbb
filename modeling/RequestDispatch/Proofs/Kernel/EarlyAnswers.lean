import RequestDispatch.Proofs.Event.Replies
import RequestDispatch.Proofs.Kernel.Admission
import RequestDispatch.Proofs.Kernel.Stages

/-!
# Early Answers

Two kernels with the same listeners are compared. Where listeners answer a request early, what
would have come after them is skipped in both, and makes no difference: not the router, the
resolver, the files and the factories if listeners answer before routing
(`Kernel.handle_congr_of_answersRoute`), and not what controllers do if they answer before dispatch
(`Kernel.handle_congr_of_produces`).

The comparison follows the pipeline part by part. A part that only fires an event is the same in
both kernels, and a chain of parts needs to agree only on the values that come up
(`Handling.bind_congr_of_ok`).

Listeners can set one response after another. The one that is filtered is the one set last
(`Kernel.response_onRoute`, `Kernel.response_onController`).
-/

namespace RequestDispatch

/-- A chain does the same in a state if its first part does, and what follows does the same with
the value that the first part has there. -/
theorem Handling.bind_congr_of_ok {app : Application} {α β : Type} {first other : Handling app α}
    {next after : α → Handling app β} {state : HandlingState app}
    (hfirst : other state = first state)
    (hnext : ∀ value, (first state).result = .ok value →
      after value (first state).state = next value (first state).state) :
    (other >>= after) state = (first >>= next) state := by
  rw [bind_apply, bind_apply, hfirst]
  rcases hresult : (first state).result with error | value
  · rfl
  · dsimp only
    rw [hnext value hresult]

/-- The position comes before the dispatch of a controller. -/
def Position.PrecedesDispatch {app : Application} : Position app → Prop
  | received | unrouted | routed _ | unserved | found _ _ | built _ _ | accepted _ _ => True
  | dispatched _ _ | answered _ _ | filtered _ | failed _ => False

namespace Kernel

open Handling (bind_apply bind_congr_of_ok)

variable {app : Application} {kernel other : Kernel app} {request : Request} {scene : Scene app}

/-! ## Responses set by listeners -/

/-- The responses that listeners set before routing, in order. -/
def routeResponses (kernel : Kernel app) (state : HandlingState app) : List Response :=
  ((routeReplying kernel.hooks).replies 0 state.scene.kinds { request := state.request }
    state.scene).filterMap RouteReply.response

/-- The responses that listeners set before dispatch, in order. -/
def controllerResponses (kernel : Kernel app) (state : HandlingState app)
    (controller : app.Controller) : List Response :=
  ((controllerReplying kernel.hooks).replies 0 state.scene.kinds
    { request := state.request, controller } state.scene).filterMap ControllerReply.response

/-- The response after the event before routing is the one set last. -/
theorem response_onRoute (state : HandlingState app) :
    (kernel.onRoute state).event.response = (kernel.routeResponses state).getLast? := by
  rw [onRoute, Delivery.fire, (routeReplying kernel.hooks).lastSet_deliverFrom
    RouteEvent.response RouteReply.response fun _ _ => rfl]
  exact Option.or_none

/-- The response after the event of a built controller is the one set last. -/
theorem response_onController (state : HandlingState app) (controller : app.Controller) :
    (kernel.onController state controller).event.response =
      (kernel.controllerResponses state controller).getLast? := by
  rw [onController, Delivery.fire, (controllerReplying kernel.hooks).lastSet_deliverFrom
    ControllerEvent.response ControllerReply.response fun _ _ => rfl]
  exact Option.or_none

/-! ## Answers before routing -/

/-- The event before routing, fired in this state, ends without failure and with a response. -/
def AnswersRoute (kernel : Kernel app) (state : HandlingState app) (response : Response) : Prop :=
  (kernel.onRoute state).failure = none ∧ (kernel.onRoute state).event.response = some response

/-- Kernels with the same base URL stamp it on requests alike. -/
theorem stampBaseUrl_congr (hbaseUrl : other.baseUrl = kernel.baseUrl) (request : Request) :
    other.stampBaseUrl request = kernel.stampBaseUrl request := by
  rw [stampBaseUrl, stampBaseUrl, hbaseUrl]

/-- Kernels with the same listeners fire the event before routing alike. -/
theorem onRoute_congr (hhooks : other.hooks = kernel.hooks) (state : HandlingState app) :
    other.onRoute state = kernel.onRoute state := by
  rw [onRoute, onRoute, hhooks]

/-- Kernels with the same listeners filter responses alike. -/
theorem onFilterResponse_congr (hhooks : other.hooks = kernel.hooks) (state : HandlingState app)
    (response : Response) :
    other.onFilterResponse state response = kernel.onFilterResponse state response := by
  rw [onFilterResponse, onFilterResponse, hhooks]

/-- If listeners answer before routing, that is what comes of the event. -/
theorem result_fireRoute {state : HandlingState app} {response : Response}
    (hanswers : kernel.AnswersRoute state response) :
    (kernel.fireRoute state).result = .ok (some response) := by
  obtain ⟨hfailure, hresponse⟩ := hanswers
  simp [fireRoute, bind_apply, hfailure, hresponse]

/-- If listeners answer before routing, the stages up to a response depend on nothing but the
listeners. -/
theorem decide_congr_of_answersRoute (hhooks : other.hooks = kernel.hooks)
    {state : HandlingState app} {response : Response}
    (hanswers : kernel.AnswersRoute state response) :
    other.decide state = kernel.decide state := by
  have hfire : other.fireRoute = kernel.fireRoute := by
    rw [fireRoute, fireRoute, hhooks]
  have hresult := result_fireRoute hanswers
  -- with a response there, what follows in either kernel reads nothing of it
  have hstage : other.routeStage state = kernel.routeStage state := by
    refine bind_congr_of_ok (by rw [hfire]) ?_
    intro value hvalue
    obtain rfl : some response = value := Except.ok.inj (hresult.symm.trans hvalue)
    rfl
  have hrouting : (kernel.routeStage state).result = .ok (.answered response) := by
    rw [routeStage, bind_apply, hresult]
    rfl
  have houtcome : other.outcomeStage state = kernel.outcomeStage state := by
    refine bind_congr_of_ok hstage ?_
    intro value hvalue
    obtain rfl : Early.answered response = value := Except.ok.inj (hrouting.symm.trans hvalue)
    rfl
  have hearly : (kernel.outcomeStage state).result = .ok (.answered response) := by
    rw [outcomeStage, bind_apply, hrouting]
    rfl
  refine bind_congr_of_ok houtcome ?_
  intro value hvalue
  obtain rfl : Early.answered response = value := Except.ok.inj (hearly.symm.trans hvalue)
  rfl

/-- If listeners answer before routing, the handling of a request depends on nothing but the
listeners and the base URL. -/
theorem handle_congr_of_answersRoute (hhooks : other.hooks = kernel.hooks)
    (hbaseUrl : other.baseUrl = kernel.baseUrl) {response : Response}
    (hanswers : kernel.AnswersRoute ⟨kernel.stampBaseUrl request, scene⟩ response) :
    other.handle request scene = kernel.handle request scene := by
  have hstamp := stampBaseUrl_congr hbaseUrl request
  have hfilter : other.filterStage = kernel.filterStage := by
    funext response
    rw [filterStage, filterStage, hhooks]
  have hdecide := decide_congr_of_answersRoute hhooks hanswers
  -- the pipeline consists of the stages up to a response and the one that filters it
  simp only [handle, pipeline, bind_apply, Handling.request_apply, Handling.setRequest_apply,
    hstamp, hdecide, hfilter]

/-- If listeners answer before routing, their answer is filtered. -/
theorem produces_of_answersRoute {start : HandlingState app}
    (hstart : start = ⟨kernel.stampBaseUrl request, scene⟩) {response : Response}
    (hanswers : kernel.AnswersRoute start response) :
    kernel.Produces request scene .routeListener response
      ⟨(kernel.onRoute start).event.request, (kernel.onRoute start).scene⟩ := by
  obtain ⟨hfailure, hresponse⟩ := hanswers
  subst hstart
  have hfired := Delivery.Delivered.eq_of_failure_eq hfailure
  exact ⟨_, Relation.ReflTransGen.single (.routeListenerAnswers hfired hresponse)⟩

/-! ## Answers before dispatch -/

/-- The handling of a request comes to the event of a built controller, in this state. -/
def Builds (kernel : Kernel app) (request : Request) (scene : Scene app)
    (controller : app.Controller) (state : HandlingState app) : Prop :=
  ∃ identity steps, kernel.Reaches request scene ⟨.built identity controller, state, steps⟩

/-- A request comes to the event of a controller if no listener answers it, a route without answer
of its own is found for it, and a factory is found for its controller. -/
theorem builds_of {event : RouteEvent} {routeScene routedScene lastScene : Scene app} {heard : Nat}
    {route : Route} {routed : Request} {resolved : ResolvedController}
    {factory : ControllerFactory app} {controller : app.Controller}
    (hfired : kernel.onRoute ⟨kernel.stampBaseUrl request, scene⟩ =
      ⟨none, event, routeScene, heard⟩)
    (hresponse : event.response = none)
    (hrouted : (routeScene.run (kernel.router event.request)).value =
      ((.ok route, routed), routedScene))
    (hanswer : route.answer? routed = none)
    (hresolved : kernel.resolved routed = .ok resolved)
    (hfactory : kernel.controllers.get? resolved.identity = some factory)
    (hbuilt : (routedScene.run (factory routed)).value = (controller, lastScene)) :
    kernel.Builds request scene controller ⟨routed, lastScene⟩ := by
  have hunrouted : kernel.Reaches request scene ⟨.unrouted, ⟨event.request, routeScene⟩, _⟩ :=
    .single (.routeListenersPass hfired hresponse)
  have hserved := (hunrouted.tail (.routerSucceeds hrouted)).tail (.callbackPasses hanswer)
  have hfound := hserved.tail (.factoryFound hresolved hfactory)
  exact ⟨_, _, hfound.tail (.factoryBuilds hbuilt)⟩

/-- What controllers do is of no account before they are dispatched. -/
theorem Reaches.of_dispatch {reached : Configuration app}
    (hreaches : kernel.Reaches request scene reached)
    (hprecedes : reached.position.PrecedesDispatch)
    (dispatch : app.Controller → Request → AppAction app (Except Failure Outcome × Request)) :
    Reaches { kernel with dispatch } request scene reached := by
  -- an arrow that leads to a position before dispatch comes from one, and is in both kernels
  induction hreaches with
  | refl => exact .refl
  | tail _ htransition ih =>
    cases htransition with
    | routeListenersPass hfired hanswer =>
      exact (ih trivial).tail (.routeListenersPass hfired hanswer)
    | routerSucceeds hrouted => exact (ih trivial).tail (.routerSucceeds hrouted)
    | callbackPasses hanswer => exact (ih trivial).tail (.callbackPasses hanswer)
    | factoryFound hresolved hfactory => exact (ih trivial).tail (.factoryFound hresolved hfactory)
    | factoryBuilds hbuilt => exact (ih trivial).tail (.factoryBuilds hbuilt)
    | controllerListenersPass hfired hanswer =>
      exact (ih trivial).tail (.controllerListenersPass hfired hanswer)
    | _ => exact absurd hprecedes id

/-- What controllers do is of no account for which of them is built, and in which state. -/
theorem Builds.of_dispatch {controller : app.Controller} {state : HandlingState app}
    (hbuilds : kernel.Builds request scene controller state)
    (dispatch : app.Controller → Request → AppAction app (Except Failure Outcome × Request)) :
    Builds { kernel with dispatch } request scene controller state := by
  obtain ⟨identity, steps, hreaches⟩ := hbuilds
  exact ⟨identity, steps, hreaches.of_dispatch trivial dispatch⟩

/-- The event of a built controller, fired in this state, ends without failure and with a
response. -/
def AnswersController (kernel : Kernel app) (state : HandlingState app)
    (controller : app.Controller) (response : Response) : Prop :=
  (kernel.onController state controller).failure = none ∧
    (kernel.onController state controller).event.response = some response

/-- Kernels with the same listeners fire the event of a built controller alike. -/
theorem onController_congr (hhooks : other.hooks = kernel.hooks) (state : HandlingState app)
    (controller : app.Controller) :
    other.onController state controller = kernel.onController state controller := by
  rw [onController, onController, hhooks]

/-- If listeners answer before dispatch, their answer is filtered. -/
theorem Builds.produces {controller : app.Controller} {state : HandlingState app}
    {response : Response} (hbuilds : kernel.Builds request scene controller state)
    (hanswers : kernel.AnswersController state controller response) :
    kernel.Produces request scene .controllerListener response
      ⟨state.request, (kernel.onController state controller).scene⟩ := by
  obtain ⟨identity, steps, hreaches⟩ := hbuilds
  obtain ⟨hfailure, hresponse⟩ := hanswers
  have hfired := Delivery.Delivered.eq_of_failure_eq hfailure
  exact ⟨_, hreaches.tail (.controllerListenerAnswers hfired hresponse)⟩

/-- Where the same response is to be filtered in the same state, it does not matter what kernel
produced it, or what for. -/
theorem handle_congr_of_produces (hhooks : other.hooks = kernel.hooks) {source source' : Source}
    {response : Response} {state : HandlingState app} {request' : Request} {scene' : Scene app}
    (hkernel : kernel.Produces request scene source response state)
    (hother : other.Produces request' scene' source' response state) :
    (other.handle request' scene').result = (kernel.handle request scene).result ∧
      (other.handle request' scene').state = (kernel.handle request scene).state := by
  constructor
  · rw [handle_of_produces hkernel, handle_of_produces hother, onFilterResponse_congr hhooks]
  · rw [state_handle_of_produces hkernel, state_handle_of_produces hother,
      onFilterResponse_congr hhooks]

/-! ## Two kernels -/

/-- Two kernels with the same listeners handle a request alike, whatever else they consist of, if
listeners answer it before routing and the base URL is the same. If listeners answer before
dispatch, two handlings that have come to the same controller in the same state end alike, and
kernels that differ in what controllers do always come to the same controller in the same state. In
both cases the response that is filtered is the one set last. -/
theorem early_answers_independent (kernel other : Kernel app)
    (hhooks : other.hooks = kernel.hooks) :
    (∀ request scene response, other.baseUrl = kernel.baseUrl →
      kernel.AnswersRoute ⟨kernel.stampBaseUrl request, scene⟩ response →
      other.handle request scene = kernel.handle request scene ∧
      (∃ state, kernel.Produces request scene .routeListener response state ∧
        other.Produces request scene .routeListener response state) ∧
      (kernel.routeResponses ⟨kernel.stampBaseUrl request, scene⟩).getLast? = some response) ∧
    (∀ request scene request' scene' controller state response,
      kernel.Builds request scene controller state →
      other.Builds request' scene' controller state →
      kernel.AnswersController state controller response →
      (other.handle request' scene').result = (kernel.handle request scene).result ∧
      (other.handle request' scene').state = (kernel.handle request scene).state ∧
      (∃ last, kernel.Produces request scene .controllerListener response last ∧
        other.Produces request' scene' .controllerListener response last) ∧
      (kernel.controllerResponses state controller).getLast? = some response) ∧
    ∀ dispatch request scene controller state,
      kernel.Builds request scene controller state →
      Builds { kernel with dispatch } request scene controller state := by
  refine ⟨?_, ?_, fun dispatch _ _ _ _ hbuilds => hbuilds.of_dispatch dispatch⟩
  · intro request scene response hbaseUrl hanswers
    have hanswers' : other.AnswersRoute ⟨kernel.stampBaseUrl request, scene⟩ response := by
      rwa [AnswersRoute, onRoute_congr hhooks]
    have hstart' : (⟨kernel.stampBaseUrl request, scene⟩ : HandlingState app) =
        ⟨other.stampBaseUrl request, scene⟩ := by
      rw [stampBaseUrl_congr hbaseUrl]
    have hproduces := produces_of_answersRoute rfl hanswers
    have hproduces' := produces_of_answersRoute hstart' hanswers'
    rw [onRoute_congr hhooks] at hproduces'
    refine ⟨handle_congr_of_answersRoute hhooks hbaseUrl hanswers, ⟨_, hproduces, hproduces'⟩, ?_⟩
    rw [← response_onRoute]
    exact hanswers.2
  · intro request scene request' scene' controller state response hkernel hother hanswers
    have hanswers' : other.AnswersController state controller response := by
      rwa [AnswersController, onController_congr hhooks]
    have hproduces := hkernel.produces hanswers
    have hproduces' := hother.produces hanswers'
    rw [onController_congr hhooks] at hproduces'
    obtain ⟨hresult, hstate⟩ := handle_congr_of_produces hhooks hproduces hproduces'
    refine ⟨hresult, hstate, ⟨_, hproduces, hproduces'⟩, ?_⟩
    rw [← response_onController]
    exact hanswers.2

/-- Two listeners of the blog. -/
def blogScene : Scene texts := ⟨[⟨.custom "first", {}⟩, ⟨.custom "second", {}⟩], { memory := () }⟩

/-- The blog with another way to dispatch controllers. -/
def failingBlog : Kernel texts :=
  { blog with
    dispatch := fun controller request =>
      return (.error (.other controller), { request with uri := "/failed" }) }

/-- The blog without routes. -/
def closedBlog : Kernel texts :=
  { blog with router := fun request => return (.error (.notFound request.uri), request) }

/-- The two listeners answer one request to the blog before routing, and another one before
dispatch. The answer of the second one counts, although there are no routes or the controller
would fail. -/
theorem early_answers_independent_blog :
    closedBlog.handle { uri := "/cached" } blogScene = blog.handle { uri := "/cached" } blogScene ∧
    (∃ state, closedBlog.Produces { uri := "/cached" } blogScene .routeListener
      (.text 200 "second") state) ∧
    (failingBlog.handle { uri := "/" } blogScene).result =
      (blog.handle { uri := "/" } blogScene).result ∧
    ∃ last, failingBlog.Produces { uri := "/" } blogScene .controllerListener
      (.text 200 "second") last := by
  obtain ⟨hroute, -, -⟩ := early_answers_independent blog closedBlog rfl
  obtain ⟨hhandle, ⟨state, -, hclosed⟩, -⟩ :=
    hroute { uri := "/cached" } blogScene (.text 200 "second") rfl ⟨rfl, rfl⟩
  obtain ⟨-, hcontroller, hdispatch⟩ := early_answers_independent blog failingBlog rfl
  have hresolved : blog.resolved { uri := "/", module := "blog", controller := "user-post" } =
      .ok ⟨"::BlogModule::UserPostController", "app/blog"⟩ :=
    ControllerResolver.resolve_eq_ok_iff.mpr (by decide +kernel)
  have hbuilds : blog.Builds { uri := "/" } blogScene "posts" _ :=
    builds_of rfl rfl rfl rfl hresolved rfl rfl
  have hbuilds' := hdispatch failingBlog.dispatch _ _ _ _ hbuilds
  obtain ⟨hresult, -, ⟨last, -, hfailing⟩, -⟩ :=
    hcontroller _ _ _ _ _ _ (.text 200 "second") hbuilds hbuilds' ⟨rfl, rfl⟩
  exact ⟨hhandle, ⟨state, hclosed⟩, hresult, last, hfailing⟩

end Kernel

end RequestDispatch
