import RequestDispatch.Proofs.Kernel.EarlyAnswers

/-!
# Failures

When the handling of a request fails because its outcome was not turned into a response, and when
it fails because a listener did.

A controller is dispatched exactly if the stages before it let the request pass
(`Kernel.reaches_dispatched_iff`), and listeners let it pass exactly if none of their replies
fails or answers. An error is the end of the arrow that leads to it, so that each error has the
condition of one arrow (`Kernel.result_handle_eq_integrity_iff`,
`Kernel.result_handle_eq_listener_iff`), and the events up to it are all that are fired
(`Kernel.getLast?_events_handle`).
-/

namespace RequestDispatch

/-- A route without callback, and no other, leaves requests unanswered. -/
theorem Route.answer?_eq_none_iff {route : Route} {request : Request} :
    route.answer? request = none ↔ route.callback = none :=
  Option.map_eq_none_iff

/-- The last event that is fired before an error. -/
def KernelError.lastEvent : KernelError → EventName
  | route _ | configuration _ => .route
  | controller _ _ => .controller
  | integrity _ => .controllerResult
  | listener event _ => event

namespace Kernel

open Delivery (Delivered)

variable {app : Application} {kernel : Kernel app} {request : Request} {scene : Scene app}

/-! ## What listeners reply -/

/-- What the listeners that hear the event before routing reply, in order. -/
def routeReplies (kernel : Kernel app) (state : HandlingState app) : List RouteReply :=
  (routeReplying kernel.hooks).replies 0 state.scene.kinds { request := state.request }
    state.scene

/-- What the listeners that hear the event of a built controller reply, in order. -/
def controllerReplies (kernel : Kernel app) (state : HandlingState app)
    (controller : app.Controller) : List (ControllerReply app) :=
  (controllerReplying kernel.hooks).replies 0 state.scene.kinds
    { request := state.request, controller } state.scene

/-- What the listeners that hear the event of an outcome reply, in order. -/
def resultReplies (kernel : Kernel app) (state : HandlingState app) (controller : app.Controller)
    (outcome : Outcome) : List ResultReply :=
  (resultReplying kernel.hooks kernel.files).replies 0 state.scene.kinds
    { request := state.request, controller, outcome } state.scene

/-- The event before routing ends without failure and without a response exactly if no listener
fails or answers. -/
theorem onRoute_passes_iff {state : HandlingState app} :
    (kernel.onRoute state).failure = none ∧ (kernel.onRoute state).event.response = none ↔
      ∀ reply ∈ kernel.routeReplies state, reply.failure = none ∧ reply.response = none :=
  (routeReplying kernel.hooks).failure_eq_none_and_lastSet_eq_none_iff
    RouteEvent.response RouteReply.response (fun _ _ => rfl) rfl

/-- The event of a built controller ends without failure and without a response exactly if no
listener fails or answers. -/
theorem onController_passes_iff {state : HandlingState app} {controller : app.Controller} :
    (kernel.onController state controller).failure = none ∧
        (kernel.onController state controller).event.response = none ↔
      ∀ reply ∈ kernel.controllerReplies state controller,
        reply.failure = none ∧ reply.response = none :=
  (controllerReplying kernel.hooks).failure_eq_none_and_lastSet_eq_none_iff
    ControllerEvent.response ControllerReply.response (fun _ _ => rfl) rfl

/-- The event of an outcome ends without failure and without a response exactly if no listener
fails or answers. -/
theorem onControllerResult_passes_iff {state : HandlingState app} {controller : app.Controller}
    {outcome : Outcome} :
    (kernel.onControllerResult state controller outcome).failure = none ∧
        (kernel.onControllerResult state controller outcome).event.response = none ↔
      ∀ reply ∈ kernel.resultReplies state controller outcome,
        reply.failure = none ∧ reply.response = none :=
  (resultReplying kernel.hooks kernel.files).failure_eq_none_and_lastSet_eq_none_iff
    ResultEvent.response ResultReply.response (fun _ _ => rfl) rfl

/-- The outcome that listeners leave: the one set last, or else the one that the controller
gave. -/
def outcomeLeft (kernel : Kernel app) (state : HandlingState app) (controller : app.Controller)
    (outcome : Outcome) : Outcome :=
  ((kernel.resultReplies state controller outcome).filterMap ResultReply.outcome).getLast?.getD
    outcome

/-- The outcome after its event is the one that listeners leave. -/
theorem outcome_onControllerResult (state : HandlingState app) (controller : app.Controller)
    (outcome : Outcome) :
    (kernel.onControllerResult state controller outcome).event.outcome =
      kernel.outcomeLeft state controller outcome := by
  have hlast := (resultReplying kernel.hooks kernel.files).lastSet_deliverFrom
    (fun event => some event.outcome) ResultReply.outcome (fun _ _ => Option.or_some.symm) 0
    state.scene.kinds { request := state.request, controller, outcome } state.scene
  rw [Option.or_some] at hlast
  exact Option.some.inj hlast

/-! ## The way to an outcome -/

/-- No listener fails or answers before routing, and what they leave is the next state. -/
structure PassesRoute (kernel : Kernel app) (state next : HandlingState app) : Prop where
  /-- No reply fails or answers. -/
  silent : ∀ reply ∈ kernel.routeReplies state, reply.failure = none ∧ reply.response = none
  /-- The request and the scene are left by the listeners. -/
  left : next = ⟨(kernel.onRoute state).event.request, (kernel.onRoute state).scene⟩

/-- No listener fails or answers when a controller has been built, and what they leave is the
controller that is accepted for dispatch, with the next state. -/
structure PassesController (kernel : Kernel app) (state : HandlingState app)
    (controller accepted : app.Controller) (next : HandlingState app) : Prop where
  /-- No reply fails or answers. -/
  silent : ∀ reply ∈ kernel.controllerReplies state controller,
    reply.failure = none ∧ reply.response = none
  /-- The controller is left by the listeners. -/
  accepted_eq : accepted = (kernel.onController state controller).event.controller
  /-- The scene is left by the listeners. The request stays as it is. -/
  left : next = ⟨state.request, (kernel.onController state controller).scene⟩

/-- A controller is dispatched for a request and has an outcome, which leaves a state. -/
inductive Dispatches (kernel : Kernel app) (request : Request) (scene : Scene app) :
    app.Controller → Outcome → HandlingState app → Prop where
  /-- Listeners let the request pass, the router chooses a route without callback, a factory
  builds the controller that the request is resolved to, listeners let that pass, and the
  controller that they leave is dispatched without failure. -/
  | intro {received ready : HandlingState app} {route : Route} {routed last : Request}
      {resolved : ResolvedController} {factory : ControllerFactory app}
      {controller accepted : app.Controller} {routedScene builtScene lastScene : Scene app}
      {outcome : Outcome}
      (hroute : kernel.PassesRoute ⟨kernel.stampBaseUrl request, scene⟩ received)
      (hrouted : (received.scene.run (kernel.router received.request)).value =
        ((.ok route, routed), routedScene))
      (hcallback : route.callback = none)
      (hresolved : kernel.resolved routed = .ok resolved)
      (hfactory : kernel.controllers.get? resolved.identity = some factory)
      (hbuilt : (routedScene.run (factory routed)).value = (controller, builtScene))
      (hcontroller : kernel.PassesController ⟨routed, builtScene⟩ controller accepted ready)
      (hdispatched : (ready.scene.run (kernel.dispatch accepted ready.request)).value =
        ((.ok outcome, last), lastScene)) :
      Dispatches kernel request scene accepted outcome ⟨last, lastScene⟩

/-- If listeners let a request pass, it goes to the router. -/
theorem PassesRoute.transition {state next : HandlingState app}
    (hpasses : kernel.PassesRoute state next) (steps : List KernelStep) :
    kernel.Transition ⟨.received, state, steps⟩
      ⟨.unrouted, next, steps ++ [.fired .route (kernel.onRoute state).heard]⟩ := by
  obtain ⟨hsilent, rfl⟩ := hpasses
  obtain ⟨hfailure, hresponse⟩ := onRoute_passes_iff.mpr hsilent
  exact .routeListenersPass (Delivered.eq_of_failure_eq hfailure) hresponse

/-- If listeners let a controller pass, the one that they leave goes to dispatch. -/
theorem PassesController.transition {state next : HandlingState app}
    {controller accepted : app.Controller}
    (hpasses : kernel.PassesController state controller accepted next) (identity : String)
    (steps : List KernelStep) :
    kernel.Transition ⟨.built identity controller, state, steps⟩
      ⟨.accepted identity accepted, next,
        steps ++ [.fired .controller (kernel.onController state controller).heard]⟩ := by
  obtain ⟨hsilent, rfl, rfl⟩ := hpasses
  obtain ⟨hfailure, hresponse⟩ := onController_passes_iff.mpr hsilent
  exact .controllerListenersPass (Delivered.eq_of_failure_eq hfailure) hresponse

/-- An arrow leads to every position that a request reaches, except to the first one. -/
theorem Reaches.exists_transition {reached : Configuration app}
    (hreaches : kernel.Reaches request scene reached) (hposition : reached.position ≠ .received) :
    ∃ before, kernel.Reaches request scene before ∧ kernel.Transition before reached := by
  rcases hreaches.cases_tail with heq | hlast
  · exact absurd (by rw [heq]) hposition
  · exact hlast

/-- A request that goes to the router has passed the listeners, with the kernel's base URL stamped
on it. -/
theorem Reaches.passesRoute {state : HandlingState app} {steps : List KernelStep}
    (hreaches : kernel.Reaches request scene ⟨.unrouted, state, steps⟩) :
    kernel.PassesRoute ⟨kernel.stampBaseUrl request, scene⟩ state := by
  obtain ⟨_, hreceived, hlast⟩ := hreaches.exists_transition nofun
  cases hlast with | routeListenersPass hfired hresponse
  rcases hreceived.cases_tail with heq | ⟨_, -, hnone⟩
  · cases heq
    exact ⟨onRoute_passes_iff.mp (by rw [hfired]; exact ⟨rfl, hresponse⟩), by rw [hfired]⟩
  · cases hnone

/-- A controller that goes to dispatch was left by the listeners when another one, or the same
one, had been built. -/
theorem Reaches.passesController {identity : String} {accepted : app.Controller}
    {state : HandlingState app} {steps : List KernelStep}
    (hreaches : kernel.Reaches request scene ⟨.accepted identity accepted, state, steps⟩) :
    ∃ controller before steps,
      kernel.Reaches request scene ⟨.built identity controller, before, steps⟩ ∧
      kernel.PassesController before controller accepted state := by
  obtain ⟨_, hbuilt, hlast⟩ := hreaches.exists_transition nofun
  cases hlast with | controllerListenersPass hfired hresponse
  refine ⟨_, _, _, hbuilt, onController_passes_iff.mp ?_, ?_, ?_⟩
  · rw [hfired]
    exact ⟨rfl, hresponse⟩
  · rw [hfired]
  · rw [hfired]

/-- The handling of a request comes to an outcome exactly if a controller is dispatched and has
it. -/
theorem reaches_dispatched_iff {controller : app.Controller} {outcome : Outcome}
    {state : HandlingState app} :
    (∃ steps, kernel.Reaches request scene ⟨.dispatched controller outcome, state, steps⟩) ↔
      kernel.Dispatches request scene controller outcome state := by
  constructor
  · rintro ⟨steps, hreaches⟩
    -- a single arrow leads to each of the positions, so the way is found from its end
    obtain ⟨_, haccepted, hlast⟩ := hreaches.exists_transition nofun
    cases hlast with | dispatchSucceeds hdispatched
    obtain ⟨built, _, _, hbuilding, hcontroller⟩ := haccepted.passesController
    obtain ⟨_, hfound, hlast⟩ := hbuilding.exists_transition nofun
    cases hlast with | factoryBuilds hbuilt
    obtain ⟨_, hunserved, hlast⟩ := hfound.exists_transition nofun
    cases hlast with | factoryFound hresolved hfactory
    obtain ⟨_, hrouting, hlast⟩ := hunserved.exists_transition nofun
    cases hlast with | callbackPasses hanswer
    obtain ⟨_, hunrouted, hlast⟩ := hrouting.exists_transition nofun
    cases hlast with | routerSucceeds hrouted
    exact .intro hunrouted.passesRoute hrouted (Route.answer?_eq_none_iff.mp hanswer) hresolved
      hfactory hbuilt hcontroller hdispatched
  · rintro ⟨hroute, hrouted, hcallback, hresolved, hfactory, hbuilt, hcontroller, hdispatched⟩
    have hunrouted : kernel.Reaches request scene _ := .single (hroute.transition [])
    have hrouting := hunrouted.tail (.routerSucceeds hrouted)
    have hserved := hrouting.tail (.callbackPasses (Route.answer?_eq_none_iff.mpr hcallback))
    have hfound := hserved.tail (.factoryFound hresolved hfactory)
    have haccepted := (hfound.tail (.factoryBuilds hbuilt)).tail (hcontroller.transition _ _)
    exact ⟨_, haccepted.tail (.dispatchSucceeds hdispatched)⟩

/-- The stages up to dispatch come to an outcome only if a controller is dispatched and has it. -/
theorem dispatches_of_outcomeStage {controller : app.Controller} {outcome : Outcome}
    (hresult : (kernel.outcomeStage ⟨kernel.stampBaseUrl request, scene⟩).result =
      .ok (.goOn (controller, outcome))) :
    kernel.Dispatches request scene controller outcome
      (kernel.outcomeStage ⟨kernel.stampBaseUrl request, scene⟩).state := by
  obtain ⟨position, hposition, hreaches⟩ :=
    kernel.realizes_outcomeStage ⟨kernel.stampBaseUrl request, scene⟩ []
  rw [hresult] at hposition
  obtain rfl : position = .dispatched controller outcome := hposition
  exact reaches_dispatched_iff.mp ⟨_, hreaches⟩

/-! ## Errors -/

/-- The handling of a request that fails comes to the failure. -/
theorem exists_reaches_failed {error : KernelError}
    (hresult : (kernel.handle request scene).result = .error error) :
    ∃ state steps, kernel.Reaches request scene ⟨.failed error, state, steps⟩ := by
  have hreaches := kernel.reaches_handle request scene
  rw [hresult] at hreaches
  exact ⟨_, _, hreaches⟩

/-- A request fails for lack of a response exactly if a controller is dispatched, its outcome is
no response, and no listener fails or makes a response of it. The error names the kind of the
outcome that the listeners leave. -/
theorem result_handle_eq_integrity_iff {found : String} :
    (kernel.handle request scene).result = .error (.integrity found) ↔
      ∃ controller outcome state,
        kernel.Dispatches request scene controller outcome state ∧
        outcome.isResponse = false ∧
        (∀ reply ∈ kernel.resultReplies state controller outcome,
          reply.failure = none ∧ reply.response = none) ∧
        found = (kernel.outcomeLeft state controller outcome).kindName := by
  constructor
  · intro hresult
    obtain ⟨_, _, hfailed⟩ := exists_reaches_failed hresult
    obtain ⟨_, hdispatched, hlast⟩ := hfailed.exists_transition nofun
    cases hlast with | @resultListenersPass state _ controller outcome _ _ _ houtcome hfired hnone
    refine ⟨controller, outcome, state, reaches_dispatched_iff.mp ⟨_, hdispatched⟩, houtcome,
      onControllerResult_passes_iff.mp ?_, ?_⟩
    · rw [hfired]
      exact ⟨rfl, hnone⟩
    · rw [← outcome_onControllerResult, hfired]
  · rintro ⟨controller, outcome, state, hdispatches, houtcome, hsilent, rfl⟩
    obtain ⟨steps, hreaches⟩ := reaches_dispatched_iff.mpr hdispatches
    obtain ⟨hfailure, hresponse⟩ := onControllerResult_passes_iff.mpr hsilent
    have hfired := Delivered.eq_of_failure_eq hfailure
    have hfailed := hreaches.tail (.resultListenersPass houtcome hfired hresponse)
    rw [← outcome_onControllerResult]
    exact Reaches.result_handle hfailed rfl

/-- A listener fails at an event of a request: the request comes to that event, the listener is
one of those registered by then, and the event passes the listeners before it. -/
inductive ListenerFails (kernel : Kernel app) (request : Request) (scene : Scene app) :
    EventName → Failure → Prop where
  /-- It fails before routing. -/
  | route {state : HandlingState app} {steps : List KernelStep} {failure : Failure}
      (hreaches : kernel.Reaches request scene ⟨.received, state, steps⟩)
      (hfails : (routeDelivery kernel.hooks).Fails { request := state.request } state.scene
        failure) :
      ListenerFails kernel request scene .route failure
  /-- It fails before dispatch. -/
  | controller {identity : String} {controller : app.Controller} {state : HandlingState app}
      {steps : List KernelStep} {failure : Failure}
      (hreaches : kernel.Reaches request scene ⟨.built identity controller, state, steps⟩)
      (hfails : (controllerDelivery kernel.hooks).Fails { request := state.request, controller }
        state.scene failure) :
      ListenerFails kernel request scene .controller failure
  /-- It fails to make a response of an outcome that is none. -/
  | controllerResult {controller : app.Controller} {outcome : Outcome}
      {state : HandlingState app} {steps : List KernelStep} {failure : Failure}
      (hreaches : kernel.Reaches request scene ⟨.dispatched controller outcome, state, steps⟩)
      (houtcome : outcome.isResponse = false)
      (hfails : (resultDelivery kernel.hooks kernel.files).Fails
        { request := state.request, controller, outcome } state.scene failure) :
      ListenerFails kernel request scene .controllerResult failure
  /-- It fails to filter a response. -/
  | filterResponse {source : Source} {response : Response} {state : HandlingState app}
      {steps : List KernelStep} {failure : Failure}
      (hreaches : kernel.Reaches request scene ⟨.answered source response, state, steps⟩)
      (hfails : (filterDelivery kernel.hooks).Fails { request := state.request, response }
        state.scene failure) :
      ListenerFails kernel request scene .filterResponse failure

/-- A request fails at an event, for the reason of a listener, exactly if that listener fails at
that event. -/
theorem result_handle_eq_listener_iff {event : EventName} {failure : Failure} :
    (kernel.handle request scene).result = .error (.listener event failure) ↔
      kernel.ListenerFails request scene event failure := by
  constructor
  · intro hresult
    obtain ⟨_, _, hfailed⟩ := exists_reaches_failed hresult
    obtain ⟨_, hbefore, hlast⟩ := hfailed.exists_transition nofun
    -- one arrow for each event ends at the failure of a listener
    cases hlast with
    | routeListenerFails hfired =>
      exact .route hbefore (Delivery.failure_fire_eq_some_iff.mp (congrArg _ hfired))
    | controllerListenerFails hfired =>
      exact .controller hbefore (Delivery.failure_fire_eq_some_iff.mp (congrArg _ hfired))
    | resultListenerFails houtcome hfired =>
      exact .controllerResult hbefore houtcome
        (Delivery.failure_fire_eq_some_iff.mp (congrArg _ hfired))
    | filterFails hfired =>
      exact .filterResponse hbefore (Delivery.failure_fire_eq_some_iff.mp (congrArg _ hfired))
  · rintro (⟨hreaches, hfails⟩ | ⟨hreaches, hfails⟩ | ⟨hreaches, houtcome, hfails⟩ |
      ⟨hreaches, hfails⟩)
    · obtain ⟨_, _, _, hfired⟩ := Delivery.exists_fire_of_fails hfails
      exact Reaches.result_handle (hreaches.tail (.routeListenerFails hfired)) rfl
    · obtain ⟨_, _, _, hfired⟩ := Delivery.exists_fire_of_fails hfails
      exact Reaches.result_handle (hreaches.tail (.controllerListenerFails hfired)) rfl
    · obtain ⟨_, _, _, hfired⟩ := Delivery.exists_fire_of_fails hfails
      exact Reaches.result_handle (hreaches.tail (.resultListenerFails houtcome hfired)) rfl
    · obtain ⟨_, _, _, hfired⟩ := Delivery.exists_fire_of_fails hfails
      exact Reaches.result_handle (hreaches.tail (.filterFails hfired)) rfl

/-- The last event in any history of an error is the one that precedes the error. -/
theorem getLast?_events_of_mem_histories {error : KernelError} {stages : List Stage}
    (hmem : stages ∈ error.histories) :
    (stages.filterMap Stage.event?).getLast? = some error.lastEvent := by
  rcases error with _ | _ | _ | _ | ⟨_ | _ | _ | _, _⟩
  case listener.filterResponse =>
    -- whatever produced the response, filtering it comes last
    obtain ⟨source, -, rfl⟩ := List.mem_map.mp hmem
    cases source <;> rfl
  all_goals
    obtain rfl := List.mem_singleton.mp hmem
    rfl

/-- After an error, no further event is fired. -/
theorem getLast?_events_handle {error : KernelError}
    (hresult : (kernel.handle request scene).result = .error error) :
    (kernel.handle request scene).events.getLast? = some error.lastEvent := by
  have hmem := kernel.stages_handle_mem_histories request scene
  rw [hresult] at hmem
  exact getLast?_events_of_mem_histories hmem

/-- The errors of a kernel. A request fails for lack of a response exactly if it comes to the
outcome of a controller that is no response, and no listener fails or makes a response of it,
whatever else they do; the error then names the kind of the outcome that was set last. It fails at
an event exactly if a listener fails there, and for the reason of that listener. The event that
precedes an error is the last one that is fired. -/
theorem handle_failures (kernel : Kernel app) (request : Request) (scene : Scene app) :
    (∀ found, (kernel.handle request scene).result = .error (.integrity found) ↔
      ∃ controller outcome state,
        kernel.Dispatches request scene controller outcome state ∧
        outcome.isResponse = false ∧
        (∀ reply ∈ kernel.resultReplies state controller outcome,
          reply.failure = none ∧ reply.response = none) ∧
        found = (kernel.outcomeLeft state controller outcome).kindName) ∧
    (∀ event failure,
      (kernel.handle request scene).result = .error (.listener event failure) ↔
        kernel.ListenerFails request scene event failure) ∧
    ∀ error, (kernel.handle request scene).result = .error error →
      (kernel.handle request scene).events.getLast? = some error.lastEvent :=
  ⟨fun _ => result_handle_eq_integrity_iff, fun _ _ => result_handle_eq_listener_iff,
    fun _ => getLast?_events_handle⟩

/-- The blog with a controller that answers with nothing, and with listeners that replace that by a
response but do not set one. -/
def unansweredBlog : Kernel texts :=
  { blog with
    dispatch := fun _ request => return (.ok .empty, request)
    hooks :=
      { textHooks with
        onRoute := fun _ event => return ⟨event.request, none, none⟩
        onController := fun _ _ => return {}
        onControllerResult := fun text _ =>
          return { outcome := some (.response (.text 200 text)), stop := true } } }

/-- Handling a request to that blog fails for lack of a response, although the outcome that its
listeners leave is one. -/
theorem handle_failures_blog :
    (∃ controller outcome state,
      unansweredBlog.Dispatches { uri := "/" } blogScene controller outcome state ∧
      "Response" = (unansweredBlog.outcomeLeft state controller outcome).kindName) ∧
    (unansweredBlog.handle { uri := "/" } blogScene).events.getLast? = some .controllerResult := by
  obtain ⟨hintegrity, -, hlast⟩ := unansweredBlog.handle_failures { uri := "/" } blogScene
  have hresult : (unansweredBlog.handle { uri := "/" } blogScene).result =
      .error (.integrity "Response") := by
    decide +kernel
  obtain ⟨controller, outcome, state, hdispatches, -, -, hfound⟩ :=
    (hintegrity "Response").mp hresult
  exact ⟨⟨controller, outcome, state, hdispatches, hfound⟩, hlast _ hresult⟩

end Kernel

end RequestDispatch
