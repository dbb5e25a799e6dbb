import RequestDispatch.Proofs.Event.Delivery
import RequestDispatch.Proofs.Kernel.Handling
import RequestDispatch.Proofs.Kernel.Transitions

/-!
# The Pipeline Goes Along the Arrows

`Kernel.Realizes` relates a part of the pipeline to the transition system: begun at a position,
it goes along arrows to a position that fits its result, and records the steps of these arrows.
Parts that are put together realize what they realize one after the other (`Realizes.bind`), so
each part of the pipeline has one lemma, about the arrows that leave one position, and
`Kernel.reaches_handle` is put together from them.
-/

namespace RequestDispatch.Kernel

open Handling (bind_apply)
open Relation (ReflTransGen)

variable {app : Application} (kernel : Kernel app) {α β : Type}

/-- Begun at a position, a handling goes along arrows: to a position that belongs to its value,
or to its failure. -/
def Realizes (position : Position app) (handling : Handling app α)
    (ends : α → Position app → Prop) : Prop :=
  ∀ state steps, ∃ last,
    (match (handling state).result with
      | .ok value => ends value last
      | .error error => last = .failed error) ∧
    ReflTransGen kernel.Transition ⟨position, state, steps⟩
      ⟨last, (handling state).state, steps ++ (handling state).steps⟩

section Composition

variable {kernel} {position : Position app}

/-- One handling after another goes along the arrows of the first, then along those of the
second. -/
theorem Realizes.bind {first : Handling app α} {next : α → Handling app β}
    {between : α → Position app → Prop} {ends : β → Position app → Prop}
    (hfirst : kernel.Realizes position first between)
    (hnext : ∀ value middle, between value middle →
      kernel.Realizes middle (next value) ends) :
    kernel.Realizes position (first >>= next) ends := by
  intro state steps
  obtain ⟨middle, hbetween, hreaches⟩ := hfirst state steps
  rw [bind_apply]
  rcases hresult : (first state).result with error | value
  · rw [hresult] at hbetween
    exact ⟨middle, hbetween, hreaches⟩
  · rw [hresult] at hbetween
    obtain ⟨last, hends, hrest⟩ :=
      hnext value middle hbetween (first state).state (steps ++ (first state).steps)
    rw [List.append_assoc] at hrest
    exact ⟨last, hends, hreaches.trans hrest⟩

/-- A value stays where it is. -/
theorem Realizes.pure {value : α} {ends : α → Position app → Prop}
    (hends : ends value position) : kernel.Realizes position (pure value) ends := by
  intro state steps
  refine ⟨position, hends, ?_⟩
  simpa using ReflTransGen.refl

/-- Log lines leave no trace in the transition system. -/
theorem Realizes.write {level : Level} {message : String} {fields : List (String × FieldValue)}
    {handling : Handling app α} {ends : α → Position app → Prop}
    (hhandling : kernel.Realizes position handling ends) :
    kernel.Realizes position (Handling.write level message fields >>= fun _ => handling)
      ends := by
  intro state steps
  simpa [bind_apply] using hhandling state steps

/-- A handling that leads to filtered responses ends where its result says. -/
theorem Realizes.reaches {handling : Handling app Response}
    (hhandling : kernel.Realizes position handling fun response last => last = .filtered response)
    (state : HandlingState app) (steps : List KernelStep) :
    ReflTransGen kernel.Transition ⟨position, state, steps⟩
      ⟨.ofResult (handling state).result, (handling state).state,
        steps ++ (handling state).steps⟩ := by
  obtain ⟨last, hlast, hreaches⟩ := hhandling state steps
  rcases hresult : (handling state).result with error | response <;> rw [hresult] at hlast <;>
    subst hlast
  · exact hreaches
  · exact hreaches

end Composition

/-! ## What the events come to -/

@[simp]
theorem value_fire_route (state : HandlingState app) :
    ((routeDelivery kernel.hooks).fire { request := state.request } state.scene).value =
      kernel.onRoute state := rfl

@[simp]
theorem value_fire_controller (state : HandlingState app) (controller : app.Controller) :
    ((controllerDelivery kernel.hooks).fire { request := state.request, controller }
      state.scene).value = kernel.onController state controller := rfl

@[simp]
theorem value_fire_controllerResult (state : HandlingState app) (controller : app.Controller)
    (outcome : Outcome) :
    ((resultDelivery kernel.hooks kernel.files).fire
      { request := state.request, controller, outcome } state.scene).value =
        kernel.onControllerResult state controller outcome := rfl

@[simp]
theorem value_fire_filterResponse (state : HandlingState app) (response : Response) :
    ((filterDelivery kernel.hooks).fire { request := state.request, response }
      state.scene).value = kernel.onFilterResponse state response := rfl

@[simp]
theorem value_resolve (request : Request) :
    (kernel.resolver.resolve kernel.files request.module request.controller).value =
      kernel.resolved request := rfl

/-! ## The parts of the pipeline -/

/-- A position where there is a response, whatever produced it. -/
def HasResponse (response : Response) (position : Position app) : Prop :=
  ∃ source, position = .answered source response

/-- The event before routing answers, or lets the request pass to the router. -/
theorem realizes_fireRoute :
    kernel.Realizes .received kernel.fireRoute fun
      | some response, last => last = .answered .routeListener response
      | none, last => last = .unrouted := by
  intro state steps
  rcases hfired : kernel.onRoute state with
    ⟨_ | failure, ⟨request, _ | response⟩, scene, heard⟩
  · simpa [fireRoute, bind_apply, hfired] using
      ReflTransGen.single (Transition.routeListenersPass hfired rfl)
  · simpa [fireRoute, bind_apply, hfired] using
      ReflTransGen.single (Transition.routeListenerAnswers hfired rfl)
  -- a failure counts, whether or not there is a response
  all_goals
    simpa [fireRoute, bind_apply, hfired] using
      ReflTransGen.single (Transition.routeListenerFails hfired)

/-- The router chooses a route. -/
theorem realizes_runRouter :
    kernel.Realizes .unrouted kernel.runRouter fun route last => last = .routed route := by
  intro state steps
  rcases hrouted : (state.scene.run (kernel.router state.request)).value with
    ⟨⟨error | route, request⟩, scene⟩
  · simpa [runRouter, bind_apply, hrouted] using
      ReflTransGen.single (Transition.routerFails hrouted)
  · simpa [runRouter, bind_apply, hrouted] using
      ReflTransGen.single (Transition.routerSucceeds hrouted)

/-- Where routing leads: to a response, or to the request that no controller serves yet. -/
def EndsRouting : Early Unit → Position app → Prop
  | .answered response, last => HasResponse response last
  | .goOn _, last => last = .unserved

/-- The router chooses a route whose callback answers or not, unless a listener answers first. -/
theorem realizes_routeStage : kernel.Realizes .received kernel.routeStage EndsRouting := by
  refine kernel.realizes_fireRoute.bind ?_
  rintro (_ | response) _ rfl
  · refine kernel.realizes_runRouter.bind ?_
    -- the callback sees the request that the router has left
    rintro route _ rfl state steps
    rcases hanswer : route.answer? state.request with _ | response
    · refine ⟨.unserved, ?_⟩
      simpa [bind_apply, hanswer, EndsRouting] using
        ReflTransGen.single (Transition.callbackPasses hanswer)
    · refine ⟨.answered .callback response, ?_⟩
      simpa [bind_apply, hanswer, EndsRouting, HasResponse] using
        ReflTransGen.single (Transition.callbackAnswers hanswer)
  · exact .write (.pure ⟨.routeListener, rfl⟩)

/-- The factory of the controller is found. -/
theorem realizes_findController :
    kernel.Realizes .unserved kernel.findController fun (identity, factory) last =>
      last = .found identity factory := by
  intro state steps
  rcases hresolved : kernel.resolved state.request with error | controller
  · simpa [findController, bind_apply, hresolved] using
      ReflTransGen.single (Transition.resolverFails hresolved)
  · rcases hfactory : kernel.controllers.get? controller.identity with _ | factory
    · simpa [findController, bind_apply, hresolved, hfactory] using
        ReflTransGen.single (Transition.factoryMissing hresolved hfactory)
    · simpa [findController, bind_apply, hresolved, hfactory] using
        ReflTransGen.single (Transition.factoryFound hresolved hfactory)

/-- The factory builds the controller. -/
theorem realizes_buildController :
    kernel.Realizes .unserved kernel.buildController fun (identity, controller) last =>
      last = .built identity controller := by
  refine kernel.realizes_findController.bind ?_
  rintro ⟨identity, factory⟩ _ rfl state steps
  rcases hbuilt : (state.scene.run (factory state.request)).value with ⟨controller, scene⟩
  simpa [bind_apply, hbuilt] using ReflTransGen.single (Transition.factoryBuilds hbuilt)

/-- The event of the built controller answers, or leaves a controller for dispatch. -/
theorem realizes_controllerStage (identity : String) (controller : app.Controller) :
    kernel.Realizes (.built identity controller) (kernel.controllerStage controller) fun
      | .answered response, last => last = .answered .controllerListener response
      | .goOn accepted, last => last = .accepted identity accepted := by
  intro state steps
  rcases hfired : kernel.onController state controller with
    ⟨_ | failure, ⟨request, accepted, _ | response⟩, scene, heard⟩
  · simpa [controllerStage, Handling.fire, bind_apply, hfired] using
      ReflTransGen.single (Transition.controllerListenersPass hfired rfl)
  · simpa [controllerStage, Handling.fire, bind_apply, hfired] using
      ReflTransGen.single (Transition.controllerListenerAnswers hfired rfl)
  all_goals
    simpa [controllerStage, Handling.fire, bind_apply, hfired] using
      ReflTransGen.single (Transition.controllerListenerFails hfired)

/-- The controller is dispatched. -/
theorem realizes_dispatchController (identity : String) (controller : app.Controller) :
    kernel.Realizes (.accepted identity controller)
      (kernel.dispatchController identity controller)
      fun outcome last => last = .dispatched controller outcome := by
  intro state steps
  rcases hran : (state.scene.run (kernel.dispatch controller state.request)).value with
    ⟨⟨failure | outcome, request⟩, scene⟩
  · simpa [dispatchController, bind_apply, hran] using
      ReflTransGen.single (Transition.dispatchFails hran)
  · simpa [dispatchController, bind_apply, hran] using
      ReflTransGen.single (Transition.dispatchSucceeds hran)

/-- The outcome is a response, or a listener makes one of it. -/
theorem realizes_resultStage (controller : app.Controller) (outcome : Outcome) :
    kernel.Realizes (.dispatched controller outcome) (kernel.resultStage controller outcome)
      HasResponse := by
  intro state steps
  by_cases hresponse : ∃ response, outcome = .response response
  · obtain ⟨response, rfl⟩ := hresponse
    refine ⟨.answered .outcome response, ⟨.outcome, rfl⟩, ?_⟩
    simpa [resultStage] using ReflTransGen.single Transition.outcomeAnswers
  · have hother : ∀ response, outcome ≠ .response response := not_exists.mp hresponse
    have houtcome : outcome.isResponse = false := by
      cases outcome with
      | response response => exact absurd rfl (hother response)
      | json | view | text | empty => rfl
    rcases hfired : kernel.onControllerResult state controller outcome with
      ⟨_ | failure, ⟨request, _, left, _ | response, stopped⟩, scene, heard⟩
    · simpa [resultStage, hother, Handling.fire, bind_apply, hfired] using
        ReflTransGen.single (Transition.resultListenersPass houtcome hfired rfl)
    · refine ⟨.answered .resultListener response, ?_⟩
      simpa [resultStage, hother, Handling.fire, bind_apply, hfired, HasResponse] using
        ReflTransGen.single (Transition.resultListenerAnswers houtcome hfired rfl)
    all_goals
      simpa [resultStage, hother, Handling.fire, bind_apply, hfired] using
        ReflTransGen.single (Transition.resultListenerFails houtcome hfired)

/-- Where the stages up to dispatch lead: to a response, or to the outcome of a controller. -/
def EndsDispatch : Early (app.Controller × Outcome) → Position app → Prop
  | .answered response, last => HasResponse response last
  | .goOn (controller, outcome), last => last = .dispatched controller outcome

/-- The stages up to the outcome of a controller. -/
theorem realizes_outcomeStage : kernel.Realizes .received kernel.outcomeStage EndsDispatch := by
  refine kernel.realizes_routeStage.bind ?_
  rintro (response | _) middle hmiddle
  · exact .pure hmiddle
  · obtain rfl : middle = .unserved := hmiddle
    refine kernel.realizes_buildController.bind ?_
    rintro ⟨identity, controller⟩ _ rfl
    refine (kernel.realizes_controllerStage identity controller).bind ?_
    rintro (response | accepted) _ rfl
    · exact .pure ⟨.controllerListener, rfl⟩
    · refine (kernel.realizes_dispatchController identity accepted).bind ?_
      rintro outcome _ rfl
      exact .pure rfl

/-- The stages up to a response. -/
theorem realizes_decide : kernel.Realizes .received kernel.decide HasResponse := by
  refine kernel.realizes_outcomeStage.bind ?_
  rintro (response | ⟨controller, outcome⟩) middle hmiddle
  · exact .pure hmiddle
  · obtain rfl : middle = .dispatched controller outcome := hmiddle
    exact kernel.realizes_resultStage controller outcome

/-- The response is filtered. -/
theorem realizes_filterStage (source : Source) (response : Response) :
    kernel.Realizes (.answered source response) (kernel.filterStage response)
      fun filtered last => last = .filtered filtered := by
  intro state steps
  rcases hfired : kernel.onFilterResponse state response with
    ⟨_ | failure, ⟨request, filtered⟩, scene, heard⟩
  · simpa [filterStage, Handling.fire, bind_apply, hfired] using
      ReflTransGen.single (Transition.filterSucceeds hfired)
  · simpa [filterStage, Handling.fire, bind_apply, hfired] using
      ReflTransGen.single (Transition.filterFails hfired)

/-- Handling a request goes along the arrows to a final position, and its result, its state and
its steps are those there. -/
theorem reaches_handle (request : Request) (scene : Scene app) :
    kernel.Reaches request scene
      ⟨.ofResult (kernel.handle request scene).result, (kernel.handle request scene).state,
        (kernel.handle request scene).steps⟩ := by
  have hstages : kernel.Realizes .received (do
      let response ← kernel.filterStage (← kernel.decide)
      Handling.write .info "Request handled" [("status", .number response.status)]
      return response) fun filtered last => last = .filtered filtered := by
    refine kernel.realizes_decide.bind ?_
    rintro response _ ⟨source, rfl⟩
    refine (kernel.realizes_filterStage source response).bind ?_
    rintro filtered _ rfl
    exact .write (.pure rfl)
  -- before its stages, the pipeline stamps the base URL on the request
  simpa [handle, pipeline, bind_apply, Reaches] using
    hstages.reaches ⟨kernel.stampBaseUrl request, scene⟩ []

end RequestDispatch.Kernel
