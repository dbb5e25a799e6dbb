import RequestDispatch.Proofs.Event.Hearing
import RequestDispatch.Proofs.Kernel.Realization

/-!
# What the Stages Do to the Scene

An arrow between two stages changes the scene in one of two ways: it fires an event and records how
many listeners heard it (`Kernel.Fires`), or it runs code of the application, or none, and records
no event (`Kernel.Runs`). Whatever holds of both ways holds of every arrow
(`Kernel.fires_or_runs_of_transition`). Both are changes of the scene
(`Kernel.later_of_reflTransGen`), so listeners are only ever added on the way
(`Kernel.kinds_prefix_of_reflTransGen`), and if there are no more of them in the end, there never
were (`Kernel.Reaches.kinds_eq`).
-/

namespace RequestDispatch.Kernel

open Relation (ReflTransGen)

variable {app : Application} {kernel : Kernel app}

/-- From one configuration to the next, an event is fired. -/
def Fires (first second : Configuration app) : Prop :=
  ∃ (ε : Type) (delivery : Delivery app ε) (event : ε),
    delivery.IsCounted ∧
    second.state.scene = (delivery.fire event first.state.scene).value.scene ∧
    second.steps = first.steps ++
      [.fired delivery.name (delivery.fire event first.state.scene).value.heard]

/-- From one configuration to the next, code of the application runs, if anything does, and no event
is fired. -/
def Runs (first second : Configuration app) : Prop :=
  ∃ (α : Type) (action : AppAction app α) (added : List KernelStep),
    (∀ event heard, .fired event heard ∉ added) ∧
    second.state.scene = (first.state.scene.run action).value.2 ∧
    second.steps = first.steps ++ added

/-- What is known of a delivery as a whole is known of the arrow that fires the event. -/
theorem Fires.of_eq {ε : Type} {delivery : Delivery app ε} (hcounted : delivery.IsCounted)
    {event : ε} {first second : Configuration app} {failure : Option Failure} {last : ε}
    {scene : Scene app} {heard : Nat}
    (hfired : (delivery.fire event first.state.scene).value = ⟨failure, last, scene, heard⟩)
    (hscene : second.state.scene = scene)
    (hsteps : second.steps = first.steps ++ [.fired delivery.name heard]) :
    Fires first second := by
  refine ⟨ε, delivery, event, hcounted, ?_, ?_⟩
  · rw [hfired, hscene]
  · rw [hfired, hsteps]

/-- An arrow fires an event, or it runs code of the application, if anything. -/
theorem fires_or_runs_of_transition {first second : Configuration app}
    (htransition : kernel.Transition first second) : Fires first second ∨ Runs first second := by
  cases htransition with
  | routeListenerFails hfired | routeListenerAnswers hfired _ | routeListenersPass hfired _ =>
    exact .inl (.of_eq (isCounted_routeDelivery kernel.hooks) hfired rfl rfl)
  | controllerListenerFails hfired | controllerListenerAnswers hfired _
  | controllerListenersPass hfired _ =>
    exact .inl (.of_eq (isCounted_controllerDelivery kernel.hooks) hfired rfl rfl)
  | resultListenerFails _ hfired | resultListenerAnswers _ hfired _
  | resultListenersPass _ hfired _ =>
    exact .inl (.of_eq (isCounted_resultDelivery kernel.hooks kernel.files) hfired rfl rfl)
  | filterFails hfired | filterSucceeds hfired =>
    exact .inl (.of_eq (isCounted_filterDelivery kernel.hooks) hfired rfl rfl)
  | factoryBuilds hbuilt =>
    refine .inr ⟨_, _, _, ?_, (congrArg Prod.snd hbuilt).symm, rfl⟩
    simp
  | routerFails hran | routerSucceeds hran | dispatchFails hran | dispatchSucceeds hran =>
    refine .inr ⟨_, _, _, ?_, (congrArg Prod.snd hran).symm, rfl⟩
    simp
  | callbackAnswers | callbackPasses | resolverFails | factoryMissing | factoryFound
  | outcomeAnswers =>
    refine .inr ⟨Unit, pure (), [], ?_, rfl, (List.append_nil _).symm⟩
    simp

/-- The events of a request and the code that runs in between are what happens to its scene. -/
theorem later_of_reflTransGen {first second : Configuration app}
    (hreaches : ReflTransGen kernel.Transition first second) :
    first.state.scene.Later second.state.scene := by
  induction hreaches with
  | refl => exact .refl
  | tail _ htransition ih =>
    rcases fires_or_runs_of_transition htransition with
      ⟨ε, delivery, event, -, hscene, -⟩ | ⟨α, action, added, -, hscene, -⟩
    · rw [hscene]
      exact ih.tail (.fire delivery event _)
    · rw [hscene]
      exact ih.tail (.run action _)

/-- Listeners are only ever added. -/
theorem kinds_prefix_of_reflTransGen {first second : Configuration app}
    (hreaches : ReflTransGen kernel.Transition first second) :
    first.state.scene.kinds <+: second.state.scene.kinds :=
  (later_of_reflTransGen hreaches).prefix_kinds

/-- While a request is handled, no listener is registered. -/
def KeepsListeners (kernel : Kernel app) (request : Request) (scene : Scene app) : Prop :=
  (kernel.handle request scene).state.scene.kinds = scene.kinds

/-- No listener has been registered if there are not more of them. -/
theorem keepsListeners_of_length_le {request : Request} {scene : Scene app}
    (hlength : (kernel.handle request scene).state.scene.kinds.length ≤ scene.kinds.length) :
    kernel.KeepsListeners request scene := by
  have hadded : scene.kinds <+: (kernel.handle request scene).state.scene.kinds :=
    kinds_prefix_of_reflTransGen (kernel.reaches_handle request scene)
  exact (hadded.eq_of_length_le hlength).symm

/-- If no listener is registered while a request is handled, the listeners are the same all
along. -/
theorem Reaches.kinds_eq {request : Request} {scene : Scene app} {reached : Configuration app}
    (hreaches : kernel.Reaches request scene reached)
    (hkeeps : kernel.KeepsListeners request scene) :
    reached.state.scene.kinds = scene.kinds := by
  have hbefore := kinds_prefix_of_reflTransGen hreaches
  have hafter := kinds_prefix_of_reflTransGen
    (hreaches.reaches_final ⟨_, rfl⟩ (kernel.reaches_handle request scene))
  rw [hkeeps] at hafter
  exact (hbefore.eq_of_length_le hafter.length_le).symm

end RequestDispatch.Kernel
