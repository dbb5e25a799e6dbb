import RequestDispatch.Proofs.Kernel.Configured
import RequestDispatch.Proofs.Kernel.Stages

/-!
# Listeners in Another Order

The listeners that turn outcomes into responses can be registered anywhere among those that come
with a kernel. Two scenes are compared that begin with the same such listeners, in orders that
differ in this way (`ListenerKind.Reordered`), and agree on all else but the counts (`Scene.Alike`).

Code of the application does the same in both, since it sees nothing of the order
(`Scene.Alike.exists_run`), and events are delivered alike to the listeners that are registered
later (`Scene.Alike.deliverFrom`). Those that come with the kernel either all let an event pass, or
it is an outcome that one of them converts, and that is the same one in both orders
(`Scene.Alike.fire_result`). So every arrow between the stages can be taken in both scenes alike
(`Kernel.exists_transition_of_alike`), and handling a request has the same result
(`Kernel.result_handle_of_reordered`).
-/

namespace RequestDispatch

open Delivery (Delivered)

variable {app : Application} {kinds others : List (ListenerKind app)}

namespace ListenerKind

/-- Whether the listener turns outcomes of some kind into responses. -/
def isConverter : ListenerKind app → Bool
  | json | text | views => true
  | tracing | metrics | headers _ | custom _ => false

/-- Listeners that come with the kernel, in two orders. Those that turn outcomes into responses can
be anywhere, and the others keep their order. -/
structure Reordered (kinds others : List (ListenerKind app)) : Prop where
  /-- All of them come with the kernel. -/
  isBuiltIn : ∀ kind ∈ kinds, kind.IsBuiltIn
  /-- The listeners are the same. -/
  perm : others.Perm kinds
  /-- Those that do not turn outcomes into responses keep their order. -/
  filter_eq : others.filter (!·.isConverter) = kinds.filter (!·.isConverter)

/-- What listeners make of a response depends only on those that do not turn outcomes into
responses. -/
theorem foldl_filtered_filter (request : Request) (response : Response)
    (kinds : List (ListenerKind app)) :
    (kinds.filter (!·.isConverter)).foldl (filtered request) response =
      kinds.foldl (filtered request) response := by
  rw [List.foldl_filter]
  congr 1
  funext response kind
  cases kind <;> rfl

variable (hreordered : Reordered kinds others)

include hreordered

theorem Reordered.isBuiltIn_others : ∀ kind ∈ others, kind.IsBuiltIn := by
  intro kind hmem
  exact hreordered.isBuiltIn kind (hreordered.perm.mem_iff.mp hmem)

/-- Listeners in another order filter responses alike. -/
theorem Reordered.foldl_filtered (request : Request) (response : Response) :
    others.foldl (filtered request) response = kinds.foldl (filtered request) response := by
  rw [← foldl_filtered_filter, hreordered.filter_eq, foldl_filtered_filter]

end ListenerKind

open ListenerKind (Reordered)

/-! ## Scenes that differ in the order of listeners -/

theorem Scene.plugins_addAll (scene : Scene app) (added : List (ListenerKind app)) :
    (scene.addAll added).plugins = scene.plugins := by
  rw [addAll]
  induction added generalizing scene with
  | nil => rfl
  | cons kind added ih =>
    rw [List.foldl_cons, ih]
    rfl

/-- Two scenes begin with listeners in two orders, and agree on all else but the counts. -/
structure Scene.Alike (kinds others : List (ListenerKind app)) (first second : Scene app) :
    Prop where
  /-- The plugins are the same. -/
  plugins_eq : second.plugins = first.plugins
  /-- The listeners behind those that differ in their order are the same. -/
  exists_rest : ∃ rest, first.kinds = kinds ++ rest ∧ second.kinds = others ++ rest

/-- What comes of delivering an event is the same, the number of listeners that heard it aside. -/
structure Delivered.Alike {ε : Type} (kinds others : List (ListenerKind app))
    (first second : Delivered app ε) : Prop where
  /-- The same failure came of it, if any. -/
  failure_eq : second.failure = first.failure
  /-- The event is the same. -/
  event_eq : second.event = first.event
  /-- The scenes are alike. -/
  scene : Scene.Alike kinds others first.scene second.scene

theorem Delivered.Alike.exists_eq {ε : Type} {first second : Delivered app ε}
    (halike : Delivered.Alike kinds others first second) {failure : Option Failure} {event : ε}
    {scene : Scene app} {heard : Nat} (hfirst : first = ⟨failure, event, scene, heard⟩) :
    ∃ otherScene otherHeard, second = ⟨failure, event, otherScene, otherHeard⟩ ∧
      Scene.Alike kinds others scene otherScene := by
  subst hfirst
  obtain ⟨otherFailure, otherEvent, otherScene, otherHeard⟩ := second
  obtain ⟨rfl, rfl, hscene⟩ := halike
  exact ⟨otherScene, otherHeard, rfl, hscene⟩

namespace Scene.Alike

variable {α ε : Type} {first second : Scene app}

/-- Scenes stay alike while neither plugins nor listeners change. -/
theorem keeps {firstNext secondNext : Scene app} (halike : Alike kinds others first second)
    (hfirst : first.Keeps firstNext) (hsecond : second.Keeps secondNext) :
    Alike kinds others firstNext secondNext := by
  refine ⟨?_, ?_⟩
  · rw [hsecond.plugins_eq, halike.plugins_eq, hfirst.plugins_eq]
  · rw [hfirst.kinds_eq, hsecond.kinds_eq]
    exact halike.exists_rest

variable (hreordered : Reordered kinds others)

include hreordered

theorem length_eq (halike : Alike kinds others first second) :
    second.listeners.length = first.listeners.length := by
  obtain ⟨rest, hfirst, hsecond⟩ := halike.exists_rest
  have hlengths : second.kinds.length = first.kinds.length := by
    rw [hfirst, hsecond, List.length_append, List.length_append, hreordered.perm.length_eq]
  simpa [Scene.kinds] using hlengths

/-- Code of the application does the same in scenes that are alike. -/
theorem exists_run (halike : Alike kinds others first second) {action : AppAction app α} {value : α}
    {next : Scene app} (hran : (first.run action).value = (value, next)) :
    ∃ other, (second.run action).value = (value, other) ∧ Alike kinds others next other := by
  -- of the listeners, the code sees nothing but their number
  have hhere : (⟨second.listeners.length, second.plugins⟩ : Surroundings app) =
      ⟨first.listeners.length, first.plugins⟩ := by
    rw [halike.length_eq hreordered, halike.plugins_eq]
  obtain ⟨rfl, rfl⟩ := Prod.ext_iff.mp hran
  obtain ⟨rest, hfirst, hsecond⟩ := halike.exists_rest
  refine ⟨(second.run action).value.2, Prod.ext ?_ rfl, ?_, ?_⟩
  · exact congrArg (fun here => (action here).value) hhere
  · rw [Scene.run, Scene.run, Scene.plugins_addAll, Scene.plugins_addAll]
    exact congrArg (fun here => (action here).plugins) hhere
  · -- what the code registers comes last in both
    refine ⟨rest ++ (action ⟨first.listeners.length, first.plugins⟩).added, ?_, ?_⟩
    · rw [Scene.run, Scene.kinds_addAll, ← List.append_assoc, ← hfirst]
      rfl
    · rw [Scene.run, Scene.kinds_addAll, hhere, ← List.append_assoc, ← hsecond]
      rfl

/-- A listener makes the same of an event in scenes that are alike, wherever it is. -/
theorem exists_hear (halike : Alike kinds others first second) {delivery : Delivery app ε}
    {position : Nat} {kind : ListenerKind app} {event : ε} {heard : Option Failure × ε}
    {next : Scene app} (hheard : delivery.hear position kind event first = (heard, next))
    (otherPosition : Nat) :
    ∃ other, delivery.hear otherPosition kind event second = (heard, other) ∧
      Alike kinds others next other :=
  (halike.keeps (.count first position _) (.count second otherPosition _)).exists_run hreordered
    hheard

/-- An event is delivered alike to the same listeners. -/
theorem deliverFrom (halike : Alike kinds others first second) (delivery : Delivery app ε)
    (position : Nat) (rest : List (ListenerKind app)) (event : ε) :
    Delivered.Alike kinds others (delivery.deliverFrom position rest event first).value
      (delivery.deliverFrom position rest event second).value := by
  induction rest generalizing position event first second with
  | nil => exact ⟨rfl, rfl, halike⟩
  | cons kind rest ih =>
    rcases hfirst : delivery.hear position kind event first with
      ⟨⟨_ | failure, next⟩, firstScene⟩
    · obtain ⟨secondScene, hsecond, hscene⟩ := halike.exists_hear hreordered hfirst position
      rcases hstops : delivery.stopped next with _ | _
      · rw [Delivery.value_deliverFrom_of_goesOn hfirst hstops,
          Delivery.value_deliverFrom_of_goesOn hsecond hstops]
        exact ih hscene (position + 1) next
      · rw [Delivery.value_deliverFrom_of_stops hfirst hstops,
          Delivery.value_deliverFrom_of_stops hsecond hstops]
        exact ⟨rfl, rfl, hscene⟩
    · obtain ⟨secondScene, hsecond, hscene⟩ := halike.exists_hear hreordered hfirst position
      rw [Delivery.value_deliverFrom_of_fails hfirst, Delivery.value_deliverFrom_of_fails hsecond]
      exact ⟨rfl, rfl, hscene⟩

/-- An event is fired alike if it passes the listeners in either order, and becomes the same. -/
theorem fire_of_passes (halike : Alike kinds others first second) {delivery : Delivery app ε}
    {event last : ε}
    (hkinds : ∃ lastScene, delivery.Passes 0 kinds event first last lastScene ∧
      first.Keeps lastScene)
    (hothers : ∃ lastScene, delivery.Passes 0 others event second last lastScene ∧
      second.Keeps lastScene) :
    Delivered.Alike kinds others (delivery.fire event first).value
      (delivery.fire event second).value := by
  obtain ⟨rest, hfirst, hsecond⟩ := halike.exists_rest
  obtain ⟨firstScene, hpasses, hkeeps⟩ := hkinds
  obtain ⟨secondScene, hpasses', hkeeps'⟩ := hothers
  -- the listeners behind are at the same positions, since those in front are equally many
  rw [Delivery.fire, Delivery.fire, hfirst, hsecond, Delivery.deliverFrom_of_passes hpasses,
    Delivery.deliverFrom_of_passes hpasses', hreordered.perm.length_eq]
  exact (halike.keeps hkeeps hkeeps').deliverFrom hreordered delivery _ rest last

variable (hooks : Hooks app) (files : FileSystem)

theorem fire_route (halike : Alike kinds others first second) (event : RouteEvent) :
    Delivered.Alike kinds others ((routeDelivery hooks).fire event first).value
      ((routeDelivery hooks).fire event second).value :=
  halike.fire_of_passes hreordered
    (passes_route_of_isBuiltIn hooks 0 hreordered.isBuiltIn event first)
    (passes_route_of_isBuiltIn hooks 0 hreordered.isBuiltIn_others event second)

theorem fire_controller (halike : Alike kinds others first second) (event : ControllerEvent app) :
    Delivered.Alike kinds others ((controllerDelivery hooks).fire event first).value
      ((controllerDelivery hooks).fire event second).value :=
  halike.fire_of_passes hreordered
    (passes_controller_of_isBuiltIn hooks 0 hreordered.isBuiltIn event first)
    (passes_controller_of_isBuiltIn hooks 0 hreordered.isBuiltIn_others event second)

theorem fire_filter (halike : Alike kinds others first second) (event : FilterEvent) :
    Delivered.Alike kinds others ((filterDelivery hooks).fire event first).value
      ((filterDelivery hooks).fire event second).value := by
  have hothers := passes_filter_of_isBuiltIn hooks 0 hreordered.isBuiltIn_others event second
  rw [hreordered.foldl_filtered] at hothers
  exact halike.fire_of_passes hreordered
    (passes_filter_of_isBuiltIn hooks 0 hreordered.isBuiltIn event first) hothers

/-- If one of the listeners converts an outcome, it is the same one in either order. -/
theorem fire_result (halike : Alike kinds others first second) (request : Request)
    (controller : app.Controller) (outcome : Outcome) :
    Delivered.Alike kinds others
      ((resultDelivery hooks files).fire { request, controller, outcome } first).value
      ((resultDelivery hooks files).fire { request, controller, outcome } second).value := by
  by_cases hconverts : ∃ kind ∈ kinds, kind.Converts outcome
  · obtain ⟨rest, hfirst, hsecond⟩ := halike.exists_rest
    obtain ⟨kind, hmem, hconverts⟩ := hconverts
    obtain ⟨last, middle, hkeeps, hdelivered⟩ := exists_deliverFrom_of_converts hooks files 0
      hreordered.isBuiltIn hmem hconverts rest request controller first
    obtain ⟨last', middle', hkeeps', hdelivered'⟩ := exists_deliverFrom_of_converts hooks files 0
      hreordered.isBuiltIn_others (hreordered.perm.mem_iff.mpr hmem) hconverts rest request
      controller second
    rw [Delivery.fire, Delivery.fire, hfirst, hsecond, hdelivered, hdelivered']
    -- it hears the same event in scenes that are still alike, at whatever position
    rcases hheard : (resultDelivery hooks files).hear last kind { request, controller, outcome }
      middle with ⟨heard, next⟩
    obtain ⟨other, hother, hscene⟩ :=
      (halike.keeps hkeeps hkeeps').exists_hear hreordered hheard last'
    rw [hother]
    exact ⟨rfl, rfl, hscene⟩
  · have hkinds : ∀ kind ∈ kinds, ¬ kind.Converts outcome := by
      intro kind hmem hkind
      exact hconverts ⟨kind, hmem, hkind⟩
    have hothers : ∀ kind ∈ others, ¬ kind.Converts outcome := by
      intro kind hmem
      exact hkinds kind (hreordered.perm.mem_iff.mp hmem)
    exact halike.fire_of_passes hreordered
      (passes_result_of_not_converts hooks files 0 hreordered.isBuiltIn hkinds request controller
        first)
      (passes_result_of_not_converts hooks files 0 hreordered.isBuiltIn_others hothers request
        controller second)

end Scene.Alike

namespace Kernel

/-! ## Handling in scenes that are alike -/

variable {kernel : Kernel app}

/-- Two configurations are at the same position, with the same request and scenes that are alike. -/
inductive AlikeAt (kinds others : List (ListenerKind app)) :
    Configuration app → Configuration app → Prop where
  /-- The steps can be different, since other numbers of listeners may have heard of an event. -/
  | intro {position : Position app} {request : Request} {first second : Scene app}
      {steps otherSteps : List KernelStep} (hscene : Scene.Alike kinds others first second) :
      AlikeAt kinds others ⟨position, ⟨request, first⟩, steps⟩
        ⟨position, ⟨request, second⟩, otherSteps⟩

theorem AlikeAt.position_eq {first second : Configuration app}
    (halike : AlikeAt kinds others first second) : second.position = first.position := by
  obtain ⟨-⟩ := halike
  rfl

variable (hreordered : Reordered kinds others)

include hreordered

/-- An arrow that leaves one of two configurations that are alike has a counterpart that leaves the
other one. -/
theorem exists_transition_of_alike {first next other : Configuration app}
    (htransition : kernel.Transition first next) (halike : AlikeAt kinds others first other) :
    ∃ otherNext, kernel.Transition other otherNext ∧ AlikeAt kinds others next otherNext := by
  obtain ⟨halike⟩ := halike
  cases htransition with
  | routeListenerFails hfired =>
    obtain ⟨_, _, hother, hscene⟩ := (halike.fire_route hreordered _ _).exists_eq hfired
    exact ⟨_, .routeListenerFails hother, .intro hscene⟩
  | routeListenerAnswers hfired hanswer =>
    obtain ⟨_, _, hother, hscene⟩ := (halike.fire_route hreordered _ _).exists_eq hfired
    exact ⟨_, .routeListenerAnswers hother hanswer, .intro hscene⟩
  | routeListenersPass hfired hanswer =>
    obtain ⟨_, _, hother, hscene⟩ := (halike.fire_route hreordered _ _).exists_eq hfired
    exact ⟨_, .routeListenersPass hother hanswer, .intro hscene⟩
  | routerFails hrouted =>
    obtain ⟨_, hother, hscene⟩ := halike.exists_run hreordered hrouted
    exact ⟨_, .routerFails hother, .intro hscene⟩
  | routerSucceeds hrouted =>
    obtain ⟨_, hother, hscene⟩ := halike.exists_run hreordered hrouted
    exact ⟨_, .routerSucceeds hother, .intro hscene⟩
  | callbackAnswers hanswer => exact ⟨_, .callbackAnswers hanswer, .intro halike⟩
  | callbackPasses hanswer => exact ⟨_, .callbackPasses hanswer, .intro halike⟩
  | resolverFails hresolved => exact ⟨_, .resolverFails hresolved, .intro halike⟩
  | factoryMissing hresolved hfactory =>
    exact ⟨_, .factoryMissing hresolved hfactory, .intro halike⟩
  | factoryFound hresolved hfactory => exact ⟨_, .factoryFound hresolved hfactory, .intro halike⟩
  | factoryBuilds hbuilt =>
    obtain ⟨_, hother, hscene⟩ := halike.exists_run hreordered hbuilt
    exact ⟨_, .factoryBuilds hother, .intro hscene⟩
  | controllerListenerFails hfired =>
    obtain ⟨_, _, hother, hscene⟩ := (halike.fire_controller hreordered _ _).exists_eq hfired
    exact ⟨_, .controllerListenerFails hother, .intro hscene⟩
  | controllerListenerAnswers hfired hanswer =>
    obtain ⟨_, _, hother, hscene⟩ := (halike.fire_controller hreordered _ _).exists_eq hfired
    exact ⟨_, .controllerListenerAnswers hother hanswer, .intro hscene⟩
  | controllerListenersPass hfired hanswer =>
    obtain ⟨_, _, hother, hscene⟩ := (halike.fire_controller hreordered _ _).exists_eq hfired
    exact ⟨_, .controllerListenersPass hother hanswer, .intro hscene⟩
  | dispatchFails hran =>
    obtain ⟨_, hother, hscene⟩ := halike.exists_run hreordered hran
    exact ⟨_, .dispatchFails hother, .intro hscene⟩
  | dispatchSucceeds hran =>
    obtain ⟨_, hother, hscene⟩ := halike.exists_run hreordered hran
    exact ⟨_, .dispatchSucceeds hother, .intro hscene⟩
  | outcomeAnswers => exact ⟨_, .outcomeAnswers, .intro halike⟩
  | resultListenerFails houtcome hfired =>
    obtain ⟨_, _, hother, hscene⟩ := (halike.fire_result hreordered _ _ _ _ _).exists_eq hfired
    exact ⟨_, .resultListenerFails houtcome hother, .intro hscene⟩
  | resultListenerAnswers houtcome hfired hanswer =>
    obtain ⟨_, _, hother, hscene⟩ := (halike.fire_result hreordered _ _ _ _ _).exists_eq hfired
    exact ⟨_, .resultListenerAnswers houtcome hother hanswer, .intro hscene⟩
  | resultListenersPass houtcome hfired hanswer =>
    obtain ⟨_, _, hother, hscene⟩ := (halike.fire_result hreordered _ _ _ _ _).exists_eq hfired
    exact ⟨_, .resultListenersPass houtcome hother hanswer, .intro hscene⟩
  | filterFails hfired =>
    obtain ⟨_, _, hother, hscene⟩ := (halike.fire_filter hreordered _ _).exists_eq hfired
    exact ⟨_, .filterFails hother, .intro hscene⟩
  | filterSucceeds hfired =>
    obtain ⟨_, _, hother, hscene⟩ := (halike.fire_filter hreordered _ _).exists_eq hfired
    exact ⟨_, .filterSucceeds hother, .intro hscene⟩

/-- Whatever a request reaches in one of two scenes that are alike, it reaches a counterpart of that
in the other one. -/
theorem Reaches.exists_alike {request : Request} {scene other : Scene app}
    {reached : Configuration app} (hreaches : kernel.Reaches request scene reached)
    (halike : Scene.Alike kinds others scene other) :
    ∃ otherReached, kernel.Reaches request other otherReached ∧
      AlikeAt kinds others reached otherReached := by
  induction hreaches with
  | refl => exact ⟨_, .refl, .intro halike⟩
  | tail _ htransition ih =>
    obtain ⟨middle, hmiddle, hbefore⟩ := ih
    obtain ⟨last, hlast, hafter⟩ := exists_transition_of_alike hreordered htransition hbefore
    exact ⟨last, hmiddle.tail hlast, hafter⟩

omit hreordered in
/-- With its listeners in another order, a kernel handles a request with the same result. -/
theorem result_handle_of_reordered (kernel : Kernel app) (request : Request)
    {scene other : Scene app} (hplugins : other.plugins = scene.plugins)
    (hreordered : Reordered scene.kinds other.kinds) :
    (kernel.handle request other).result = (kernel.handle request scene).result := by
  have halike : Scene.Alike scene.kinds other.kinds scene other :=
    ⟨hplugins, [], (List.append_nil _).symm, (List.append_nil _).symm⟩
  obtain ⟨last, hreaches, hlast⟩ :=
    (kernel.reaches_handle request scene).exists_alike hreordered halike
  exact hreaches.result_handle hlast.position_eq

end Kernel

end RequestDispatch
