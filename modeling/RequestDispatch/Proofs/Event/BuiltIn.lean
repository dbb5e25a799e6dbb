import RequestDispatch.Proofs.Event.Counting

/-!
# The Listeners That Come With a Kernel

What the listeners that come with a kernel make of each event. Before routing and before dispatch
they leave an event as it is. A response they filter, depending on nothing but the request
(`ListenerKind.filtered`). An outcome they leave as it is, unless it is theirs to convert
(`ListenerKind.Converts`): there is one kind of listener for data, one for texts and one for views
(`ListenerKind.Converts.unique`), and none for other outcomes. The listener that converts an outcome
is the last one to hear of it, and until then the plugins are what they were
(`exists_deliverFrom_of_converts`).
-/

namespace RequestDispatch

variable {app : Application}

/-- Two scenes have the same plugins and listeners of the same kinds, whatever has been counted. -/
structure Scene.Keeps (first second : Scene app) : Prop where
  /-- The plugins are the same. -/
  plugins_eq : second.plugins = first.plugins
  /-- The listeners are of the same kinds. -/
  kinds_eq : second.kinds = first.kinds

namespace Scene.Keeps

variable {first second third : Scene app}

theorem refl (scene : Scene app) : scene.Keeps scene := ⟨rfl, rfl⟩

theorem trans (hfirst : first.Keeps second) (hsecond : second.Keeps third) : first.Keeps third :=
  ⟨hsecond.plugins_eq.trans hfirst.plugins_eq, hsecond.kinds_eq.trans hfirst.kinds_eq⟩

/-- Counting changes neither plugins nor kinds. -/
theorem count (scene : Scene app) (position : Nat) (counted : Metrics → Metrics) :
    scene.Keeps (scene.count position counted) :=
  ⟨rfl, scene.kinds_count position counted⟩

end Scene.Keeps

namespace Delivery

variable {ε : Type} {delivery : Delivery app ε} {kinds : List (ListenerKind app)}

/-- An event passes listeners if each of them does nothing but change the event, as long as what
holds of the event keeps holding. -/
theorem exists_passes (holds : ε → Prop) (after : ε → ListenerKind app → ε)
    (hheard : ∀ kind ∈ kinds, ∀ position event scene, holds event →
      delivery.hear position kind event scene =
        ((none, after event kind), scene.count position (delivery.count event)))
    (hafter : ∀ event kind, holds event →
      delivery.stopped (after event kind) = false ∧ holds (after event kind))
    (position : Nat) {event : ε} (hevent : holds event) (scene : Scene app) :
    ∃ lastScene,
      delivery.Passes position kinds event scene (kinds.foldl after event) lastScene ∧
      scene.Keeps lastScene := by
  induction kinds generalizing position event scene with
  | nil => exact ⟨scene, .nil, .refl scene⟩
  | cons kind kinds ih =>
    obtain ⟨hfirst, hothers⟩ := List.forall_mem_cons.mp hheard
    obtain ⟨hgoesOn, hnext⟩ := hafter event kind hevent
    obtain ⟨lastScene, hpasses, hkeeps⟩ :=
      ih hothers (position + 1) hnext (scene.count position (delivery.count event))
    refine ⟨lastScene, .cons (hfirst position event scene hevent) hgoesOn hpasses, ?_⟩
    exact (Scene.Keeps.count scene position _).trans hkeeps

/-- An event passes listeners as it is if each of them leaves it alone. -/
theorem exists_passes_unchanged {event : ε}
    (hheard : ∀ kind ∈ kinds, ∀ position scene,
      delivery.hear position kind event scene =
        ((none, event), scene.count position (delivery.count event)))
    (hgoesOn : delivery.stopped event = false) (position : Nat) (scene : Scene app) :
    ∃ lastScene, delivery.Passes position kinds event scene event lastScene ∧
      scene.Keeps lastScene := by
  -- what keeps holding of the event is that it is the one that was fired
  have hpasses := exists_passes (· = event) (fun event _ => event)
    (fun kind hkind position _ scene heq => heq ▸ hheard kind hkind position scene)
    (fun _ _ heq => ⟨heq ▸ hgoesOn, heq⟩) position rfl scene
  rwa [List.foldl_fixed] at hpasses

end Delivery

namespace ListenerKind

/-- The listener comes with the kernel. -/
def IsBuiltIn : ListenerKind app → Prop
  | tracing | metrics | json | text | views | headers _ => True
  | custom _ => False

/-- The response that a listener which comes with the kernel leaves. -/
def filtered (request : Request) (response : Response) : ListenerKind app → Response
  | tracing => response.addMissingHeader requestIdHeader request.id.text
  | headers added => response.addMissingHeaders added
  | metrics | json | text | views | custom _ => response

/-- The outcome is one that the listener turns into a response. -/
def Converts : ListenerKind app → Outcome → Prop
  | json, .json _ | text, .text _ | views, .view _ => True
  | _, _ => False

/-- An outcome that is a response is not converted any more. -/
theorem Converts.isResponse_eq_false {kind : ListenerKind app} {outcome : Outcome}
    (hconverts : kind.Converts outcome) : outcome.isResponse = false := by
  unfold Converts at hconverts
  split at hconverts
  · rfl
  · rfl
  · rfl
  · exact absurd hconverts id

/-- No outcome is turned into responses by two kinds of listeners. -/
theorem Converts.unique {first second : ListenerKind app} {outcome : Outcome}
    (hfirst : first.Converts outcome) (hsecond : second.Converts outcome) : first = second := by
  -- the outcome tells which listener each of the two is
  unfold Converts at hfirst hsecond
  split at hfirst <;> split at hsecond <;> simp_all

end ListenerKind

section

variable {kind : ListenerKind app} {kinds : List (ListenerKind app)} (hooks : Hooks app)
  (files : FileSystem) (position : Nat)

/-! ## Events that pass -/

/-- Before routing, a listener that comes with the kernel leaves the event as it is. -/
theorem hear_route_of_isBuiltIn (hkind : kind.IsBuiltIn) (event : RouteEvent) (scene : Scene app) :
    (routeDelivery hooks).hear position kind event scene =
      ((none, event), scene.count position ((routeDelivery hooks).count event)) := by
  cases kind with
  | custom => exact absurd hkind id
  | tracing | metrics | json | text | views | headers => rfl

/-- Before dispatch, a listener that comes with the kernel leaves the event as it is. -/
theorem hear_controller_of_isBuiltIn (hkind : kind.IsBuiltIn) (event : ControllerEvent app)
    (scene : Scene app) :
    (controllerDelivery hooks).hear position kind event scene =
      ((none, event), scene.count position ((controllerDelivery hooks).count event)) := by
  cases kind with
  | custom => exact absurd hkind id
  | tracing | metrics | json | text | views | headers => rfl

/-- A listener that comes with the kernel does not fail to filter a response. -/
theorem hear_filter_of_isBuiltIn (hkind : kind.IsBuiltIn) (event : FilterEvent)
    (scene : Scene app) :
    (filterDelivery hooks).hear position kind event scene =
      ((none, ⟨event.request, kind.filtered event.request event.response⟩),
        scene.count position ((filterDelivery hooks).count event)) := by
  cases kind with
  | custom => exact absurd hkind id
  | tracing | metrics | json | text | views | headers => rfl

/-- A listener that comes with the kernel leaves an outcome alone that it does not convert. -/
theorem hear_result_of_not_converts (hkind : kind.IsBuiltIn) {outcome : Outcome}
    (hconverts : ¬ kind.Converts outcome) (request : Request) (controller : app.Controller)
    (scene : Scene app) :
    (resultDelivery hooks files).hear position kind { request, controller, outcome } scene =
      ((none, { request, controller, outcome }), scene.count position Metrics.countResult) := by
  cases kind with
  | custom => exact absurd hkind id
  | tracing | metrics | headers => rfl
  | json | text | views =>
    cases outcome <;> first | rfl | exact absurd trivial hconverts

/-- The event before routing passes listeners that come with the kernel as it is. -/
theorem passes_route_of_isBuiltIn (hkinds : ∀ kind ∈ kinds, kind.IsBuiltIn) (event : RouteEvent)
    (scene : Scene app) :
    ∃ lastScene, (routeDelivery hooks).Passes position kinds event scene event lastScene ∧
      scene.Keeps lastScene := by
  refine Delivery.exists_passes_unchanged ?_ rfl position scene
  intro kind hkind position scene
  exact hear_route_of_isBuiltIn hooks position (hkinds kind hkind) event scene

/-- The event of a built controller passes listeners that come with the kernel as it is. -/
theorem passes_controller_of_isBuiltIn (hkinds : ∀ kind ∈ kinds, kind.IsBuiltIn)
    (event : ControllerEvent app) (scene : Scene app) :
    ∃ lastScene, (controllerDelivery hooks).Passes position kinds event scene event lastScene ∧
      scene.Keeps lastScene := by
  refine Delivery.exists_passes_unchanged ?_ rfl position scene
  intro kind hkind position scene
  exact hear_controller_of_isBuiltIn hooks position (hkinds kind hkind) event scene

/-- A response passes listeners that come with the kernel, and each of them filters it. -/
theorem passes_filter_of_isBuiltIn (hkinds : ∀ kind ∈ kinds, kind.IsBuiltIn)
    (event : FilterEvent) (scene : Scene app) :
    ∃ lastScene, (filterDelivery hooks).Passes position kinds event scene
        ⟨event.request, kinds.foldl (ListenerKind.filtered event.request) event.response⟩
        lastScene ∧
      scene.Keeps lastScene := by
  let after (event : FilterEvent) (kind : ListenerKind app) : FilterEvent :=
    ⟨event.request, kind.filtered event.request event.response⟩
  have hheard : ∀ kind ∈ kinds, ∀ position event scene, True →
      (filterDelivery hooks).hear position kind event scene = ((none, after event kind), _) :=
    fun kind hkind position event scene _ =>
      hear_filter_of_isBuiltIn hooks position (hkinds kind hkind) event scene
  -- the request of the event stays, so that listeners change nothing but the response
  have hfold : kinds.foldl after event =
      ⟨event.request, kinds.foldl (ListenerKind.filtered event.request) event.response⟩ :=
    List.foldl_hom (fun response => (⟨event.request, response⟩ : FilterEvent)) fun _ _ => rfl
  rw [← hfold]
  exact Delivery.exists_passes (fun _ => True) after hheard (fun _ _ _ => ⟨rfl, trivial⟩)
    position trivial scene

/-- An outcome that none of the listeners which come with the kernel converts passes them as it
is. -/
theorem passes_result_of_not_converts (hkinds : ∀ kind ∈ kinds, kind.IsBuiltIn)
    {outcome : Outcome} (hconverts : ∀ kind ∈ kinds, ¬ kind.Converts outcome)
    (request : Request) (controller : app.Controller) (scene : Scene app) :
    ∃ lastScene, (resultDelivery hooks files).Passes position kinds
        { request, controller, outcome } scene { request, controller, outcome } lastScene ∧
      scene.Keeps lastScene := by
  refine Delivery.exists_passes_unchanged ?_ rfl position scene
  intro kind hkind position scene
  exact hear_result_of_not_converts hooks files position (hkinds kind hkind) (hconverts kind hkind)
    request controller scene

/-! ## Outcomes that are converted -/

/-- The text of a view, or why there is none: the plugin that renders views is loaded, and renders
the model for the request. -/
def renderedView (plugins : AppPlugins app) (request : Request) (model : ViewModel) :
    Except Failure String :=
  match (plugins.loadAs viewPluginName Plugin.asViews? Plugin.viewsTypeName).value.1 with
  | .error error => .error (.plugin error)
  | .ok views => (views.render files request model).value.mapError .template

/-- The response that an outcome is turned into, or why there is none, if there is a listener for
outcomes of its kind. -/
def Outcome.conversion? (plugins : AppPlugins app) (request : Request) :
    Outcome → Option (Except Failure Response)
  | json value => some (.ok (.json 200 value))
  | text body => some (.ok (.text 200 body))
  | view model => some ((renderedView files plugins request model).map (.html 200))
  | response _ | empty => none

/-- A listener that renders views replies with the text that it renders, or fails. -/
theorem value_renderView (request : Request) (model : ViewModel) (here : Surroundings app) :
    (ListenerKind.renderView files request model here).value =
      match renderedView files here.plugins request model with
      | .error failure => { failure := some failure }
      | .ok body => { response := some (.html 200 body) } := by
  rw [renderedView]
  rcases hloaded : here.plugins.loadAs viewPluginName Plugin.asViews? Plugin.viewsTypeName with
    ⟨⟨error | views, after⟩, lines⟩
  · simp [ListenerKind.renderView, AppAction.withPlugins, bind, pure, hloaded]
  · rcases hrendered : (views.render files request model).value with error | body
    · simp [ListenerKind.renderView, AppAction.withPlugins, AppAction.ofLogged, bind, pure,
        hloaded, hrendered, Except.mapError]
    · simp [ListenerKind.renderView, AppAction.withPlugins, AppAction.ofLogged, AppAction.write,
        bind, pure, hloaded, hrendered, Except.mapError]

/-- The listener that converts an outcome sets the response, and stops the event, or it fails. -/
theorem hear_result_of_converts {outcome : Outcome} (hconverts : kind.Converts outcome)
    (request : Request) (controller : app.Controller) (scene : Scene app) :
    (∃ response nextScene,
      outcome.conversion? files scene.plugins request = some (.ok response) ∧
      (resultDelivery hooks files).hear position kind { request, controller, outcome } scene =
        ((none, ⟨request, controller, outcome, some response, true⟩), nextScene)) ∨
    ∃ failure nextScene,
      outcome.conversion? files scene.plugins request = some (.error failure) ∧
      (resultDelivery hooks files).hear position kind { request, controller, outcome } scene =
        ((some failure, { request, controller, outcome }), nextScene) := by
  unfold ListenerKind.Converts at hconverts
  split at hconverts
  · exact .inl ⟨_, _, rfl, rfl⟩
  · exact .inl ⟨_, _, rfl, rfl⟩
  · next model =>
    -- the reply is all that the event is changed by
    have hreply := congrArg
      (fun reply : ResultReply => (reply.failure,
        ({ request, controller, outcome := .view model } : ResultEvent app).after reply))
      (value_renderView files request model
        ⟨(scene.count position Metrics.countResult).listeners.length, scene.plugins⟩)
    rw [Outcome.conversion?]
    rcases hrendered : renderedView files scene.plugins request model with failure | body
    · rw [hrendered] at hreply
      exact .inr ⟨failure, _, rfl, Prod.ext hreply rfl⟩
    · rw [hrendered] at hreply
      exact .inl ⟨.html 200 body, _, rfl, Prod.ext hreply rfl⟩
  · exact absurd hconverts id

/-- If one of the listeners that come with a kernel converts an outcome, that one is the last to
hear of it, and the others do not change anything before. -/
theorem exists_deliverFrom_of_converts (hkinds : ∀ kind ∈ kinds, kind.IsBuiltIn)
    (hmem : kind ∈ kinds) {outcome : Outcome} (hconverts : kind.Converts outcome)
    (others : List (ListenerKind app)) (request : Request) (controller : app.Controller)
    (scene : Scene app) :
    ∃ last middle, scene.Keeps middle ∧
      ((resultDelivery hooks files).deliverFrom position (kinds ++ others)
          { request, controller, outcome } scene).value =
        let heard := (resultDelivery hooks files).hear last kind { request, controller, outcome }
          middle
        ⟨heard.1.1, heard.1.2, heard.2, last + 1⟩ := by
  induction kinds generalizing position scene with
  | nil => cases hmem
  | cons first kinds ih =>
    obtain ⟨hfirst, hothers⟩ := List.forall_mem_cons.mp hkinds
    by_cases hheads : first.Converts outcome
    · -- the first listener is the one, and it either fails or stops the event
      obtain rfl : first = kind := hheads.unique hconverts
      refine ⟨position, scene, .refl scene, ?_⟩
      rcases hear_result_of_converts hooks files position hconverts request controller scene with
        ⟨response, nextScene, -, hheard⟩ | ⟨failure, nextScene, -, hheard⟩
      · rw [hheard]
        exact Delivery.value_deliverFrom_of_stops hheard rfl _
      · rw [hheard]
        exact Delivery.value_deliverFrom_of_fails hheard _
    · -- the first listener lets the event pass, and the one that converts it is behind
      have hrest : kind ∈ kinds := by
        rcases List.mem_cons.mp hmem with rfl | hrest
        · exact absurd hconverts hheads
        · exact hrest
      have hheard :=
        hear_result_of_not_converts hooks files position hfirst hheads request controller scene
      obtain ⟨last, middle, hkeeps, hdelivered⟩ :=
        ih (position + 1) hothers hrest (scene.count position Metrics.countResult)
      refine ⟨last, middle, (Scene.Keeps.count scene position _).trans hkeeps, ?_⟩
      rw [← hdelivered]
      exact Delivery.value_deliverFrom_of_goesOn hheard rfl _

end

end RequestDispatch
