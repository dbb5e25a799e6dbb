import RequestDispatch.Proofs.Kernel.Failures
import RequestDispatch.Proofs.Kernel.Filtering
import RequestDispatch.Proofs.Kernel.ListenerOrder
import RequestDispatch.Proofs.Plugin.Operations

/-!
# What a Configured Kernel Makes of Outcomes

Among the listeners of settings, there is one for data, one for texts and one for views
(`KernelSettings.exists_converts`). So a request whose controller has an outcome ends as that
outcome says (`Outcome.ending`): with a response, with the failure of the listener that renders
views, or, if the outcome is empty, for lack of a response (`Kernel.ending_of_dispatches`). The
order in which these listeners are registered is of no account (`Kernel.outcomes_of_configure`).
-/

namespace RequestDispatch

variable {app : Application}

/-- What an outcome is answered with, its status and its body, or why it is not answered. -/
def Outcome.ending (files : FileSystem) (plugins : AppPlugins app) (request : Request) :
    Outcome → Except KernelError (Nat × String)
  | response answer => .ok (answer.status, answer.body)
  | json value => .ok (200, value.compact)
  | text body => .ok (200, body)
  | view model =>
    match renderedView files plugins request model with
    | .ok body => .ok (200, body)
    | .error failure => .error (.listener .controllerResult failure)
  | empty => .error (.integrity empty.kindName)

/-- What a request ends with whose outcome has been converted, or failed to be. -/
def conversionEnding : Except Failure Response → Except KernelError (Nat × String)
  | .ok answer => .ok (answer.status, answer.body)
  | .error failure => .error (.listener .controllerResult failure)

/-- An outcome that is converted ends as its conversion does. -/
theorem Outcome.ending_of_conversion {files : FileSystem} {plugins : AppPlugins app}
    {request : Request} {outcome : Outcome} {conversion : Except Failure Response}
    (hconversion : outcome.conversion? files plugins request = some conversion) :
    outcome.ending files plugins request = conversionEnding conversion := by
  cases outcome with
  | response | empty => cases hconversion
  | json | text =>
    obtain rfl := Option.some.inj hconversion
    rfl
  | view model =>
    obtain rfl := Option.some.inj hconversion
    rw [Outcome.ending]
    rcases renderedView files plugins request model with failure | body
    · rfl
    · rfl

/-- Among the listeners of settings, there is one for each outcome that can be converted. -/
theorem KernelSettings.exists_converts (settings : KernelSettings) {files : FileSystem}
    {plugins : AppPlugins app} {request : Request} {outcome : Outcome}
    {conversion : Except Failure Response}
    (hconversion : outcome.conversion? files plugins request = some conversion) :
    ∃ kind ∈ (settings.listeners : List (ListenerKind app)), kind.Converts outcome := by
  cases outcome with
  | response | empty => cases hconversion
  | json => exact ⟨.json, by simp [listeners], trivial⟩
  | text => exact ⟨.text, by simp [listeners], trivial⟩
  | view => exact ⟨.views, by simp [listeners], trivial⟩

/-- What listeners of settings add to a response leaves its status and its body. -/
theorem KernelSettings.status_body_filtered (settings : KernelSettings) (request : Request)
    (response : Response) :
    ((settings.filtered request response).status, (settings.filtered request response).body) =
      (response.status, response.body) := by
  obtain ⟨added, -, hfiltered⟩ := settings.exists_filtered_eq request response
  rw [hfiltered]

namespace Kernel

variable {kernel : Kernel app} {settings : KernelSettings} {request : Request} {scene : Scene app}
  {controller : app.Controller} {outcome : Outcome} {state : HandlingState app}

/-- The result of a request with the status and the body of its response. -/
def ending (kernel : Kernel app) (request : Request) (scene : Scene app) :
    Except KernelError (Nat × String) :=
  (kernel.handle request scene).result.map fun response => (response.status, response.body)

/-- A request ends with an error if that is its result. -/
theorem ending_eq_error_iff {error : KernelError} :
    kernel.ending request scene = .error error ↔
      (kernel.handle request scene).result = .error error := by
  rw [ending]
  rcases (kernel.handle request scene).result with _ | _ <;> simp [Except.map]

/-- With the listeners of settings, a response that a source produces is the answer. -/
theorem ending_of_produces {source : Source} {answer : Response}
    (hproduces : kernel.Produces request scene source answer state)
    (hkinds : scene.kinds = settings.listeners) (hkeeps : kernel.KeepsListeners request scene) :
    kernel.ending request scene = .ok (answer.status, answer.body) := by
  rw [ending, result_handle_of_produces hproduces hkinds hkeeps, Except.map,
    settings.status_body_filtered]

/-- A request that comes to an error ends with it. -/
theorem ending_of_failed {error : KernelError} {steps : List KernelStep}
    (hreaches : kernel.Reaches request scene ⟨.failed error, state, steps⟩) :
    kernel.ending request scene = .error error := by
  rw [ending_eq_error_iff]
  exact hreaches.result_handle rfl

/-- With the listeners of settings, an outcome that can be converted is, and ends as its conversion
does. -/
theorem ending_of_conversion {steps : List KernelStep}
    (hreaches : kernel.Reaches request scene ⟨.dispatched controller outcome, state, steps⟩)
    (hkinds : scene.kinds = settings.listeners) (hkeeps : kernel.KeepsListeners request scene)
    {conversion : Except Failure Response}
    (hconversion : outcome.conversion? kernel.files state.scene.plugins state.request =
      some conversion) :
    kernel.ending request scene = conversionEnding conversion := by
  have hlisteners : state.scene.kinds = settings.listeners :=
    (hreaches.kinds_eq hkeeps).trans hkinds
  obtain ⟨kind, hmem, hconverts⟩ := settings.exists_converts hconversion
  rw [← hlisteners] at hmem
  obtain ⟨last, middle, hmiddle, hfired⟩ := exists_deliverFrom_of_converts kernel.hooks kernel.files
    0 (KernelSettings.isBuiltIn_of_kinds_eq hlisteners) hmem hconverts [] state.request controller
    state.scene
  rw [List.append_nil] at hfired
  -- the plugins are still those that the controller has left
  rw [← hmiddle.plugins_eq] at hconversion
  rcases hear_result_of_converts kernel.hooks kernel.files last hconverts state.request controller
      middle with ⟨answer, next, hconverted, hheard⟩ | ⟨failure, next, hconverted, hheard⟩
  · obtain rfl := Option.some.inj (hconversion.symm.trans hconverted)
    rw [hheard] at hfired
    have hanswered := hreaches.tail
      (.resultListenerAnswers hconverts.isResponse_eq_false hfired rfl)
    exact ending_of_produces ⟨_, hanswered⟩ hkinds hkeeps
  · obtain rfl := Option.some.inj (hconversion.symm.trans hconverted)
    rw [hheard] at hfired
    exact ending_of_failed
      (hreaches.tail (.resultListenerFails hconverts.isResponse_eq_false hfired))

/-- No listener of settings converts an empty outcome, so it ends for lack of a response. -/
theorem ending_of_empty {steps : List KernelStep}
    (hreaches : kernel.Reaches request scene ⟨.dispatched controller .empty, state, steps⟩)
    (hkinds : scene.kinds = settings.listeners) (hkeeps : kernel.KeepsListeners request scene) :
    kernel.ending request scene = .error (.integrity Outcome.empty.kindName) := by
  have hlisteners : state.scene.kinds = settings.listeners :=
    (hreaches.kinds_eq hkeeps).trans hkinds
  have hnone : ∀ kind ∈ state.scene.kinds, ¬ kind.Converts .empty := by
    rintro (_ | _ | _ | _ | _ | _ | _) - ⟨⟩
  obtain ⟨last, hpasses, -⟩ := passes_result_of_not_converts kernel.hooks kernel.files 0
    (KernelSettings.isBuiltIn_of_kinds_eq hlisteners) hnone state.request controller state.scene
  have hfired := Delivery.deliverFrom_of_passes hpasses []
  rw [List.append_nil] at hfired
  exact ending_of_failed (hreaches.tail (.resultListenersPass rfl hfired rfl))

/-- With the listeners of settings, a request whose controller has an outcome ends as that outcome
says. -/
theorem ending_of_dispatches
    (hdispatches : kernel.Dispatches request scene controller outcome state)
    (hkinds : scene.kinds = settings.listeners) (hkeeps : kernel.KeepsListeners request scene) :
    kernel.ending request scene =
      outcome.ending kernel.files state.scene.plugins state.request := by
  obtain ⟨steps, hreaches⟩ := reaches_dispatched_iff.mpr hdispatches
  rcases hconversion : outcome.conversion? kernel.files state.scene.plugins state.request with
    _ | conversion
  · -- what cannot be converted is a response already, or there is nothing to convert
    cases outcome with
    | response answer =>
      exact ending_of_produces ⟨_, hreaches.tail .outcomeAnswers⟩ hkinds hkeeps
    | empty => exact ending_of_empty hreaches hkinds hkeeps
    | json | text | view => cases hconversion
  · rw [ending_of_conversion hreaches hkinds hkeeps hconversion,
      Outcome.ending_of_conversion hconversion]

/-- With the listeners of settings, a request fails for lack of a response exactly if a controller
is dispatched for it and its outcome is empty. -/
theorem result_handle_eq_integrity_iff_empty (hkinds : scene.kinds = settings.listeners)
    (hkeeps : kernel.KeepsListeners request scene) {found : String} :
    (kernel.handle request scene).result = .error (.integrity found) ↔
      found = Outcome.empty.kindName ∧
        ∃ controller state, kernel.Dispatches request scene controller .empty state := by
  constructor
  · intro hresult
    obtain ⟨controller, outcome, state, hdispatches, -⟩ :=
      result_handle_eq_integrity_iff.mp hresult
    have hending := ending_of_dispatches hdispatches hkinds hkeeps
    rw [ending_eq_error_iff.mpr hresult] at hending
    -- of the outcomes, only the empty one ends in this way
    cases outcome with
    | empty =>
      cases hending
      exact ⟨rfl, controller, state, hdispatches⟩
    | response | json | text => cases hending
    | view model =>
      rw [Outcome.ending] at hending
      split at hending <;> cases hending
  · rintro ⟨rfl, controller, state, hdispatches⟩
    obtain ⟨steps, hreaches⟩ := reaches_dispatched_iff.mpr hdispatches
    exact ending_eq_error_iff.mp (ending_of_empty hreaches hkinds hkeeps)

/-- A configured kernel, with whatever controllers and no listeners but its own, fails for lack of a
response exactly if a controller is dispatched and its outcome is empty. Any other outcome is
answered: a response as it is, data and text with the status 200 and what they are written as, and a
view in the same way, unless it cannot be rendered, which is the failure of a listener. The order of
the listeners that turn outcomes into responses, among each other and among the others, makes no
difference to the result, whatever listeners are registered on the way. -/
theorem outcomes_of_configure (settings : KernelSettings) {memory : app.Memory}
    {files : FileSystem}
    {dispatch : app.Controller → Request → AppAction app (Except Failure Outcome × Request)}
    {hooks : Hooks app} {kernel : Kernel app} {start : Scene app}
    (hconfigured : (settings.configure memory files dispatch hooks).value = .ok (kernel, start))
    (controllers : ControllerRegistry (ControllerFactory app)) (request : Request)
    {scene : Scene app} (hkinds : scene.kinds = start.kinds) :
    (KeepsListeners { kernel with controllers } request scene →
      (∀ found,
        (handle { kernel with controllers } request scene).result = .error (.integrity found) ↔
          found = Outcome.empty.kindName ∧ ∃ controller state,
            Dispatches { kernel with controllers } request scene controller .empty state) ∧
      ∀ controller outcome state,
        Dispatches { kernel with controllers } request scene controller outcome state →
        ending { kernel with controllers } request scene =
          outcome.ending kernel.files state.scene.plugins state.request) ∧
    ∀ other : Scene app, other.plugins = scene.plugins → other.kinds.Perm start.kinds →
      other.kinds.filter (!·.isConverter) = start.kinds.filter (!·.isConverter) →
      (handle { kernel with controllers } request other).result =
        (handle { kernel with controllers } request scene).result := by
  have hlisteners : scene.kinds = settings.listeners :=
    hkinds.trans (settings.kinds_of_configure hconfigured)
  refine ⟨fun hkeeps => ⟨?_, ?_⟩, ?_⟩
  · intro found
    exact result_handle_eq_integrity_iff_empty hlisteners hkeeps
  · intro controller outcome state hdispatches
    exact ending_of_dispatches hdispatches hlisteners hkeeps
  · intro other hplugins hperm hfilter
    rw [← hkinds] at hperm hfilter
    exact result_handle_of_reordered _ request hplugins
      ⟨KernelSettings.isBuiltIn_of_kinds_eq hlisteners, hperm, hfilter⟩

/-- What a view will be rendered to that the stages up to dispatch have come to, if what renders
views has been registered but not been loaded yet. -/
def viewAhead? (files : FileSystem) (handled : Handled app (Early (app.Controller × Outcome))) :
    Option (Except TemplateError String) :=
  match handled.result, handled.state.scene.plugins.instances.get? viewPluginName,
    handled.state.scene.plugins.sources.get? viewPluginName with
  | .ok (.goOn (_, .view model)), none, some (.factory (.give (.views views))) =>
    some (views.render files handled.state.request model).value
  | _, _, _ => none

/-- A view that is ahead is the outcome of a controller, and is rendered to what was said. -/
theorem exists_dispatches_of_viewAhead? {rendered : Except TemplateError String}
    (hahead : viewAhead? kernel.files (kernel.outcomeStage ⟨kernel.stampBaseUrl request, scene⟩) =
      some rendered) :
    ∃ controller model state, kernel.Dispatches request scene controller (.view model) state ∧
      renderedView kernel.files state.scene.plugins state.request model =
        rendered.mapError .template := by
  unfold viewAhead? at hahead
  split at hahead
  · next hresult hinstance hsource =>
    obtain rfl := Option.some.inj hahead
    refine ⟨_, _, _, dispatches_of_outcomeStage hresult, ?_⟩
    -- a plugin that is at hand is loaded as it is
    have hloaded := PluginBroker.value_load_of_give hinstance hsource
    rw [renderedView, PluginBroker.value_loadAs, hloaded, PluginBroker.settle_fst, hinstance]
    rfl
  · cases hahead

/-- A controller of the blog answers with a view, or with nothing. -/
def viewDispatch (_controller : String) (request : Request) :
    AppAction texts (Except Failure Outcome × Request) :=
  return (.ok (if request.action = "view" then .view {} else .empty), request)

/-- The listeners of that blog, with those that turn outcomes into responses in another order. -/
def labeledBlogReordered : List (ListenerKind texts) :=
  [.tracing, .views, .text, .json, .headers labeledBlog.responseHeaders.entries]

/-- Of two requests to the blog, one has a view without a template, and the other one fails for lack
of a response, also if the listeners are in another order. -/
theorem outcomes_of_configure_blog :
    ∃ kernel start other,
      (labeledBlog.configure () blog.files viewDispatch textHooks).value = .ok (kernel, start) ∧
      (∃ controller outcome state,
        Dispatches { kernel with controllers := blog.controllers } { uri := "/blog/user-post/view" }
          start controller outcome state ∧
        outcome.ending kernel.files state.scene.plugins state.request =
          .error (.listener .controllerResult
            (.template (.notFound "modules/blog/views/user-post/view.html")))) ∧
      (∃ controller state,
        Dispatches { kernel with controllers := blog.controllers } { uri := "/blog/user-post/none" }
          start controller .empty state) ∧
      other.kinds = labeledBlogReordered ∧
      (handle { kernel with controllers := blog.controllers } { uri := "/blog/user-post/none" }
        other).result = .error (.integrity "Empty") := by
  have hhandled : ((labeledBlog.configure () blog.files viewDispatch textHooks).value.map
      fun (kernel, start) =>
        let served := { kernel with controllers := blog.controllers }
        let view := served.outcomeStage
          ⟨served.stampBaseUrl { uri := "/blog/user-post/view" }, start⟩
        let none := served.handle { uri := "/blog/user-post/none" } start
        (viewAhead? kernel.files view, start.kinds.length, none.state.scene.kinds.length,
          none.result)) =
      .ok (some (.error (.notFound "modules/blog/views/user-post/view.html")), 5, 5,
        .error (.integrity "Empty")) := by
    decide +kernel
  obtain ⟨⟨kernel, start⟩, hconfigured, hhandled⟩ := Except.map_eq_ok_iff.mp hhandled
  simp only [Prod.mk.injEq] at hhandled
  obtain ⟨hview, hstart, hnoneKinds, hnone⟩ := hhandled
  have hkinds : start.kinds = labeledBlog.listeners := labeledBlog.kinds_of_configure hconfigured
  let other : Scene texts := ⟨labeledBlogReordered.map (⟨·, {}⟩), start.plugins⟩
  refine ⟨kernel, start, other, hconfigured, ?_, ?_, rfl, ?_⟩
  · obtain ⟨controller, model, state, hdispatches, hrendered⟩ :=
      exists_dispatches_of_viewAhead? hview
    refine ⟨controller, .view model, state, hdispatches, ?_⟩
    rw [Outcome.ending, hrendered]
    rfl
  · obtain ⟨houtcomes, -⟩ := outcomes_of_configure labeledBlog hconfigured blog.controllers
      { uri := "/blog/user-post/none" } rfl
    have hkeeps := keepsListeners_of_length_le (hnoneKinds.trans hstart.symm).le
    obtain ⟨hintegrity, -⟩ := houtcomes hkeeps
    exact ((hintegrity "Empty").mp hnone).2
  · obtain ⟨-, horder⟩ := outcomes_of_configure labeledBlog hconfigured blog.controllers
      { uri := "/blog/user-post/none" } rfl
    let converters : List (ListenerKind texts) := [.json, .text, .views]
    have hconverters : List.Perm [.views, .text, .json] converters := converters.reverse_perm
    refine (horder other rfl ?_ ?_).trans hnone
    · rw [hkinds]
      exact (hconverters.append_right _).cons .tracing
    · rw [hkinds]
      rfl

end Kernel

end RequestDispatch
