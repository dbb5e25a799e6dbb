import RequestDispatch.Proofs.Kernel.Realization

/-!
# The Order of the Stages

Which stages the handling of a request goes through, in which order, and when it ends with a
response.

A position tells which stages came before it, up to a choice of the source that produced the
response (`Position.histories`): each arrow adds at most the stage that its position lacks
(`Kernel.mem_histories_of_transition`), so this holds of whatever a request reaches
(`Kernel.Reaches.mem_histories`) and of where its handling ends. Where there is a response,
the event that filters it is all that is left (`Kernel.handle_of_produces`), and handling
results in a response only that way (`Kernel.result_handle_eq_ok_iff`).
-/

namespace RequestDispatch

/-- A stage in the handling of a request, of which a step is recorded. -/
inductive Stage where
  /-- An event is fired. -/
  | event (name : EventName)
  /-- The router runs. -/
  | routing
  /-- A factory builds a controller. -/
  | building
  /-- A controller is dispatched. -/
  | dispatching
deriving DecidableEq, Repr

namespace Stage

/-- The stages in their order. -/
def order : List Stage :=
  [event .route, routing, building, event .controller, dispatching, event .controllerResult,
    event .filterResponse]

/-- The name of the event that is fired, if one is. -/
def event? : Stage → Option EventName
  | event name => some name
  | routing | building | dispatching => none

end Stage

/-- The stage of a step. -/
@[simp]
def KernelStep.stage : KernelStep → Stage
  | fired event _ => .event event
  | routed => .routing
  | built _ => .building
  | dispatched _ => .dispatching

/-- The stages of a handling. -/
def Handled.stages {app : Application} {α : Type} (handled : Handled app α) : List Stage :=
  handled.steps.map KernelStep.stage

/-- The events that a handling fires. -/
def Handled.events {app : Application} {α : Type} (handled : Handled app α) : List EventName :=
  handled.stages.filterMap Stage.event?

/-- The sequences of events that are fired for a request. -/
def EventName.sequences : List (List EventName) :=
  [[.route],
    [.route, .filterResponse],
    [.route, .controller],
    [.route, .controller, .filterResponse],
    [.route, .controller, .controllerResult],
    [.route, .controller, .controllerResult, .filterResponse]]

namespace Source

/-- All sources. -/
def all : List Source := [routeListener, callback, controllerListener, outcome, resultListener]

/-- The stages up to the response of a source. -/
def stages : Source → List Stage
  | routeListener => [.event .route]
  | callback => [.event .route, .routing]
  | controllerListener => [.event .route, .routing, .building, .event .controller]
  | outcome => [.event .route, .routing, .building, .event .controller, .dispatching]
  | resultListener =>
    [.event .route, .routing, .building, .event .controller, .dispatching,
      .event .controllerResult]

/-- No source is missing. -/
theorem mem_all (source : Source) : source ∈ all := by
  cases source <;> decide

/-- The stages of a response that has been filtered, for each source. -/
def filteredStages : List (List Stage) :=
  all.map fun source => source.stages ++ [.event .filterResponse]

end Source

/-- The stages that can come before a failure. -/
def KernelError.histories : KernelError → List (List Stage)
  | route _ | configuration _ => [Source.callback.stages]
  | controller _ _ => [Source.outcome.stages]
  | integrity _ => [Source.resultListener.stages]
  | listener .route _ => [Source.routeListener.stages]
  | listener .controller _ => [Source.controllerListener.stages]
  | listener .controllerResult _ => [Source.resultListener.stages]
  | listener .filterResponse _ => Source.filteredStages

/-- The stages that can come before a position. -/
def Position.histories {app : Application} : Position app → List (List Stage)
  | received => [[]]
  | unrouted => [[.event .route]]
  | routed _ | unserved | found _ _ => [[.event .route, .routing]]
  | built _ _ => [[.event .route, .routing, .building]]
  | accepted _ _ => [[.event .route, .routing, .building, .event .controller]]
  | dispatched _ _ => [[.event .route, .routing, .building, .event .controller, .dispatching]]
  | answered source _ => [source.stages]
  | filtered _ => Source.filteredStages
  | failed error => error.histories

/-! ## The ends of a handling -/

/-- A result that comes of filtering a response: the response, or the failure of a listener to
filter it. -/
def IsFiltered (result : Except KernelError Response) : Prop :=
  (∃ response, result = .ok response) ∨
    ∃ failure, result = .error (.listener .filterResponse failure)

/-- A handling ends where a source answers or might have answered, or it ends after the
response has been filtered. -/
theorem exists_source_of_mem_histories {app : Application}
    {result : Except KernelError Response} {stages : List Stage}
    (hmem : stages ∈ (Position.ofResult result : Position app).histories) :
    ∃ source : Source,
      (IsFiltered result ∧ stages = source.stages ++ [.event .filterResponse]) ∨
        (¬ IsFiltered result ∧ stages = source.stages) := by
  rcases result with error | response
  · rcases error with _ | _ | _ | _ | ⟨event, failure⟩
    · exact ⟨.callback, .inr ⟨by simp [IsFiltered], List.mem_singleton.mp hmem⟩⟩
    · exact ⟨.callback, .inr ⟨by simp [IsFiltered], List.mem_singleton.mp hmem⟩⟩
    · exact ⟨.resultListener, .inr ⟨by simp [IsFiltered], List.mem_singleton.mp hmem⟩⟩
    · exact ⟨.outcome, .inr ⟨by simp [IsFiltered], List.mem_singleton.mp hmem⟩⟩
    · cases event with
      | route =>
        exact ⟨.routeListener, .inr ⟨by simp [IsFiltered], List.mem_singleton.mp hmem⟩⟩
      | controller =>
        exact ⟨.controllerListener, .inr ⟨by simp [IsFiltered], List.mem_singleton.mp hmem⟩⟩
      | controllerResult =>
        exact ⟨.resultListener, .inr ⟨by simp [IsFiltered], List.mem_singleton.mp hmem⟩⟩
      | filterResponse =>
        obtain ⟨source, -, rfl⟩ := List.mem_map.mp hmem
        exact ⟨source, .inl ⟨.inr ⟨failure, rfl⟩, rfl⟩⟩
  · obtain ⟨source, -, rfl⟩ := List.mem_map.mp hmem
    exact ⟨source, .inl ⟨.inl ⟨response, rfl⟩, rfl⟩⟩

namespace Kernel

variable {app : Application} {kernel : Kernel app} {request : Request} {scene : Scene app}

/-- An arrow adds to the stages before one position what makes them the stages before the
next. -/
theorem mem_histories_of_transition {first second : Configuration app}
    (htransition : kernel.Transition first second)
    (hfirst : first.steps.map KernelStep.stage ∈ first.position.histories) :
    second.steps.map KernelStep.stage ∈ second.position.histories := by
  cases htransition with
  | @filterFails _ _ source =>
    -- any of the sources can have come before
    rw [Position.histories, List.mem_singleton] at hfirst
    simpa [Position.histories, KernelError.histories, Source.filteredStages, hfirst] using
      ⟨source, source.mem_all, rfl⟩
  | @filterSucceeds _ _ source =>
    rw [Position.histories, List.mem_singleton] at hfirst
    simpa [Position.histories, Source.filteredStages, hfirst] using
      ⟨source, source.mem_all, rfl⟩
  | _ =>
    -- the other arrows leave positions with a single history
    simp_all [Position.histories, KernelError.histories, Source.stages,
      -List.map_eq_singleton_iff]

/-- Whatever a request reaches, the stages before it are among those of its position. -/
theorem Reaches.mem_histories {reached : Configuration app}
    (hreaches : kernel.Reaches request scene reached) :
    reached.steps.map KernelStep.stage ∈ reached.position.histories := by
  induction hreaches with
  | refl => exact List.mem_singleton.mpr rfl
  | tail _ htransition ih => exact mem_histories_of_transition htransition ih

/-- A request that reaches a final position is handled with the result, the state and the steps
there. -/
theorem Reaches.eq_handle {final : Configuration app}
    (hreaches : kernel.Reaches request scene final) (hfinal : final.position.IsFinal) :
    ⟨.ofResult (kernel.handle request scene).result, (kernel.handle request scene).state,
      (kernel.handle request scene).steps⟩ = final := by
  have hrest := hreaches.reaches_final ⟨_, rfl⟩ (kernel.reaches_handle request scene)
  exact eq_of_reflTransGen_of_isFinal hfinal hrest

/-- A request that reaches a final position is handled with the result of that position. -/
theorem Reaches.result_handle {final : Configuration app} {result : Except KernelError Response}
    (hreaches : kernel.Reaches request scene final)
    (hposition : final.position = .ofResult result) :
    (kernel.handle request scene).result = result := by
  have heq := hreaches.eq_handle ⟨result, hposition⟩
  apply Position.ofResult_injective
  rw [← hposition, ← heq]

/-- Where there is a response, the arrow that filters it is the last one. -/
theorem Reaches.filtered {source : Source} {response : Response} {state : HandlingState app}
    {steps : List KernelStep}
    (hreaches : kernel.Reaches request scene ⟨.answered source response, state, steps⟩) :
    kernel.Reaches request scene
      ⟨.ofResult
          (match (kernel.onFilterResponse state response).failure with
            | some failure => .error (.listener .filterResponse failure)
            | none => .ok (kernel.onFilterResponse state response).event.response),
        ⟨state.request, (kernel.onFilterResponse state response).scene⟩,
        steps ++ [.fired .filterResponse (kernel.onFilterResponse state response).heard]⟩ := by
  rcases hfired : kernel.onFilterResponse state response with ⟨_ | failure, event, last, heard⟩
  · exact hreaches.tail (.filterSucceeds hfired)
  · exact hreaches.tail (.filterFails hfired)

/-- Where there is a response, filtering it is all that is left, and decides the result. -/
theorem handle_of_produces {source : Source} {response : Response} {state : HandlingState app}
    (hproduces : kernel.Produces request scene source response state) :
    (kernel.handle request scene).result =
      match (kernel.onFilterResponse state response).failure with
      | some failure => .error (.listener .filterResponse failure)
      | none => .ok (kernel.onFilterResponse state response).event.response := by
  obtain ⟨steps, hreaches⟩ := hproduces
  exact hreaches.filtered.result_handle rfl

/-- Where there is a response, filtering it leaves the request as it is. -/
theorem state_handle_of_produces {source : Source} {response : Response}
    {state : HandlingState app} (hproduces : kernel.Produces request scene source response state) :
    (kernel.handle request scene).state =
      ⟨state.request, (kernel.onFilterResponse state response).scene⟩ := by
  obtain ⟨steps, hreaches⟩ := hproduces
  exact congrArg Configuration.state (hreaches.filtered.eq_handle ⟨_, rfl⟩)

/-- A response that has been filtered was produced, and no listener failed to filter it. -/
theorem Reaches.exists_produces_of_filtered {response : Response} {state : HandlingState app}
    {steps : List KernelStep}
    (hreaches : kernel.Reaches request scene ⟨.filtered response, state, steps⟩) :
    ∃ source answer before event last heard,
      kernel.Produces request scene source answer before ∧
      kernel.onFilterResponse before answer = ⟨none, event, last, heard⟩ ∧
      event.response = response := by
  rcases hreaches.cases_tail with heq | ⟨before, hbefore, htransition⟩
  · cases heq
  · cases htransition with
    | @filterSucceeds before steps source answer event last heard hfired =>
      exact ⟨source, answer, before, event, last, heard, ⟨steps, hbefore⟩, hfired, rfl⟩

/-- If a listener has failed to filter a response, that response was produced. -/
theorem Reaches.exists_produces_of_failed {failure : Failure} {state : HandlingState app}
    {steps : List KernelStep}
    (hreaches : kernel.Reaches request scene
      ⟨.failed (.listener .filterResponse failure), state, steps⟩) :
    ∃ source answer before, kernel.Produces request scene source answer before := by
  rcases hreaches.cases_tail with heq | ⟨before, hbefore, htransition⟩
  · cases heq
  · cases htransition with
    | @filterFails before steps source answer => exact ⟨source, answer, before, steps, hbefore⟩

/-! ## Complete handlings -/

/-- The stages of a handling are among those of its result. -/
theorem stages_handle_mem_histories (kernel : Kernel app) (request : Request) (scene : Scene app) :
    (kernel.handle request scene).stages ∈
      (Position.ofResult (kernel.handle request scene).result : Position app).histories :=
  (kernel.reaches_handle request scene).mem_histories

/-- The response of a request is filtered if and only if a source produces one. -/
theorem isFiltered_result_handle_iff :
    IsFiltered (kernel.handle request scene).result ↔
      ∃ source response state, kernel.Produces request scene source response state := by
  have hreaches := kernel.reaches_handle request scene
  constructor
  · rintro (⟨response, hresult⟩ | ⟨failure, hresult⟩)
    · rw [hresult] at hreaches
      obtain ⟨source, answer, before, _, _, _, hproduces, -⟩ :=
        hreaches.exists_produces_of_filtered
      exact ⟨source, answer, before, hproduces⟩
    · rw [hresult] at hreaches
      exact hreaches.exists_produces_of_failed
  · rintro ⟨source, response, state, hproduces⟩
    rw [handle_of_produces hproduces]
    rcases (kernel.onFilterResponse state response).failure with _ | failure
    · exact .inl ⟨_, rfl⟩
    · exact .inr ⟨failure, rfl⟩

/-- Handling a request results in a response if and only if a source produces one, that response
passes all listeners, and they leave it as the response that results. -/
theorem result_handle_eq_ok_iff {response : Response} :
    (kernel.handle request scene).result = .ok response ↔
      ∃ source answer state event last,
        kernel.Produces request scene source answer state ∧
        (filterDelivery kernel.hooks).Passes 0 state.scene.kinds
          { request := state.request, response := answer } state.scene event last ∧
        event.response = response := by
  have hfilter {state : HandlingState app} {answer : Response} {event : FilterEvent}
      {last : Scene app} {heard : Nat} :
      kernel.onFilterResponse state answer = ⟨none, event, last, heard⟩ ↔ _ :=
    Delivery.fire_eq_iff_passes (stopped_filterDelivery kernel.hooks)
  constructor
  · intro hresult
    have hreaches := kernel.reaches_handle request scene
    rw [hresult] at hreaches
    obtain ⟨source, answer, state, event, last, heard, hproduces, hfired, hresponse⟩ :=
      hreaches.exists_produces_of_filtered
    exact ⟨source, answer, state, event, last, hproduces, (hfilter.mp hfired).1, hresponse⟩
  · rintro ⟨source, answer, state, event, last, hproduces, hpasses, rfl⟩
    rw [handle_of_produces hproduces, hfilter.mpr ⟨hpasses, rfl⟩]

/-- Handling a request fires one of six sequences of events. In between and in this order, the
router, the factory of the controller and the controller itself each run at most once. The event
that filters a response is fired if and only if one of the five sources produces a response, and
the handling results in a response if and only if no listener then fails to filter it, namely in
the response that the last of them leaves. -/
theorem handle_stages (kernel : Kernel app) (request : Request) (scene : Scene app) :
    (kernel.handle request scene).events ∈ EventName.sequences ∧
      (kernel.handle request scene).stages.Sublist Stage.order ∧
      (.filterResponse ∈ (kernel.handle request scene).events ↔
        ∃ source response state, kernel.Produces request scene source response state) ∧
      ∀ response, (kernel.handle request scene).result = .ok response ↔
        ∃ source answer state event last,
          kernel.Produces request scene source answer state ∧
          (filterDelivery kernel.hooks).Passes 0 state.scene.kinds
            { request := state.request, response := answer } state.scene event last ∧
          event.response = response := by
  obtain ⟨source, hends⟩ := exists_source_of_mem_histories
    (kernel.stages_handle_mem_histories request scene)
  rw [← isFiltered_result_handle_iff, Handled.events]
  rcases hends with ⟨hfiltered, hstages⟩ | ⟨hfiltered, hstages⟩
  · -- the last stage is the filtering of the response
    rw [hstages]
    refine ⟨?_, ?_, iff_of_true ?_ hfiltered, fun response => result_handle_eq_ok_iff⟩ <;>
      cases source <;> decide
  · -- the last stage is the one where the source might have answered
    rw [hstages]
    refine ⟨?_, ?_, iff_of_false ?_ hfiltered, fun response => result_handle_eq_ok_iff⟩ <;>
      cases source <;> decide

end Kernel

end RequestDispatch
