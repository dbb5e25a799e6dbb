import Mathlib.Algebra.BigOperators.Group.Finset.Piecewise
import Mathlib.Algebra.Order.BigOperators.Group.Finset
import Mathlib.Order.Interval.Finset.Nat
import RequestDispatch.Proofs.Event.Delivery

/-!
# What Listeners Count

Every delivery of an event to a listener is counted for that listener. `Metrics.Counts` says how the
counts of a listener go on with the events that it hears, one after another; they are words, and may
start again. Firing an event counts it once for each of the listeners that hear it, which are the
first ones up to some position, and changes nothing else about registered listeners
(`Delivery.IsCounted.exists_counts_fire`); code of the application changes nothing about them at all
(`Scene.getElem?_listeners_run`). Listeners are only ever added, so each keeps its position
(`Delivery.kinds_prefix_fire`, `Scene.kinds_prefix_run`).
-/

namespace RequestDispatch

variable {app : Application}

/-! ## Counts -/

namespace Metrics

/-- The counts of a listener have gone on by what it has heard, as words do. A response is counted
by its status at most once, if at all. -/
structure Counts (before : Metrics) (heard : List EventName) (after : Metrics) : Prop where
  /-- Requests are counted before routing. -/
  requests : after.requests = before.requests + .ofNat (heard.count .route)
  /-- Controllers are counted once they are built. -/
  controllers : after.controllers = before.controllers + .ofNat (heard.count .controller)
  /-- Outcomes are counted. -/
  results : after.results = before.results + .ofNat (heard.count .controllerResult)
  /-- Responses are counted. -/
  responses : after.responses = before.responses + .ofNat (heard.count .filterResponse)
  /-- So many responses of each status are counted, which are no more than there are responses. -/
  exists_statuses : ∃ statuses : Nat → Nat,
    (∀ digit ∈ Finset.Icc 1 5,
      after.statusCount digit = before.statusCount digit + .ofNat (statuses digit)) ∧
      ∑ digit ∈ Finset.Icc 1 5, statuses digit ≤ heard.count .filterResponse

/-- A count goes on by one list of events after another. -/
theorem add_ofNat_count_append (count : UInt64) (first second : List EventName)
    (event : EventName) :
    count + .ofNat ((first ++ second).count event) =
      count + .ofNat (first.count event) + .ofNat (second.count event) := by
  rw [List.count_append, UInt64.ofNat_add, UInt64.add_assoc]

namespace Counts

variable {before middle after : Metrics} {first second : List EventName}

/-- Nothing has been heard. -/
theorem nil (metrics : Metrics) : metrics.Counts [] metrics where
  requests := (UInt64.add_zero _).symm
  controllers := (UInt64.add_zero _).symm
  results := (UInt64.add_zero _).symm
  responses := (UInt64.add_zero _).symm
  exists_statuses := ⟨fun _ => 0, fun _ _ => (UInt64.add_zero _).symm, by simp⟩

/-- What has been heard first is counted before what has been heard then. -/
theorem append (hfirst : before.Counts first middle) (hsecond : middle.Counts second after) :
    before.Counts (first ++ second) after where
  requests := by rw [hsecond.requests, hfirst.requests, add_ofNat_count_append]
  controllers := by rw [hsecond.controllers, hfirst.controllers, add_ofNat_count_append]
  results := by rw [hsecond.results, hfirst.results, add_ofNat_count_append]
  responses := by rw [hsecond.responses, hfirst.responses, add_ofNat_count_append]
  exists_statuses := by
    obtain ⟨some, hsome, hle⟩ := hfirst.exists_statuses
    obtain ⟨more, hmore, hle'⟩ := hsecond.exists_statuses
    refine ⟨fun digit => some digit + more digit, fun digit hdigit => ?_, ?_⟩
    · rw [hmore digit hdigit, hsome digit hdigit, UInt64.ofNat_add, UInt64.add_assoc]
    · rw [Finset.sum_add_distrib, List.count_append]
      exact Nat.add_le_add hle hle'

end Counts

/-- There is no count of responses with a status below 100 or above 599. -/
theorem statusCount_of_notMem (metrics : Metrics) {digit : Nat}
    (hdigit : digit ∉ Finset.Icc 1 5) : metrics.statusCount digit = 0 := by
  rw [Finset.mem_Icc] at hdigit
  rw [statusCount] <;> omega

/-- A response is counted by the first digit of its status, and by no other. -/
theorem statusCount_countStatus (metrics : Metrics) (status : Nat) {digit : Nat}
    (hdigit : digit ∈ Finset.Icc 1 5) :
    (metrics.countStatus status).statusCount digit =
      metrics.statusCount digit + .ofNat (if status / 100 = digit then 1 else 0) := by
  rw [Finset.mem_Icc] at hdigit
  obtain rfl | rfl | rfl | rfl | rfl :
      digit = 1 ∨ digit = 2 ∨ digit = 3 ∨ digit = 4 ∨ digit = 5 := by omega
  all_goals
    rw [countStatus]
    split <;> simp_all [statusCount]

@[simp]
theorem requests_countStatus (metrics : Metrics) (status : Nat) :
    (metrics.countStatus status).requests = metrics.requests := by
  rw [countStatus]
  split <;> rfl

@[simp]
theorem controllers_countStatus (metrics : Metrics) (status : Nat) :
    (metrics.countStatus status).controllers = metrics.controllers := by
  rw [countStatus]
  split <;> rfl

@[simp]
theorem results_countStatus (metrics : Metrics) (status : Nat) :
    (metrics.countStatus status).results = metrics.results := by
  rw [countStatus]
  split <;> rfl

@[simp]
theorem responses_countStatus (metrics : Metrics) (status : Nat) :
    (metrics.countStatus status).responses = metrics.responses := by
  rw [countStatus]
  split <;> rfl

/-- Counting a response counts its status once, or not at all. -/
theorem counts_countResponse (metrics : Metrics) (response : Response) :
    metrics.Counts [.filterResponse] (metrics.countResponse response) where
  requests := by simp [countResponse]
  controllers := by simp [countResponse]
  results := by simp [countResponse]
  responses := by simp [countResponse]
  exists_statuses := by
    refine ⟨fun digit => if response.status / 100 = digit then 1 else 0, fun digit hdigit => ?_, ?_⟩
    · exact statusCount_countStatus { metrics with responses := metrics.responses + 1 }
        response.status hdigit
    · rw [Finset.sum_ite_eq]
      split <;> simp

end Metrics

/-! ## Registered listeners -/

namespace Scene

variable {α : Type} (scene : Scene app)

theorem listeners_addAll (kinds : List (ListenerKind app)) :
    (scene.addAll kinds).listeners =
      scene.listeners ++ kinds.map fun kind => (⟨kind, {}⟩ : Registered app) := by
  rw [addAll]
  induction kinds generalizing scene with
  | nil => simp
  | cons kind kinds ih =>
    have hadded : (scene.add kind).listeners = scene.listeners ++ [⟨kind, {}⟩] := rfl
    rw [List.foldl_cons, ih, hadded, List.append_assoc]
    rfl

/-- Code of the application only adds listeners, and changes nothing about those that are
registered. -/
theorem listeners_prefix_run (action : AppAction app α) :
    scene.listeners <+: (scene.run action).value.2.listeners := by
  rw [run, listeners_addAll]
  exact List.prefix_append _ _

theorem kinds_prefix_run (action : AppAction app α) :
    scene.kinds <+: (scene.run action).value.2.kinds :=
  (scene.listeners_prefix_run action).map _

/-- Code of the application leaves every registered listener at its position. -/
theorem getElem?_listeners_run {position : Nat} {listener : Registered app}
    (hlistener : scene.listeners[position]? = some listener) (action : AppAction app α) :
    (scene.run action).value.2.listeners[position]? = some listener := by
  obtain ⟨added, hadded⟩ := scene.listeners_prefix_run action
  obtain ⟨hlt, -⟩ := List.getElem?_eq_some_iff.mp hlistener
  rw [← hadded, List.getElem?_append_left hlt, hlistener]

/-- Counting an event leaves the listeners what they are. -/
theorem kinds_count (position : Nat) (counted : Metrics → Metrics) :
    (scene.count position counted).kinds = scene.kinds := by
  apply List.ext_getElem?
  intro other
  simp only [kinds, count, List.getElem?_map, List.getElem?_modify]
  rcases scene.listeners[other]? with _ | listener
  · rfl
  · by_cases hother : position = other
    · simp [hother]
    · simp [hother]

/-- Counting an event changes the counts of one listener. -/
theorem getElem?_listeners_count {position : Nat} {listener : Registered app}
    (hlistener : scene.listeners[position]? = some listener) (heard : Nat)
    (counted : Metrics → Metrics) :
    (scene.count heard counted).listeners[position]? = some
      (if heard = position then { listener with metrics := counted listener.metrics }
        else listener) := by
  rw [count, List.getElem?_modify, hlistener]
  rfl

end Scene

namespace Delivery

variable {ε : Type} (delivery : Delivery app ε)

/-- Each delivery counts as one event of its name. -/
def IsCounted : Prop :=
  ∀ (event : ε) (metrics : Metrics),
    metrics.Counts [delivery.name] (delivery.count event metrics)

/-- An event is counted for the listener that hears it, and for no other. -/
theorem getElem?_listeners_hear {scene : Scene app} {position : Nat} {listener : Registered app}
    (hlistener : scene.listeners[position]? = some listener) (heard : Nat)
    (kind : ListenerKind app) (event : ε) :
    (delivery.hear heard kind event scene).2.listeners[position]? = some
      (if heard = position then
        { listener with metrics := delivery.count event listener.metrics }
        else listener) :=
  Scene.getElem?_listeners_run _ (scene.getElem?_listeners_count hlistener heard _) _

theorem kinds_prefix_hear (heard : Nat) (kind : ListenerKind app) (event : ε) (scene : Scene app) :
    scene.kinds <+: (delivery.hear heard kind event scene).2.kinds := by
  have hrun := (scene.count heard (delivery.count event)).kinds_prefix_run
    (delivery.deliver kind event)
  rwa [scene.kinds_count] at hrun

/-- What comes of delivering an event to one listener, and to those after it. -/
theorem deliverFrom_cons_cases (position : Nat) (kind : ListenerKind app)
    (kinds : List (ListenerKind app)) (event : ε) (scene : Scene app) :
    ∃ failure next nextScene,
      delivery.hear position kind event scene = ((failure, next), nextScene) ∧
      ((delivery.deliverFrom position (kind :: kinds) event scene).value =
          ⟨failure, next, nextScene, position + 1⟩ ∨
        (delivery.deliverFrom position (kind :: kinds) event scene).value =
          (delivery.deliverFrom (position + 1) kinds next nextScene).value) := by
  rcases hheard : delivery.hear position kind event scene with ⟨⟨_ | failure, next⟩, nextScene⟩
  · refine ⟨none, next, nextScene, rfl, ?_⟩
    rcases hstops : delivery.stopped next with _ | _
    · exact .inr (value_deliverFrom_of_goesOn hheard hstops kinds)
    · exact .inl (value_deliverFrom_of_stops hheard hstops kinds)
  · exact ⟨some failure, next, nextScene, rfl, .inl (value_deliverFrom_of_fails hheard kinds)⟩

/-- Delivering an event only adds listeners. -/
theorem kinds_prefix_deliverFrom (position : Nat) (kinds : List (ListenerKind app)) (event : ε)
    (scene : Scene app) :
    scene.kinds <+: (delivery.deliverFrom position kinds event scene).value.scene.kinds := by
  induction kinds generalizing position event scene with
  | nil => exact List.prefix_rfl
  | cons kind kinds ih =>
    obtain ⟨failure, next, nextScene, hheard, hends⟩ :=
      delivery.deliverFrom_cons_cases position kind kinds event scene
    have hfirst := delivery.kinds_prefix_hear position kind event scene
    rw [hheard] at hfirst
    rcases hends with hends | hgoesOn
    · rwa [hends]
    · rw [hgoesOn]
      exact hfirst.trans (ih (position + 1) next nextScene)

/-- An event is heard from the first listener on. -/
theorem le_heard_deliverFrom (position : Nat) (kinds : List (ListenerKind app)) (event : ε)
    (scene : Scene app) :
    position ≤ (delivery.deliverFrom position kinds event scene).value.heard := by
  induction kinds generalizing position event scene with
  | nil => exact Nat.le_refl position
  | cons kind kinds ih =>
    obtain ⟨failure, next, nextScene, -, hends | hgoesOn⟩ :=
      delivery.deliverFrom_cons_cases position kind kinds event scene
    · rw [hends]
      exact Nat.le_succ position
    · rw [hgoesOn]
      exact Nat.le_of_succ_le (ih (position + 1) next nextScene)

/-- An event that is delivered to listeners from a position on is counted once for those of them
that hear it. -/
theorem getElem?_listeners_deliverFrom {scene : Scene app} {position : Nat}
    {kind : ListenerKind app} {metrics : Metrics}
    (hlistener : scene.listeners[position]? = some ⟨kind, metrics⟩) (first : Nat)
    (kinds : List (ListenerKind app)) (event : ε) :
    let delivered := (delivery.deliverFrom first kinds event scene).value
    (first ≤ position ∧ position < delivered.heard ∧ ∃ heard,
      delivered.scene.listeners[position]? = some ⟨kind, delivery.count heard metrics⟩) ∨
    (¬ (first ≤ position ∧ position < delivered.heard) ∧
      delivered.scene.listeners[position]? = some ⟨kind, metrics⟩) := by
  induction kinds generalizing first event scene metrics with
  | nil => exact .inr ⟨fun h => absurd h.2 (Nat.not_lt.mpr h.1), hlistener⟩
  | cons other kinds ih =>
    obtain ⟨failure, next, nextScene, hheard, hends⟩ :=
      delivery.deliverFrom_cons_cases first other kinds event scene
    have hnext := delivery.getElem?_listeners_hear hlistener first other event
    simp only [hheard] at hnext
    by_cases hfirst : first = position
    · -- the listener is the first to hear the event
      rw [if_pos hfirst] at hnext
      left
      rcases hends with hends | hgoesOn
      · rw [hends]
        exact ⟨by omega, by simp only; omega, event, hnext⟩
      · have hle := delivery.le_heard_deliverFrom (first + 1) kinds next nextScene
        rw [hgoesOn]
        rcases ih hnext (first + 1) next with ⟨hlt, -⟩ | ⟨-, hsame⟩
        · omega
        · exact ⟨by omega, by omega, event, hsame⟩
    · rw [if_neg hfirst] at hnext
      rcases hends with hends | hgoesOn
      · rw [hends]
        exact .inr ⟨by simp only; omega, hnext⟩
      · rw [hgoesOn]
        rcases ih hnext (first + 1) next with ⟨hlt, hrest⟩ | ⟨hnot, hsame⟩
        · exact .inl ⟨by omega, hrest⟩
        · exact .inr ⟨by omega, hsame⟩

/-- Firing an event only adds listeners. -/
theorem kinds_prefix_fire (event : ε) (scene : Scene app) :
    scene.kinds <+: (delivery.fire event scene).value.scene.kinds :=
  delivery.kinds_prefix_deliverFrom 0 scene.kinds event scene

variable {delivery}

/-- Firing an event counts it once for each listener that hears it. -/
theorem IsCounted.exists_counts_fire (hcounted : delivery.IsCounted) {scene : Scene app}
    {position : Nat} {kind : ListenerKind app} {metrics : Metrics}
    (hlistener : scene.listeners[position]? = some ⟨kind, metrics⟩) (event : ε) :
    ∃ after,
      (delivery.fire event scene).value.scene.listeners[position]? = some ⟨kind, after⟩ ∧
      metrics.Counts
        (if position < (delivery.fire event scene).value.heard then [delivery.name] else [])
        after := by
  rw [fire]
  rcases delivery.getElem?_listeners_deliverFrom hlistener 0 scene.kinds event with
    ⟨-, hlt, heard, hafter⟩ | ⟨hnot, hsame⟩
  · refine ⟨_, hafter, ?_⟩
    rw [if_pos hlt]
    exact hcounted heard metrics
  · refine ⟨metrics, hsame, ?_⟩
    rw [if_neg fun hlt => hnot ⟨Nat.zero_le _, hlt⟩]
    exact .nil metrics

end Delivery

/-! ## The events of a request -/

variable (hooks : Hooks app)

theorem isCounted_routeDelivery : (routeDelivery hooks).IsCounted :=
  fun _ metrics => { Metrics.Counts.nil metrics with requests := rfl }

theorem isCounted_controllerDelivery : (controllerDelivery hooks).IsCounted :=
  fun _ metrics => { Metrics.Counts.nil metrics with controllers := rfl }

theorem isCounted_resultDelivery (files : FileSystem) :
    (resultDelivery hooks files).IsCounted :=
  fun _ metrics => { Metrics.Counts.nil metrics with results := rfl }

theorem isCounted_filterDelivery : (filterDelivery hooks).IsCounted :=
  fun event metrics => metrics.counts_countResponse event.response

end RequestDispatch
