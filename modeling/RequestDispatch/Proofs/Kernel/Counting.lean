import RequestDispatch.Proofs.Kernel.EarlyAnswers
import RequestDispatch.Proofs.Kernel.Scenes

/-!
# What a Listener Hears of a Request

A listener that is registered before a request comes in hears of it by the events that reach it.
Others may fail or stop an event before, so it need not hear every event that is fired. But a
request goes on to a further event only if the ones before routing and before dispatch have passed
all listeners. So what one listener hears is nothing, or one of the sequences of events that can be
fired at all (`Kernel.heardAt_handle`), and what it hears while a kernel serves requests keeps the
order of the stages (`Kernel.Serves.inOrder`).

The counts of a listener are those of what it has heard, as far as words go
(`Kernel.Serves.exists_counts`). While fewer than `2 ^ 64` requests have been served, none of the
counts starts again, and they keep that order themselves (`Kernel.Serves.consistent`).
`Kernel.metrics_of_serves` says both.
-/

namespace RequestDispatch

open Delivery (Delivered)

variable {app : Application}

/-! ## The events that are heard -/

/-- The event of a step, if the listener at a position has heard it. -/
def KernelStep.heardAt? (position : Nat) : KernelStep → Option EventName
  | fired event heard => if position < heard then some event else none
  | routed | built _ | dispatched _ => none

/-- The events of steps that the listener at a position has heard, in order. -/
def heardAt (position : Nat) (steps : List KernelStep) : List EventName :=
  steps.filterMap (KernelStep.heardAt? position)

theorem heardAt_append (position : Nat) (first second : List KernelStep) :
    heardAt position (first ++ second) = heardAt position first ++ heardAt position second :=
  List.filterMap_append

theorem heardAt_fired (position : Nat) (event : EventName) (heard : Nat) :
    heardAt position [.fired event heard] = if position < heard then [event] else [] := by
  rw [heardAt, List.filterMap_cons, KernelStep.heardAt?]
  by_cases hlt : position < heard
  · simp [hlt]
  · simp [hlt]

/-- Of steps that fire no event, nothing is heard. -/
theorem heardAt_eq_nil {steps : List KernelStep}
    (hsteps : ∀ event heard, .fired event heard ∉ steps) (position : Nat) :
    heardAt position steps = [] := by
  rw [heardAt, List.filterMap_eq_nil_iff]
  intro step hstep
  cases step with
  | fired event heard => exact absurd hstep (hsteps event heard)
  | routed | built | dispatched => rfl

/-- What a listener can have heard of a request at a position. Where the events so far have passed
all listeners, it has heard all of them. -/
def Position.hearings : Position app → List (List EventName)
  | received => [[]]
  | unrouted | routed _ | unserved | found _ _ | built _ _ => [[.route]]
  | accepted _ _ | dispatched _ _ => [[.route, .controller]]
  | answered _ _ => [[.route], [.route, .controller], [.route, .controller, .controllerResult]]
  | filtered _ | failed _ => [] :: EventName.sequences

namespace Kernel

open Relation (ReflTransGen)

variable {kernel : Kernel app} {request : Request} {scene : Scene app} {position : Nat}

/-- An event that nothing stops is heard by every registered listener if none fails. -/
theorem lt_heard_of_fire {ε : Type} {delivery : Delivery app ε}
    (hstops : ∀ event, delivery.stopped event = false) {event last : ε} {next : Scene app}
    {heard : Nat} (hfired : (delivery.fire event scene).value = ⟨none, last, next, heard⟩)
    (hposition : position < scene.kinds.length) : position < heard := by
  rwa [((Delivery.fire_eq_iff_passes hstops).mp hfired).2]

/-- An arrow leads from what a listener can have heard at one position to what it can have heard at
the next. -/
theorem heardAt_mem_hearings_of_transition {first second : Configuration app}
    (htransition : kernel.Transition first second)
    (hposition : position < first.state.scene.kinds.length)
    (hfirst : heardAt position first.steps ∈ first.position.hearings) :
    heardAt position second.steps ∈ second.position.hearings := by
  cases htransition with
  | routeListenerAnswers hfired _ | routeListenersPass hfired _ =>
    have hlt := lt_heard_of_fire (fun _ => rfl) hfired hposition
    rw [Position.hearings, List.mem_singleton] at hfirst
    simp [heardAt_append, heardAt_fired, hfirst, hlt, Position.hearings]
  | controllerListenerAnswers hfired _ | controllerListenersPass hfired _ =>
    have hlt := lt_heard_of_fire (fun _ => rfl) hfired hposition
    rw [Position.hearings, List.mem_singleton] at hfirst
    simp [heardAt_append, heardAt_fired, hfirst, hlt, Position.hearings]
  | routeListenerFails | controllerListenerFails | resultListenerFails | resultListenerAnswers
  | resultListenersPass =>
    -- the listener may have been passed over
    rw [Position.hearings, List.mem_singleton] at hfirst
    rw [heardAt_append, heardAt_fired, hfirst]
    split <;> simp [Position.hearings, EventName.sequences]
  | filterFails | filterSucceeds =>
    simp only [Position.hearings, List.mem_cons, List.not_mem_nil, or_false] at hfirst
    rw [heardAt_append, heardAt_fired]
    rcases hfirst with hfirst | hfirst | hfirst <;> rw [hfirst] <;> split <;>
      simp [Position.hearings, EventName.sequences]
  | _ =>
    -- no event is fired
    simp_all [heardAt, KernelStep.heardAt?, Position.hearings, EventName.sequences]

/-- Whatever a request reaches, a listener has heard what it can have heard at that position. -/
theorem Reaches.heardAt_mem_hearings {reached : Configuration app}
    (hreaches : kernel.Reaches request scene reached) (hposition : position < scene.kinds.length) :
    heardAt position reached.steps ∈ reached.position.hearings := by
  induction hreaches with
  | refl => exact List.mem_singleton.mpr rfl
  | tail hbefore htransition ih =>
    -- the listener is still there
    have hlength := (kinds_prefix_of_reflTransGen hbefore).length_le
    exact heardAt_mem_hearings_of_transition htransition (hposition.trans_le hlength) ih

/-- Whatever a request reaches, a listener is where it was, and has counted what it has heard. -/
theorem Reaches.exists_counts {reached : Configuration app} {kind : ListenerKind app}
    {metrics : Metrics} (hreaches : kernel.Reaches request scene reached)
    (hlistener : scene.listeners[position]? = some ⟨kind, metrics⟩) :
    ∃ after, reached.state.scene.listeners[position]? = some ⟨kind, after⟩ ∧
      metrics.Counts (heardAt position reached.steps) after := by
  induction hreaches with
  | refl => exact ⟨metrics, hlistener, .nil metrics⟩
  | tail hbefore htransition ih =>
    obtain ⟨middle, hmiddle, hcounts⟩ := ih
    rcases fires_or_runs_of_transition htransition with
      ⟨ε, delivery, event, hcounted, hscene, hsteps⟩ | ⟨α, action, added, hadded, hscene, hsteps⟩
    · obtain ⟨after, hafter, hmore⟩ := hcounted.exists_counts_fire hmiddle event
      refine ⟨after, by rw [hscene, hafter], ?_⟩
      rw [hsteps, heardAt_append, heardAt_fired]
      exact hcounts.append hmore
    · refine ⟨middle, ?_, ?_⟩
      · rw [hscene]
        exact Scene.getElem?_listeners_run _ hmiddle action
      · rwa [hsteps, heardAt_append, heardAt_eq_nil hadded, List.append_nil]

/-- What a listener hears of a request is nothing, or one of the sequences of events that are
fired. -/
theorem heardAt_handle (kernel : Kernel app) (request : Request) {scene : Scene app}
    {position : Nat} (hposition : position < scene.kinds.length) :
    heardAt position (kernel.handle request scene).steps ∈ [] :: EventName.sequences := by
  have hmem := (kernel.reaches_handle request scene).heardAt_mem_hearings hposition
  rcases hresult : (kernel.handle request scene).result with error | response <;>
    rw [hresult] at hmem
  · exact hmem
  · exact hmem

end Kernel

/-! ## The order of the counts -/

/-- Outcomes are counted after controllers, controllers and responses after requests, and a
response by at most one status. -/
theorem EventName.count_le_of_mem {heard : List EventName} (hmem : heard ∈ [] :: sequences) :
    heard.count .controllerResult ≤ heard.count .controller ∧
      heard.count .controller ≤ heard.count .route ∧
      heard.count .filterResponse ≤ heard.count .route ∧ heard.count .route ≤ 1 := by
  revert heard
  decide

/-- What has been heard, of however many requests, keeps the order of the stages. -/
structure EventName.InOrder (heard : List EventName) : Prop where
  /-- Each outcome is that of a controller. -/
  results_le : heard.count .controllerResult ≤ heard.count .controller
  /-- Each controller was built for a request. -/
  controllers_le : heard.count .controller ≤ heard.count .route
  /-- Each response answers a request. -/
  responses_le : heard.count .filterResponse ≤ heard.count .route

namespace EventName.InOrder

theorem nil : InOrder [] := ⟨Nat.le_refl _, Nat.le_refl _, Nat.le_refl _⟩

theorem append {first second : List EventName} (hfirst : InOrder first)
    (hsecond : InOrder second) : InOrder (first ++ second) where
  results_le := by
    rw [List.count_append, List.count_append]
    exact Nat.add_le_add hfirst.results_le hsecond.results_le
  controllers_le := by
    rw [List.count_append, List.count_append]
    exact Nat.add_le_add hfirst.controllers_le hsecond.controllers_le
  responses_le := by
    rw [List.count_append, List.count_append]
    exact Nat.add_le_add hfirst.responses_le hsecond.responses_le

theorem of_mem {heard : List EventName} (hmem : heard ∈ [] :: sequences) : InOrder heard := by
  obtain ⟨hresults, hcontrollers, hresponses, -⟩ := count_le_of_mem hmem
  exact ⟨hresults, hcontrollers, hresponses⟩

end EventName.InOrder

namespace Metrics

/-- How many responses are counted by a status from 100 to 599. -/
def statuses (metrics : Metrics) : Nat :=
  ∑ digit ∈ Finset.Icc 1 5, (metrics.statusCount digit).toNat

/-- The counts of a listener keep the order of the stages. -/
structure Consistent (metrics : Metrics) : Prop where
  /-- Each outcome is that of a controller. -/
  results_le : metrics.results ≤ metrics.controllers
  /-- Each controller was built for a request. -/
  controllers_le : metrics.controllers ≤ metrics.requests
  /-- Each response answers a request. -/
  responses_le : metrics.responses ≤ metrics.requests
  /-- Each status is that of a response. -/
  statuses_le : metrics.statuses ≤ metrics.responses.toNat
  /-- The other requests did not come to a controller. -/
  shortCircuits_add :
    metrics.shortCircuits.toNat + metrics.controllers.toNat = metrics.requests.toNat

/-- A count stays, or is followed by the next one, which is zero after the largest one. -/
def GoesOn (before after : UInt64) : Prop := after = before ∨ after = before + 1

/-- A count stays or rises by one. -/
def Rises (before after : UInt64) : Prop := before ≤ after ∧ after.toNat ≤ before.toNat + 1

/-- Each of the counts is related to the one that follows it. -/
structure Each (related : UInt64 → UInt64 → Prop) (before after : Metrics) : Prop where
  /-- The count of requests is. -/
  requests : related before.requests after.requests
  /-- The count of controllers is. -/
  controllers : related before.controllers after.controllers
  /-- The count of outcomes is. -/
  results : related before.results after.results
  /-- The count of responses is. -/
  responses : related before.responses after.responses
  /-- The count of each status is. -/
  statusCount : ∀ digit, related (before.statusCount digit) (after.statusCount digit)

variable {before after : Metrics} {heard : List EventName}

theorem GoesOn.of_eq_add {before after : UInt64} {number : Nat}
    (hafter : after = before + .ofNat number) (hle : number ≤ 1) : GoesOn before after := by
  obtain rfl | rfl : number = 0 ∨ number = 1 := by omega
  · exact .inl (hafter.trans (UInt64.add_zero _))
  · exact .inr hafter

/-- Below the largest one, a count that goes on does not start again. -/
theorem GoesOn.rises {before after : UInt64} (hgoesOn : GoesOn before after)
    (hfits : before.toNat + 1 < 2 ^ 64) : Rises before after := by
  rcases hgoesOn with rfl | rfl
  · exact ⟨UInt64.le_refl _, Nat.le_succ _⟩
  · have hnext : (before + 1).toNat = before.toNat + 1 := by
      rw [UInt64.toNat_add, UInt64.toNat_one, Nat.mod_eq_of_lt hfits]
    exact ⟨UInt64.le_iff_toNat_le.mpr (by omega), by omega⟩

/-- Of a request, each event is heard at most once. -/
theorem Counts.each_goesOn (hcounts : before.Counts heard after)
    (hmem : heard ∈ [] :: EventName.sequences) : before.Each GoesOn after := by
  obtain ⟨hresults, hcontrollers, hresponses, hrequests⟩ := EventName.count_le_of_mem hmem
  refine ⟨.of_eq_add hcounts.requests hrequests, .of_eq_add hcounts.controllers (by omega),
    .of_eq_add hcounts.results (by omega), .of_eq_add hcounts.responses (by omega), ?_⟩
  intro digit
  by_cases hdigit : digit ∈ Finset.Icc 1 5
  · obtain ⟨statuses, hstatuses, hsum⟩ := hcounts.exists_statuses
    have hle := Finset.single_le_sum (fun other _ => Nat.zero_le (statuses other)) hdigit
    exact .of_eq_add (hstatuses digit hdigit) (by omega)
  · -- other digits are not counted
    left
    rw [statusCount_of_notMem _ hdigit, statusCount_of_notMem _ hdigit]

theorem statusCount_zero (digit : Nat) : ({} : Metrics).statusCount digit = 0 := by
  unfold statusCount
  split <;> rfl

/-- A count from zero that fits into a word is the number of what has been counted. -/
theorem toNat_of_eq_add {count : UInt64} {number : Nat} (hcount : count = 0 + .ofNat number)
    (hfits : number < 2 ^ 64) : count.toNat = number := by
  rw [hcount, UInt64.zero_add, UInt64.toNat_ofNat_of_lt' hfits]

/-- Counts of what keeps the order of the stages keep it, while they fit into words. -/
theorem Counts.consistent {metrics : Metrics} (hcounts : ({} : Metrics).Counts heard metrics)
    (horder : EventName.InOrder heard) (hfits : heard.count .route < 2 ^ 64) :
    metrics.Consistent := by
  obtain ⟨hresultsLe, hcontrollersLe, hresponsesLe⟩ := horder
  have hrequests := toNat_of_eq_add hcounts.requests hfits
  have hcontrollers := toNat_of_eq_add hcounts.controllers (by omega)
  have hresults := toNat_of_eq_add hcounts.results (by omega)
  have hresponses := toNat_of_eq_add hcounts.responses (by omega)
  have hle : metrics.controllers ≤ metrics.requests :=
    UInt64.le_iff_toNat_le.mpr (by omega)
  refine ⟨UInt64.le_iff_toNat_le.mpr (by omega), hle, UInt64.le_iff_toNat_le.mpr (by omega), ?_, ?_⟩
  · obtain ⟨statuses, hstatuses, hsum⟩ := hcounts.exists_statuses
    rw [Metrics.statuses, hresponses]
    -- a count of a status can only be too low for having started again
    refine (Finset.sum_le_sum fun digit hdigit => ?_).trans hsum
    rw [hstatuses digit hdigit, statusCount_zero, UInt64.zero_add, UInt64.toNat_ofNat']
    exact Nat.mod_le _ _
  · rw [shortCircuits, if_pos hle, UInt64.toNat_sub_of_le _ _ hle]
    omega

/-- No status is counted more often than requests. -/
theorem Consistent.statusCount_le (hconsistent : after.Consistent) (digit : Nat) :
    (after.statusCount digit).toNat ≤ after.requests.toNat := by
  by_cases hdigit : digit ∈ Finset.Icc 1 5
  · calc (after.statusCount digit).toNat
      _ ≤ after.statuses :=
        Finset.single_le_sum (fun other _ => Nat.zero_le (after.statusCount other).toNat) hdigit
      _ ≤ after.responses.toNat := hconsistent.statuses_le
      _ ≤ after.requests.toNat := UInt64.le_iff_toNat_le.mp hconsistent.responses_le
  · rw [statusCount_of_notMem _ hdigit]
    exact Nat.zero_le _

/-- As long as the count of requests is not the largest one, no count starts again. -/
theorem Each.rises (heach : before.Each GoesOn after) (hconsistent : before.Consistent)
    (hfits : before.requests.toNat + 1 < 2 ^ 64) : before.Each Rises after := by
  have hcontrollers := UInt64.le_iff_toNat_le.mp hconsistent.controllers_le
  have hresults := UInt64.le_iff_toNat_le.mp hconsistent.results_le
  have hresponses := UInt64.le_iff_toNat_le.mp hconsistent.responses_le
  refine ⟨heach.requests.rises hfits, heach.controllers.rises (by omega),
    heach.results.rises (by omega), heach.responses.rises (by omega), fun digit => ?_⟩
  have hstatus := hconsistent.statusCount_le digit
  exact (heach.statusCount digit).rises (by omega)

end Metrics

namespace Kernel

/-! ## Serving requests -/

/-- What a scene becomes while a kernel serves requests, one after another, with what comes of each
of them. In between, code of the application may run, which can register further listeners. -/
inductive Serves (kernel : Kernel app) (start : Scene app) :
    List (Handled app Response) → Scene app → Prop where
  /-- Nothing has happened yet. -/
  | start : Serves kernel start [] start
  /-- A request has been handled. -/
  | handle {served : List (Handled app Response)} {scene : Scene app}
      (hserves : Serves kernel start served scene) (request : Request) :
      Serves kernel start (served ++ [kernel.handle request scene])
        (kernel.handle request scene).state.scene
  /-- Code of the application has run. -/
  | act {served : List (Handled app Response)} {scene : Scene app} {α : Type}
      (hserves : Serves kernel start served scene) (action : AppAction app α) :
      Serves kernel start served (scene.run action).value.2

/-- The events that the listener at a position has heard of requests, in order. -/
def heardOf (position : Nat) (served : List (Handled app Response)) : List EventName :=
  served.flatMap fun handled => heardAt position handled.steps

theorem heardOf_append_singleton (position : Nat) (served : List (Handled app Response))
    (handled : Handled app Response) :
    heardOf position (served ++ [handled]) =
      heardOf position served ++ heardAt position handled.steps := by
  simp [heardOf]

/-- Handling a request, a listener counts what it hears of it, which is nothing or one of the
sequences of events that are fired. -/
theorem exists_counts_handle (kernel : Kernel app) (request : Request) {scene : Scene app}
    {position : Nat} {kind : ListenerKind app} {metrics : Metrics}
    (hlistener : scene.listeners[position]? = some ⟨kind, metrics⟩) :
    heardAt position (kernel.handle request scene).steps ∈ [] :: EventName.sequences ∧
      ∃ after,
        (kernel.handle request scene).state.scene.listeners[position]? = some ⟨kind, after⟩ ∧
        metrics.Counts (heardAt position (kernel.handle request scene).steps) after := by
  obtain ⟨hlt, -⟩ := List.getElem?_eq_some_iff.mp hlistener
  have hposition : position < scene.kinds.length := by rwa [Scene.kinds, List.length_map]
  exact ⟨kernel.heardAt_handle request hposition,
    (kernel.reaches_handle request scene).exists_counts hlistener⟩

section Served

variable {kernel : Kernel app} {start scene : Scene app} {served : List (Handled app Response)}
  {position : Nat} {kind : ListenerKind app}

/-- As long as a kernel serves requests, a listener that was registered beforehand counts what it
hears of them. -/
theorem Serves.exists_counts (hserves : kernel.Serves start served scene)
    (hlistener : start.listeners[position]? = some ⟨kind, {}⟩) :
    ∃ metrics, scene.listeners[position]? = some ⟨kind, metrics⟩ ∧
      ({} : Metrics).Counts (heardOf position served) metrics := by
  induction hserves with
  | start => exact ⟨{}, hlistener, .nil {}⟩
  | handle _ request ih =>
    obtain ⟨metrics, hmetrics, hcounts⟩ := ih
    obtain ⟨-, after, hafter, hmore⟩ := kernel.exists_counts_handle request hmetrics
    rw [heardOf_append_singleton]
    exact ⟨after, hafter, hcounts.append hmore⟩
  | act _ action ih =>
    obtain ⟨metrics, hmetrics, hcounts⟩ := ih
    exact ⟨metrics, Scene.getElem?_listeners_run _ hmetrics action, hcounts⟩

/-- What a listener hears of requests keeps the order of the stages, and it hears of each request
at most once that it came in. -/
theorem Serves.inOrder (hserves : kernel.Serves start served scene)
    (hlistener : start.listeners[position]? = some ⟨kind, {}⟩) :
    EventName.InOrder (heardOf position served) ∧
      (heardOf position served).count .route ≤ served.length := by
  induction hserves with
  | start => exact ⟨.nil, Nat.le_refl _⟩
  | handle hserves request ih =>
    obtain ⟨horder, hle⟩ := ih
    -- the listener is still there for the last request
    obtain ⟨metrics, hmetrics, -⟩ := hserves.exists_counts hlistener
    obtain ⟨hmem, -⟩ := kernel.exists_counts_handle request hmetrics
    obtain ⟨-, -, -, honce⟩ := EventName.count_le_of_mem hmem
    rw [heardOf_append_singleton, List.count_append, List.length_append, List.length_singleton]
    exact ⟨horder.append (.of_mem hmem), Nat.add_le_add hle honce⟩
  | act _ _ ih => exact ih

/-- While fewer than `2 ^ 64` requests have been served, the counts of a listener that was registered
beforehand are consistent, and no more requests are counted than have been served. -/
theorem Serves.consistent (hserves : kernel.Serves start served scene)
    (hlistener : start.listeners[position]? = some ⟨kind, {}⟩) (hfits : served.length < 2 ^ 64)
    {metrics : Metrics} (hmetrics : scene.listeners[position]? = some ⟨kind, metrics⟩) :
    metrics.Consistent ∧ metrics.requests.toNat ≤ served.length := by
  obtain ⟨horder, hle⟩ := hserves.inOrder hlistener
  obtain ⟨counted, hcounted, hcounts⟩ := hserves.exists_counts hlistener
  obtain rfl : counted = metrics := by simpa [hcounted] using hmetrics
  refine ⟨hcounts.consistent horder (hle.trans_lt hfits), ?_⟩
  rwa [Metrics.toNat_of_eq_add hcounts.requests (hle.trans_lt hfits)]

end Served

/-- The counts of a listener that was registered before the first request, of whatever kind, such as
the one that does nothing but count. After any number of requests that a kernel has served, with any
other listeners, controllers and outcomes, the counts are those of the events that it has heard, as
far as words go; among these are no more outcomes than controllers, and no more controllers and no
more responses than requests. The next request leaves each count as it is or counts it up by one.

While fewer than `2 ^ 64` requests have been served, the counts themselves keep this order. Besides,
no more statuses than responses are counted, and the requests that did not come to a controller are
the others. The next request, as long as it is not the last one of so many, raises each count by at
most one. -/
theorem metrics_of_serves (kernel : Kernel app) {start scene : Scene app} {position : Nat}
    {kind : ListenerKind app} (hregistered : start.listeners[position]? = some ⟨kind, {}⟩)
    {served : List (Handled app Response)} (hserves : kernel.Serves start served scene) :
    EventName.InOrder (heardOf position served) ∧
    ∃ metrics, scene.listeners[position]? = some ⟨kind, metrics⟩ ∧
      ({} : Metrics).Counts (heardOf position served) metrics ∧
      (served.length < 2 ^ 64 → metrics.Consistent) ∧
      ∀ request, ∃ next,
        (kernel.handle request scene).state.scene.listeners[position]? = some ⟨kind, next⟩ ∧
        metrics.Each Metrics.GoesOn next ∧
        (served.length + 1 < 2 ^ 64 → next.Consistent ∧ metrics.Each Metrics.Rises next) := by
  obtain ⟨horder, -⟩ := hserves.inOrder hregistered
  obtain ⟨metrics, hmetrics, hcounts⟩ := hserves.exists_counts hregistered
  refine ⟨horder, metrics, hmetrics, hcounts, ?_, fun request => ?_⟩
  · intro hfits
    exact (hserves.consistent hregistered hfits hmetrics).1
  · obtain ⟨hmem, next, hnext, hmore⟩ := kernel.exists_counts_handle request hmetrics
    have heach := hmore.each_goesOn hmem
    refine ⟨next, hnext, heach, fun hfits => ?_⟩
    obtain ⟨hconsistent, hle⟩ :=
      hserves.consistent hregistered (Nat.lt_of_succ_lt hfits) hmetrics
    -- with the next request, one more has been served
    have hlength : (served ++ [kernel.handle request scene]).length < 2 ^ 64 := by simpa using hfits
    obtain ⟨hconsistentNext, -⟩ := (hserves.handle request).consistent hregistered hlength hnext
    exact ⟨hconsistentNext, heach.rises hconsistent (by omega)⟩

/-- The blog with listeners that fail before routing if there is nothing to route. -/
def fragileBlog : Kernel texts :=
  { blog with
    hooks :=
      { textHooks with
        onRoute := fun text event =>
          if event.request.uri = "" then return ⟨event.request, none, some (.other text)⟩
          else textHooks.onRoute text event } }

/-- A listener that counts, between two others. -/
def countedScene : Scene texts :=
  ⟨[⟨.custom "first", {}⟩, ⟨.metrics, {}⟩, ⟨.custom "last", {}⟩], { memory := () }⟩

/-- Of three requests, one fails before the listener that counts could hear of it, one is answered
before routing and one before dispatch. -/
theorem metrics_of_serves_blog :
    ∃ served scene metrics, fragileBlog.Serves countedScene served scene ∧ served.length = 3 ∧
      scene.listeners[1]? = some ⟨.metrics, metrics⟩ ∧
      metrics.requests = 2 ∧ metrics.controllers = 1 ∧ metrics.Consistent ∧
      ∃ next,
        (fragileBlog.handle { uri := "/about" } scene).state.scene.listeners[1]? =
          some ⟨.metrics, next⟩ ∧
        next.Consistent ∧ metrics.Each Metrics.Rises next := by
  have hserves : fragileBlog.Serves countedScene _ _ :=
    ((Serves.start.handle { uri := "" }).handle { uri := "/cached" }).handle { uri := "/" }
  have hregistered : countedScene.listeners[1]? = some ⟨.metrics, {}⟩ := rfl
  obtain ⟨-, metrics, hmetrics, -, hconsistent, hnext⟩ :=
    fragileBlog.metrics_of_serves hregistered hserves
  obtain ⟨next, hlistener, -, hrises⟩ := hnext { uri := "/about" }
  refine ⟨_, _, metrics, hserves, rfl, hmetrics, ?_, ?_, hconsistent (by decide), next, hlistener,
    hrises (by decide)⟩
  · have hcounted := congrArg (Option.map fun listener => listener.metrics.requests) hmetrics
    refine Option.some.inj (hcounted.symm.trans ?_)
    decide +kernel
  · have hcounted := congrArg (Option.map fun listener => listener.metrics.controllers) hmetrics
    refine Option.some.inj (hcounted.symm.trans ?_)
    decide +kernel

end Kernel

end RequestDispatch
