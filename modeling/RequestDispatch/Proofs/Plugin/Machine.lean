import RequestDispatch.Proofs.Plugin.Operations

/-!
# Loading Step by Step

A broker at work, as an abstract machine. `BrokerState` is a broker with the code that runs and the
loads that wait for it: a load whose factory runs is in progress until the factory gives its object,
and what the factory does meanwhile, loads included, happens to the same broker. One operation is
one `BrokerState.Step`, with the events that can be observed of it, and `BrokerState.Run` puts steps
together. The code at the bottom is that of a client, which can do what a factory can do.

The next step is always the only one (`BrokerState.Step.unique`). What code has as its value is what
the machine comes to (`BrokerState.given?_eq_some_iff`). A load that has a value goes along the
machine (`BrokerState.run_of_loaded?`), and a load that has none stays in progress
(`BrokerState.inProgress_of_loaded?_eq_none`). So what holds of the runs of the machine holds of
brokers.
-/

namespace RequestDispatch

variable {σ π : Type}

/-! ## The machine -/

/-- What can be observed of a broker. -/
inductive PluginEvent (σ π : Type) where
  /-- A factory has been registered. -/
  | registered (name : String) (factory : Assembly σ π)
  /-- A finished instance has been registered. -/
  | readied (name : String) (made : PluginInstance π)
  /-- A load found no instance and runs what is registered. -/
  | ran (name : String) (source : PluginSource σ π)
  /-- A load has returned an instance. -/
  | returned (name : String) (made : PluginInstance π)
  /-- A load found nothing registered. -/
  | refused (name : String)

namespace PluginEvent

/-- The name that an event is about. -/
def name : PluginEvent σ π → String
  | registered name _ | readied name _ | ran name _ | returned name _ | refused name => name

/-- What is observed of a load that ends. -/
def ofResult (name : String) : Except PluginError (PluginInstance π) → PluginEvent σ π
  | .ok made => returned name made
  | .error _ => refused name

/-- The event is a registration. -/
def IsRegistration : PluginEvent σ π → Prop
  | registered _ _ | readied _ _ => True
  | ran _ _ | returned _ _ | refused _ => False

end PluginEvent

/-- A load whose factory is running. -/
structure PendingLoad (σ π : Type) where
  /-- The name that is loaded. -/
  name : String
  /-- The code that waits for the result. -/
  next : Except PluginError (PluginInstance π) → Assembly σ π

/-- A broker at work. -/
structure BrokerState (σ π : Type) where
  /-- The broker. -/
  broker : PluginBroker σ π
  /-- What is left of the code that runs: of the factory of the innermost load in progress, or of
  the client if there is none. -/
  code : Assembly σ π
  /-- The loads in progress, the innermost first. -/
  loads : List (PendingLoad σ π)

namespace BrokerState

variable {broker left : PluginBroker σ π} {name : String} {code : Assembly σ π}
  {loads : List (PendingLoad σ π)} {next : Except PluginError (PluginInstance π) → Assembly σ π}
  {state follower : BrokerState σ π} {events : List (PluginEvent σ π)}

/-- The next operation of the code that runs, with what is observed of it. -/
inductive Step : BrokerState σ π → List (PluginEvent σ π) → BrokerState σ π → Prop where
  /-- Look at the shared memory. -/
  | look {broker : PluginBroker σ π} {next loads} :
      Step ⟨broker, .recall next, loads⟩ [] ⟨broker, next broker.memory, loads⟩
  /-- Replace the shared memory. -/
  | remember {broker : PluginBroker σ π} {memory next loads} :
      Step ⟨broker, .remember memory next, loads⟩ [] ⟨{ broker with memory }, next, loads⟩
  /-- Register a factory. -/
  | register {broker : PluginBroker σ π} {name factory next loads} :
      Step ⟨broker, .register name factory next, loads⟩ [.registered name factory]
        ⟨(broker.register name factory).value, next, loads⟩
  /-- Register a finished instance. -/
  | registerInstance {broker : PluginBroker σ π} {name value next loads} :
      Step ⟨broker, .registerInstance name value next, loads⟩
        [.readied name (broker.make value).1] ⟨broker.registerInstance name value, next, loads⟩
  /-- Load a name that has an instance. -/
  | loadKept {broker : PluginBroker σ π} {name next loads made}
      (hinstance : broker.instances.get? name = some made) :
      Step ⟨broker, .load name next, loads⟩ [.returned name made]
        ⟨broker, next (.ok made), loads⟩
  /-- Load a name that is not registered. -/
  | loadUnknown {broker : PluginBroker σ π} {name next loads}
      (hinstance : broker.instances.get? name = none)
      (hsource : broker.sources.get? name = none) :
      Step ⟨broker, .load name next, loads⟩ [.refused name]
        ⟨broker, next (.error (.unknown name)), loads⟩
  /-- Load a name whose registered instance is not there any more. -/
  | loadReady {broker : PluginBroker σ π} {name next loads made}
      (hinstance : broker.instances.get? name = none)
      (hsource : broker.sources.get? name = some (.ready made)) :
      Step ⟨broker, .load name next, loads⟩ [.ran name (.ready made), .returned name made]
        ⟨{ broker with instances := broker.instances.insert name made }, next (.ok made), loads⟩
  /-- Begin to load a name by running its factory. -/
  | loadRuns {broker : PluginBroker σ π} {name next loads factory}
      (hinstance : broker.instances.get? name = none)
      (hsource : broker.sources.get? name = some (.factory factory)) :
      Step ⟨broker, .load name next, loads⟩ [.ran name (.factory factory)]
        ⟨broker, factory, ⟨name, next⟩ :: loads⟩
  /-- Finish the innermost load in progress, with the object that its factory gives. -/
  | settle {broker : PluginBroker σ π} {name next loads value} :
      Step ⟨broker, .give value, ⟨name, next⟩ :: loads⟩
        [.returned name (broker.settle name value).1]
        ⟨(broker.settle name value).2, next (.ok (broker.settle name value).1), loads⟩

/-- Steps one after another, with what is observed of them. -/
inductive Run : BrokerState σ π → List (PluginEvent σ π) → BrokerState σ π → Prop where
  /-- There is no step. -/
  | nil {state : BrokerState σ π} : Run state [] state
  /-- There is a first step. -/
  | cons {state middle last : BrokerState σ π} {events more : List (PluginEvent σ π)}
      (hstep : Step state events middle) (hrun : Run middle more last) :
      Run state (events ++ more) last

/-- There is only one next step. -/
theorem Step.unique {other : BrokerState σ π} {observed : List (PluginEvent σ π)}
    (hstep : Step state events follower) (hother : Step state observed other) :
    observed = events ∧ other = follower := by
  cases hstep <;> cases hother <;> simp_all

theorem Run.single (hstep : Step state events follower) : Run state events follower := by
  simpa using Run.cons hstep .nil

theorem Run.trans {last : BrokerState σ π} {more : List (PluginEvent σ π)}
    (hrun : Run state events follower) (hmore : Run follower more last) :
    Run state (events ++ more) last := by
  induction hrun with
  | nil => exact hmore
  | cons hstep _ ih =>
    rw [List.append_assoc]
    exact .cons hstep (ih hmore)

/-! ## What has a value goes along the machine -/

/-- Along the machine, a load comes to its value. -/
def LoadFollows (broker : PluginBroker σ π) (name : String)
    (loaded : Logged (PluginBroker.Loaded σ π)) : Prop :=
  ∀ next loads, ∃ events,
    Run ⟨broker, .load name next, loads⟩ (events ++ [.ofResult name loaded.value.1])
      ⟨loaded.value.2, next loaded.value.1, loads⟩

/-- Along the machine, code comes to the object that it gives. -/
def CodeFollows (broker : PluginBroker σ π) (code : Assembly σ π)
    (given : Logged (π × PluginBroker σ π)) : Prop :=
  ∀ loads, ∃ events, Run ⟨broker, code, loads⟩ events
    ⟨given.value.2, .give given.value.1, loads⟩

/-- Values are built up from those of the loads and the factories in between, and so are runs. -/
theorem follows :
    (∀ (broker : PluginBroker σ π) name loaded,
      broker.load? name = some loaded → LoadFollows broker name loaded) ∧
    ∀ (broker : PluginBroker σ π) code given,
      broker.assemble? code = some given → CodeFollows broker code given := by
  refine PluginBroker.load?.mutual_partial_correctness LoadFollows CodeFollows ?_ ?_
  · intro assemble? ihCode broker name loaded hloaded next loads
    rcases hinstance : broker.instances.get? name with _ | made
    · rcases hsource : broker.sources.get? name with _ | ⟨factory⟩ | ⟨made⟩ <;>
        simp only [hinstance, hsource] at hloaded
      · cases hloaded
        exact ⟨[], .single (.loadUnknown hinstance hsource)⟩
      · -- the factory runs while the load waits, and then the load is finished
        obtain ⟨built, hbuilt, hfinished⟩ := Option.bind_eq_some_iff.mp hloaded
        cases hfinished
        obtain ⟨events, hrun⟩ := ihCode broker factory built hbuilt (⟨name, next⟩ :: loads)
        refine ⟨.ran name (.factory factory) :: events, ?_⟩
        exact (Run.single (.loadRuns hinstance hsource)).trans (hrun.trans (.single .settle))
      · cases hloaded
        rw [PluginBroker.keep_of_get?_eq_none hinstance]
        exact ⟨[.ran name (.ready made)], .single (.loadReady hinstance hsource)⟩
    · simp only [hinstance] at hloaded
      cases hloaded
      exact ⟨[], .single (.loadKept hinstance)⟩
  · intro load? assemble? ihLoad ihCode broker code given hgiven loads
    cases code with
    | give value =>
      cases hgiven
      exact ⟨[], .nil⟩
    | «recall» next =>
      obtain ⟨events, hrun⟩ := ihCode _ _ _ hgiven loads
      exact ⟨_, .cons .look hrun⟩
    | remember memory next =>
      obtain ⟨events, hrun⟩ := ihCode _ _ _ hgiven loads
      exact ⟨_, .cons .remember hrun⟩
    | load name next =>
      obtain ⟨first, hfirst, hrest⟩ := Option.bind_eq_some_iff.mp hgiven
      obtain ⟨rest, hgave, hboth⟩ := Option.bind_eq_some_iff.mp hrest
      cases hboth
      obtain ⟨events, hrun⟩ := ihLoad _ _ _ hfirst next loads
      obtain ⟨more, hmore⟩ := ihCode _ _ _ hgave loads
      exact ⟨_, hrun.trans hmore⟩
    | register name factory next =>
      obtain ⟨rest, hrest, hboth⟩ := Option.bind_eq_some_iff.mp hgiven
      cases hboth
      obtain ⟨events, hrun⟩ := ihCode _ _ _ hrest loads
      exact ⟨_, .cons .register hrun⟩
    | registerInstance name value next =>
      obtain ⟨events, hrun⟩ := ihCode _ _ _ hgiven loads
      exact ⟨_, .cons .registerInstance hrun⟩

theorem run_of_loaded? {result : Except PluginError (PluginInstance π)}
    (hloaded : broker.loaded? name = some (result, left))
    (next : Except PluginError (PluginInstance π) → Assembly σ π)
    (loads : List (PendingLoad σ π)) :
    ∃ events, Run ⟨broker, .load name next, loads⟩ (events ++ [.ofResult name result])
      ⟨left, next result, loads⟩ := by
  obtain ⟨loaded, hload, hvalue⟩ := Option.map_eq_some_iff.mp hloaded
  obtain ⟨events, hrun⟩ := follows.1 _ _ _ hload next loads
  rw [hvalue] at hrun
  exact ⟨events, hrun⟩

theorem run_of_given? {value : π} (hgiven : broker.given? code = some (value, left))
    (loads : List (PendingLoad σ π)) :
    ∃ events, Run ⟨broker, code, loads⟩ events ⟨left, .give value, loads⟩ := by
  obtain ⟨given, hcode, hvalue⟩ := Option.map_eq_some_iff.mp hgiven
  obtain ⟨events, hrun⟩ := follows.2 _ _ _ hcode loads
  rw [hvalue] at hrun
  exact ⟨events, hrun⟩

/-! ## What the machine comes to is a value -/

/-- What loads in progress come to, the innermost first, once the factory of the innermost has given
its object. -/
def unwind? : List (PendingLoad σ π) → π × PluginBroker σ π → Option (π × PluginBroker σ π)
  | [], given => some given
  | load :: loads, (value, broker) =>
    let settled := broker.settle load.name value
    (settled.2.given? (load.next (.ok settled.1))).bind (unwind? loads)

/-- What the code that runs comes to, with some of the loads that wait for it. -/
def comesTo? (state : BrokerState σ π) (loads : List (PendingLoad σ π)) :
    Option (π × PluginBroker σ π) :=
  (state.broker.given? state.code).bind (unwind? loads)

/-- A step changes nothing about what the code that runs comes to, with the loads that wait for it
above some others, unless these others are waiting for it already. -/
theorem Step.comesTo?_eq {above below : List (PendingLoad σ π)}
    (hstep : Step state events follower) (hloads : state.loads = above ++ below) :
    (state.comesTo? above).isSome = true ∧ below ≠ [] ∨
      ∃ deeper, follower.loads = deeper ++ below ∧
        follower.comesTo? deeper = state.comesTo? above := by
  cases hstep with
  | look | remember | register | registerInstance =>
    exact .inr ⟨above, hloads, by simp [comesTo?]⟩
  | loadKept hinstance =>
    exact .inr ⟨above, hloads, by simp [comesTo?, PluginBroker.loaded?_of_instance hinstance]⟩
  | loadUnknown hinstance hsource =>
    exact .inr ⟨above, hloads, by simp [comesTo?, PluginBroker.loaded?_of_unknown hinstance hsource]⟩
  | loadReady hinstance hsource =>
    exact .inr ⟨above, hloads, by simp [comesTo?, PluginBroker.loaded?_of_ready hinstance hsource]⟩
  | @loadRuns broker name next loads factory hinstance hsource =>
    -- the load is one more that waits
    refine .inr ⟨⟨name, next⟩ :: above, congrArg (_ :: ·) hloads, ?_⟩
    simp only [comesTo?, PluginBroker.given?_load,
      PluginBroker.loaded?_of_factory hinstance hsource]
    rcases broker.given? factory with _ | given
    · rfl
    · rfl
  | settle =>
    rcases above with _ | ⟨load, above⟩
    · obtain rfl : _ = below := hloads
      exact .inl ⟨by simp [comesTo?, unwind?], List.cons_ne_nil _ _⟩
    · obtain ⟨rfl, rfl⟩ := List.cons.inj hloads
      exact .inr ⟨above, rfl, by simp [comesTo?, unwind?]⟩

theorem Run.comesTo?_eq {above below : List (PendingLoad σ π)}
    (hrun : Run state events follower) (hloads : state.loads = above ++ below) :
    (state.comesTo? above).isSome = true ∧ below ≠ [] ∨
      ∃ deeper, follower.loads = deeper ++ below ∧
        follower.comesTo? deeper = state.comesTo? above := by
  induction hrun generalizing above with
  | nil => exact .inr ⟨above, hloads, rfl⟩
  | cons hstep _ ih =>
    rcases hstep.comesTo?_eq hloads with hgiven | ⟨middle, hmiddle, hsame⟩
    · exact .inl hgiven
    · rw [← hsame]
      exact ih hmiddle

/-- The machine comes to the end of code, with the object that it gives, exactly if that is the
value of the code. -/
theorem given?_eq_some_iff {value : π} :
    broker.given? code = some (value, left) ↔
      ∃ events, Run ⟨broker, code, []⟩ events ⟨left, .give value, []⟩ := by
  constructor
  · intro hgiven
    exact run_of_given? hgiven []
  · rintro ⟨events, hrun⟩
    rcases hrun.comesTo?_eq (List.nil_append _).symm with ⟨-, hne⟩ | ⟨deeper, hdeeper, hsame⟩
    · exact absurd rfl hne
    · obtain rfl : deeper = [] := by simpa using hdeeper.symm
      simpa [comesTo?, unwind?] using hsame.symm

/-- A load that has no value stays in progress. -/
theorem inProgress_of_loaded?_eq_none (hnone : broker.loaded? name = none)
    (hrun : Run ⟨broker, .load name next, loads⟩ events state) :
    state = ⟨broker, .load name next, loads⟩ ∨
      ∃ above, state.loads = above ++ ⟨name, next⟩ :: loads := by
  cases hrun with
  | nil => exact .inl rfl
  | cons hstep hrun =>
    right
    cases hstep with
    | loadKept hinstance => cases (PluginBroker.loaded?_of_instance hinstance).symm.trans hnone
    | loadUnknown hinstance hsource =>
      cases (PluginBroker.loaded?_of_unknown hinstance hsource).symm.trans hnone
    | loadReady hinstance hsource =>
      cases (PluginBroker.loaded?_of_ready hinstance hsource).symm.trans hnone
    | loadRuns hinstance hsource =>
      rw [PluginBroker.loaded?_of_factory hinstance hsource, Option.map_eq_none_iff] at hnone
      rcases hrun.comesTo?_eq (List.nil_append _).symm with ⟨hgiven, -⟩ | ⟨above, habove, -⟩
      · rw [comesTo?, hnone] at hgiven
        cases hgiven
      · exact ⟨above, habove⟩

end BrokerState

end RequestDispatch
