import RequestDispatch.Proofs.Plugin.Machine

/-!
# Laws of Loading

What stays true of a broker at work, whatever a client and the factories do to it, step by step and
then along runs.

* A name that nothing is observed of stays as it is (`BrokerState.Step.frame`).
* An instance of a name is kept and returned until the name is registered (`BrokerState.Step.kept`).
* An instance that exists after a step existed before or is new (`BrokerState.Step.holds`), so
  serial numbers tell instances that exist from those that existed before
  (`BrokerState.Run.serial_le`).
* Names that are loaded, or being loaded, are registered (`BrokerState.Step.wellFormed`).

A state from which a load returns an instance at once (`BrokerState.Returns`), or runs a factory
(`BrokerState.RunsFactory`), is one where the machine and `PluginBroker.load` both do so.
`PluginBroker.load_memoizes` puts together what this comes to for loads: what a load returns is what
the machine comes to, loads are memoized, and a factory that takes the place of another one is run by
the next load.
-/

namespace RequestDispatch

variable {σ π : Type}

/-! ## Steps -/

namespace BrokerState

variable {name : String} {made : PluginInstance π} {state follower : BrokerState σ π}
  {events : List (PluginEvent σ π)}

/-- A name that nothing is observed of stays as it is, and no load of it begins. -/
theorem Step.frame (hstep : Step state events follower)
    (hname : ∀ event ∈ events, event.name ≠ name) :
    state.broker.AgreesOn follower.broker name ∧
      ∀ load ∈ follower.loads, load ∈ state.loads ∨ load.name ≠ name := by
  cases hstep with
  | look | remember | loadKept | loadUnknown =>
    exact ⟨⟨rfl, rfl⟩, fun _ hload => .inl hload⟩
  | register =>
    have hother := hname _ List.mem_cons_self
    exact ⟨PluginBroker.agreesOn_register hother.symm _, fun _ hload => .inl hload⟩
  | registerInstance =>
    have hother := hname _ List.mem_cons_self
    exact ⟨PluginBroker.agreesOn_registerInstance hother.symm _, fun _ hload => .inl hload⟩
  | loadReady =>
    have hother := hname _ List.mem_cons_self
    refine ⟨⟨?_, rfl⟩, fun _ hload => .inl hload⟩
    exact (NameMap.get?_insert ..).trans (if_neg hother.symm)
  | loadRuns =>
    have hother := hname _ List.mem_cons_self
    refine ⟨⟨rfl, rfl⟩, fun load hload => ?_⟩
    rcases List.mem_cons.mp hload with rfl | hload
    · exact .inr hother
    · exact .inl hload
  | settle =>
    have hother := hname _ List.mem_cons_self
    exact ⟨PluginBroker.agreesOn_settle hother.symm _,
      fun _ hload => .inl (List.mem_cons_of_mem _ hload)⟩

/-- A step keeps an instance of a name and returns it, unless the name is registered. -/
theorem Step.kept (hstep : Step state events follower)
    (hinstance : state.broker.instances.get? name = some made)
    (hregisters : ∀ event ∈ events, event.name = name → ¬ event.IsRegistration) :
    follower.broker.instances.get? name = some made ∧
      ∀ event ∈ events, event.name = name → event = .returned name made := by
  by_cases habout : ∀ event ∈ events, event.name ≠ name
  · obtain ⟨⟨hagrees, -⟩, -⟩ := hstep.frame habout
    exact ⟨hagrees.trans hinstance, fun event hevent hname => absurd hname (habout event hevent)⟩
  · -- the step is about the name
    obtain ⟨event, hevent, hname⟩ : ∃ event ∈ events, event.name = name := by simpa using habout
    have hnot := hregisters event hevent hname
    cases hstep with
    | look | remember => cases hevent
    | register | registerInstance =>
      obtain rfl := List.mem_singleton.mp hevent
      exact absurd trivial hnot
    | loadKept hloaded =>
      obtain rfl := List.mem_singleton.mp hevent
      obtain rfl : _ = name := hname
      obtain rfl := Option.some.inj (hloaded.symm.trans hinstance)
      exact ⟨hinstance, fun other hother _ => List.mem_singleton.mp hother⟩
    | loadUnknown hnone | loadRuns hnone =>
      obtain rfl := List.mem_singleton.mp hevent
      obtain rfl : _ = name := hname
      cases hnone.symm.trans hinstance
    | loadReady hnone =>
      rcases List.mem_cons.mp hevent with rfl | hevent
      · obtain rfl : _ = name := hname
        cases hnone.symm.trans hinstance
      · obtain rfl := List.mem_singleton.mp hevent
        obtain rfl : _ = name := hname
        cases hnone.symm.trans hinstance
    | @settle broker settled _ _ value =>
      obtain rfl := List.mem_singleton.mp hevent
      obtain rfl : settled = name := hname
      have hkept : (broker.settle settled value).1 = made := by
        rw [PluginBroker.settle_fst, hinstance, Option.getD_some]
      rw [hkept]
      refine ⟨?_, fun other hother _ => List.mem_singleton.mp hother⟩
      rw [PluginBroker.get?_instances_settle, if_pos rfl, hkept]

/-- An instance that a step returns is the last that is observed of the step, and is the instance
of its name from then on. -/
theorem Step.returned (hstep : Step state events follower) {before after : List (PluginEvent σ π)}
    (hevents : events = before ++ .returned name made :: after) :
    after = [] ∧ follower.broker.instances.get? name = some made := by
  cases hstep with
  | look | remember => simp at hevents
  | register | registerInstance | loadUnknown | loadRuns =>
    rcases before with _ | ⟨_, before⟩ <;> simp at hevents
  | loadKept hloaded =>
    rcases before with _ | ⟨_, before⟩ <;> simp at hevents
    obtain ⟨⟨rfl, rfl⟩, rfl⟩ := hevents
    exact ⟨rfl, hloaded⟩
  | loadReady =>
    rcases before with _ | ⟨_, _ | ⟨_, before⟩⟩ <;> simp at hevents
    obtain ⟨-, ⟨rfl, rfl⟩, rfl⟩ := hevents
    exact ⟨rfl, by simp [NameMap.get?_insert]⟩
  | settle =>
    rcases before with _ | ⟨_, before⟩ <;> simp at hevents
    obtain ⟨⟨rfl, rfl⟩, rfl⟩ := hevents
    exact ⟨rfl, by simp [PluginBroker.get?_instances_settle]⟩

/-- An instance that exists after a step existed before, or is new. -/
theorem Step.holds (hstep : Step state events follower)
    (hholds : follower.broker.Holds name made) :
    state.broker.Holds name made ∨
      made.serial = state.broker.nextSerial ∧
        follower.broker.nextSerial = state.broker.nextSerial + 1 := by
  cases hstep with
  | look | remember | loadKept | loadUnknown | loadRuns => exact .inl hholds
  | register => exact .inl (PluginBroker.holds_of_register hholds)
  | registerInstance =>
    rcases PluginBroker.holds_of_registerInstance hholds with hbefore | rfl
    · exact .inl hbefore
    · exact .inr ⟨rfl, rfl⟩
  | loadReady _ hsource =>
    rcases hholds with hloaded | hready
    · rw [NameMap.get?_insert] at hloaded
      split at hloaded
      · rename_i heq
        obtain rfl := Option.some.inj hloaded
        exact .inl (.inr (heq ▸ hsource))
      · exact .inl (.inl hloaded)
    · exact .inl (.inr hready)
  | settle =>
    rcases PluginBroker.holds_of_settle hholds with hbefore | rfl
    · exact .inl hbefore
    · exact .inr ⟨rfl, PluginBroker.nextSerial_settle _⟩

/-- A name that is registered stays registered. -/
theorem Step.contains (hstep : Step state events follower)
    (hcontains : state.broker.contains name = true) : follower.broker.contains name = true := by
  cases hstep with
  | look | remember | loadKept | loadUnknown | loadReady | loadRuns => exact hcontains
  | register => rw [PluginBroker.contains_register, hcontains, Bool.or_true]
  | registerInstance => rw [PluginBroker.contains_registerInstance, hcontains, Bool.or_true]
  | settle => rwa [PluginBroker.contains, PluginBroker.sources_settle]

/-- Serial numbers are only counted up. -/
theorem Step.nextSerial_le (hstep : Step state events follower) :
    state.broker.nextSerial ≤ follower.broker.nextSerial := by
  cases hstep with
  | look | remember | loadKept | loadUnknown | loadReady | loadRuns => exact Nat.le_refl _
  | register => exact Nat.le_of_eq (PluginBroker.nextSerial_register _).symm
  | registerInstance => exact Nat.le_succ _
  | settle =>
    rw [PluginBroker.nextSerial_settle]
    exact Nat.le_succ _

/-- What holds of a broker at work: each name that is loaded or being loaded is registered, and the
serial number of each instance has been given. -/
structure WellFormed (state : BrokerState σ π) : Prop where
  /-- Loaded names are registered. -/
  registered : ∀ name, state.broker.isLoaded name = true → state.broker.contains name = true
  /-- Names that are being loaded are registered. -/
  loading : ∀ load ∈ state.loads, state.broker.contains load.name = true
  /-- The serial numbers of instances have been given. -/
  serial_lt : ∀ name made, state.broker.Holds name made → made.serial < state.broker.nextSerial

/-- The broker of an application, before a client begins to use it. -/
def start (memory : σ) (client : Assembly σ π) : BrokerState σ π := ⟨{ memory }, client, []⟩

theorem wellFormed_start (memory : σ) (client : Assembly σ π) :
    (start memory client).WellFormed where
  registered _ hloaded := by cases hloaded
  loading _ hload := by cases hload
  serial_lt _ _ hholds := by rcases hholds with hloaded | hready <;> cases ‹_›

/-- A name that is loaded after a step was loaded before, or is registered. -/
theorem Step.isLoaded (hstep : Step state events follower) (hstate : state.WellFormed)
    (hloaded : follower.broker.isLoaded name = true) :
    state.broker.isLoaded name = true ∨ follower.broker.contains name = true := by
  cases hstep with
  | look | remember | loadKept | loadUnknown | loadRuns => exact .inl hloaded
  | register => exact .inl (PluginBroker.isLoaded_of_register hloaded)
  | registerInstance =>
    rw [PluginBroker.isLoaded_registerInstance, Bool.or_eq_true, decide_eq_true_eq] at hloaded
    rcases hloaded with rfl | hloaded
    · exact .inr (by simp [PluginBroker.contains_registerInstance])
    · exact .inl hloaded
  | loadReady _ hsource =>
    rw [PluginBroker.isLoaded, NameMap.contains_insert, Bool.or_eq_true, decide_eq_true_eq]
      at hloaded
    rcases hloaded with rfl | hloaded
    · exact .inr (PluginBroker.contains_of_get?_sources hsource)
    · exact .inl hloaded
  | settle =>
    rw [PluginBroker.isLoaded_settle, Bool.or_eq_true, decide_eq_true_eq] at hloaded
    rcases hloaded with rfl | hloaded
    · -- the name is the one that was being loaded
      right
      rw [PluginBroker.contains, PluginBroker.sources_settle]
      exact hstate.loading _ List.mem_cons_self
    · exact .inl hloaded

/-- A load in progress after a step was in progress before, or its name is registered. -/
theorem Step.loads (hstep : Step state events follower) {load : PendingLoad σ π}
    (hload : load ∈ follower.loads) :
    load ∈ state.loads ∨ follower.broker.contains load.name = true := by
  cases hstep with
  | look | remember | register | registerInstance | loadKept | loadUnknown | loadReady =>
    exact .inl hload
  | loadRuns _ hsource =>
    rcases List.mem_cons.mp hload with rfl | hload
    · exact .inr (PluginBroker.contains_of_get?_sources hsource)
    · exact .inl hload
  | settle => exact .inl (List.mem_cons_of_mem _ hload)

/-- A step keeps a broker at work well-formed. -/
theorem Step.wellFormed (hstep : Step state events follower) (hstate : state.WellFormed) :
    follower.WellFormed where
  registered name hloaded := by
    rcases hstep.isLoaded hstate hloaded with hbefore | hcontains
    · exact hstep.contains (hstate.registered name hbefore)
    · exact hcontains
  loading load hload := by
    rcases hstep.loads hload with hbefore | hcontains
    · exact hstep.contains (hstate.loading load hbefore)
    · exact hcontains
  serial_lt name made hholds := by
    have hle := hstep.nextSerial_le
    rcases hstep.holds hholds with hbefore | ⟨hserial, hnext⟩
    · exact Nat.lt_of_lt_of_le (hstate.serial_lt name made hbefore) hle
    · omega

/-! ## Runs -/

theorem Run.wellFormed (hrun : Run state events follower) (hstate : state.WellFormed) :
    follower.WellFormed := by
  induction hrun with
  | nil => exact hstate
  | cons hstep _ ih => exact ih (hstep.wellFormed hstate)

theorem Run.nextSerial_le (hrun : Run state events follower) :
    state.broker.nextSerial ≤ follower.broker.nextSerial := by
  induction hrun with
  | nil => exact Nat.le_refl _
  | cons hstep _ ih => exact Nat.le_trans hstep.nextSerial_le ih

/-- A name that nothing is observed of stays as it is, and no load of it is in progress if none was
before. -/
theorem Run.frame (hrun : Run state events follower)
    (hname : ∀ event ∈ events, event.name ≠ name)
    (hloads : ∀ load ∈ state.loads, load.name ≠ name) :
    state.broker.AgreesOn follower.broker name ∧
      ∀ load ∈ follower.loads, load.name ≠ name := by
  induction hrun with
  | nil => exact ⟨⟨rfl, rfl⟩, hloads⟩
  | cons hstep _ ih =>
    obtain ⟨hfirst, hmore⟩ := List.forall_mem_append.mp hname
    obtain ⟨⟨hinstances, hsources⟩, hbegun⟩ := hstep.frame hfirst
    obtain ⟨⟨hinstances', hsources'⟩, hrest⟩ := ih hmore fun load hload =>
      (hbegun load hload).elim (hloads load) id
    exact ⟨⟨hinstances'.trans hinstances, hsources'.trans hsources⟩, hrest⟩

/-- A run keeps an instance of a name and returns no other, unless the name is registered. -/
theorem Run.kept (hrun : Run state events follower)
    (hinstance : state.broker.instances.get? name = some made)
    (hregisters : ∀ event ∈ events, event.name = name → ¬ event.IsRegistration) :
    follower.broker.instances.get? name = some made ∧
      ∀ event ∈ events, event.name = name → event = .returned name made := by
  induction hrun with
  | nil => exact ⟨hinstance, by simp⟩
  | cons hstep _ ih =>
    obtain ⟨hfirst, hmore⟩ := List.forall_mem_append.mp hregisters
    obtain ⟨hkept, hreturned⟩ := hstep.kept hinstance hfirst
    obtain ⟨hlast, hrest⟩ := ih hkept hmore
    exact ⟨hlast, List.forall_mem_append.mpr ⟨hreturned, hrest⟩⟩

/-- After a load has returned an instance, each load returns that instance, unless the name is
registered. -/
theorem Run.kept_of_returned (hrun : Run state events follower)
    {before after : List (PluginEvent σ π)}
    (hevents : events = before ++ .returned name made :: after)
    (hregisters : ∀ event ∈ after, event.name = name → ¬ event.IsRegistration) :
    follower.broker.instances.get? name = some made ∧
      ∀ event ∈ after, event.name = name → event = .returned name made := by
  induction hrun generalizing before with
  | nil => simp at hevents
  | cons hstep hmore ih =>
    rcases List.append_eq_append_iff.mp hevents with
      ⟨between, -, hrest⟩ | ⟨between, hfirst, hrest⟩
    · exact ih hrest
    · rcases between with _ | ⟨event, between⟩
      · exact @ih [] hrest.symm
      · obtain ⟨rfl, rfl⟩ := List.cons.inj hrest
        obtain ⟨rfl, hinstance⟩ := hstep.returned hfirst
        exact hmore.kept hinstance hregisters

/-- If the instances that exist under a name have serial numbers from a certain one on, so have
those that exist later, and those that are returned meanwhile. -/
theorem Run.serial_le (hrun : Run state events follower) (serial : Nat)
    (hheld : ∀ made, state.broker.Holds name made → serial ≤ made.serial)
    (hserial : serial ≤ state.broker.nextSerial) :
    (∀ made, follower.broker.Holds name made → serial ≤ made.serial) ∧
      ∀ made, .returned name made ∈ events → serial ≤ made.serial := by
  induction hrun with
  | nil => exact ⟨hheld, by simp⟩
  | @cons state middle _ events _ hstep _ ih =>
    have hmiddle : ∀ made, middle.broker.Holds name made → serial ≤ made.serial := by
      intro made hholds
      rcases hstep.holds hholds with hbefore | ⟨hnew, -⟩
      · exact hheld made hbefore
      · omega
    obtain ⟨hlast, hrest⟩ := ih hmiddle (Nat.le_trans hserial hstep.nextSerial_le)
    refine ⟨hlast, fun made hmem => ?_⟩
    rcases List.mem_append.mp hmem with hfirst | hmore
    · obtain ⟨before, after, hevents⟩ := List.append_of_mem hfirst
      exact hmiddle made (.inl (hstep.returned hevents).2)
    · exact hrest made hmore

/-- If the instances that exist under a name have serial numbers from a certain one on, so has one
that a load returns. -/
theorem serial_le_of_load {broker left : PluginBroker σ π} {serial : Nat}
    (hheld : ∀ made, broker.Holds name made → serial ≤ made.serial)
    (hserial : serial ≤ broker.nextSerial)
    (hload : (broker.load name).value = (.ok made, left)) : serial ≤ made.serial := by
  obtain ⟨events, hrun⟩ := run_of_loaded? ((PluginBroker.value_load_eq_iff (by simp)).mp hload)
    (fun _ => .give made.value) []
  obtain ⟨-, hreturned⟩ := hrun.serial_le serial hheld hserial
  exact hreturned made (List.mem_append_right _ List.mem_cons_self)

/-! ## Loading -/

/-- A load of a name returns an instance at once. Nothing is built, and nothing changes. -/
structure Returns (state : BrokerState σ π) (name : String) (made : PluginInstance π) : Prop where
  /-- The machine returns the instance in one step. -/
  step_iff : ∀ next, state.code = .load name next → ∀ events follower, Step state events follower ↔
    events = [.returned name made] ∧
      follower = ⟨state.broker, next (.ok made), state.loads⟩
  /-- The broker returns it. -/
  load_eq : state.broker.load name = return (.ok made, state.broker)

/-- A load of a name runs a factory, and returns what comes of that. -/
structure RunsFactory (state : BrokerState σ π) (name : String) (factory : Assembly σ π) :
    Prop where
  /-- The machine begins to run the factory. -/
  step_iff : ∀ next, state.code = .load name next → ∀ events follower, Step state events follower ↔
    events = [.ran name (.factory factory)] ∧
      follower = ⟨state.broker, factory, ⟨name, next⟩ :: state.loads⟩
  /-- The broker settles what the factory gives, if it comes to an end. -/
  load_eq : (state.broker.load name).value =
    match state.broker.given? factory with
    | some (value, left) => (.ok (left.settle name value).1, (left.settle name value).2)
    | none => (.error (.endless name), state.broker)

/-- A name that has an instance is loaded by returning it. -/
theorem returns_of_instance (hinstance : state.broker.instances.get? name = some made) :
    state.Returns name made := by
  obtain ⟨broker, code, loads⟩ := state
  refine ⟨?_, PluginBroker.load_of_instance hinstance⟩
  rintro next rfl events follower
  constructor
  · exact (Step.loadKept hinstance).unique
  · rintro ⟨rfl, rfl⟩
    exact .loadKept hinstance

/-- A name that has no instance but a factory is loaded by running that. -/
theorem runsFactory_of_source {factory : Assembly σ π}
    (hinstance : state.broker.instances.get? name = none)
    (hsource : state.broker.sources.get? name = some (.factory factory)) :
    state.RunsFactory name factory := by
  obtain ⟨broker, code, loads⟩ := state
  refine ⟨?_, PluginBroker.value_load_of_factory hinstance hsource⟩
  rintro next rfl events follower
  constructor
  · exact (Step.loadRuns hinstance hsource).unique
  · rintro ⟨rfl, rfl⟩
    exact .loadRuns hinstance hsource

section Replacement

variable {broker : PluginBroker σ π} {factory next : Assembly σ π}
  {loads : List (PendingLoad σ π)}

/-- A factory that takes the place of a registration, while the name is not being loaded, is run by
the next load. -/
theorem runsFactory_of_replaced (hcontains : broker.contains name = true)
    (hloads : ∀ load ∈ loads, load.name ≠ name)
    (hrun : Run ⟨(broker.register name factory).value, next, loads⟩ events follower)
    (hname : ∀ event ∈ events, event.name ≠ name) : follower.RunsFactory name factory := by
  obtain ⟨⟨hinstances, hsources⟩, -⟩ := hrun.frame hname hloads
  refine runsFactory_of_source (hinstances.trans ?_) (hsources.trans ?_)
  · rw [PluginBroker.get?_instances_register, if_pos ⟨rfl, hcontains⟩]
  · rw [PluginBroker.get?_sources_register, if_pos rfl]

/-- After a factory has taken the place of a registration, no instance that existed under the name
before is returned, neither by a load on the way nor by one that follows. -/
theorem not_holds_of_replaced {earlier : BrokerState σ π} {later : List (PluginEvent σ π)}
    (hearlier : earlier.WellFormed)
    (hlater : Run earlier later ⟨broker, .register name factory next, loads⟩)
    (hcontains : broker.contains name = true)
    (hrun : Run ⟨(broker.register name factory).value, next, loads⟩ events follower)
    (hreturned : .returned name made ∈ events ∨
      ∃ left, (follower.broker.load name).value = (.ok made, left)) :
    ¬ earlier.broker.Holds name made := by
  have hnext : broker.nextSerial ≤ (broker.register name factory).value.nextSerial :=
    Nat.le_of_eq (PluginBroker.nextSerial_register factory).symm
  obtain ⟨hheld, hobserved⟩ := hrun.serial_le broker.nextSerial
    (fun other hother => absurd hother (PluginBroker.not_holds_register hcontains factory)) hnext
  have hafter : broker.nextSerial ≤ made.serial := by
    rcases hreturned with hmem | ⟨left, hload⟩
    · exact hobserved made hmem
    · exact serial_le_of_load hheld (Nat.le_trans hnext hrun.nextSerial_le) hload
  intro hholds
  have hbefore := hearlier.serial_lt name made hholds
  have hle : earlier.broker.nextSerial ≤ broker.nextSerial := hlater.nextSerial_le
  omega

end Replacement

end BrokerState

namespace PluginBroker

/-- A load that fails does not fail for the type of an instance. -/
theorem load_ne_typeMismatch (broker : PluginBroker σ π) (name other wanted : String) :
    (broker.load name).value.1 ≠ .error (.typeMismatch other wanted) := by
  rw [value_load]
  rcases hloaded : broker.loaded? name with _ | ⟨result, left⟩
  · simp
  · rcases loaded?_cases hloaded with ⟨made, rfl, -⟩ | ⟨rfl, -⟩ <;> simp

/-- Where the type of an instance is not the expected one, the broker has been used to load the
instance, and for nothing else. -/
theorem load_of_loadAs_typeMismatch {broker left : PluginBroker σ π} {name other wanted : String}
    {τ : Type} {as? : π → Option τ} {expected : String}
    (hloaded : (broker.loadAs name as? expected).value =
      (.error (.typeMismatch other wanted), left)) :
    ∃ made, (broker.load name).value = (.ok made, left) ∧ as? made.value = none := by
  have hload := broker.load_ne_typeMismatch name other wanted
  rw [value_loadAs] at hloaded
  rcases hresult : (broker.load name).value with ⟨error | made, reached⟩
  · rw [hresult] at hload hloaded
    cases hloaded
    exact absurd rfl hload
  · rw [hresult, cast] at hloaded
    rcases hcast : as? made.value with _ | value
    · rw [hcast] at hloaded
      cases hloaded
      exact ⟨made, rfl, hcast⟩
    · rw [hcast] at hloaded
      cases hloaded

/-- How a broker loads, whatever a client and the factories do to it. Code has a value exactly if the
machine comes to the end of it. Each load that ends goes along the machine, with the result that is
observed there, and after it the instance is returned at once; a load that does not end stays in
progress. Wherever the machine comes, each loaded name is registered. Once a load
has returned an instance, each load of that name returns the same one and runs nothing, until the
name is registered again. A factory that takes the place of a registration, while no load of the name
is in progress, is run by the next load, and no instance that existed under the name before is
returned from then on. A load that fails for the type of the instance leaves the broker as the load
of that instance does. -/
theorem load_memoizes (memory : σ) (client : Assembly σ π) :
    (∀ (broker left : PluginBroker σ π) code value,
      broker.given? code = some (value, left) ↔
        ∃ events, BrokerState.Run ⟨broker, code, []⟩ events ⟨left, .give value, []⟩) ∧
    (∀ (broker left : PluginBroker σ π) name result,
      (broker.load name).value = (result, left) → result ≠ .error (.endless name) →
      (∀ made, result = .ok made → left.load name = return (.ok made, left)) ∧
      ∀ next loads, ∃ events, BrokerState.Run ⟨broker, .load name next, loads⟩
        (events ++ [.ofResult name result]) ⟨left, next result, loads⟩) ∧
    (∀ (broker : PluginBroker σ π) name,
      (broker.load name).value.1 = .error (.endless name) →
      ∀ next loads events state,
        BrokerState.Run ⟨broker, .load name next, loads⟩ events state →
        state = ⟨broker, .load name next, loads⟩ ∨
          ∃ above, state.loads = above ++ ⟨name, next⟩ :: loads) ∧
    (∀ events state, BrokerState.Run (.start memory client) events state →
      ∀ name, state.broker.isLoaded name = true → state.broker.contains name = true) ∧
    (∀ before name made after state,
      BrokerState.Run (.start memory client) (before ++ .returned name made :: after) state →
      (∀ event ∈ after, event.name = name → ¬ event.IsRegistration) →
      (∀ event ∈ after, event.name = name → event = .returned name made) ∧
        state.Returns name made) ∧
    (∀ events broker name factory next loads,
      BrokerState.Run (.start memory client) events
        ⟨broker, .register name factory next, loads⟩ →
      broker.contains name = true → (∀ load ∈ loads, load.name ≠ name) →
      ∀ after state,
        BrokerState.Run ⟨(broker.register name factory).value, next, loads⟩ after state →
        ((∀ event ∈ after, event.name ≠ name) → state.RunsFactory name factory) ∧
        ∀ made, .returned name made ∈ after ∨
            (∃ left, (state.broker.load name).value = (.ok made, left)) →
          ∀ past earlier later, BrokerState.Run (.start memory client) past earlier →
            BrokerState.Run earlier later ⟨broker, .register name factory next, loads⟩ →
            ¬ earlier.broker.Holds name made) ∧
    ∀ (broker left : PluginBroker σ π) name (τ : Type) (as? : π → Option τ) expected other wanted,
      (broker.loadAs name as? expected).value = (.error (.typeMismatch other wanted), left) →
      ∃ made, (broker.load name).value = (.ok made, left) ∧ as? made.value = none := by
  have hstart := BrokerState.wellFormed_start memory client
  refine ⟨fun _ _ _ _ => BrokerState.given?_eq_some_iff, ?_, ?_, ?_, ?_, ?_, ?_⟩
  · intro broker left name result hload hends
    have hloaded := (value_load_eq_iff hends).mp hload
    refine ⟨?_, BrokerState.run_of_loaded? hloaded⟩
    rintro made rfl
    exact load_of_instance (get?_instances_of_load hload)
  · intro broker name hendless next loads events state hrun
    exact BrokerState.inProgress_of_loaded?_eq_none (load_eq_endless_iff.mp hendless) hrun
  · intro events state hrun
    exact (hrun.wellFormed hstart).registered
  · intro before name made after state hrun hregisters
    obtain ⟨hinstance, hreturned⟩ := hrun.kept_of_returned rfl hregisters
    exact ⟨hreturned, BrokerState.returns_of_instance hinstance⟩
  · intro events broker name factory next loads _ hcontains hloads after state hafter
    refine ⟨fun hname => BrokerState.runsFactory_of_replaced hcontains hloads hafter hname, ?_⟩
    intro made hreturned past earlier later hpast hlater
    exact BrokerState.not_holds_of_replaced (hpast.wellFormed hstart) hlater hcontains hafter
      hreturned
  · intro broker left name τ as? expected other wanted hloaded
    exact load_of_loadAs_typeMismatch hloaded

/-- A client that registers a counter, loads it, and registers another one in its place. -/
def counters : Assembly Unit Nat :=
  .register "counter" (.give 1) <| .load "counter" fun _ =>
    .register "counter" (.give 2) <| .load "counter" fun _ => .give 0

/-- The client is returned the first counter, and each load returns that one until the second is
registered. Then the next load runs the factory of the second one. -/
theorem load_memoizes_counters :
    ∃ before replaced,
      BrokerState.Run (.start () counters)
        (before ++ [.returned "counter" ⟨0, 1⟩]) replaced ∧
      replaced.Returns "counter" ⟨0, 1⟩ ∧
      ∃ follower, BrokerState.Step replaced [.registered "counter" (.give 2)] follower ∧
        follower.RunsFactory "counter" (.give 2) := by
  obtain ⟨-, -, -, -, hkept, hreplaced, -⟩ := load_memoizes () counters
  have hloaded : BrokerState.Run (.start () counters) _ _ :=
    .cons .register (.cons (.loadRuns rfl rfl) (.cons .settle .nil))
  have hrun : BrokerState.Run (.start () counters)
      ([.registered "counter" (.give 1), .ran "counter" (.factory (.give 1))] ++
        [.returned "counter" ⟨0, 1⟩]) _ := hloaded
  obtain ⟨-, hreturns⟩ := hkept _ _ _ [] _ hrun (by simp)
  obtain ⟨hruns, -⟩ := hreplaced _ _ _ _ _ _ hrun rfl (by simp) [] _ .nil
  exact ⟨_, _, hrun, hreturns, _, .register, hruns (by simp)⟩

end PluginBroker

end RequestDispatch
