import RequestDispatch.Plugin.Broker
import RequestDispatch.Proofs.NameMap

/-!
# The Operations of a Plugin Broker

What registering a factory, registering a finished instance and settling a load do to the instance
and the registration of a name. An operation on another name changes neither
(`PluginBroker.AgreesOn`), and an instance that exists after an operation (`PluginBroker.Holds`)
existed before it or is made by it.

Loading a name has a value unless building the plugin does not end (`PluginBroker.loaded?`), and so
has the code of factories and clients (`PluginBroker.given?`). There is an equation for each way to
load and for each operation of code.
-/

namespace RequestDispatch.PluginBroker

variable {σ π : Type} {broker : PluginBroker σ π} {name other : String}
  {made : PluginInstance π}

/-- An instance exists under a name: it has been loaded, or it is registered as finished. -/
def Holds (broker : PluginBroker σ π) (name : String) (made : PluginInstance π) : Prop :=
  broker.instances.get? name = some made ∨ broker.sources.get? name = some (.ready made)

/-- The instance and the registration of a name are the same in both brokers. -/
def AgreesOn (broker left : PluginBroker σ π) (name : String) : Prop :=
  left.instances.get? name = broker.instances.get? name ∧
    left.sources.get? name = broker.sources.get? name

theorem contains_of_get?_sources {source : PluginSource σ π}
    (hsource : broker.sources.get? name = some source) : broker.contains name = true := by
  rw [contains, NameMap.contains, hsource, Option.isSome_some]

/-! ## Registering a factory -/

theorem get?_sources_register (factory : Assembly σ π) :
    (broker.register name factory).value.sources.get? other =
      if other = name then some (.factory factory) else broker.sources.get? other := by
  rw [register]
  split <;> exact NameMap.get?_insert ..

/-- Registering a factory for a name in use forgets its instance, and no other. -/
theorem get?_instances_register (factory : Assembly σ π) :
    (broker.register name factory).value.instances.get? other =
      if other = name ∧ broker.contains name = true then none
      else broker.instances.get? other := by
  rw [register]
  split
  · simp_all [NameMap.get?_erase]
  · simp_all

@[simp]
theorem nextSerial_register (factory : Assembly σ π) :
    (broker.register name factory).value.nextSerial = broker.nextSerial := by
  rw [register]
  split <;> rfl

theorem contains_register (factory : Assembly σ π) :
    (broker.register name factory).value.contains other =
      (decide (other = name) || broker.contains other) := by
  rw [register]
  split <;> exact NameMap.contains_insert ..

/-- Registering a factory loads nothing. -/
theorem isLoaded_of_register {factory : Assembly σ π}
    (hloaded : (broker.register name factory).value.isLoaded other = true) :
    broker.isLoaded other = true := by
  rw [isLoaded, NameMap.contains, get?_instances_register] at hloaded
  split at hloaded
  · cases hloaded
  · exact hloaded

theorem agreesOn_register (hother : name ≠ other) (factory : Assembly σ π) :
    broker.AgreesOn (broker.register other factory).value name := by
  constructor
  · rw [get?_instances_register, if_neg fun h => hother h.1]
  · rw [get?_sources_register, if_neg hother]

/-- Registering a factory makes no instance. -/
theorem holds_of_register {factory : Assembly σ π}
    (hholds : (broker.register other factory).value.Holds name made) :
    broker.Holds name made := by
  rcases hholds with hloaded | hready
  · rw [get?_instances_register] at hloaded
    split at hloaded
    · cases hloaded
    · exact .inl hloaded
  · rw [get?_sources_register] at hready
    split at hready
    · cases hready
    · exact .inr hready

/-- A factory that takes the place of a registration leaves no instance under its name. -/
theorem not_holds_register (hcontains : broker.contains name = true) (factory : Assembly σ π) :
    ¬ (broker.register name factory).value.Holds name made := by
  rintro (hloaded | hready)
  · rw [get?_instances_register, if_pos ⟨rfl, hcontains⟩] at hloaded
    cases hloaded
  · rw [get?_sources_register, if_pos rfl] at hready
    cases hready

/-! ## Registering a finished instance -/

theorem get?_sources_registerInstance (value : π) :
    (broker.registerInstance name value).sources.get? other =
      if other = name then some (.ready ⟨broker.nextSerial, value⟩)
      else broker.sources.get? other :=
  NameMap.get?_insert ..

theorem get?_instances_registerInstance (value : π) :
    (broker.registerInstance name value).instances.get? other =
      if other = name then some ⟨broker.nextSerial, value⟩ else broker.instances.get? other :=
  NameMap.get?_insert ..

theorem contains_registerInstance (value : π) :
    (broker.registerInstance name value).contains other =
      (decide (other = name) || broker.contains other) :=
  NameMap.contains_insert ..

theorem isLoaded_registerInstance (value : π) :
    (broker.registerInstance name value).isLoaded other =
      (decide (other = name) || broker.isLoaded other) :=
  NameMap.contains_insert ..

theorem agreesOn_registerInstance (hother : name ≠ other) (value : π) :
    broker.AgreesOn (broker.registerInstance other value) name := by
  constructor
  · rw [get?_instances_registerInstance, if_neg hother]
  · rw [get?_sources_registerInstance, if_neg hother]

/-- Registering a finished instance makes that one. -/
theorem holds_of_registerInstance {value : π}
    (hholds : (broker.registerInstance other value).Holds name made) :
    broker.Holds name made ∨ made = ⟨broker.nextSerial, value⟩ := by
  rcases hholds with hloaded | hready
  · rw [get?_instances_registerInstance] at hloaded
    split at hloaded
    · exact .inr (Option.some.inj hloaded).symm
    · exact .inl (.inl hloaded)
  · rw [get?_sources_registerInstance] at hready
    split at hready
    · exact .inr (PluginSource.ready.inj (Option.some.inj hready)).symm
    · exact .inl (.inr hready)

/-! ## Settling a load -/

/-- What is kept is the instance of the name, or a new one. -/
theorem settle_fst (value : π) :
    (broker.settle name value).1 =
      (broker.instances.get? name).getD ⟨broker.nextSerial, value⟩ := by
  rw [settle, keep, make]
  split <;> simp_all

@[simp]
theorem sources_settle (value : π) : (broker.settle name value).2.sources = broker.sources := by
  rw [settle, keep]
  split <;> rfl

@[simp]
theorem nextSerial_settle (value : π) :
    (broker.settle name value).2.nextSerial = broker.nextSerial + 1 := by
  rw [settle, keep]
  split <;> rfl

/-- What is kept is the instance of the name from now on, and no other instance changes. -/
theorem get?_instances_settle (value : π) :
    (broker.settle name value).2.instances.get? other =
      if other = name then some (broker.settle name value).1 else broker.instances.get? other := by
  rw [settle, keep, make]
  split
  · rename_i made hmade
    by_cases hother : other = name
    · simpa [hother] using hmade
    · simp [hother]
  · exact NameMap.get?_insert ..

theorem isLoaded_settle (value : π) :
    (broker.settle name value).2.isLoaded other =
      (decide (other = name) || broker.isLoaded other) := by
  rw [isLoaded, NameMap.contains, get?_instances_settle]
  split
  · simp [*]
  · simp [*, isLoaded, NameMap.contains]

theorem agreesOn_settle (hother : name ≠ other) (value : π) :
    broker.AgreesOn (broker.settle other value).2 name := by
  constructor
  · rw [get?_instances_settle, if_neg hother]
  · rw [sources_settle]

/-- Settling a load makes an instance of the object that has been built, and no other. -/
theorem holds_of_settle {value : π} (hholds : (broker.settle other value).2.Holds name made) :
    broker.Holds name made ∨ made = ⟨broker.nextSerial, value⟩ := by
  rcases hholds with hloaded | hready
  · rw [get?_instances_settle] at hloaded
    split at hloaded
    · rename_i heq
      rw [settle_fst, ← heq] at hloaded
      rcases hearlier : broker.instances.get? name with _ | earlier
      · rw [hearlier] at hloaded
        exact .inr (Option.some.inj hloaded).symm
      · rw [hearlier] at hloaded
        exact .inl (.inl (hearlier.trans hloaded))
    · exact .inl (.inl hloaded)
  · rw [sources_settle] at hready
    exact .inl (.inr hready)

/-! ## Loading -/

/-- What a load comes to, without the lines that it logs. -/
def loaded? (broker : PluginBroker σ π) (name : String) : Option (Loaded σ π) :=
  (broker.load? name).map (·.value)

/-- What code comes to, without the lines that it logs. -/
def given? (broker : PluginBroker σ π) (code : Assembly σ π) : Option (π × PluginBroker σ π) :=
  (broker.assemble? code).map (·.value)

theorem keep_of_get?_eq_none (hinstance : broker.instances.get? name = none) :
    broker.keep name made =
      (made, { broker with instances := broker.instances.insert name made }) := by
  rw [keep, hinstance]

/-- A name that has an instance is loaded by returning it, and nothing else is done. -/
theorem load?_of_instance (hinstance : broker.instances.get? name = some made) :
    broker.load? name = some (return (.ok made, broker)) := by
  rw [load?, hinstance]
  rfl

/-- A name that is not registered is refused. -/
theorem loaded?_of_unknown (hinstance : broker.instances.get? name = none)
    (hsource : broker.sources.get? name = none) :
    broker.loaded? name = some (.error (.unknown name), broker) := by
  rw [loaded?, load?, hinstance, hsource]
  rfl

/-- A name that has no instance but is registered as finished is loaded by keeping that. -/
theorem loaded?_of_ready (hinstance : broker.instances.get? name = none)
    (hsource : broker.sources.get? name = some (.ready made)) :
    broker.loaded? name =
      some (.ok made, { broker with instances := broker.instances.insert name made }) := by
  rw [loaded?, load?, hinstance, hsource]
  dsimp only
  rw [keep_of_get?_eq_none hinstance]
  rfl

/-- A name that has no instance but a factory is loaded by carrying out the factory and settling
what it gives. -/
theorem loaded?_of_factory {factory : Assembly σ π} (hinstance : broker.instances.get? name = none)
    (hsource : broker.sources.get? name = some (.factory factory)) :
    broker.loaded? name = (broker.given? factory).map fun given =>
      (.ok (given.2.settle name given.1).1, (given.2.settle name given.1).2) := by
  rw [loaded?, load?, hinstance, hsource, given?]
  rcases hbuilt : broker.assemble? factory with _ | built
  · simp [hbuilt]
  · simp [hbuilt, finish]

theorem loaded?_of_instance (hinstance : broker.instances.get? name = some made) :
    broker.loaded? name = some (.ok made, broker) := by
  rw [loaded?, load?_of_instance hinstance]
  rfl

/-- A load that ends returns the instance that the name has from then on, or the name is not
registered. -/
theorem loaded?_cases {result : Except PluginError (PluginInstance π)} {left : PluginBroker σ π}
    (hloaded : broker.loaded? name = some (result, left)) :
    (∃ made, result = .ok made ∧ left.instances.get? name = some made) ∨
      result = .error (.unknown name) ∧ left = broker := by
  rcases hinstance : broker.instances.get? name with _ | made
  · rcases hsource : broker.sources.get? name with _ | ⟨factory⟩ | ⟨made⟩
    · rw [loaded?_of_unknown hinstance hsource] at hloaded
      cases hloaded
      exact .inr ⟨rfl, rfl⟩
    · rw [loaded?_of_factory hinstance hsource] at hloaded
      obtain ⟨given, -, hsettled⟩ := Option.map_eq_some_iff.mp hloaded
      cases hsettled
      refine .inl ⟨_, rfl, ?_⟩
      rw [get?_instances_settle, if_pos rfl]
    · rw [loaded?_of_ready hinstance hsource] at hloaded
      cases hloaded
      exact .inl ⟨made, rfl, (NameMap.get?_insert ..).trans (if_pos rfl)⟩
  · rw [loaded?_of_instance hinstance] at hloaded
    cases hloaded
    exact .inl ⟨made, rfl, hinstance⟩

theorem value_load (broker : PluginBroker σ π) (name : String) :
    (broker.load name).value =
      (broker.loaded? name).getD (.error (.endless name), broker) := by
  rw [load, loaded?]
  rcases broker.load? name with _ | loaded
  · rfl
  · rfl

/-- A load of a name that has no instance but a factory returns what settling the object of the
factory gives, if the factory comes to an end. -/
theorem value_load_of_factory {factory : Assembly σ π}
    (hinstance : broker.instances.get? name = none)
    (hsource : broker.sources.get? name = some (.factory factory)) :
    (broker.load name).value =
      match broker.given? factory with
      | some (value, left) => (.ok (left.settle name value).1, (left.settle name value).2)
      | none => (.error (.endless name), broker) := by
  rw [value_load, loaded?_of_factory hinstance hsource]
  rcases broker.given? factory with _ | ⟨value, left⟩
  · rfl
  · rfl

/-- What a load returns is its value, or it has none. -/
theorem value_load_eq_iff {result : Except PluginError (PluginInstance π)}
    {left : PluginBroker σ π} (hends : result ≠ .error (.endless name)) :
    (broker.load name).value = (result, left) ↔ broker.loaded? name = some (result, left) := by
  rw [value_load]
  rcases hloaded : broker.loaded? name with _ | loaded
  · simpa using fun heq => absurd heq.symm hends
  · simp

/-- A name that has an instance is loaded by returning it. Nothing is built, and nothing changes. -/
theorem load_of_instance (hinstance : broker.instances.get? name = some made) :
    broker.load name = return (.ok made, broker) := by
  rw [load, load?_of_instance hinstance]
  rfl

/-- The instance that a load returns is there for the next load. -/
theorem get?_instances_of_load {left : PluginBroker σ π}
    (hload : (broker.load name).value = (.ok made, left)) :
    left.instances.get? name = some made := by
  rcases loaded?_cases ((value_load_eq_iff (by simp)).mp hload) with
    ⟨other, hother, hinstance⟩ | ⟨herror, -⟩
  · cases hother
    exact hinstance
  · cases herror

/-- A load has no value exactly if it does not end. -/
theorem load_eq_endless_iff :
    (broker.load name).value.1 = .error (.endless name) ↔ broker.loaded? name = none := by
  rw [value_load]
  rcases hloaded : broker.loaded? name with _ | ⟨result, left⟩
  · simp
  · rcases loaded?_cases hloaded with ⟨made, rfl, -⟩ | ⟨rfl, -⟩ <;> simp

/-- Loading an object of an expected type is loading the instance, and looking at it. -/
theorem value_loadAs (broker : PluginBroker σ π) (name : String) {τ : Type} (as? : π → Option τ)
    (expected : String) :
    (broker.loadAs name as? expected).value =
      (cast as? expected name (broker.load name).value.1, (broker.load name).value.2) := rfl

/-! ## Carrying out code -/

@[simp]
theorem given?_give (value : π) : broker.given? (.give value) = some (value, broker) := by
  rw [given?, assemble?]
  rfl

/-- A name whose factory has an object at hand is loaded by settling that. -/
theorem value_load_of_give {value : π} (hinstance : broker.instances.get? name = none)
    (hsource : broker.sources.get? name = some (.factory (.give value))) :
    (broker.load name).value =
      (.ok (broker.settle name value).1, (broker.settle name value).2) := by
  rw [value_load_of_factory hinstance hsource, given?_give]

@[simp]
theorem given?_recall (next : σ → Assembly σ π) :
    broker.given? (.recall next) = broker.given? (next broker.memory) := by
  rw [given?, assemble?, given?]

@[simp]
theorem given?_remember (memory : σ) (next : Assembly σ π) :
    broker.given? (.remember memory next) = given? { broker with memory } next := by
  rw [given?, assemble?, given?]

@[simp]
theorem given?_registerInstance (value : π) (next : Assembly σ π) :
    broker.given? (.registerInstance name value next) =
      (broker.registerInstance name value).given? next := by
  rw [given?, assemble?, given?]

/-- Lines that have been logged before are no part of what something comes to. -/
theorem map_value_behind {α β : Type} (first : Logged α) (rest? : Option (Logged β)) :
    (do let rest ← rest?; return first >>= fun _ => rest : Option (Logged β)).map (·.value) =
      rest?.map (·.value) := by
  rcases rest? with _ | rest
  · rfl
  · rfl

@[simp]
theorem given?_register (factory next : Assembly σ π) :
    broker.given? (.register name factory next) =
      (broker.register name factory).value.given? next := by
  rw [given?, assemble?, map_value_behind, given?]

@[simp]
theorem given?_load (next : Except PluginError (PluginInstance π) → Assembly σ π) :
    broker.given? (.load name next) =
      (broker.loaded? name).bind fun first => first.2.given? (next first.1) := by
  rw [given?, assemble?, loaded?]
  rcases broker.load? name with _ | first
  · rfl
  · exact map_value_behind first _

end RequestDispatch.PluginBroker
