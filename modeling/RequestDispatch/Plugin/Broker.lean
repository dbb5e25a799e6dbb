import RequestDispatch.Journal
import RequestDispatch.NameMap

/-!
# Plugin Broker

Shared objects by name, built when they are first asked for. A plugin is registered as a
factory or as a finished instance. The first load of a name builds its instance; later loads
give the same instance, until the name is registered again.

While it builds, a factory may itself load and register plugins, its own name included, and it
may use a memory that all factories of a broker share. What a factory does is therefore not a
function but a description of steps, an `Assembly`, which the broker carries out.

Factories may load one another without end. So loading a plugin and carrying out a factory are the
least functions that satisfy their equations (`PluginBroker.load?` and `PluginBroker.assemble?`),
and have no value where a program that follows the equations would not come to an end.
-/

namespace RequestDispatch

/-- Why a plugin could not be loaded. -/
inductive PluginError where
  /-- Nothing is registered under the name. -/
  | unknown (name : String)
  /-- The instance is of another type than the expected one. -/
  | typeMismatch (name expected : String)
  /-- The plugin is never built. No program gets to see this, since it is not a result but stands
  for one where there is none. -/
  | endless (name : String)
deriving DecidableEq, Repr

/-- What is wrong, in words. -/
def PluginError.message : PluginError → String
  | unknown name => s!"plugin '{name}' is not registered"
  | typeMismatch name expected => s!"plugin '{name}' is not a {expected}"
  | endless name => s!"plugin '{name}' loads plugins without end"

/-- A built plugin. Its serial number tells it from every other instance, also from one with
an equal value. -/
structure PluginInstance (π : Type) where
  /-- The number of the instance. -/
  serial : Nat
  /-- The object. -/
  value : π
deriving DecidableEq, Repr

/-- The steps of a factory, which end with the object it builds. -/
inductive Assembly (σ π : Type) where
  /-- Finish with an object. -/
  | give (value : π)
  /-- Look at the shared memory. -/
  | recall (next : σ → Assembly σ π)
  /-- Replace the shared memory. -/
  | remember (memory : σ) (next : Assembly σ π)
  /-- Load a plugin. -/
  | load (name : String) (next : Except PluginError (PluginInstance π) → Assembly σ π)
  /-- Register a factory. -/
  | register (name : String) (factory : Assembly σ π) (next : Assembly σ π)
  /-- Register a finished instance. -/
  | registerInstance (name : String) (value : π) (next : Assembly σ π)

/-- Where the instance of a registered plugin comes from. -/
inductive PluginSource (σ π : Type) where
  /-- It is built by a factory. -/
  | factory (assembly : Assembly σ π)
  /-- It was registered finished. -/
  | ready (made : PluginInstance π)

/-- Registered plugins and the instances built so far. -/
structure PluginBroker (σ π : Type) where
  /-- Where the instance of each name comes from. -/
  sources : NameMap (PluginSource σ π) := ∅
  /-- The instance of each name that has been loaded. -/
  instances : NameMap (PluginInstance π) := ∅
  /-- The serial number of the next instance. -/
  nextSerial : Nat := 0
  /-- The memory that the factories share. -/
  memory : σ

namespace PluginBroker

variable {σ π : Type}

/-- A line about a plugin. -/
def line (level : Level) (message name : String) : LogLine where
  level := level
  component := .plugins
  message := message
  fields := [("plugin", .text name)]

/-- Whether a name is registered. -/
def contains (broker : PluginBroker σ π) (name : String) : Bool := broker.sources.contains name

/-- Whether a name has an instance. -/
def isLoaded (broker : PluginBroker σ π) (name : String) : Bool :=
  broker.instances.contains name

/-- The registered names, sorted. -/
def names (broker : PluginBroker σ π) : List String := broker.sources.names

/-- Register a factory. If the name was registered, its instance is forgotten. -/
def register (broker : PluginBroker σ π) (name : String) (assembly : Assembly σ π) :
    Logged (PluginBroker σ π) := do
  let sources := broker.sources.insert name (.factory assembly)
  if broker.contains name then
    Logged.write (line .warn "Replaced existing plugin factory" name)
    return { broker with sources, instances := broker.instances.erase name }
  else return { broker with sources }

/-- Give an object a serial number. -/
def make (broker : PluginBroker σ π) (value : π) : PluginInstance π × PluginBroker σ π :=
  (⟨broker.nextSerial, value⟩, { broker with nextSerial := broker.nextSerial + 1 })

/-- Register a finished instance, which counts as loaded at once. -/
def registerInstance (broker : PluginBroker σ π) (name : String) (value : π) :
    PluginBroker σ π :=
  let (made, broker) := broker.make value
  { broker with
    sources := broker.sources.insert name (.ready made)
    instances := broker.instances.insert name made }

/-- Keep a new instance of a name, unless the name got an instance while it was built. -/
def keep (broker : PluginBroker σ π) (name : String) (made : PluginInstance π) :
    PluginInstance π × PluginBroker σ π :=
  match broker.instances.get? name with
  | some earlier => (earlier, broker)
  | none => (made, { broker with instances := broker.instances.insert name made })

/-- Give an object that has been built for a name a serial number, and keep it unless the name got
an instance meanwhile. -/
def settle (broker : PluginBroker σ π) (name : String) (value : π) :
    PluginInstance π × PluginBroker σ π :=
  (broker.make value).2.keep name (broker.make value).1

/-- What comes of a load: the instance, or why there is none, and the broker afterwards. -/
abbrev Loaded (σ π : Type) := Except PluginError (PluginInstance π) × PluginBroker σ π

/-- Finish loading a name with the instance that is kept of it. -/
def finish (name : String) (kept : PluginInstance π × PluginBroker σ π) :
    Logged (Loaded σ π) := do
  Logged.write (line .debug "Plugin loaded" name)
  return (.ok kept.1, kept.2)

mutual

/-- Load the instance of a name, building it if there is none. There is no value if building it does
not end. -/
def load? (broker : PluginBroker σ π) (name : String) : Option (Logged (Loaded σ π)) := do
  match broker.instances.get? name with
  | some made => return return (.ok made, broker)
  | none =>
    match broker.sources.get? name with
    | none => return return (.error (.unknown name), broker)
    | some (.ready made) => return finish name (broker.keep name made)
    | some (.factory assembly) =>
      let built ← broker |>.assemble? assembly
      return built >>= fun given => finish name (given.2.settle name given.1)
partial_fixpoint

/-- Carry out the steps of a factory. There is no value if they do not end. -/
def assemble? (broker : PluginBroker σ π) (assembly : Assembly σ π) :
    Option (Logged (π × PluginBroker σ π)) := do
  match assembly with
  | .give value => return return (value, broker)
  | .recall next => broker |>.assemble? (next broker.memory)
  | .remember memory next => ({ broker with memory } : PluginBroker σ π) |>.assemble? next
  | .load name next =>
    let first ← broker |>.load? name
    let rest ← first.value.2 |>.assemble? (next first.value.1)
    return first >>= fun _ => rest
  | .register name factory next =>
    let first := broker.register name factory
    let rest ← first.value |>.assemble? next
    return first >>= fun _ => rest
  | .registerInstance name value next => broker.registerInstance name value |>.assemble? next
partial_fixpoint

end

/-- Load the instance of a name, building it if there is none. If building it does not end, `endless`
stands for the result that there is not. -/
def load (broker : PluginBroker σ π) (name : String) : Logged (Loaded σ π) :=
  (broker.load? name).getD (return (.error (.endless name), broker))

/-- The object of an instance if it is of an expected type. -/
def cast {τ : Type} (as? : π → Option τ) (expected name : String) :
    Except PluginError (PluginInstance π) → Except PluginError τ
  | .error error => .error error
  | .ok made =>
    match as? made.value with
    | some value => .ok value
    | none => .error (.typeMismatch name expected)

/-- Load the object of a name, which must be of an expected type. -/
def loadAs {τ : Type} (broker : PluginBroker σ π) (name : String) (as? : π → Option τ)
    (expected : String) : Logged (Except PluginError τ × PluginBroker σ π) := do
  let (result, broker) ← broker.load name
  return (cast as? expected name result, broker)

end PluginBroker

end RequestDispatch
