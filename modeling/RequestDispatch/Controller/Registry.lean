import RequestDispatch.Controller.Naming
import RequestDispatch.Journal
import RequestDispatch.NameMap

/-!
# Controller Registry

The factories of controllers by absolute identity. An identity may be given in absolute form
or not, both when a factory is registered and when it is looked up.
-/

namespace RequestDispatch

/-- Factories by absolute identity. -/
structure ControllerRegistry (φ : Type) where
  /-- The factories. -/
  factories : NameMap φ := ∅

namespace ControllerRegistry

variable {φ : Type} (registry : ControllerRegistry φ)

/-- Register a factory, in place of the one with the same identity. -/
def register (identity : String) (factory : φ) : ControllerRegistry φ :=
  ⟨registry.factories.insert (absoluteIdentity identity) factory⟩

/-- Register a factory and report it. -/
def registerLogged (identity : String) (factory : φ) : Logged (ControllerRegistry φ) := do
  let absolute := absoluteIdentity identity
  if registry.factories.contains absolute then
    Logged.write {
      level := .warn, component := .registry
      message := "Replaced existing controller factory"
      fields := [("identity", .text absolute)] }
  Logged.write {
    level := .info, component := .registry
    message := "Controller registered"
    fields := [
      ("identity", .text absolute),
      ("total_controllers", .number (registry.factories.size + 1))] }
  return registry.register identity factory

/-- The factory of an identity. -/
def get? (identity : String) : Option φ := registry.factories.get? (absoluteIdentity identity)

/-- Whether an identity has a factory. -/
def contains (identity : String) : Bool := (registry.get? identity).isSome

/-- The number of controllers. -/
def size : Nat := registry.factories.size

/-- Whether there are no controllers. -/
def isEmpty : Bool := registry.factories.isEmpty

/-- The registered identities, sorted. -/
def identities : List String := registry.factories.names

end ControllerRegistry

end RequestDispatch
