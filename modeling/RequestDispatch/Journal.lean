/-!
# Journal

The log lines that the parts of the library write, as data. A computation that logs returns
its result together with its lines (`Logged`), so what is logged can be stated and tested
like any other result, and whoever runs the computation decides which lines are shown.
-/

namespace RequestDispatch

/-- How much a log line matters, from an error down to the finest detail. -/
inductive Level where
  | error
  | warn
  | info
  | debug
  | trace
deriving DecidableEq, Repr

namespace Level

/-- The name of a level in capitals. -/
def name : Level → String
  | error => "ERROR"
  | warn => "WARN"
  | info => "INFO"
  | debug => "DEBUG"
  | trace => "TRACE"

/-- Warnings and errors, which sampling never drops. -/
def isSevere : Level → Bool
  | error | warn => true
  | info | debug | trace => false

/-- A level's verbosity: 1 for errors up to 5 for the finest detail. -/
def verbosity : Level → Nat
  | error => 1
  | warn => 2
  | info => 3
  | debug => 4
  | trace => 5

end Level

/-- The parts of the library that write log lines. -/
inductive Component where
  | pattern
  | urlGeneration
  | route
  | table
  | resolver
  | registry
  | plugins
  | events
  | requestTracing
  | renderer
  | views
  | viewResults
  | kernel
deriving DecidableEq, Repr

/-- The name under which a component's lines are filtered. -/
def Component.target : Component → String
  | pattern => "routekernel::route::pattern"
  | urlGeneration => "routekernel::route::generate"
  | route => "routekernel::route::route"
  | table => "routekernel::router::core"
  | resolver => "routekernel::controller::resolver"
  | registry => "routekernel::controller::registry"
  | plugins => "routekernel::plugin"
  | events => "routekernel::events::core"
  | requestTracing => "routekernel::listeners::tracing"
  | renderer => "routekernel::view::renderer"
  | views => "routekernel::view::plugin"
  | viewResults => "routekernel::view::listener"
  | kernel => "routekernel::kernel::core"

/-- The value of a log line's field. -/
inductive FieldValue where
  | text (value : String)
  | number (value : Nat)
  | flag (value : Bool)
deriving DecidableEq, Repr

/-- One log line. -/
structure LogLine where
  /-- How much the line matters. -/
  level : Level
  /-- Who wrote it. -/
  component : Component
  /-- What happened. -/
  message : String
  /-- The particulars, in the order they were given. -/
  fields : List (String × FieldValue)
deriving DecidableEq, Repr

/-- The result of a computation with the log lines written on the way. -/
structure Logged (α : Type) where
  /-- The result. -/
  value : α
  /-- The lines, the earliest first. -/
  lines : List LogLine

namespace Logged

variable {α β : Type}

/-- Write one line. -/
def write (line : LogLine) : Logged Unit := ⟨(), [line]⟩

instance : Monad Logged where
  pure value := ⟨value, []⟩
  bind first next := ⟨(next first.value).value, first.lines ++ (next first.value).lines⟩

@[simp] theorem value_pure (a : α) : (pure a : Logged α).value = a := rfl

@[simp] theorem value_bind (first : Logged α) (next : α → Logged β) :
    (first >>= next).value = (next first.value).value := rfl

@[simp] theorem value_map (f : α → β) (logged : Logged α) :
    (f <$> logged).value = f logged.value := rfl

@[simp] theorem lines_pure (a : α) : (pure a : Logged α).lines = [] := rfl

@[simp] theorem lines_bind (first : Logged α) (next : α → Logged β) :
    (first >>= next).lines = first.lines ++ (next first.value).lines := rfl

end Logged

end RequestDispatch
