import RequestDispatch.Event.Delivery
import RequestDispatch.Kernel.Error

/-!
# Handling

The handling of one request as a computation. It carries the request and the scene, writes log
lines, and records its steps: which events were fired and how many listeners heard each, and
when the router ran, a controller was built and a controller was dispatched. What was done up
to an error stays done.
-/

namespace RequestDispatch

/-- A step in the handling of a request. -/
inductive KernelStep where
  /-- An event was fired, and this many listeners heard it. -/
  | fired (event : EventName) (heard : Nat)
  /-- The router ran. -/
  | routed
  /-- A controller was built. -/
  | built (identity : String)
  /-- A controller was dispatched. -/
  | dispatched (identity : String)
deriving DecidableEq, Repr

/-- What the handling of a request changes. -/
structure HandlingState (app : Application) where
  /-- The request. -/
  request : Request
  /-- The scene. -/
  scene : Scene app

/-- What comes of the handling of a request, or of a part of it. -/
structure Handled (app : Application) (α : Type) where
  /-- The result, or why there is none. -/
  result : Except KernelError α
  /-- The request and the scene afterwards. -/
  state : HandlingState app
  /-- The steps, in order. -/
  steps : List KernelStep
  /-- The log lines, in order. -/
  lines : List LogLine

/-- The handling of a request, or a part of it. -/
def Handling (app : Application) (α : Type) := HandlingState app → Handled app α

namespace Handling

variable {app : Application} {α β ε : Type}

instance : Monad (Handling app) where
  pure value := fun state => ⟨.ok value, state, [], []⟩
  bind first next := fun state =>
    let a := first state
    match a.result with
    | .error error => ⟨.error error, a.state, a.steps, a.lines⟩
    | .ok value =>
      let b := next value a.state
      ⟨b.result, b.state, a.steps ++ b.steps, a.lines ++ b.lines⟩

/-- Give up for a cause. -/
def fail (error : KernelError) : Handling app α := fun state => ⟨.error error, state, [], []⟩

/-- Write a log line of the kernel. -/
def write (level : Level) (message : String) (fields : List (String × FieldValue)) :
    Handling app Unit :=
  fun state => ⟨.ok (), state, [], [{ level, component := .kernel, message, fields }]⟩

/-- Record a step. -/
def record (step : KernelStep) : Handling app Unit := fun state => ⟨.ok (), state, [step], []⟩

/-- Compute something that writes log lines. -/
def ofLogged (logged : Logged α) : Handling app α :=
  fun state => ⟨.ok logged.value, state, [], logged.lines⟩

/-- The request. -/
def request : Handling app Request := fun state => ⟨.ok state.request, state, [], []⟩

/-- Replace the request. -/
def setRequest (request : Request) : Handling app Unit :=
  fun state => ⟨.ok (), { state with request }, [], []⟩

/-- Run code of the application. -/
def act (action : AppAction app α) : Handling app α := fun state =>
  let ran := state.scene.run action
  ⟨.ok ran.value.1, { state with scene := ran.value.2 }, [], ran.lines⟩

/-- Fire an event. The result is why a listener failed, if one did, and the event afterwards. -/
def deliver (delivery : Delivery app ε) (event : ε) : Handling app (Option Failure × ε) :=
  fun state =>
    let fired := delivery.fire event state.scene
    let delivered := fired.value
    ⟨.ok (delivered.failure, delivered.event), { state with scene := delivered.scene },
      [.fired delivery.name delivered.heard], fired.lines⟩

/-- Fire an event, and give up if a listener fails. -/
def fire (delivery : Delivery app ε) (event : ε) : Handling app ε := do
  let (failure, event) ← deliver delivery event
  match failure with
  | some failure => fail (.listener delivery.name failure)
  | none => return event

end Handling

end RequestDispatch
