import RequestDispatch.Event.Listening
import RequestDispatch.Event.Metrics

/-!
# Delivering Events

An event is delivered to the listeners that are registered when it is fired, one after
another in the order in which they were registered, until one fails or stops it. Listeners
that are registered meanwhile hear of later events only.

`Scene` is what delivering and the code of an application change: the registered listeners
with the counts of what each has been delivered, and the plugins. Listeners are only ever
added to it.
-/

namespace RequestDispatch

/-- A registered listener. -/
structure Registered (app : Application) where
  /-- What it does. -/
  kind : ListenerKind app
  /-- What it has been delivered. -/
  metrics : Metrics := {}

/-- What the kernel keeps from one request to the next. -/
structure Scene (app : Application) where
  /-- The listeners, in the order in which they were registered. -/
  listeners : List (Registered app) := []
  /-- The plugins, with the memory of the application. -/
  plugins : AppPlugins app

namespace Scene

variable {app : Application} (scene : Scene app)

/-- Register a listener. -/
def add (kind : ListenerKind app) : Scene app :=
  { scene with listeners := scene.listeners ++ [{ kind }] }

/-- Register listeners, one after another. -/
def addAll (kinds : List (ListenerKind app)) : Scene app := kinds.foldl add scene

/-- What the registered listeners do. -/
def kinds : List (ListenerKind app) := scene.listeners.map (·.kind)

/-- Count a delivery to the listener at a position. -/
def count (position : Nat) (counted : Metrics → Metrics) : Scene app :=
  { scene with
    listeners := scene.listeners.modify position fun listener =>
      { listener with metrics := counted listener.metrics } }

/-- Run code of the application. -/
def run {α : Type} (action : AppAction app α) : Logged (α × Scene app) :=
  let after := action ⟨scene.listeners.length, scene.plugins⟩
  ⟨(after.value, { scene with plugins := after.plugins }.addAll after.added), after.lines⟩

end Scene

/-- How an event is delivered. -/
structure Delivery (app : Application) (ε : Type) where
  /-- The event's name. -/
  name : EventName
  /-- Deliver the event to a listener: why it failed, if it did, and the event afterwards. -/
  deliver : ListenerKind app → ε → AppAction app (Option Failure × ε)
  /-- Whether listeners are passed over from now on. -/
  stopped : ε → Bool
  /-- Count the event. -/
  count : ε → Metrics → Metrics

namespace Delivery

variable {app : Application} {ε : Type}

/-- What came of delivering an event. -/
structure Delivered (app : Application) (ε : Type) where
  /-- Why a listener failed, if one did. -/
  failure : Option Failure
  /-- The event afterwards. -/
  event : ε
  /-- The scene afterwards. -/
  scene : Scene app
  /-- How many listeners heard the event. -/
  heard : Nat

/-- The line that reports a failure. -/
def failedLine (event : EventName) (position : Nat) (failure : Failure) : LogLine where
  level := .warn
  component := .events
  message := "Listener failed"
  fields := [
    ("event", .text event.text),
    ("listener_idx", .number position),
    ("error", .text failure.message)]

/-- The line that reports that listeners are passed over. -/
def stoppedLine (event : EventName) (position skipped : Nat) : LogLine where
  level := .debug
  component := .events
  message := "Event propagation stopped"
  fields := [
    ("event", .text event.text),
    ("listener_idx", .number position),
    ("skipped", .number skipped)]

/-- Deliver an event to listeners, of which the first is at a position. -/
def deliverFrom (delivery : Delivery app ε) (position : Nat) :
    List (ListenerKind app) → ε → Scene app → Logged (Delivered app ε)
  | [], event, scene => return ⟨none, event, scene, position⟩
  | kind :: kinds, event, scene => do
    let ((failure, event), scene) ←
      (scene.count position (delivery.count event)).run (delivery.deliver kind event)
    match failure with
    | some failure =>
      Logged.write (failedLine delivery.name position failure)
      return ⟨some failure, event, scene, position + 1⟩
    | none =>
      if delivery.stopped event then
        Logged.write (stoppedLine delivery.name position kinds.length)
        return ⟨none, event, scene, position + 1⟩
      else delivery.deliverFrom (position + 1) kinds event scene

/-- Fire an event: deliver it to the listeners that are registered now. -/
def fire (delivery : Delivery app ε) (event : ε) (scene : Scene app) :
    Logged (Delivered app ε) :=
  delivery.deliverFrom 0 scene.kinds event scene

end Delivery

variable {app : Application}

/-- How the event before routing is delivered. -/
def routeDelivery (hooks : Hooks app) : Delivery app RouteEvent where
  name := .route
  deliver kind event := do
    let reply ← kind.onRoute hooks event
    return (reply.failure, event.after reply)
  stopped _ := false
  count _ metrics := metrics.countRequest

/-- How the event of a built controller is delivered. -/
def controllerDelivery (hooks : Hooks app) : Delivery app (ControllerEvent app) where
  name := .controller
  deliver kind event := do
    let reply ← kind.onController hooks event
    return (reply.failure, event.after reply)
  stopped _ := false
  count _ metrics := metrics.countController

/-- How the event of an outcome is delivered. It alone can be stopped. -/
def resultDelivery (hooks : Hooks app) (files : FileSystem) : Delivery app (ResultEvent app) where
  name := .controllerResult
  deliver kind event := do
    let reply ← kind.onControllerResult hooks files event
    return (reply.failure, event.after reply)
  stopped event := event.stopped
  count _ metrics := metrics.countResult

/-- How the event of a response is delivered. -/
def filterDelivery (hooks : Hooks app) : Delivery app FilterEvent where
  name := .filterResponse
  deliver kind event := do
    let reply ← kind.onFilterResponse hooks event
    return (reply.failure, event.after reply)
  stopped _ := false
  count event metrics := metrics.countResponse event.response

end RequestDispatch
