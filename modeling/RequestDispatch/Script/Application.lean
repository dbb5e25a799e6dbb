import RequestDispatch.Kernel.Pipeline
import RequestDispatch.Script.Basic

/-!
# The Application of Scripts

The application whose controllers and listeners are scripts, whose plugins are texts and which
remembers its notes, the latest first.
-/

namespace RequestDispatch

/-- The application of scripts. -/
abbrev scripted : Application where
  Listener := ScriptedListener
  Controller := ScriptedController
  Plugin := String
  Memory := List ScriptNote

/-- Write a note. -/
def note (entry : ScriptNote) : AppAction scripted Unit := AppAction.remember (entry :: ·)

/-- What kind of listener a scripted listener is. -/
def ScriptedListener.kind : ScriptedListener → ListenerKind scripted
  | tracing => .tracing
  | metrics => .metrics
  | json => .json
  | text => .text
  | views => .views
  | headers added => .headers added
  | listener => .custom listener

/-- What a request was routed to, as data. -/
def Request.toJson (request : Request) : Json :=
  .ofMembers [
    ("uri", .string request.uri),
    ("base_url", .string request.baseUrl),
    ("module", .string request.module),
    ("controller", .string request.controller),
    ("action", .string request.action),
    ("params", .ofTexts request.params)]

/-- What a scripted result is for a request. -/
def ScriptedResult.given (request : Request) : ScriptedResult → Except Failure Outcome
  | outcome given => .ok given
  | echo => .ok (.json request.toJson)
  | fail message => .error (.other message)

namespace ScriptedController

/-- What a controller does at an action. -/
def action? (controller : ScriptedController) (name : String) : Option ScriptedAction :=
  (lookupByName name controller.actions).or (lookupByName anyAction controller.actions)

/-- Dispatch a controller. -/
def dispatch (controller : ScriptedController) (request : Request) :
    AppAction scripted (Except Failure Outcome × Request) := do
  note (.dispatched controller.identity request.action)
  match controller.action? request.action with
  | none => return (.error (.other ("no action '" ++ request.action ++ "'")), request)
  | some action =>
    let request := { request with
      params := request.params.override action.params
      action := action.action.getD request.action }
    match controller.keepsake.filter fun _ => action.showsKeepsake with
    | some keepsake => return (.ok (.text keepsake), request)
    | none => return (action.result.given request, request)

/-- The text that a controller keeps of a plugin: the plugin's own text, with the names of all
plugins. -/
def keepsakeOf (plugin : String) : AppAction scripted String := do
  let loaded ← AppAction.withPlugins fun (plugins : AppPlugins scripted) =>
    plugins.loadAs plugin Plugin.asCustom? "alloc::string::String"
  let plugins ← AppAction.plugins
  return match loaded with
    | .ok text => text ++ " of " ++ ",".intercalate plugins.names
    | .error (.typeMismatch ..) => "not a string"
    | .error error => error.message

/-- Build copies of a controller, each with a keepsake of a plugin if there is one to load. -/
def factory (controller : ScriptedController) (plugin : Option String) :
    ControllerFactory scripted := fun request => do
  note (.built controller.identity request.uri (← AppAction.listenerCount))
  match plugin with
  | none => return controller
  | some plugin => return { controller with keepsake := some (← keepsakeOf plugin) }

end ScriptedController

/-- Carry out steps at an event until one fails: why one failed, if one did, and the event
afterwards. `holds` says of a condition whether it holds at an event. -/
def carryOut {χ ε : Type} (holds : ScriptCondition → ε → Bool)
    (change : χ → ε → Except Failure ε) :
    List (ScriptStep χ ScriptedListener) → ε → AppAction scripted (Option Failure × ε)
  | [], event => return (none, event)
  | step :: steps, event => do
    if holds step.condition event then
      match step.deed with
      | .fail message => return (some (.other message), event)
      | .addListener listener =>
        AppAction.addListener listener.kind
        carryOut holds change steps event
      | .change made =>
        match change made event with
        | .error failure => return (some failure, event)
        | .ok event => carryOut holds change steps event
    else carryOut holds change steps event

/-- The status of a response, if there is one. -/
def statusOf? (response : Option Response) : Option Nat := response.map (·.status)

/-- Change a request before routing. -/
def RouteChange.change : RouteChange → RouteEvent → RouteEvent
  | respond response, event => { event with response }
  | setUri uri, event => { event with request := { event.request with uri } }
  | setBaseUrl baseUrl, event => { event with request := { event.request with baseUrl } }
  | setModule module, event => { event with request := { event.request with module } }
  | setParam name value, event => { event with request := event.request.setParam name value }

/-- Change what is dispatched. -/
def ControllerChange.change :
    ControllerChange → ControllerEvent scripted → ControllerEvent scripted
  | respond response, event => { event with response }
  | replace controller, event => { event with controller }

/-- Change an outcome. -/
def ResultChange.change : ResultChange → ResultEvent scripted →
    Except Failure (ResultEvent scripted)
  | respond response, event => .ok { event with response, stopped := true }
  | replace result, event => do return { event with outcome := ← result.given event.request }
  | stop, event => .ok { event with stopped := true }

/-- Change a response. -/
def FilterChange.change : FilterChange → FilterEvent → FilterEvent
  | respond response, event => { event with response }
  | setHeader name value, event => { event with response := event.response.setHeader name value }
  | setStatus status, event => { event with response := { event.response with status } }
  | append text, event =>
    { event with response := { event.response with body := event.response.body ++ text } }

namespace ScriptedListener

/-- What a scripted listener does before routing. -/
def onRoute (event : RouteEvent) : ScriptedListener → AppAction scripted RouteReply
  | script tag steps _ _ _ => do
    note (.route tag event.request.uri (statusOf? event.response))
    let (failure, event) ← carryOut
      (fun condition event => condition.holds event.request none (statusOf? event.response))
      (fun made event => .ok (made.change event)) steps event
    return ⟨event.request, event.response, failure⟩
  | _ => return ⟨event.request, none, none⟩

/-- What a scripted listener does when the controller has been built. -/
def onController (event : ControllerEvent scripted) :
    ScriptedListener → AppAction scripted (ControllerReply scripted)
  | script tag _ steps _ _ => do
    note (.controller tag event.request.action (statusOf? event.response))
    let (failure, event) ← carryOut
      (fun condition event => condition.holds event.request none (statusOf? event.response))
      (fun made event => .ok (made.change event)) steps event
    return { controller := some event.controller, response := event.response, failure }
  | _ => return {}

/-- What a scripted listener does when there is an outcome. -/
def onControllerResult (event : ResultEvent scripted) :
    ScriptedListener → AppAction scripted ResultReply
  | script tag _ _ steps _ => do
    note (.result tag event.outcome (statusOf? event.response) event.stopped)
    let (failure, event) ← carryOut
      (fun condition event =>
        condition.holds event.request (some event.outcome.kindName) (statusOf? event.response))
      ResultChange.change steps event
    return {
      outcome := some event.outcome, response := event.response, stop := event.stopped, failure }
  | _ => return {}

/-- What a scripted listener does when there is a response. -/
def onFilterResponse (event : FilterEvent) : ScriptedListener → AppAction scripted FilterReply
  | script tag _ _ _ steps => do
    note (.filter tag event.response.status)
    let (failure, event) ← carryOut
      (fun condition event => condition.holds event.request none (some event.response.status))
      (fun made event => .ok (made.change event)) steps event
    return ⟨event.response, failure⟩
  | _ => return ⟨event.response, none⟩

/-- What scripted listeners do. -/
def hooks : Hooks scripted where
  onRoute listener event := listener.onRoute event
  onController listener event := listener.onController event
  onControllerResult listener event := listener.onControllerResult event
  onFilterResponse listener event := listener.onFilterResponse event

end ScriptedListener

end RequestDispatch
