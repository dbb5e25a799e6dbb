import RequestDispatch.Event.Basic

/-!
# Scripts

Controllers and listeners described as data. A scripted controller has an outcome for each of
its actions; a scripted listener has a list of steps for each event, each carried out under a
condition. Both write down what happens to them. With scripts a configuration can be tried out
without code, and every route through the pipeline can be reached.
-/

namespace RequestDispatch

/-- What must hold for a step to be carried out. What is not given is not asked for. -/
structure ScriptCondition where
  /-- The request's action. -/
  action : Option String := none
  /-- The request's module. -/
  module : Option String := none
  /-- The request's URI. -/
  uri : Option String := none
  /-- A parameter that the request has. -/
  present : Option String := none
  /-- A parameter that the request does not have. -/
  absent : Option String := none
  /-- The kind of the outcome. -/
  outcome : Option String := none
  /-- The status of the response. -/
  status : Option Nat := none
deriving DecidableEq, Repr

/-- Whether a condition holds of a request, the kind of its outcome if it has one and the
status of its response if it has one. -/
def ScriptCondition.holds (condition : ScriptCondition) (request : Request)
    (outcome : Option String) (status : Option Nat) : Bool :=
  condition.action.all (· = request.action) &&
  condition.module.all (· = request.module) &&
  condition.uri.all (· = request.uri) &&
  condition.present.all (fun name => (request.param? name).isSome) &&
  condition.absent.all (fun name => (request.param? name).isNone) &&
  condition.outcome.all (some · = outcome) &&
  condition.status.all (some · = status)

/-- What a scripted action results in. -/
inductive ScriptedResult where
  /-- An outcome. -/
  | outcome (outcome : Outcome)
  /-- The request, as data. -/
  | echo
  /-- A failure. -/
  | fail (message : String)

/-- What a scripted controller does at an action. -/
structure ScriptedAction where
  /-- Parameters that are set in the request. -/
  params : Params := ∅
  /-- What the request's action becomes. -/
  action : Option String := none
  /-- Whether the controller's keepsake is the outcome, if it has one. -/
  showsKeepsake : Bool := false
  /-- The result otherwise. -/
  result : ScriptedResult := .outcome .empty

/-- The name in a list of scripted actions that stands for every action not listed. -/
def anyAction : String := "*"

/-- A scripted controller. -/
structure ScriptedController where
  /-- The name it gives itself. -/
  identity : String
  /-- What it does at each action. -/
  actions : List (String × ScriptedAction)
  /-- A text that it keeps from when it was built. -/
  keepsake : Option String := none

/-- What a step changes before routing. -/
inductive RouteChange where
  | respond (response : Response)
  | setUri (uri : String)
  | setBaseUrl (baseUrl : String)
  | setModule (module : String)
  | setParam (name value : String)

/-- What a step changes when the controller has been built. -/
inductive ControllerChange where
  | respond (response : Response)
  | replace (controller : ScriptedController)

/-- What a step changes when there is an outcome. -/
inductive ResultChange where
  | respond (response : Response)
  | replace (result : ScriptedResult)
  | stop

/-- What a step changes when there is a response. -/
inductive FilterChange where
  | respond (response : Response)
  | setHeader (name value : String)
  | setStatus (status : Nat)
  | append (text : String)

/-- What a step does, given what changes there are and what listeners. -/
inductive ScriptDeed (χ ζ : Type) where
  /-- Fail. -/
  | fail (message : String)
  /-- Register a listener. -/
  | addListener (listener : ζ)
  /-- Change something. -/
  | change (change : χ)

/-- A step of a script. -/
structure ScriptStep (χ ζ : Type) where
  /-- When it is carried out. -/
  condition : ScriptCondition
  /-- What it does. -/
  deed : ScriptDeed χ ζ

/-- A listener described as data. -/
inductive ScriptedListener where
  | tracing
  | metrics
  | json
  | text
  | views
  | headers (headers : Headers)
  /-- A listener that does nothing. -/
  | silent
  /-- A listener that carries out steps. The tag tells its notes from those of others. -/
  | script (tag : String)
      (onRoute : List (ScriptStep RouteChange ScriptedListener))
      (onController : List (ScriptStep ControllerChange ScriptedListener))
      (onControllerResult : List (ScriptStep ResultChange ScriptedListener))
      (onFilterResponse : List (ScriptStep FilterChange ScriptedListener))

/-- What scripted controllers and listeners write down. A response is noted by its status. -/
inductive ScriptNote where
  /-- A controller is built. -/
  | built (identity uri : String) (listeners : Nat)
  /-- A controller is dispatched. -/
  | dispatched (identity action : String)
  /-- A listener hears the event before routing. -/
  | route (tag uri : String) (response : Option Nat)
  /-- A listener hears that the controller has been built. -/
  | controller (tag action : String) (response : Option Nat)
  /-- A listener hears that there is an outcome. -/
  | result (tag : String) (outcome : Outcome) (response : Option Nat) (stopped : Bool)
  /-- A listener hears that there is a response. -/
  | filter (tag : String) (status : Nat)

end RequestDispatch
