import RequestDispatch.NameMap
import RequestDispatch.Text.Cut

/-!
# Command-Line Arguments

Reading the arguments of a command whose parameters are known. A parameter is a switch, takes
one value, or collects values. Options are given by name, as in `--name value`, `--name=value`,
`-n value`, `-nvalue` or `-n=value`; short switches can be joined. Other arguments fill the
positions of a command in order, and all arguments after `--` do.

An option without its value, a value that its parameter refuses and an option given twice are
found out when the next option or position begins, or at the end; what is wrong with that next
argument by itself is found out before that.
-/

namespace RequestDispatch

open Text

/-- Why a command line cannot be used, or that it asks for help. -/
inductive UsageError where
  /-- Help is asked for. -/
  | help
  /-- There are no arguments, and help is the answer. -/
  | helpInstead
  /-- An option or a position that there is not. -/
  | unknownArgument
  /-- A subcommand that there is not. -/
  | unknownSubcommand
  /-- There is no subcommand. -/
  | missingSubcommand
  /-- A position is not filled. -/
  | missingArgument
  /-- An option has no value, or an empty one where that is not allowed. -/
  | invalidValue
  /-- A value is refused. -/
  | refusedValue (reason : String)
  /-- A switch has a value. -/
  | needlessValue
  /-- An option is given twice. -/
  | repeated
deriving DecidableEq, Repr

/-- How many values a parameter has. -/
inductive Arity where
  /-- None; it is given or not. -/
  | switch
  /-- One. -/
  | one
  /-- Any number. -/
  | many
deriving DecidableEq, Repr

/-- A parameter of a command. -/
structure Parameter where
  /-- Its name. -/
  name : String
  /-- The letter that stands for its name. -/
  letter : Option Char := none
  /-- How many values it has. -/
  arity : Arity := .one
  /-- Refuse a value. -/
  check : String → Except UsageError Unit := fun _ => .ok ()

/-- The parameters of a command. -/
structure CommandShape where
  /-- Those given by name. -/
  options : List Parameter
  /-- Those given by position. -/
  positions : List Parameter
  /-- The names of subcommands. -/
  subcommands : List String := []

/-- The switch that asks for help. -/
def helpSwitch : Parameter := { name := "help", letter := some 'h', arity := .switch }

/-- The values of parameters by name. A switch that is given has no values. -/
abbrev GivenValues := NameMap (List String)

/-- How far arguments have been read. -/
structure ArgumentState where
  /-- The values of parameters so far. -/
  given : GivenValues := ∅
  /-- The parameter last begun, with its values, if it has not been stored. -/
  pending : Option (Parameter × List String) := none
  /-- The positions not yet filled. -/
  positions : List Parameter
  /-- Whether only positions follow. -/
  positionsOnly : Bool := false

namespace ArgumentState

/-- Whether a parameter that takes a value is still without one. -/
def awaitsValue (state : ArgumentState) : Bool :=
  match state.pending with
  | some (_, []) => true
  | _ => false

/-- Store the values of a parameter. -/
def store (state : ArgumentState) (parameter : Parameter) (values : List String) :
    Except UsageError ArgumentState := do
  if parameter.arity ≠ .switch && values.isEmpty then throw .invalidValue
  let earlier := state.given.get? parameter.name
  if parameter.arity ≠ .many && earlier.isSome then throw .repeated
  values.forM parameter.check
  return { state with
    given := state.given.insert parameter.name (earlier.getD [] ++ values) }

/-- Store the parameter last begun. -/
def settle (state : ArgumentState) : Except UsageError ArgumentState :=
  match state.pending with
  | none => .ok state
  | some (parameter, values) => { state with pending := none }.store parameter values

/-- Read a switch. -/
def switch (state : ArgumentState) (parameter : Parameter) :
    Except UsageError ArgumentState := do
  let state ← state.settle
  if parameter.name = helpSwitch.name then throw .help
  state.store parameter []

/-- Read an option with the value attached to it, if there is one. -/
def option (state : ArgumentState) (parameter : Parameter) (attached : Option String) :
    Except UsageError ArgumentState := do
  let state ← state.settle
  match attached with
  | some value => state.store parameter [value]
  | none => return { state with pending := some (parameter, []) }

/-- Read a long option, without its dashes. -/
def long (state : ArgumentState) (options : List Parameter) (text : String) :
    Except UsageError ArgumentState :=
  let attached := following? (· = '=') text
  match options.find? (·.name = upTo (· = '=') text) with
  | none => .error .unknownArgument
  | some parameter =>
    match parameter.arity, attached with
    | .switch, none => state.switch parameter
    | .switch, some _ => .error .needlessValue
    | _, attached => state.option parameter attached

/-- The value attached to a short option, given the text after its letter. -/
def attachedValue : List Char → Option String
  | [] => none
  | '=' :: value => some (String.ofList value)
  | value => some (String.ofList value)

/-- Read joined short options, without their dash. -/
def short (options : List Parameter) : List Char → ArgumentState →
    Except UsageError ArgumentState
  | [], state => .ok state
  | letter :: rest, state =>
    match options.find? (·.letter = some letter) with
    | none => .error .unknownArgument
    | some parameter =>
      match parameter.arity with
      | .switch => do short options rest (← state.switch parameter)
      | _ => state.option parameter (attachedValue rest)

/-- Read an argument that fills a position; `surplus` is wrong with one too many. -/
def position (state : ArgumentState) (surplus : UsageError) (text : String) :
    Except UsageError ArgumentState :=
  match state.positions with
  | [] => .error surplus
  | parameter :: positions =>
    match parameter.arity, state.pending with
    | .many, some (begun, values) =>
      if begun.name = parameter.name then
        .ok { state with pending := some (parameter, values ++ [text]) }
      else do
        return { ← state.settle with pending := some (parameter, [text]) }
    | .many, none => .ok { state with pending := some (parameter, [text]) }
    | _, _ => do
      return { ← state.settle with pending := some (parameter, [text]), positions }

/-- What is wrong with a word that should be a subcommand. -/
def surplusIn (shape : CommandShape) (state : ArgumentState) (text : String) : UsageError :=
  if shape.subcommands.isEmpty ||
      (state.positionsOnly && shape.subcommands.contains text) then .unknownArgument
  else .unknownSubcommand

/-- Read an argument. -/
def read (shape : CommandShape) (state : ArgumentState) (text : String) :
    Except UsageError ArgumentState :=
  let ordinary :=
    match state.awaitsValue, state.pending with
    | true, some (parameter, _) => .ok { state with pending := some (parameter, [text]) }
    | _, _ => state.position (surplusIn shape state text) text
  if state.positionsOnly then state.position (surplusIn shape state text) text
  else
    match text.toList with
    | ['-', '-'] => .ok { state with positionsOnly := true }
    | '-' :: '-' :: name => state.long (helpSwitch :: shape.options) (String.ofList name)
    | '-' :: letter :: letters => short (helpSwitch :: shape.options) (letter :: letters) state
    | _ => ordinary

/-- Read arguments up to a subcommand. The second component is the subcommand with its
arguments. -/
def readAll (shape : CommandShape) : List String → ArgumentState →
    Except UsageError (ArgumentState × Option (String × List String))
  | [], state => .ok (state, none)
  | text :: texts, state =>
    if !state.positionsOnly && !state.awaitsValue && shape.subcommands.contains text then
      .ok (state, some (text, texts))
    else do readAll shape texts (← state.read shape text)

end ArgumentState

/-- Whether all positions that must be filled are. -/
def CommandShape.isFilled (shape : CommandShape) (given : GivenValues) : Bool :=
  shape.positions.all fun parameter => parameter.arity = .many || given.contains parameter.name

end RequestDispatch
