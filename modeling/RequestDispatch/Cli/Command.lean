import RequestDispatch.Cli.Arguments
import RequestDispatch.FileSystem
import RequestDispatch.Http.Params

/-!
# Commands

The commands of the command line: resolving a URI to what a kernel would dispatch, generating
the URL of a named route, and listing the routes. The options that name the settings file and
ask for log lines can be given before a command or after it; what is given after it counts.
-/

namespace RequestDispatch

open Text

/-- What to do. -/
inductive Command where
  /-- Resolve a URI. -/
  | resolve (uri : String) (baseUrl : Option String) (method : String) (asJson : Bool)
  /-- Generate a URL. -/
  | url (name : String) (params : Params) (query fragment : String)
  /-- List the routes. -/
  | list
deriving DecidableEq

/-- A command with the options that all commands have. -/
structure CommandLine where
  /-- The settings file. -/
  config : Option String
  /-- Whether log lines are asked for. -/
  verbose : Bool
  /-- The command. -/
  command : Command
deriving DecidableEq

namespace CommandLine

/-- The parts of a text of the form `key=value`. -/
def assignment (text : String) : Except UsageError (String × String) :=
  match following? (· = '=') text with
  | none =>
    .error (.refusedValue ("invalid KEY=value: no '=' found in '" ++ text ++ "'"))
  | some value =>
    let key := upTo (· = '=') text
    if key.isEmpty then
      .error (.refusedValue ("invalid KEY=value: empty key in '" ++ text ++ "'"))
    else .ok (key, value)

/-- Refuse empty text. -/
def checkPath (text : String) : Except UsageError Unit :=
  if text.isEmpty then .error .invalidValue else .ok ()

/-- The options of every command. -/
def sharedOptions : List Parameter := [
  { name := "config", letter := some 'c', check := checkPath },
  { name := "verbose", letter := some 'v', arity := .switch }]

/-- What comes before a command. -/
def topShape : CommandShape where
  options := sharedOptions
  positions := []
  subcommands := ["match", "url", "routes", "help"]

/-- What follows the command that resolves a URI. -/
def resolveShape : CommandShape where
  options := sharedOptions ++ [
    { name := "base-url", letter := some 'b' },
    { name := "method", letter := some 'm' },
    { name := "json", arity := .switch }]
  positions := [{ name := "uri" }]

/-- What follows the command that generates a URL. -/
def urlShape : CommandShape where
  options := sharedOptions ++ [
    { name := "query", letter := some 'q' },
    { name := "fragment", letter := some 'f' }]
  positions := [
    { name := "name" },
    { name := "params", arity := .many, check := fun text => (assignment text).map fun _ => () }]

/-- What follows the command that lists the routes. -/
def listShape : CommandShape where
  options := sharedOptions
  positions := []

/-- The environment variable that names the settings file. -/
def configVariable : String := "RK_CONFIG"

/-- Check the settings file that the environment names, unless one is given. -/
def checkEnvironment (environment : Environment) (given : GivenValues) :
    Except UsageError Unit :=
  match given.get? "config", environment.get? configVariable with
  | none, some path => checkPath path
  | _, _ => .ok ()

/-- Read the arguments of a command that has no subcommands. -/
def readCommand (shape : CommandShape) (environment : Environment) (texts : List String) :
    Except UsageError GivenValues := do
  let (state, _) ← ArgumentState.readAll shape texts { positions := shape.positions }
  let given := (← state.settle).given
  checkEnvironment environment given
  if shape.isFilled given then return given else throw .missingArgument

/-- The value of a parameter that has one at most. -/
def value? (given : GivenValues) (name : String) : Option String :=
  (given.get? name).bind List.head?

/-- The parameters of a URL that were given as `key=value`. The last value of a key counts. -/
def paramsOf (given : GivenValues) : Except UsageError Params := do
  return NameMap.ofList (← ((given.get? "params").getD []).mapM assignment)

/-- What to answer when help is asked for about a subcommand. -/
def helpOn : List String → UsageError
  | [] => .help
  | [name] => if topShape.subcommands.contains name then .help else .unknownSubcommand
  | _ => .unknownSubcommand

/-- Read a command by its name. -/
def commandOf (environment : Environment) (name : String) (texts : List String) :
    Except UsageError (GivenValues × Command) := do
  match name with
  | "match" =>
    let given ← readCommand resolveShape environment texts
    return (given, .resolve ((value? given "uri").getD "") (value? given "base-url")
      ((value? given "method").getD "GET") (given.contains "json"))
  | "url" =>
    let given ← readCommand urlShape environment texts
    return (given, .url ((value? given "name").getD "") (← paramsOf given)
      ((value? given "query").getD "") ((value? given "fragment").getD ""))
  | "routes" => return (← readCommand listShape environment texts, .list)
  | _ => throw (helpOn texts)

/-- Read a command line. -/
def ofArguments (environment : Environment) (texts : List String) :
    Except UsageError CommandLine := do
  let (state, next) ← ArgumentState.readAll topShape texts { positions := [] }
  match next with
  | some (name, rest) =>
    let (inner, command) ← commandOf environment name rest
    let outer := (← state.settle).given
    checkEnvironment environment outer
    return {
      config := (value? inner "config").or
        ((value? outer "config").or (environment.get? configVariable))
      verbose := inner.contains "verbose" || outer.contains "verbose"
      command }
  | none =>
    let given := (← state.settle).given
    checkEnvironment environment given
    if given.isEmpty && (environment.get? configVariable).isNone then throw .helpInstead
    else throw .missingSubcommand

end CommandLine

end RequestDispatch
