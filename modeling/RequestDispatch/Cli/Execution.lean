import RequestDispatch.Cli.Command
import RequestDispatch.Json.Printer
import RequestDispatch.Settings.Reader
import RequestDispatch.Text.Uppercase

/-!
# Executing Commands

What a command prints. The settings come from the settings file, or are the default ones, and
environment variables take precedence over either.
-/

namespace RequestDispatch

open Text

/-- Why a command failed. -/
inductive CommandError where
  /-- There are no settings. -/
  | settings (error : LoadError)
  /-- The configured routes make no table. -/
  | table (error : RouteError)
  /-- Routing failed, or no URL could be generated. -/
  | route (error : RouteError)
  /-- A request method is not one. -/
  | method (name : String)
deriving DecidableEq

/-- What went wrong, in words. -/
def CommandError.message : CommandError → String
  | settings error => error.message
  | table _ => "Invalid route table"
  | route error => error.message
  | method name => "invalid HTTP method '" ++ name ++ "'"

/-- What a kernel would dispatch a request to. -/
structure Resolution where
  /-- The name of the route that matches. -/
  route : String
  /-- The module. -/
  module : String
  /-- The controller. -/
  controller : String
  /-- The action. -/
  action : String
  /-- The parameters. -/
  params : Params
deriving DecidableEq

namespace Resolution

/-- A resolution as JSON text. -/
def json (resolution : Resolution) : String :=
  (Json.object [
    ("route", .string resolution.route),
    ("module", .string resolution.module),
    ("controller", .string resolution.controller),
    ("action", .string resolution.action),
    ("params", .ofTexts resolution.params)]).pretty ++ "\n"

/-- A resolution as lines for reading. -/
def lines (resolution : Resolution) : String :=
  "route:      " ++ resolution.route ++ "\n" ++
  "module:     " ++ resolution.module ++ "\n" ++
  "controller: " ++ resolution.controller ++ "\n" ++
  "action:     " ++ resolution.action ++ "\n" ++
  String.join (resolution.params.entries.map fun (name, value) =>
    "param:      " ++ name ++ "=" ++ value ++ "\n")

end Resolution

namespace CommandLine

/-- The settings that a command works with. -/
def settings (line : CommandLine) (environment : Environment) (files : FileSystem) :
    Except CommandError KernelSettings := do
  let settings ←
    match line.config with
    | some path => (KernelSettings.load files path).mapError .settings
    | none => .ok {}
  return settings.inEnvironment environment

/-- Resolve a URI. -/
def resolve (settings : KernelSettings) (table : RouteTable) (uri : String)
    (baseUrl : Option String) (method : String) : Logged (Except CommandError Resolution) := do
  match Method.parse? (upper method) with
  | none => return .error (.method method)
  | some method =>
    let request : Request := { method, uri, baseUrl := baseUrl.getD settings.baseUrl }
    let (result, request) ← table.routeNamed request
    return match result with
      | .error error => .error (.route error)
      | .ok (name, _) =>
        .ok ⟨name, request.module, request.controller, request.action, request.params⟩

/-- What a command prints, given the settings and the table of their routes. -/
def output (settings : KernelSettings) (table : RouteTable) :
    Command → Logged (Except CommandError String)
  | .resolve uri baseUrl method asJson => do
    let resolution ← resolve settings table uri baseUrl method
    return resolution.map fun found => if asJson then found.json else found.lines
  | .url name params query fragment => do
    let url ← table.url name params query fragment
    return (url.mapError .route).map (· ++ "\n")
  | .list => return .ok table.listing

/-- Execute a command. -/
def execute (line : CommandLine) (environment : Environment) (files : FileSystem) :
    Logged (Except CommandError String) := do
  match line.settings environment files with
  | .error error => return .error error
  | .ok settings =>
    match ← RouteTable.ofSettings settings.routes with
    | .error error => return .error (.table error)
    | .ok table => output settings table line.command

end CommandLine

end RequestDispatch
