import RequestDispatch.Controller.Error
import RequestDispatch.Controller.Naming
import RequestDispatch.FileSystem
import RequestDispatch.Journal
import RequestDispatch.Text.Quoted

/-!
# Resolving Controllers

From the module and controller that a request was routed to, to the identity under which a
controller is registered. The module must be one of the active modules, compared camel-cased,
and the directory computed from the directory pattern must exist.
-/

namespace RequestDispatch

open Text

/-- Where a routed controller is found. -/
structure ResolvedController where
  /-- The absolute identity. -/
  identity : String
  /-- The controller's directory, which exists. -/
  path : String
deriving DecidableEq, Repr

/-- Which modules are active, and how directories and identities are formed. -/
structure ControllerResolver where
  /-- The active modules, as they are written once camel-cased. -/
  modules : List String
  /-- The pattern of controller directories. -/
  directoryPattern : String
  /-- The pattern of controller identities. -/
  classPattern : String
deriving DecidableEq, Repr

namespace ControllerResolver

variable (resolver : ControllerResolver)

/-- The directory of a controller, whether it exists or not. -/
def directory (module controller : String) : String :=
  substitute resolver.directoryPattern [("controller", controller), ("module", module)]

/-- The directory of a controller of an active module. -/
def controllerPath (files : FileSystem) (module controller : String) :
    Logged (Except ConfigurationError String) := do
  let active := camelcase module
  if !resolver.modules.contains active then
    Logged.write {
      level := .warn, component := .resolver
      message := "Module is not active"
      fields := [
        ("module", .text active),
        ("active_modules", .text (quotedList resolver.modules))] }
    return .error (.unknownModule active)
  else
    let path := resolver.directory module controller
    if !files.isDirectory path then
      Logged.write {
        level := .warn, component := .resolver
        message := "Controller directory missing"
        fields := [
          ("module", .text active),
          ("controller", .text controller),
          ("path", .text path)] }
      return .error (.controllerPathNotFound active (camelcase controller) path)
    else return .ok path

/-- The absolute identity of a controller. It is not empty and has no dot. -/
def controllerIdentity (module controller : String) : Except ConfigurationError String :=
  let identity := absoluteIdentity
    (substitute resolver.classPattern [("module", module), ("controller", controller)])
  if identity = identitySeparator then .error (.invalidIdentity identity "identity is empty")
  else if identity.toList.contains '.' then
    .error (.invalidIdentity identity "identity must not contain '.'")
  else .ok identity

/-- The directory and the identity of a controller. -/
def resolve (files : FileSystem) (module controller : String) :
    Logged (Except ConfigurationError ResolvedController) := do
  match ← resolver.controllerPath files module controller with
  | .error error => return .error error
  | .ok path =>
    match resolver.controllerIdentity module controller with
    | .error error => return .error error
    | .ok identity =>
      Logged.write {
        level := .debug, component := .resolver
        message := "Controller resolved"
        fields := [
          ("module", .text module),
          ("controller", .text controller),
          ("identity", .text identity),
          ("path", .text path)] }
      return .ok ⟨identity, path⟩

end ControllerResolver

end RequestDispatch
