import RequestDispatch.Kernel.Pipeline
import RequestDispatch.Settings.Basic

/-!
# Configured Kernels

The kernel that settings describe: its routes, how it finds controllers and views, and the
listeners that turn outcomes into responses.
-/

namespace RequestDispatch

open Text

namespace KernelSettings

variable {app : Application} (settings : KernelSettings)

/-- The listeners of a configured kernel, in order. -/
def listeners : List (ListenerKind app) :=
  [.tracing, .json, .text, .views] ++
    if settings.responseHeaders.isEmpty then []
    else [.headers settings.responseHeaders.entries]

/-- What a configured kernel begins with, given the memory of the application. -/
def scene (memory : app.Memory) : Logged (Scene app) := do
  let plugins ← PluginBroker.register { memory } viewPluginName
    (.give (Plugin.views { settings := settings.views }))
  return Scene.addAll { plugins } settings.listeners

/-- The line that reports a configured kernel. -/
def configuredLine (listenerCount : Nat) : LogLine where
  level := .info
  component := .kernel
  message := "Kernel configured"
  fields := [
    ("modules", .text (quotedList settings.modules)),
    ("routes", .number settings.routes.length),
    ("listeners", .number listenerCount)]

/-- The kernel of a route table, without controllers. -/
def kernel (table : RouteTable) (files : FileSystem)
    (dispatch : app.Controller → Request → AppAction app (Except Failure Outcome × Request))
    (hooks : Hooks app) : Kernel app where
  router := table.router
  resolver := settings.resolver
  files := files
  dispatch := dispatch
  hooks := hooks
  baseUrl := if settings.baseUrl = "/" then none else some settings.baseUrl

/-- The configured kernel, without controllers, and what it begins with. -/
def configure (memory : app.Memory) (files : FileSystem)
    (dispatch : app.Controller → Request → AppAction app (Except Failure Outcome × Request))
    (hooks : Hooks app) : Logged (Except RouteError (Kernel app × Scene app)) := do
  match ← RouteTable.ofSettings settings.routes with
  | .error error => return .error error
  | .ok table =>
    let scene ← settings.scene memory
    Logged.write (settings.configuredLine scene.listeners.length)
    return .ok (settings.kernel table files dispatch hooks, scene)

end KernelSettings

end RequestDispatch
