import RequestDispatch.Controller.Resolver
import RequestDispatch.FileSystem
import RequestDispatch.Route.Table
import RequestDispatch.View.Views

/-!
# Kernel Settings

How a kernel is configured: which modules are active, where controllers and views are found,
which routes there are, and what is added to responses. Environment variables take precedence
over what is configured.
-/

namespace RequestDispatch

open Text

/-- The route for everything that names a module, a controller and an action. -/
def defaultRoute : RouteSetting where
  name := "default"
  pattern := "/%module%/%controller%/%action%(/*)"

/-- How a kernel is configured. -/
structure KernelSettings where
  /-- The active modules, as they are written once camel-cased. -/
  modules : List String := ["Default"]
  /-- The pattern of controller directories. -/
  controllerDirectories : String := "modules/%module%/controllers"
  /-- The pattern of controller identities. -/
  controllerClasses : String := "%Module%Module::%Controller%Controller"
  /-- The base URL of requests that have none of their own. -/
  baseUrl : String := "/"
  /-- How views are found. -/
  views : ViewSettings := {}
  /-- Headers for responses that do not have them. -/
  responseHeaders : NameMap String := ∅
  /-- The routes, in matching order. -/
  routes : List RouteSetting := [defaultRoute]
deriving DecidableEq

namespace KernelSettings

variable (settings : KernelSettings)

/-- The resolver of controllers. -/
def resolver : ControllerResolver :=
  ⟨settings.modules, settings.controllerDirectories, settings.controllerClasses⟩

/-- The names in a list that is separated by commas. -/
def listed (text : String) : List String :=
  ((splitAt (· = ',') text).map trim).filter (!·.isEmpty)

/-- The settings with what environment variables say. -/
def inEnvironment (environment : Environment) : KernelSettings :=
  { settings with
    baseUrl := (environment.get? "RK_BASE_URL").getD settings.baseUrl
    modules := ((environment.get? "RK_MODULES").map listed).getD settings.modules
    controllerDirectories :=
      (environment.get? "RK_CONTROLLER_DIR").getD settings.controllerDirectories
    views := { settings.views with
      directoryPattern := (environment.get? "RK_VIEW_DIR").getD settings.views.directoryPattern } }

end KernelSettings

end RequestDispatch
