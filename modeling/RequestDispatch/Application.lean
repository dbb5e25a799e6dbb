import RequestDispatch.Http.Request
import RequestDispatch.Plugin.Broker
import RequestDispatch.View.Views

/-!
# Applications

The kernel knows nothing of an application but what types its parts have: its listeners, its
controllers, the plugins it registers and the memory it keeps from one request to the next.
The code of an application runs as an `AppAction`. An action can use the plugins and the
memory, write log lines and register more listeners; that it cannot take listeners away, or
see the kernel's own state, holds by the type.
-/

namespace RequestDispatch

/-- The types of what an application brings. -/
structure Application where
  /-- Its own listeners. -/
  Listener : Type
  /-- Its controllers. -/
  Controller : Type
  /-- The objects of its plugins. -/
  Plugin : Type
  /-- What it remembers. -/
  Memory : Type

/-- The object of a plugin. -/
inductive Plugin (app : Application) where
  /-- What renders views. -/
  | views (views : Views)
  /-- An object of the application. -/
  | custom (value : app.Plugin)

/-- The name that the plugin which renders views is registered under. -/
def viewPluginName : String := "view"

namespace Plugin

variable {app : Application}

/-- What renders views, if a plugin is that. -/
def asViews? : Plugin app → Option Views
  | views renderer => some renderer
  | custom _ => none

/-- The object of the application that a plugin is, if it is one. -/
def asCustom? : Plugin app → Option app.Plugin
  | views _ => none
  | custom value => some value

/-- The name of the type of what renders views. -/
def viewsTypeName : String := "routekernel::view::plugin::ViewPlugin"

end Plugin

/-- Why the code of an application, or a listener, failed. -/
inductive Failure where
  /-- A plugin could not be loaded. -/
  | plugin (error : PluginError)
  /-- A view could not be rendered. -/
  | template (error : TemplateError)
  /-- A reason given in words. -/
  | other (message : String)
deriving DecidableEq, Repr

/-- The reason for a failure, in words. -/
def Failure.message : Failure → String
  | plugin error => error.message
  | template error => error.message
  | other message => message

/-- What can be registered to listen to events. -/
inductive ListenerKind (app : Application) where
  /-- Writes log lines, and gives responses the request's identifier. -/
  | tracing
  /-- Does nothing but count events. -/
  | metrics
  /-- Turns data into responses. -/
  | json
  /-- Turns plain text into responses. -/
  | text
  /-- Renders views. -/
  | views
  /-- Adds headers that responses do not have. -/
  | headers (headers : Headers)
  /-- A listener of the application. -/
  | custom (listener : app.Listener)

/-- The plugins of an application, which also hold its memory. -/
abbrev AppPlugins (app : Application) := PluginBroker app.Memory (Plugin app)

/-- What the code of an application finds when it runs. -/
structure Surroundings (app : Application) where
  /-- How many listeners are registered. -/
  listenerCount : Nat
  /-- The plugins and the memory. -/
  plugins : AppPlugins app

/-- What the code of an application leaves behind. -/
structure Aftermath (app : Application) (α : Type) where
  /-- Its result. -/
  value : α
  /-- The plugins and the memory. -/
  plugins : AppPlugins app
  /-- The listeners it registered, the first one first. -/
  added : List (ListenerKind app)
  /-- The log lines it wrote. -/
  lines : List LogLine

/-- Code of an application. -/
def AppAction (app : Application) (α : Type) := Surroundings app → Aftermath app α

namespace AppAction

variable {app : Application} {α β : Type}

instance : Monad (AppAction app) where
  pure value := fun here => ⟨value, here.plugins, [], []⟩
  bind first next := fun here =>
    let a := first here
    let b := next a.value ⟨here.listenerCount + a.added.length, a.plugins⟩
    ⟨b.value, b.plugins, a.added ++ b.added, a.lines ++ b.lines⟩

/-- Compute with the plugins and the memory. -/
def withPlugins (compute : AppPlugins app → Logged (α × AppPlugins app)) : AppAction app α :=
  fun here =>
    let result := compute here.plugins
    ⟨result.value.1, result.value.2, [], result.lines⟩

/-- Write a log line. -/
def write (line : LogLine) : AppAction app Unit := fun here => ⟨(), here.plugins, [], [line]⟩

/-- Compute something that writes log lines. -/
def ofLogged (logged : Logged α) : AppAction app α :=
  fun here => ⟨logged.value, here.plugins, [], logged.lines⟩

/-- The number of registered listeners. -/
def listenerCount : AppAction app Nat := fun here => ⟨here.listenerCount, here.plugins, [], []⟩

/-- Register a listener. It hears the events that are fired from now on. -/
def addListener (kind : ListenerKind app) : AppAction app Unit :=
  fun here => ⟨(), here.plugins, [kind], []⟩

/-- Change the memory. -/
def remember (change : app.Memory → app.Memory) : AppAction app Unit :=
  fun here => ⟨(), { here.plugins with memory := change here.plugins.memory }, [], []⟩

/-- The plugins as they are now. -/
def plugins : AppAction app (AppPlugins app) := fun here => ⟨here.plugins, here.plugins, [], []⟩

end AppAction

end RequestDispatch
