import RequestDispatch.Event.Basic
import RequestDispatch.Text.Quoted

/-!
# Listening

What each kind of listener does at each event. Listeners of the application do what its hooks
say; the kinds that come with the kernel write log lines, turn outcomes into responses and add
headers.
-/

namespace RequestDispatch

open Text

namespace ListenerKind

variable {app : Application}

/-- A log line about a request on its way. -/
def tracingLine (level : Level) (message : String) (fields : List (String × FieldValue)) :
    LogLine :=
  { level, component := .requestTracing, message, fields }

/-- What a listener does before routing. -/
def onRoute (hooks : Hooks app) (event : RouteEvent) :
    ListenerKind app → AppAction app RouteReply
  | custom listener => hooks.onRoute listener event
  | tracing => do
    .write (tracingLine .info "Request received" [
      ("method", .text event.request.method.name),
      ("request_uri", .text event.request.uri),
      ("base_url", .text event.request.baseUrl)])
    return ⟨event.request, none, none⟩
  | _ => return ⟨event.request, none, none⟩

/-- What a listener does when the controller has been built. -/
def onController (hooks : Hooks app) (event : ControllerEvent app) :
    ListenerKind app → AppAction app (ControllerReply app)
  | custom listener => hooks.onController listener event
  | tracing => do
    .write (tracingLine .debug "Controller ready" [
      ("module", .text event.request.module),
      ("controller", .text event.request.controller),
      ("action", .text event.request.action),
      ("params", .text (quotedMap event.request.params.entries))])
    return {}
  | _ => return {}

/-- Render the view of a request by the plugin that renders views. -/
def renderView (files : FileSystem) (request : Request) (model : ViewModel) :
    AppAction app ResultReply := do
  let loaded ← AppAction.withPlugins fun plugins =>
    plugins.loadAs viewPluginName Plugin.asViews? Plugin.viewsTypeName
  match loaded with
  | .error error => return { failure := some (.plugin error) }
  | .ok renderer =>
    match ← AppAction.ofLogged (renderer.render files request model) with
    | .error error => return { failure := some (.template error) }
    | .ok body =>
      .write {
        level := .debug, component := .viewResults
        message := "View rendered"
        fields := [("bytes", .number body.utf8ByteSize)] }
      return { response := some (.html 200 body) }

/-- What a listener does with an outcome. -/
def onControllerResult (hooks : Hooks app) (files : FileSystem) (event : ResultEvent app)
    (kind : ListenerKind app) : AppAction app ResultReply :=
  match kind, event.outcome with
  | custom listener, _ => hooks.onControllerResult listener event
  | tracing, outcome => do
    .write (tracingLine .debug "Controller result" [
      ("outcome", .text outcome.kindName),
      ("has_response", .flag event.response.isSome)])
    return {}
  | json, .json value => return { response := some (.json 200 value) }
  | text, .text body => return { response := some (.text 200 body) }
  | views, .view model => renderView files event.request model
  | _, _ => return {}

/-- What a listener does to a response. -/
def onFilterResponse (hooks : Hooks app) (event : FilterEvent) :
    ListenerKind app → AppAction app FilterReply
  | custom listener => hooks.onFilterResponse listener event
  | tracing => do
    let response := event.response.addMissingHeader requestIdHeader event.request.id.text
    .write (tracingLine .info "Response ready" [
      ("status", .number response.status),
      ("bytes", .number response.body.utf8ByteSize)])
    return ⟨response, none⟩
  | headers added => return ⟨event.response.addMissingHeaders added, none⟩
  | _ => return ⟨event.response, none⟩

end ListenerKind

end RequestDispatch
