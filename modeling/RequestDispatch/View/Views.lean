import RequestDispatch.Controller.Naming
import RequestDispatch.Http.Request
import RequestDispatch.View.Renderer

/-!
# Views

The view of a routed request: the template that its identity leads to, rendered and, where a
layout is used, put into the layout as its `content`. The layout is looked for under the name
as given, next to the template and in the directory above.
-/

namespace RequestDispatch

/-- How views are found and laid out. -/
structure ViewSettings where
  /-- The pattern of template directories. -/
  directoryPattern : String := "modules/%module%/views/%controller%"
  /-- The extension of template and layout files, without its dot. -/
  extension : String := "html"
  /-- The name of the layout. -/
  layout : String := "layout"
  /-- Whether views are put into the layout. -/
  layoutEnabled : Bool := false
deriving DecidableEq, Repr

/-- Renders the views of routed requests. -/
structure Views where
  /-- How views are found. -/
  settings : ViewSettings := {}
  /-- How texts are escaped. -/
  escape : String → String := htmlEscape

namespace Views

/-- The name that a layout prints its content by. -/
def contentName : String := "content"

variable (views : Views)

/-- Use a layout. -/
def withLayout (layout : String) : Views :=
  { views with settings := { views.settings with layout, layoutEnabled := true } }

/-- The template directory of a request. -/
def directory (request : Request) : String :=
  substitute views.settings.directoryPattern [
    ("action", request.action), ("controller", request.controller), ("module", request.module)]

/-- The places where a layout is looked for, in this order. -/
def layoutCandidates (directory layout : String) : List String :=
  let extension := views.settings.extension
  let name := if extension.isEmpty then layout else s!"{layout}.{extension}"
  [layout, Path.join directory name, Path.join (Path.join directory "..") name]

/-- The file of a layout: the first place that holds a file. -/
def layoutFile (files : FileSystem) (directory layout : String) : Except TemplateError String :=
  let candidates := views.layoutCandidates directory layout
  match candidates.find? files.isFile with
  | some file => .ok file
  | none => .error (.layoutNotFound candidates)

/-- Render content into a layout. -/
def renderLayout (files : FileSystem) (renderer : Renderer) (content layout : String) :
    Logged (Except TemplateError String) := do
  match views.layoutFile files renderer.directory layout with
  | .error error => return .error error
  | .ok file =>
    Logged.write {
      level := .debug, component := .views
      message := "Rendering layout"
      fields := [("layout", .text file)] }
    let renderer := { renderer with directory := Path.parent file }.setMarkup contentName content
    let (rendered, _) ← renderer.render files (Path.stem file) none
    return rendered

/-- The renderer of a request's templates. -/
def renderer (request : Request) : Renderer where
  directory := views.directory request
  extension := views.settings.extension
  vars := { escape := views.escape }

/-- Render a model for a request. -/
def render (files : FileSystem) (request : Request) (model : ViewModel) :
    Logged (Except TemplateError String) := do
  let template := model.template.getD request.action
  let (rendered, renderer) ← (views.renderer request).render files template (some model.vars)
  match rendered with
  | .error error => return .error error
  | .ok content =>
    if model.layoutEnabled.getD views.settings.layoutEnabled then
      views.renderLayout files renderer content (model.layout.getD views.settings.layout)
    else return .ok content

end Views

end RequestDispatch
