import RequestDispatch.Journal
import RequestDispatch.Path
import RequestDispatch.Template.Evaluation
import RequestDispatch.Text.Cut
import RequestDispatch.View.Error
import RequestDispatch.View.Vars

/-!
# Rendering Template Files

A renderer holds a template directory and variables. Variables accumulate from one rendering
to the next, so that a layout sees everything its content's template saw; markup that was
rendered before is bound apart from them and hides variables of the same name.
-/

namespace RequestDispatch

open Text

/-- Renders template files of one directory. -/
structure Renderer where
  /-- The directory. -/
  directory : String := ""
  /-- The extension of template files, without its dot. If it is empty, template names are
  file names. -/
  extension : String := "html"
  /-- The variables. -/
  vars : ViewVars := {}
  /-- Markup by name, which is printed as it is. -/
  markup : NameMap String := ∅

namespace Renderer

variable (renderer : Renderer)

/-- Replace all variables. The way of escaping stays. -/
def setVars (vars : ViewVars) : Renderer :=
  { renderer with vars := { vars with escape := renderer.vars.escape } }

/-- Bind markup to a name. -/
def setMarkup (name text : String) : Renderer :=
  { renderer with markup := renderer.markup.insert name text }

/-- Escape texts in another way. -/
def setEscape (escape : String → String) : Renderer :=
  { renderer with vars := { renderer.vars with escape } }

/-- The name of a template's file below the template directory. Pairs of dots are taken out,
and then slashes at the beginning. -/
def fileName (extension name : String) : String :=
  let inside := replaceWord ".." "" name
  let full := if extension.isEmpty then inside else inside ++ "." ++ extension
  String.ofList (full.toList.dropWhile (· = '/'))

/-- The file of a template. -/
def file (name : String) : String :=
  Path.join renderer.directory (fileName renderer.extension name)

/-- The values of all names: first markup, then variables. -/
def scope : TemplateScope :=
  (renderer.markup.entries.map fun entry => (entry.1, .markup entry.2)) ++
    renderer.vars.values.entries.map fun entry => (entry.1, .data entry.2)

/-- The source of a template. -/
def source (files : FileSystem) (name : String) : Except TemplateError String :=
  let file := renderer.file name
  if files.isFile file then
    match files.read file with
    | .ok source => .ok source
    | .error fault => .error (.unreadable file fault)
  else .error (.notFound file)

/-- The variables after more variables have been given. -/
def withVars : Option ViewVars → Renderer
  | some vars => { renderer with vars := renderer.vars.merge vars }
  | none => renderer

/-- What a template's source writes with the present variables. -/
def evaluate (name source : String) : Except TemplateError (List TemplatePiece) :=
  match Template.render renderer.vars.escape source renderer.scope with
  | .ok pieces => .ok pieces
  | .error fault => .error (.render name fault)

/-- Render a template, after adding variables. The variables are kept, unless the template's
source cannot be had. -/
def render (files : FileSystem) (name : String) (vars : Option ViewVars) :
    Logged (Except TemplateError String × Renderer) := do
  match renderer.source files name with
  | .error error => return (.error error, renderer)
  | .ok source =>
    let renderer := renderer.withVars vars
    match renderer.evaluate name source with
    | .error error => return (.error error, renderer)
    | .ok pieces =>
      let text := Template.outputText pieces
      Logged.write {
        level := .debug, component := .renderer
        message := "Template rendered"
        fields := [
          ("template", .text (renderer.file name)),
          ("vars", .number renderer.vars.size),
          ("bytes", .number text.utf8ByteSize)] }
      return (.ok text, renderer)

end Renderer

end RequestDispatch
