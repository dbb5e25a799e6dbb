import RequestDispatch.FileSystem
import RequestDispatch.Template.Value

/-!
# Template Errors

Why a view could not be rendered.
-/

namespace RequestDispatch

/-- Why a view could not be rendered. -/
inductive TemplateError where
  /-- There is no file for the template. -/
  | notFound (path : String)
  /-- The template's file cannot be read as text. -/
  | unreadable (path : String) (fault : ReadFault)
  /-- The template is wrong, or goes wrong with these variables. -/
  | render (name : String) (fault : TemplateFault)
  /-- None of the places for the layout holds a file. -/
  | layoutNotFound (checked : List String)
  /-- A variable is not set. -/
  | undefinedVariable (name : String)
deriving DecidableEq, Repr

/-- What is wrong, in words. -/
def TemplateError.message : TemplateError → String
  | notFound path => s!"Could not find view template at: {path}"
  | unreadable path fault => s!"Could not read view template at: {path}: {fault.reason}"
  | render name _ => s!"failed to render template '{name}'"
  | layoutNotFound checked =>
    "Layout could not be found! (Checked paths " ++ ", ".intercalate checked ++ ")"
  | undefinedVariable name => s!"Template variable '{name}' does not exist"

/-- The value of a variable, escaped if it is text. -/
def TemplateError.orUndefined {α : Type} (name : String) : Option α → Except TemplateError α
  | some value => .ok value
  | none => .error (.undefinedVariable name)

end RequestDispatch
