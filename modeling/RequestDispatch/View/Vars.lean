import RequestDispatch.Json.Basic

/-!
# Template Variables

The variables that a template is rendered with, and what a controller asks to be rendered.
Reading a variable escapes it if it is text; the raw value can be had as well. By default,
escaping turns ampersands, angle brackets and double quotes into entities.
-/

namespace RequestDispatch

/-- A character as it is written into markup. -/
def escapeChar (c : Char) : List Char :=
  match c with
  | '&' => "&amp;".toList
  | '<' => "&lt;".toList
  | '>' => "&gt;".toList
  | '"' => "&quot;".toList
  | c => [c]

/-- A text as it is written into markup. -/
def htmlEscape (text : String) : String := String.ofList (text.toList.flatMap escapeChar)

/-- Named values with the way texts among them are escaped. -/
structure ViewVars where
  /-- The values. -/
  values : NameMap Json := ∅
  /-- How texts are escaped. -/
  escape : String → String := htmlEscape

namespace ViewVars

variable (vars : ViewVars)

/-- Variables are equal if their values are; how they are escaped does not count. -/
def sameValues (other : ViewVars) : Bool := Json.object vars.values.entries ==
  Json.object other.values.entries

/-- The stored value of a variable. -/
def raw? (name : String) : Option Json := vars.values.get? name

/-- A value, escaped if it is text. -/
def escapeValue : Json → Json
  | .string text => .string (vars.escape text)
  | value => value

/-- The escaped value of a variable. -/
def escaped? (name : String) : Option Json := (vars.raw? name).map vars.escapeValue

/-- Store a variable. -/
def set (name : String) (value : Json) : ViewVars :=
  { vars with values := vars.values.insert name value }

/-- Copy every variable of another set over this one. The way of escaping stays. -/
def merge (other : ViewVars) : ViewVars :=
  { vars with values := vars.values.override other.values }

/-- Whether a variable is set. -/
def contains (name : String) : Bool := vars.values.contains name

/-- The number of variables. -/
def size : Nat := vars.values.size

end ViewVars

/-- What a controller asks to be rendered. -/
structure ViewModel where
  /-- The variables of the template. -/
  vars : ViewVars := {}
  /-- The template's name, if it is not the action's. -/
  template : Option String := none
  /-- The layout's name, if it is not the configured one. -/
  layout : Option String := none
  /-- Whether to use a layout, if that is not as configured. -/
  layoutEnabled : Option Bool := none

namespace ViewModel

/-- Use a layout of this name. -/
def withLayout (model : ViewModel) (layout : String) : ViewModel :=
  { model with layout := some layout, layoutEnabled := some true }

/-- Use no layout. -/
def withoutLayout (model : ViewModel) : ViewModel := { model with layoutEnabled := some false }

end ViewModel

end RequestDispatch
