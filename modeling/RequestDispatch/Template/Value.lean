import RequestDispatch.Decimal.Notation
import RequestDispatch.Template.Basic
import RequestDispatch.Text.Quoted

/-!
# Template Values

What values are to a template: whether they are true, which items they have, what their
members are and how they are printed. Texts inside lists and objects are printed in quotes.
-/

namespace RequestDispatch

open Text

/-- Why a template could not be rendered. -/
inductive TemplateFault where
  /-- The template cannot be read. -/
  | unreadable
  /-- A member is asked of something undefined. -/
  | memberOfUndefined (name : String)
  /-- No filter has this name. -/
  | unknownFilter (name : String)
  /-- A part is repeated over a value that has no items. -/
  | notRepeatable
deriving DecidableEq, Repr

namespace TemplateValue

/-- The text of a number that stands on its own. -/
def numberText : JsonNumber → String
  | .whole value => toString value
  | .float value => Decimal.text Decimal.templateStyle value

/-- The text of a number inside a list or an object. -/
def nestedNumberText : JsonNumber → String
  | .whole value => toString value
  | .float value => Decimal.text Decimal.nestedStyle value

/-- The text of a truth value. -/
def boolText (value : Bool) : String := if value then "True" else "False"

mutual

/-- The text of a value inside a list or an object. -/
def nestedText : Json → String
  | .null => "None"
  | .bool value => boolText value
  | .number value => nestedNumberText value
  | .string value => quoted value
  | .array items => "[" ++ ", ".intercalate (nestedItems items) ++ "]"
  | .object members => "\x7b" ++ ", ".intercalate (nestedMembers members) ++ "\x7d"

/-- The texts of a list's items. -/
def nestedItems : List Json → List String
  | [] => []
  | item :: items => nestedText item :: nestedItems items

/-- The texts of an object's members. -/
def nestedMembers : List (String × Json) → List String
  | [] => []
  | (name, value) :: members => (quoted name ++ ": " ++ nestedText value) :: nestedMembers members

end

/-- The text of a value that is not escaped. -/
def text : TemplateValue → String
  | undefined => ""
  | markup text => text
  | data (.string value) => value
  | data (.number value) => numberText value
  | data value => nestedText value

/-- The text that is printed for a value. Only texts that are data are escaped. -/
def printed (escape : String → String) : TemplateValue → String
  | data (.string value) => escape value
  | value => value.text

/-- Whether a value counts as true. -/
def isTrue : TemplateValue → Bool
  | undefined => false
  | markup text => !text.isEmpty
  | data .null => false
  | data (.bool value) => value
  | data (.number (.whole value)) => value != 0
  | data (.number (.float value)) => value != 0
  | data (.string value) => !value.isEmpty
  | data (.array items) => !items.isEmpty
  | data (.object members) => !members.isEmpty

/-- The characters of a text, each a text of its own. -/
def characters (text : String) : List Json := text.toList.map fun c => .string c.toString

/-- What a part is repeated over: the items of a list, the names in an object, the characters
of a text. Nothing undefined and no null has items. -/
def items? : TemplateValue → Except TemplateFault (List Json)
  | undefined | data .null => .ok []
  | markup text => .ok (characters text)
  | data (.string value) => .ok (characters value)
  | data (.array items) => .ok items
  | data (.object members) => .ok (members.map fun entry => .string entry.1)
  | data (.bool _) | data (.number _) => .error .notRepeatable

/-- A member of a value. What has no such member has an undefined one, but nothing undefined
has members. -/
def member? (value : TemplateValue) (name : String) : Except TemplateFault TemplateValue :=
  match value with
  | undefined => .error (.memberOfUndefined name)
  | markup _ => .ok undefined
  | data value => .ok (((value.member? name).map data).getD undefined)

/-- A value after a filter. The one filter, `safe`, turns a value into text that is printed as
it is. -/
def filtered (value : TemplateValue) (filter : String) : Except TemplateFault TemplateValue :=
  if filter = "safe" then .ok (markup value.text) else .error (.unknownFilter filter)

end TemplateValue

end RequestDispatch
