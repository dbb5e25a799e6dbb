import RequestDispatch.Json.Basic

/-!
# Templates

The language of view templates, after reading. A template is text with tags in it: tags that
print an expression, that choose between two parts, or that repeat a part for every item of a
list.

`Template` is a list whose elements may hold templates; every constructor but `done` has what
follows it as its last part, so functions on templates recurse on the structure.
-/

namespace RequestDispatch

/-- A value that an expression may have. -/
inductive TemplateValue where
  /-- A name without a value, or a member that an object does not have. -/
  | undefined
  /-- Text that is printed as it is. -/
  | markup (text : String)
  /-- Data, of which texts are escaped when they are printed. -/
  | data (value : Json)

/-- An expression of a template. -/
inductive TemplateExpr where
  /-- A value written in the template. -/
  | constant (value : Json)
  /-- The value of a name. -/
  | name (name : String)
  /-- A member of a value. -/
  | member (value : TemplateExpr) (name : String)
  /-- A value sent through a filter. -/
  | filter (value : TemplateExpr) (name : String)
  /-- The opposite truth. -/
  | not (value : TemplateExpr)
  /-- The first value if it is false, otherwise the second. -/
  | and (first second : TemplateExpr)
  /-- The first value if it is true, otherwise the second. -/
  | or (first second : TemplateExpr)

/-- A template. -/
inductive Template where
  /-- The end. -/
  | done
  /-- Text that is the template's own. -/
  | literal (text : String) (rest : Template)
  /-- An expression whose value is printed. -/
  | print (value : TemplateExpr) (rest : Template)
  /-- Two parts of which a condition chooses one. -/
  | choose (condition : TemplateExpr) (yes no : Template) (rest : Template)
  /-- A part that is repeated for every item, and one for when there is no item. -/
  | forEach (item : String) (items : TemplateExpr) (body otherwise : Template)
      (rest : Template)

end RequestDispatch
