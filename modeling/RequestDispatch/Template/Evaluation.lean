import RequestDispatch.Template.Reader
import RequestDispatch.Template.Value

/-!
# Evaluating Templates

What a template writes in a scope. The output is a list of pieces that tells the template's
own text from text that was printed for a value, so that it can be said of each character
where it comes from.
-/

namespace RequestDispatch

/-- The values of names, the nearest first. -/
abbrev TemplateScope := List (String × TemplateValue)

/-- A piece of output. -/
inductive TemplatePiece where
  /-- Text that stands in the template. -/
  | literal (text : String)
  /-- Text that was printed for a value. -/
  | printed (text : String)
deriving DecidableEq, Repr

/-- The text of a piece. -/
def TemplatePiece.text : TemplatePiece → String
  | literal text => text
  | printed text => text

/-- The value of an expression. -/
def TemplateExpr.eval (scope : TemplateScope) : TemplateExpr → Except TemplateFault TemplateValue
  | constant value => .ok (.data value)
  | name key => .ok ((lookupByName key scope).getD .undefined)
  | member value key => do (← value.eval scope).member? key
  | filter value key => do (← value.eval scope).filtered key
  | not value => do return .data (.bool (!(← value.eval scope).isTrue))
  | and first second => do
    let value ← first.eval scope
    if value.isTrue then second.eval scope else return value
  | or first second => do
    let value ← first.eval scope
    if value.isTrue then return value else second.eval scope

/-- What a repeated part knows of its round: the rounds are counted from one. -/
def loopValue (index count : Nat) : TemplateValue :=
  .data (.ofMembers [
    ("first", .bool (index = 1)),
    ("index", .int index),
    ("index0", .int (index - 1 : Nat)),
    ("last", .bool (index = count)),
    ("length", .int count)])

/-- The scope of a round. -/
def loopScope (item : String) (value : Json) (index count : Nat) (scope : TemplateScope) :
    TemplateScope :=
  (item, .data value) :: ("loop", loopValue index count) :: scope

namespace Template

/-- What a template writes in a scope. -/
def eval (escape : String → String) :
    Template → TemplateScope → Except TemplateFault (List TemplatePiece)
  | done, _ => .ok []
  | literal text rest, scope => do return .literal text :: (← rest.eval escape scope)
  | print value rest, scope => do
    let value ← value.eval scope
    return .printed (value.printed escape) :: (← rest.eval escape scope)
  | choose condition yes no rest, scope => do
    let value ← condition.eval scope
    let chosen ← if value.isTrue then yes.eval escape scope else no.eval escape scope
    return chosen ++ (← rest.eval escape scope)
  | forEach item items body otherwise rest, scope => do
    let items ← (← items.eval scope).items?
    let rounds ←
      match items with
      | [] => otherwise.eval escape scope
      | items => do
        let rounds ← items.zipIdx.mapM fun (value, position) =>
          body.eval escape (loopScope item value (position + 1) items.length scope)
        pure rounds.flatten
    return rounds ++ (← rest.eval escape scope)

/-- The text of some pieces. -/
def outputText (pieces : List TemplatePiece) : String := String.join (pieces.map (·.text))

/-- Read a template and write what it writes in a scope. -/
def render (escape : String → String) (source : String) (scope : TemplateScope) :
    Except TemplateFault (List TemplatePiece) :=
  match parse? source with
  | none => .error .unreadable
  | some template => template.eval escape scope

end Template

end RequestDispatch
