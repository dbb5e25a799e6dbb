import RequestDispatch.Http.Response
import RequestDispatch.View.Vars

/-!
# Outcomes

What a controller answers with. Only a response is sent as it is; every other outcome is
turned into a response by a listener.
-/

namespace RequestDispatch

/-- What a controller answers with. -/
inductive Outcome where
  /-- A finished response. -/
  | response (response : Response)
  /-- Data, to be sent as JSON. -/
  | json (value : Json)
  /-- A view that is to be rendered. -/
  | view (model : ViewModel)
  /-- Plain text. -/
  | text (body : String)
  /-- Nothing. -/
  | empty

namespace Outcome

/-- The name of an outcome's kind. -/
def kindName : Outcome → String
  | response _ => "Response"
  | json _ => "Json"
  | view _ => "View"
  | text _ => "Text"
  | empty => "Empty"

/-- Whether an outcome is a finished response. -/
def isResponse : Outcome → Bool
  | response _ => true
  | json _ | view _ | text _ | empty => false

end Outcome

end RequestDispatch
