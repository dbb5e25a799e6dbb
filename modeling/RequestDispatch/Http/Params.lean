import RequestDispatch.NameMap
import RequestDispatch.Text.Cut
import RequestDispatch.Text.Quoted
import RequestDispatch.Text.Utf8

/-!
# Parameters

Request parameters and the identity a request has when neither its route nor its sender
names one.

Parameters can be sent as `application/x-www-form-urlencoded` text: pairs between ampersands, name
and value apart at the first equals sign, a plus sign for a space, and bytes as a percent sign with
two hexadecimal digits. A percent sign without two digits stands for itself. Empty pairs are
skipped.
-/

namespace RequestDispatch

open Text

/-- Request parameters, ordered by name. -/
abbrev Params := NameMap String

/-- The module a request is routed to unless another is named. -/
def defaultModule : String := "default"

/-- The controller a request is routed to unless another is named. -/
def defaultController : String := "index"

/-- The action a request is routed to unless another is named. -/
def defaultAction : String := "index"

/-- The part of the default identity that a parameter name stands for. -/
def defaultIdentity? (name : String) : Option String :=
  if name = "module" then some defaultModule
  else if name = "controller" then some defaultController
  else if name = "action" then some defaultAction
  else none

/-- The bytes of percent-encoded text. -/
def percentDecode : List Char → List Nat
  | '%' :: high :: low :: rest =>
    match hexByte? high low with
    | some byte => byte :: percentDecode rest
    | none => 37 :: percentDecode (high :: low :: rest)
  | c :: rest => bytesOf c.toString ++ percentDecode rest
  | [] => []

/-- The text of a name or a value: plus signs are spaces, percent signs introduce bytes. -/
def formText (cs : List Char) : String :=
  decodeLossy (percentDecode (cs.map fun c => if c = '+' then ' ' else c))

/-- A pair of a name and a value; the value is empty if there is no equals sign. -/
def formPair (cs : List Char) : String × String :=
  (formText (before (· = '=') cs), formText ((after? (· = '=') cs).getD []))

/-- The pairs of form-encoded text, in order. -/
def formPairs (text : String) : List (String × String) :=
  ((pieces (· = '&') text.toList).filter (!·.isEmpty)).map formPair

end RequestDispatch
