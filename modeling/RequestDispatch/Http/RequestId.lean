import RequestDispatch.Http.Ulid
import RequestDispatch.Text.Cut

/-!
# Request Identifiers

Every request carries an identifier, so that all log lines of its handling can be told from
those of other requests. One that came with the request is kept; otherwise the program makes
one up. A made-up identifier has no meaning of its own, so it is not modelled further than
that it was made up.
-/

namespace RequestDispatch

/-- The header that carries an identifier from one program to the next. -/
def requestIdHeader : String := "x-request-id"

/-- The identifier of a request. -/
inductive RequestId where
  /-- It came with the request. -/
  | given (ulid : Ulid)
  /-- It was made up on arrival. -/
  | generated
deriving DecidableEq

namespace RequestId

/-- The identifier as written into headers. -/
def text : RequestId → String
  | given ulid => ulid.text
  | generated => "<generated>"

/-- The identifier in a header's value, white space around it aside; a made-up one if the
value holds none. -/
def ofHeader (value : String) : RequestId :=
  match Ulid.parse (Text.trim value) with
  | .ok ulid => .given ulid
  | .error _ => .generated

end RequestId

end RequestDispatch
