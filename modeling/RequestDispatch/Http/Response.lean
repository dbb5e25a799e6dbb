import RequestDispatch.Http.Request
import RequestDispatch.Json.Printer

/-!
# Responses

The answer to a request: a status, headers and a body. Setting a header removes every header
of that name, whatever the case of its letters, and appends the new one, so the header set
last is stored last.
-/

namespace RequestDispatch

open Text

/-- The answer to a request. -/
structure Response where
  /-- The status code. -/
  status : Nat
  /-- The headers, in the order they are sent. -/
  headers : Headers
  /-- The body. -/
  body : String
deriving DecidableEq, Repr

namespace Response

/-- The header that names a body's format. -/
def contentType : String := "content-type"

/-- A response with one header, the format of its body. -/
def ofContent (status : Nat) (format body : String) : Response :=
  ⟨status, [(contentType, format)], body⟩

/-- A response of plain text. -/
def text (status : Nat) (body : String) : Response :=
  ofContent status "text/plain; charset=utf-8" body

/-- A response of markup. -/
def html (status : Nat) (body : String) : Response :=
  ofContent status "text/html; charset=utf-8" body

/-- A response of data. -/
def json (status : Nat) (value : Json) : Response :=
  ofContent status "application/json" value.compact

/-- The value of a header, the case of ASCII letters in its name aside. -/
def header? (response : Response) (name : String) : Option String :=
  response.headers.find? name

/-- Set a header, in place of all headers of that name. -/
def setHeader (response : Response) (name value : String) : Response :=
  { response with
    headers :=
      response.headers.filter (fun header => !equalIgnoringCase header.1 name)
        ++ [(name, value)] }

/-- Set a header unless there is one of that name. -/
def addMissingHeader (response : Response) (name value : String) : Response :=
  if (response.header? name).isNone then response.setHeader name value else response

/-- Set headers one after another, each unless there is one of its name by then. -/
def addMissingHeaders (response : Response) (headers : Headers) : Response :=
  headers.foldl (fun response header => response.addMissingHeader header.1 header.2) response

end Response

end RequestDispatch
