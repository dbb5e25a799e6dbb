import RequestDispatch.Http.Params
import RequestDispatch.Http.RequestId

/-!
# Requests

The request that travels through the kernel. It is created once; routing writes the module,
controller and action it is for and its parameters onto it, and whatever runs later reads
them.

The method of a request is a token: one or more letters, digits and certain punctuation marks. Its
base URL is the part of the URL that leads to the program itself. It can be read off the path of the
executing script or off the request's own URI: it is everything up to and including the last slash.
-/

namespace RequestDispatch

open Text

/-- The punctuation marks that may occur in a token. -/
def tokenMarks : List Char := "!#$%&'*+-.^_`|~".toList

/-- Whether a character may occur in a token. -/
def isTokenChar (c : Char) : Bool := c.isAlphanum || tokenMarks.contains c

/-- The method of a request. -/
structure Method where
  /-- The method's name. -/
  name : String
deriving DecidableEq, Repr

namespace Method

/-- The method that asks for a resource. -/
def get : Method := ⟨"GET"⟩

/-- The method of a given name, if the name is a token. -/
def parse? (name : String) : Option Method :=
  if !name.isEmpty && name.toList.all isTokenChar then some ⟨name⟩ else none

end Method

/-- Whether a character ends the path of a URI. -/
def endsPath (c : Char) : Bool := c = '?' || c = '#'

/-- The base URL for a request URI, from the script's path if there is one. -/
def deriveBaseUrl (uri : String) (script : Option String) : String :=
  let source := script.getD (upTo endsPath uri)
  match dropEnd (· ≠ '/') source.toList with
  | [] => "/"
  | directory => String.ofList directory

/-- Header names with their values, in the order they were added. -/
abbrev Headers := List (String × String)

/-- The value of the first header whose name is `name`, the case of ASCII letters aside. -/
def Headers.find? (headers : Headers) (name : String) : Option String :=
  (List.find? (fun header => equalIgnoringCase header.1 name) headers).map (·.2)

/-- A request on its way through the kernel. -/
structure Request where
  /-- The identifier its log lines carry. -/
  id : RequestId := .generated
  /-- The method. -/
  method : Method := .get
  /-- The URI, with query string and fragment. -/
  uri : String
  /-- The part of the URI that leads to the program. -/
  baseUrl : String := "/"
  /-- The server's name, for requests without a host header. -/
  serverName : Option String := none
  /-- Whether it came over a secure connection. -/
  secure : Bool := false
  /-- The headers, in the order they were added. -/
  headers : Headers := []
  /-- The module it is for. -/
  module : String := defaultModule
  /-- The controller it is for. -/
  controller : String := defaultController
  /-- The action it is for. -/
  action : String := defaultAction
  /-- The parameters. -/
  params : Params := ∅
deriving DecidableEq

namespace Request

/-- The URI without query string and fragment. -/
def path (request : Request) : String := upTo endsPath request.uri

/-- The URI without its fragment. -/
def beforeFragment (request : Request) : String := upTo (· = '#') request.uri

/-- The text between the first question mark and the first number sign. A number sign before
any question mark means that there is no query string. -/
def query (request : Request) : String :=
  (following? (· = '?') request.beforeFragment).getD ""

/-- The text after the first number sign. -/
def fragment (request : Request) : String := (following? (· = '#') request.uri).getD ""

/-- The URI up to its first question mark; this is what routes are matched against. -/
def url (request : Request) : String := upTo (· = '?') request.uri

/-- The decoded query string. Of two values of one name the later counts. -/
def queryParams (request : Request) : Params := NameMap.ofList (formPairs request.query)

/-- The value of a header. -/
def header? (request : Request) (name : String) : Option String := request.headers.find? name

/-- The host the request was sent to: the host header, or else the server's name. -/
def host? (request : Request) : Option String :=
  (request.header? "host").or request.serverName

/-- The scheme the request was sent with. -/
def scheme (request : Request) : String := if request.secure then "https" else "http"

/-- The value of a parameter. -/
def param? (request : Request) (name : String) : Option String := request.params.get? name

/-- Add a header. One that carries an identifier also replaces the request's identifier. -/
def addHeader (request : Request) (name value : String) : Request :=
  { request with
    id := if equalIgnoringCase name requestIdHeader then .ofHeader value else request.id
    headers := request.headers ++ [(name, value)] }

/-- Take the base URL from the path of the executing script. -/
def withScriptName (request : Request) (script : String) : Request :=
  { request with baseUrl := deriveBaseUrl request.uri (some script) }

/-- Take the base URL from the request's own URI. -/
def withDerivedBaseUrl (request : Request) : Request :=
  { request with baseUrl := deriveBaseUrl request.uri none }

/-- Store a parameter. -/
def setParam (request : Request) (name value : String) : Request :=
  { request with params := request.params.insert name value }

end Request

end RequestDispatch
