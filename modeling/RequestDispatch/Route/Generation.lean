import RequestDispatch.Route.Pattern

/-!
# URL Generation

Writing a URL from a pattern and parameters. Placeholders are replaced by their values; the
module, the controller and the action fall back to the default identity. The first optional
group whose own placeholders do not all have values ends the URL: neither it nor anything
after it is written.
-/

namespace RequestDispatch

open Route

namespace Route

/-- What walking over tokens writes. -/
structure Written where
  /-- The text. -/
  text : List Char
  /-- The placeholders without a value, as they were met. -/
  missing : List String
  /-- Whether a group without values ended the walk. -/
  cut : Bool
deriving DecidableEq, Repr

/-- Put text in front. -/
def Written.prepend (text : List Char) (written : Written) : Written :=
  { written with text := text ++ written.text }

/-- Put a placeholder without a value in front. -/
def Written.addMissing (name : String) (written : Written) : Written :=
  { written with missing := name :: written.missing }

/-- What two walks write one after the other. -/
def Written.append (first second : Written) : Written :=
  ⟨first.text ++ second.text, first.missing ++ second.missing, second.cut⟩

namespace TokenTree

/-- Whether every placeholder of a group has a value, those of groups inside it aside. -/
def isOpen (value : String → Option String) : TokenTree → Bool
  | done => true
  | literal _ rest => rest.isOpen value
  | placeholder name rest => (value name).isSome && rest.isOpen value
  | group _ rest => rest.isOpen value

/-- Walk over the tokens in order and write them, up to the first group that is not open. -/
def write (value : String → Option String) : TokenTree → Written
  | done => ⟨[], [], false⟩
  | literal text rest => (rest.write value).prepend text
  | placeholder name rest =>
    match value name with
    | some text => (rest.write value).prepend text.toList
    | none => (rest.write value).addMissing name
  | group content rest =>
    if content.isOpen value then
      let inner := content.write value
      if inner.cut then inner else inner.append (rest.write value)
    else ⟨[], [], true⟩

end TokenTree

end Route

namespace Pattern

/-- The value of a placeholder: the parameter of that name, or its part in the default
identity. -/
def valueIn (params : Params) (name : String) : Option String :=
  (params.get? name).or (defaultIdentity? name)

/-- What the pattern writes before a query string and a fragment are added. A pattern without
placeholders writes all its literals. -/
def written (pattern : Pattern) (params : Params) : Written :=
  if pattern.placeholders.isEmpty then ⟨pattern.tokens.literals, [], false⟩
  else pattern.tokens.write (valueIn params)

/-- A query string or a fragment behind its mark; nothing if it is empty. -/
def marked (mark text : String) : String := if text.isEmpty then "" else mark ++ text

/-- Generate a URL. All required placeholders without a value are reported at once. -/
def build (pattern : Pattern) (params : Params) (query fragment : String) :
    Except RouteError String :=
  let written := pattern.written params
  match written.missing.eraseDups with
  | [] => .ok (String.ofList written.text ++ marked "?" query ++ marked "#" fragment)
  | missing => .error (.invalidParams pattern.source missing)

/-- The line that reports a dropped group, if one was dropped. -/
def droppedLines (pattern : Pattern) (params : Params) : List LogLine :=
  let written := pattern.written params
  if written.cut then
    [{ level := .debug
       component := .urlGeneration
       message := "Optional group with unresolved params dropped"
       fields := [
        ("pattern", .text pattern.source),
        ("url", .text (String.ofList written.text))] }]
  else []

/-- Generate a URL and report a dropped group. -/
def buildLogged (pattern : Pattern) (params : Params) (query fragment : String) :
    Logged (Except RouteError String) :=
  ⟨pattern.build params query fragment, pattern.droppedLines params⟩

end Pattern

end RequestDispatch
