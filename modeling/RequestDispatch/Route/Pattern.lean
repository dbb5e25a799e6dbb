import RequestDispatch.Http.Params
import RequestDispatch.Journal
import RequestDispatch.Route.Error
import RequestDispatch.Route.Matching
import RequestDispatch.Text.Quoted

/-!
# Route Patterns

A compiled route pattern such as `/%module%/%controller%(/%action%)(/*)`. It is read in two
directions: to match paths, and to generate URLs (`Route.Generation`). A pattern that ends in
`(/*)` also matches every path that goes on below the rest of the pattern.
-/

namespace RequestDispatch

open Route Text

/-- A compiled route pattern. -/
structure Pattern where
  /-- The pattern as written. -/
  source : String
  /-- Its tokens, without the catch-all at the end. -/
  tokens : TokenTree
  /-- Whether it ends in a catch-all. -/
  catchAll : Bool
deriving DecidableEq, Repr

namespace Pattern

/-- The ending by which a pattern also matches whatever lies below it. -/
def catchAllEnding : List Char := ['(', '/', '*', ')']

/-- A pattern's text without a catch-all at its end, and whether there was one. -/
def splitCatchAll (text : List Char) : List Char × Bool :=
  match init? catchAllEnding text with
  | some body => (body, true)
  | none => (text, false)

/-- How deep a pattern may nest. -/
def nestingLimit : Nat := 250

/-- How deep the whole pattern nests, its catch-all included. -/
def depth (tokens : TokenTree) (catchAll : Bool) : Nat :=
  1 + max tokens.nesting (if catchAll then 4 else 0)

/-- Compile a pattern. -/
def compile (source : String) : Except RouteError Pattern :=
  let (body, catchAll) := splitCatchAll source.toList
  match TokenTree.parse body with
  | .error fault => .error (.invalidPattern source fault)
  | .ok tokens =>
    if nestingLimit < depth tokens catchAll then .error (.invalidPattern source .tooDeep)
    else .ok ⟨source, tokens, catchAll⟩

/-- The names of the placeholders, each once, in order of first appearance. -/
def placeholders (pattern : Pattern) : List String := pattern.tokens.names.eraseDups

/-- The line that reports a compiled pattern. -/
def compiledLine (pattern : Pattern) : LogLine where
  level := .debug
  component := .pattern
  message := "Route pattern compiled"
  fields := [
    ("pattern", .text pattern.source),
    ("placeholders", .text (quotedList pattern.placeholders)),
    ("catch_all", .flag pattern.catchAll)]

/-- Compile a pattern and report it. -/
def compileLogged (source : String) : Logged (Except RouteError Pattern) := do
  match compile source with
  | .error error => return .error error
  | .ok pattern =>
    Logged.write pattern.compiledLine
    return .ok pattern

/-- Store what a placeholder occurrence bound, without slashes at its end. Nothing is stored
if nothing is left, so a name without a value is absent rather than empty. -/
def bindParam (params : Params) (binding : String × List Char) : Params :=
  match dropEnd (· = '/') binding.2 with
  | [] => params
  | value => params.insert binding.1 (String.ofList value)

/-- The parameters of some bindings. Of two values of one name the later counts. -/
def paramsOf (bindings : Bindings) : Params := bindings.foldl bindParam ∅

/-- The parameters that a path gives, if it matches. -/
def captures (pattern : Pattern) (path : String) : Option Params :=
  (firstMatch? pattern.tokens pattern.catchAll path.toList).map paramsOf

end Pattern

end RequestDispatch
