import RequestDispatch.Route.TokenTree

/-!
# Routing Errors

What can go wrong when patterns are compiled, requests routed and URLs generated. That a
route does not match a request is no error.
-/

namespace RequestDispatch

open Route

/-- An error of routing or of URL generation. -/
inductive RouteError where
  /-- The request's URL does not begin with its base URL, which no route can mend. -/
  | mismatch (requestUrl baseUrl : String)
  /-- A URL needs parameters that were not given. All of them are listed. -/
  | invalidParams (pattern : String) (missing : List String)
  /-- A pattern does not compile. -/
  | invalidPattern (pattern : String) (fault : PatternFault)
  /-- No route matches the request. -/
  | notFound (requestUrl : String)
  /-- There is no route of this name. -/
  | unknownRoute (name : String)
deriving DecidableEq, Repr

/-- What is wrong with a pattern, in words; nothing for a pattern that only nests too
deep. -/
def Route.PatternFault.reason : PatternFault → String
  | .unexpectedClosing offset => s!"unexpected ')' at offset {offset}"
  | .unclosed count => s!"{count} unclosed '('"
  | .tooDeep => ""

/-- What went wrong, in words. -/
def RouteError.message : RouteError → String
  | mismatch requestUrl baseUrl =>
    s!"request url does not match base url (request url: '{requestUrl}', base url: '{baseUrl}')"
  | invalidParams pattern missing =>
    s!"missing params for getting url of route '{pattern}': " ++ ", ".intercalate missing
  | invalidPattern pattern .tooDeep => s!"invalid route pattern '{pattern}'"
  | invalidPattern pattern fault => s!"invalid route pattern '{pattern}': " ++ fault.reason
  | notFound requestUrl => s!"no route matches request url '{requestUrl}'"
  | unknownRoute name => s!"no route named '{name}'"

end RequestDispatch
