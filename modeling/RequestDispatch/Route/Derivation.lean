import RequestDispatch.Route.TokenTree
import RequestDispatch.Text.Cut

/-!
# Derivations

What it means for a path to match a token tree, by all the ways in which it can. A literal
derives itself, a placeholder any text of one or more characters without a line break, and a
group its content or nothing. The derivations of a path are listed by priority: a group is
taken before it is skipped, a placeholder tries shorter text before longer, and earlier
choices count more than later ones. The list can be exponentially long; `Route.Matching`
finds its first member without building it.
-/

namespace RequestDispatch.Route

open Text

/-- The text of each placeholder occurrence that takes part in a derivation, in order. -/
abbrev Bindings := List (String × List Char)

/-- The ways to split off one or more characters other than line breaks, shorter ones
first. -/
def takes : List Char → List (List Char × List Char)
  | [] => []
  | c :: rest =>
    if c = '\n' then []
    else ([c], rest) :: (takes rest).map fun split => (c :: split.1, split.2)

/-- The ways in which the tokens derive a beginning of a path, by priority: what is bound,
and what is left of the path. -/
def derivations : TokenTree → List Char → List (Bindings × List Char)
  | .done, path => [([], path)]
  | .literal text tree, path =>
    match rest? text path with
    | some left => derivations tree left
    | none => []
  | .placeholder name tree, path =>
    (takes path).flatMap fun split =>
      (derivations tree split.2).map fun found => ((name, split.1) :: found.1, found.2)
  | .group content tree, path =>
    ((derivations content path).flatMap fun first =>
      (derivations tree first.2).map fun found => (first.1 ++ found.1, found.2))
      ++ derivations tree path

/-- Whether a catch-all may take this text: it begins with a slash and has no line break. -/
def isTail : List Char → Bool
  | '/' :: rest => !rest.contains '\n'
  | _ => false

/-- Whether a path may end with this text left over: with nothing, or with a tail if the
pattern catches all. -/
def mayEnd (catchAll : Bool) (left : List Char) : Bool :=
  left.isEmpty || (catchAll && isTail left)

/-- What the first derivation of a whole path binds. -/
def firstDerivation? (tree : TokenTree) (catchAll : Bool) (path : List Char) :
    Option Bindings :=
  ((derivations tree path).find? fun found => mayEnd catchAll found.2).map (·.1)

end RequestDispatch.Route
