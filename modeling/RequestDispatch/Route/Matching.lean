import RequestDispatch.Route.Derivation

/-!
# Matching

The first derivation of a path, in time proportional to the product of the lengths of path
and pattern.

For some tokens, a *row* lists what the first derivation binds from every position of the
path on, the end of the path included; `none` means that there is no derivation. The row of a
sequence of tokens comes from the row of what follows them: a literal looks further down the
row, a placeholder takes the nearest later position that has an entry, and a group prefers
the entries of its content.
-/

namespace RequestDispatch.Route

open Text

/-- For every position of a path, what the first derivation from there on binds. -/
abbrev Row := List (Option Bindings)

/-- The texts that are left at every position of a path. -/
def suffixes : List Char → List (List Char)
  | [] => [[]]
  | c :: rest => (c :: rest) :: suffixes rest

/-- Whether a path has no line break, and the row of a pattern's end: nothing is bound where
the path may end. -/
def endRow (catchAll : Bool) : List Char → Bool × Row
  | [] => (true, [some []])
  | c :: rest =>
    let (isLine, row) := endRow catchAll rest
    (c ≠ '\n' && isLine, (if catchAll && c = '/' && isLine then some [] else none) :: row)

/-- The row of a literal, from the row of what follows it. -/
def literalRow (text path : List Char) (after : Row) : Row :=
  List.zipWith (fun left entry => if text.isPrefixOf left then entry else none)
    (suffixes path) (after.drop text.length ++ List.replicate text.length none)

/-- For every position of a path, the text of a placeholder that begins there, with what is
bound after it. The row of what follows is given from the second position on. -/
def takeRow : List Char → Row → List (Option (List Char × Bindings))
  | c :: rest, entry :: after =>
    let later := takeRow rest after
    let taken :=
      if c = '\n' then none
      else
        match entry with
        | some bindings => some ([c], bindings)
        | none => (later.head?.join).map fun (text, bindings) => (c :: text, bindings)
    taken :: later
  | _, _ => [none]

/-- The row of a placeholder, from the row of what follows it. -/
def placeholderRow (name : String) (path : List Char) (after : Row) : Row :=
  (takeRow path after.tail).map fun taken =>
    taken.map fun (text, bindings) => (name, text) :: bindings

/-- The row of some tokens, from the row of what follows them. -/
def row (path : List Char) : TokenTree → Row → Row
  | .done, after => after
  | .literal text tree, after => literalRow text path (row path tree after)
  | .placeholder name tree, after => placeholderRow name path (row path tree after)
  | .group content tree, after =>
    let skipped := row path tree after
    List.zipWith Option.or (row path content skipped) skipped

/-- What the first derivation of a whole path binds. -/
def firstMatch? (tree : TokenTree) (catchAll : Bool) (path : List Char) : Option Bindings :=
  (row path tree (endRow catchAll path).2).head?.join

end RequestDispatch.Route
