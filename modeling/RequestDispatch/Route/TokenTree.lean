import RequestDispatch.Text.Alphanumeric

/-!
# Token Trees

A route pattern is text with placeholders such as `%id%` and optional groups in parentheses,
which nest. Reading a pattern gives a tree; printing the tree gives the pattern back.

Reading has two steps. `lex` finds the placeholders and parentheses; all other characters are
literal, among them every percent sign that belongs to no placeholder. `TokenTree.ofLexemes`
then builds the tree from the right, so that what follows a group is known when the group is
met. It needs balanced parentheses, which `checkBalance` establishes before.
-/

namespace RequestDispatch.Route

open Text

/-- A sequence of tokens. -/
inductive TokenTree where
  /-- No token. -/
  | done
  /-- Text that stands for itself. -/
  | literal (text : List Char) (rest : TokenTree)
  /-- A named part. -/
  | placeholder (name : String) (rest : TokenTree)
  /-- An optional part. -/
  | group (content : TokenTree) (rest : TokenTree)
deriving DecidableEq, Repr

/-- Whether a character may occur in a placeholder's name. -/
def isNameChar (c : Char) : Bool :=
  isAlphanumeric c || c = '_' || c = ':' || c = '.' || c = '-'

/-- A unit of a pattern's text. -/
inductive Lexeme where
  /-- A literal character. -/
  | char (c : Char)
  /-- A placeholder between percent signs. -/
  | placeholder (name : List Char)
  /-- The beginning of a group. -/
  | opening
  /-- The end of a group, with the number of bytes before it. -/
  | closing (offset : Nat)
deriving DecidableEq, Repr

/-- The name at the beginning of a text if a percent sign ends it. -/
def placeholderName? (cs : List Char) : Option (List Char) :=
  let name := cs.takeWhile isNameChar
  if !name.isEmpty && (cs.dropWhile isNameChar).head? = some '%' then some name else none

/-- The lexemes of a pattern's text, after passing over the first `skip` characters, which
belong to a placeholder. The first character has `offset` bytes before it. -/
def lexFrom : (skip offset : Nat) → List Char → List Lexeme
  | _, _, [] => []
  | skip + 1, offset, c :: rest => lexFrom skip (offset + c.utf8Size) rest
  | 0, offset, c :: rest =>
    let next := offset + c.utf8Size
    if c = '(' then .opening :: lexFrom 0 next rest
    else if c = ')' then .closing offset :: lexFrom 0 next rest
    else if c = '%' then
      match placeholderName? rest with
      | some name => .placeholder name :: lexFrom (name.length + 1) next rest
      | none => .char c :: lexFrom 0 next rest
    else .char c :: lexFrom 0 next rest

/-- The lexemes of a pattern's text. -/
def lex (text : List Char) : List Lexeme := lexFrom 0 0 text

/-- Why a pattern is refused. -/
inductive PatternFault where
  /-- A parenthesis at this offset closes nothing. -/
  | unexpectedClosing (offset : Nat)
  /-- This many parentheses are never closed. -/
  | unclosed (count : Nat)
  /-- Groups nest too deep. -/
  | tooDeep
deriving DecidableEq, Repr

/-- Check that parentheses are balanced, `depth` of them being open at the beginning. -/
def checkBalance : (depth : Nat) → List Lexeme → Except PatternFault Unit
  | 0, [] => .ok ()
  | depth + 1, [] => .error (.unclosed (depth + 1))
  | depth, .opening :: rest => checkBalance (depth + 1) rest
  | 0, .closing offset :: _ => .error (.unexpectedClosing offset)
  | depth + 1, .closing _ :: rest => checkBalance depth rest
  | depth, .char _ :: rest => checkBalance depth rest
  | depth, .placeholder _ :: rest => checkBalance depth rest

namespace TokenTree

/-- Put a literal character in front, into the literal that begins there if there is one. -/
def consChar (c : Char) : TokenTree → TokenTree
  | literal text rest => literal (c :: text) rest
  | tree => literal [c] tree

/-- Build the tree of a list of lexemes, from the right: the tree of the innermost list of
tokens begun so far, and what follows the groups that enclose it. -/
def build : List Lexeme → TokenTree × List TokenTree
  | [] => (done, [])
  | lexeme :: rest =>
    let (tree, outer) := build rest
    match lexeme with
    | .char c => (consChar c tree, outer)
    | .placeholder name => (placeholder (String.ofList name) tree, outer)
    | .closing _ => (done, tree :: outer)
    | .opening =>
      match outer with
      | [] => (group tree done, [])
      | following :: outer => (group tree following, outer)

/-- The tree of a list of lexemes with balanced parentheses. -/
def ofLexemes (lexemes : List Lexeme) : TokenTree := (build lexemes).1

/-- Read a pattern's text. -/
def parse (text : List Char) : Except PatternFault TokenTree := do
  checkBalance 0 (lex text)
  return ofLexemes (lex text)

/-- The pattern's text. -/
def print : TokenTree → List Char
  | done => []
  | literal text rest => text ++ rest.print
  | placeholder name rest => '%' :: name.toList ++ '%' :: rest.print
  | group content rest => '(' :: content.print ++ ')' :: rest.print

/-- The name of each placeholder occurrence, in the order of the pattern. -/
def names : TokenTree → List String
  | done => []
  | literal _ rest => rest.names
  | placeholder name rest => name :: rest.names
  | group content rest => content.names ++ rest.names

/-- The literal text, of groups too. -/
def literals : TokenTree → List Char
  | done => []
  | literal text rest => text ++ rest.literals
  | placeholder _ rest => rest.literals
  | group content rest => content.literals ++ rest.literals

/-- How many things stand side by side: characters, placeholders and groups. -/
def breadth : TokenTree → Nat
  | done => 0
  | literal text rest => text.length + rest.breadth
  | placeholder _ rest => 1 + rest.breadth
  | group _ rest => 1 + rest.breadth

/-- How deep the tokens nest. A placeholder and a group each add two levels, and things that
stand side by side inside a group one more. -/
def nesting : TokenTree → Nat
  | done => 0
  | literal _ rest => rest.nesting
  | placeholder _ rest => max 2 rest.nesting
  | group content rest =>
    max (2 + (if 1 < content.breadth then 1 else 0) + content.nesting) rest.nesting

end TokenTree

end RequestDispatch.Route
