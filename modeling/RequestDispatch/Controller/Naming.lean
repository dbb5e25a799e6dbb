import RequestDispatch.Text.Cut
import RequestDispatch.Text.Uppercase

/-!
# Names

From routed names to identities and directories: camel case, and the substitution of names
into patterns. A pattern may hold `%key%`, which stands for a value as it is, and `%Key%`,
which stands for its camel-cased form.
-/

namespace RequestDispatch

open Text

/-- Whether a character separates the words of a routed name. -/
def isWordBreak (c : Char) : Bool := c = '-' || c = '_' || c = '.' || c = ' '

/-- A word with its first letter in upper case. -/
def capitalize : List Char → List Char
  | [] => []
  | first :: rest => upperChar first ++ rest

/-- A routed name in camel case: its words without what separates them, each with its first
letter in upper case. -/
def camelcase (name : String) : String :=
  String.ofList ((pieces isWordBreak name.toList).flatMap capitalize)

/-- Substitute one value into a pattern: first as it is, then camel-cased. -/
def substituteKey (pattern : String) (key value : String) : String :=
  let raw := replaceWord ("%" ++ key ++ "%") value pattern
  replaceWord ("%" ++ camelcase key ++ "%") (camelcase value) raw

/-- Substitute values into a pattern, one after another. -/
def substitute (pattern : String) (values : List (String × String)) : String :=
  values.foldl (fun pattern entry => substituteKey pattern entry.1 entry.2) pattern

/-- What separates the segments of an identity, and begins an absolute one. -/
def identitySeparator : String := "::"

/-- An identity in absolute form. -/
def absoluteIdentity (name : String) : String :=
  if identitySeparator.toList.isPrefixOf name.toList then name
  else identitySeparator ++ name

end RequestDispatch
