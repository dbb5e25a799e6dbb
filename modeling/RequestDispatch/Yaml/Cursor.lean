import RequestDispatch.Text.Cut
import RequestDispatch.Yaml.Node

/-!
# Places in a YAML Document

Where a reading stands in a document. Lines and columns matter in YAML, because indentation
does; both are counted from zero. What was given a name before a place can be referred to
after it.
-/

namespace RequestDispatch.Yaml

/-- A place in a document. -/
structure Cursor where
  /-- What follows. -/
  rest : List Char
  /-- The line. -/
  line : Nat := 0
  /-- The column. -/
  column : Nat := 0
  /-- The nodes that have been given names, the latest first. -/
  anchors : List (String × YamlNode) := []

/-- Whether a character is white space within a line. -/
def isBlank (c : Char) : Bool := c = ' ' || c = '\t'

/-- Whether some characters begin with white space, or there are none. -/
def atGap : List Char → Bool
  | [] => true
  | c :: _ => isBlank c || c = '\n'

/-- Whether a character separates the parts of a sequence or mapping in brackets. -/
def isFlowMark (c : Char) : Bool :=
  c = ',' || c = '[' || c = ']' || c = '{' || c = '}'

/-- Whether a character can begin a scalar without quotes wherever it stands. -/
def mayBegin (c : Char) : Bool :=
  !(isBlank c || isFlowMark c || c = '\n' ||
    ['-', '?', ':', '#', '&', '*', '!', '|', '>', '\'', '"', '%', '@', '\x60'].contains c)

/-- Whether a character can stand in a document. -/
def isAllowed (c : Char) : Bool :=
  let code := c.toNat
  c = '\t' || c = '\n' || (0x20 ≤ code && code ≤ 0x7e) || code = 0x85 ||
    (0xa0 ≤ code && code ≠ 0xfeff && code ≠ 0xfffe && code ≠ 0xffff)

/-- Characters with every kind of line break as a line feed. -/
def unifyBreaks : List Char → List Char
  | '\r' :: '\n' :: rest => '\n' :: unifyBreaks rest
  | '\r' :: rest => '\n' :: unifyBreaks rest
  | c :: rest => (if c = '\x85' || c = '\u2028' || c = '\u2029' then '\n' else c) :: unifyBreaks rest
  | [] => []

namespace Cursor

/-- The place where `rest` is left of what follows a place. -/
def advance (cursor : Cursor) (rest : List Char) : Cursor :=
  (cursor.rest.take (cursor.rest.length - rest.length)).foldl
    (fun cursor c =>
      if c = '\n' then { cursor with line := cursor.line + 1, column := 0 }
      else { cursor with column := cursor.column + 1 })
    { cursor with rest }

/-- Pass over white space, comments and line breaks. Outside brackets a tab is no white space
where a line begins. -/
def skip (inBrackets : Bool) (cursor : Cursor) : Cursor :=
  cursor.advance (blank inBrackets (inBrackets || cursor.column ≠ 0) cursor.rest)
where
  /-- Pass over white space and line breaks. -/
  blank (inBrackets tabs : Bool) : List Char → List Char
    | ' ' :: rest => blank inBrackets tabs rest
    | '\n' :: rest => blank inBrackets inBrackets rest
    | '\t' :: rest => if tabs then blank inBrackets tabs rest else '\t' :: rest
    | '#' :: rest => comment inBrackets rest
    | rest => rest
  /-- Pass over the rest of a comment and what comes after it. -/
  comment (inBrackets : Bool) : List Char → List Char
    | '\n' :: rest => blank inBrackets inBrackets rest
    | _ :: rest => comment inBrackets rest
    | [] => []

/-- Whether a marker stands here that begins or ends a document. -/
def atMarker (cursor : Cursor) : Bool :=
  cursor.column = 0 &&
    match cursor.rest with
    | '-' :: '-' :: '-' :: rest | '.' :: '.' :: '.' :: rest => atGap rest
    | _ => false

/-- Whether nothing of the document is left. -/
def atEnd (cursor : Cursor) : Bool := cursor.rest.isEmpty || cursor.atMarker

end Cursor

end RequestDispatch.Yaml
