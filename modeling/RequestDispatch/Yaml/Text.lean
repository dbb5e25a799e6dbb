import RequestDispatch.Yaml.Cursor

/-!
# YAML Text

The text of scalars: without quotes, in single or double quotes, and written as a block.
Wherever a scalar goes over several lines, a line break counts as a space and further line
breaks count as themselves; only the lines of a literal block stay as they are.
-/

namespace RequestDispatch.Yaml

open RequestDispatch.Text

/-- The text that stands for some line breaks in a row between two lines of a scalar. -/
def foldedBreaks (count : Nat) : List Char :=
  if count ≤ 1 then [' '] else List.replicate (count - 1) '\n'

/-! ## Without quotes -/

/-- What a scalar without quotes has on the present line, white space at its end included. -/
def takePlain (inBrackets : Bool) : List Char → List Char
  | [] => []
  | c :: rest =>
    if c = '\n' then []
    else if c = ':' && atGap rest then []
    else if inBrackets && isFlowMark c then []
    else if isBlank c && rest.head? == some '#' then []
    else c :: takePlain inBrackets rest

/-- Whether a scalar without quotes begins here. -/
def beginsPlain (inBrackets : Bool) : List Char → Bool
  | [] => false
  | c :: rest =>
    mayBegin c || (c = '-' && !rest.head?.all isBlank) ||
      (!inBrackets && (c = '?' || c = ':') && !atGap rest)

/-- How many line breaks come before what follows, and what follows. -/
def countBreaks : List Char → Nat × List Char
  | '\n' :: rest => let (count, rest) := countBreaks rest; (count + 1, rest)
  | c :: rest => if isBlank c then countBreaks rest else (0, c :: rest)
  | [] => (0, [])

/-- The part of a scalar without quotes on the present line, and the place after it. -/
def plainPart (inBrackets : Bool) (cursor : Cursor) : List Char × Cursor :=
  let taken := takePlain inBrackets cursor.rest
  (dropEnd isBlank taken, cursor.advance (cursor.rest.drop taken.length))

/-- The further lines of a scalar without quotes. Outside brackets they are indented more than
`indent`. -/
def plainLines (inBrackets : Bool) (indent : Int) : (fuel : Nat) → Cursor → List Char × Cursor
  | 0, cursor => ([], cursor)
  | fuel + 1, cursor =>
    let (breaks, rest) := countBreaks cursor.rest
    let next := cursor.advance rest
    if breaks = 0 || next.atEnd || (!inBrackets && Int.ofNat next.column ≤ indent)
        || rest.head? == some '#' || (takePlain inBrackets rest).isEmpty then ([], cursor)
    else
      let (part, after) := plainPart inBrackets next
      let (more, last) := plainLines inBrackets indent fuel after
      (foldedBreaks breaks ++ part ++ more, last)

/-! ## In quotes -/

/-- A part of a text in quotes. -/
inductive QuotedPart where
  /-- A character as it stands, which may be a line break. -/
  | char (c : Char)
  /-- A character that was written as an escape. -/
  | escaped (c : Char)
  /-- An escaped line break, which joins two lines. -/
  | joint
deriving DecidableEq

/-- The characters that escapes of one letter stand for. -/
def simpleEscape? : Char → Option Char
  | '0' => some '\x00'
  | 'a' => some '\x07'
  | 'b' => some '\x08'
  | 't' | '\t' => some '\t'
  | 'n' => some '\n'
  | 'v' => some '\x0b'
  | 'f' => some '\x0c'
  | 'r' => some '\x0d'
  | 'e' => some '\x1b'
  | ' ' => some ' '
  | '"' => some '"'
  | '/' => some '/'
  | '\\' => some '\\'
  | 'N' => some '\x85'
  | '_' => some '\xa0'
  | 'L' => some '\u2028'
  | 'P' => some '\u2029'
  | _ => none

/-- How many digits an escape that gives a character by its number has. -/
def escapeLength? : Char → Option Nat
  | 'x' => some 2
  | 'u' => some 4
  | 'U' => some 8
  | _ => none

/-- The value of a digit of an escape. -/
def hexValue? (c : Char) : Option Nat :=
  if c.isDigit then some (c.toNat - '0'.toNat)
  else if 'a' ≤ c ∧ c ≤ 'f' then some (c.toNat - 'a'.toNat + 10)
  else if 'A' ≤ c ∧ c ≤ 'F' then some (c.toNat - 'A'.toNat + 10)
  else none

/-- Where the reading of a text in double quotes stands. -/
inductive EscapePlace where
  /-- Outside escapes. -/
  | outside
  /-- After a backslash. -/
  | backslash
  /-- In the digits of an escape. -/
  | digits (missing value : Nat)

/-- The parts of a text up to its closing double quote, and what follows that. -/
def doubleParts : EscapePlace → List Char → Option (List QuotedPart × List Char)
  | _, [] => none
  | .outside, c :: rest =>
    if c = '"' then some ([], rest)
    else if c = '\\' then doubleParts .backslash rest
    else (doubleParts .outside rest).map fun read => (.char c :: read.1, read.2)
  | .backslash, c :: rest =>
    if c = '\n' then (doubleParts .outside rest).map fun read => (.joint :: read.1, read.2)
    else
      match simpleEscape? c, escapeLength? c with
      | some meant, _ =>
        (doubleParts .outside rest).map fun read => (.escaped meant :: read.1, read.2)
      | none, some count => doubleParts (.digits count 0) rest
      | none, none => none
  | .digits missing value, c :: rest =>
    match hexValue? c with
    | none => none
    | some digit =>
      let value := value * 16 + digit
      if missing ≤ 1 then
        if value.isValidChar then
          (doubleParts .outside rest).map fun read => (.escaped (Char.ofNat value) :: read.1, read.2)
        else none
      else doubleParts (.digits (missing - 1) value) rest

/-- The parts of a text up to its closing single quote, and what follows that. Two single
quotes are one that belongs to the text. -/
def singleParts : List Char → Option (List QuotedPart × List Char)
  | '\'' :: '\'' :: rest =>
    (singleParts rest).map fun read => (.escaped '\'' :: read.1, read.2)
  | '\'' :: rest => some ([], rest)
  | c :: rest => (singleParts rest).map fun read => (.char c :: read.1, read.2)
  | [] => none

/-- What has been read since the last character of a quoted text that is no white space. -/
inductive QuotedGap where
  /-- White space on one line, the latest first. -/
  | blanks (seen : List Char)
  /-- Line breaks, and whether the first of them was escaped. -/
  | breaks (count : Nat) (isJoint : Bool)

/-- The text of a gap. -/
def QuotedGap.text : QuotedGap → List Char
  | blanks seen => seen.reverse
  | breaks count isJoint => if isJoint then List.replicate (count - 1) '\n' else foldedBreaks count

/-- The text of the parts of a text in quotes, after a gap. -/
def partsText : QuotedGap → List QuotedPart → List Char
  | gap, [] => gap.text
  | gap, .escaped c :: rest => gap.text ++ c :: partsText (.blanks []) rest
  | .blanks seen, .joint :: rest => seen.reverse ++ partsText (.breaks 1 true) rest
  | .breaks count isJoint, .joint :: rest =>
    (QuotedGap.breaks count isJoint).text ++ partsText (.breaks 1 true) rest
  | .blanks seen, .char c :: rest =>
    if c = '\n' then partsText (.breaks 1 false) rest
    else if isBlank c then partsText (.blanks (c :: seen)) rest
    else seen.reverse ++ c :: partsText (.blanks []) rest
  | .breaks count isJoint, .char c :: rest =>
    if c = '\n' then partsText (.breaks (count + 1) isJoint) rest
    else if isBlank c then partsText (.breaks count isJoint) rest
    else (QuotedGap.breaks count isJoint).text ++ c :: partsText (.blanks []) rest

/-- The text in quotes that begins at a place, and the place after it. -/
def quotedText? (cursor : Cursor) : Option (String × Cursor) :=
  let parts :=
    match cursor.rest with
    | '"' :: rest => doubleParts .outside rest
    | '\'' :: rest => singleParts rest
    | _ => none
  parts.map fun (parts, rest) =>
    (String.ofList (partsText (.blanks []) parts), cursor.advance rest)

/-! ## Blocks -/

/-- How a block is written. -/
structure BlockHeader where
  /-- Whether its lines are folded. -/
  folds : Bool
  /-- The mark that says what becomes of line breaks at its end. -/
  ending : Option Char := none
  /-- Its indentation, if that is given. -/
  indent : Option Nat := none

/-- Read the marks of a block's header up to the end of the line. -/
def blockHeader? (header : BlockHeader) : List Char → Option BlockHeader
  | [] => some header
  | c :: rest =>
    if isBlank c then
      match rest.dropWhile isBlank with
      | [] => some header
      | '#' :: _ => some header
      | _ => none
    else if (c = '+' || c = '-') && header.ending.isNone then
      blockHeader? { header with ending := some c } rest
    else if c.isDigit && c ≠ '0' && header.indent.isNone then
      blockHeader? { header with indent := some (c.toNat - '0'.toNat) } rest
    else none

/-- The indentation of a line. -/
def indentOf (line : List Char) : Nat := (line.takeWhile (· = ' ')).length

/-- Whether a line holds nothing but spaces. -/
def isEmptyLine (line : List Char) : Bool := line.all (· = ' ')

/-- The lines that belong to a block of some indentation. -/
def blockLines (indent : Nat) (lines : List (List Char)) : List (List Char) :=
  lines.takeWhile fun line => indent ≤ indentOf line || isEmptyLine line

/-- A literal block: every line with its line break. -/
def literalBlock (lines : List (List Char)) : List Char := lines.flatMap (· ++ ['\n'])

/-- Whether a line of a folded block keeps its line breaks. -/
def isMoreIndented (line : List Char) : Bool := line.head?.any isBlank

/-- A folded block: line breaks between two lines of text are folded. -/
def foldedBlock : List (List Char) → List Char
  | [] => []
  | line :: rest =>
    let empty := rest.takeWhile (·.isEmpty)
    let breaks :=
      match rest.drop empty.length with
      | [] => ['\n']
      | next :: _ =>
        if line.isEmpty || isMoreIndented line || isMoreIndented next then ['\n']
        else if empty.isEmpty then [' '] else []
    line ++ breaks ++ foldedBlock rest

/-- A block's text with what its header says for the line breaks at its end. -/
def finishBlock (ending : Option Char) (lines : List (List Char)) (text : List Char) :
    List Char :=
  match ending with
  | some '-' => dropEnd (· = '\n') text
  | some _ => text
  | none =>
    if lines.all (·.isEmpty) then [] else dropEnd (· = '\n') text ++ ['\n']

/-- The block that begins at a place within a node of some indentation, and the place after
it. -/
def block? (indent : Int) (cursor : Cursor) : Option (String × Cursor) :=
  match cursor.rest with
  | [] => none
  | mark :: rest => do
    let first := rest.takeWhile (· ≠ '\n')
    let header ← blockHeader? { folds := mark = '>' } first
    let lines := pieces (· = '\n') (rest.drop (first.length + 1))
    let least := (indent + 1).toNat.max 1
    let width :=
      match header.indent with
      | some more => (if indent < 0 then 0 else indent.toNat) + more
      | none => ((lines.find? (!isEmptyLine ·)).map indentOf).getD 0 |>.max least
    let own := blockLines width lines
    let ended := own.length = lines.length
    let own := if ended && own.getLast? == some [] then own.dropLast else own
    let content := own.map (·.drop width)
    let text := if header.folds then foldedBlock content else literalBlock content
    let consumed := own.foldl (fun total line => total + line.length + 1) (first.length + 2)
    return (String.ofList (finishBlock header.ending content text),
      cursor.advance (cursor.rest.drop consumed))

end RequestDispatch.Yaml
