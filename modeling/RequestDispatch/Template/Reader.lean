import RequestDispatch.Template.Basic
import RequestDispatch.Text.Cut

/-!
# Reading Templates

From the text of a template to `Template`, in three steps. `segments?` cuts the text at its
tags and drops comments; `Template.expression?` reads the expression in a tag; and
`Template.ofSegments?` builds the tree, going from the last tag back to the first, so that
what follows a tag has been read before the tag itself.

One line break at the very end of a template is not part of it. Names are made of ASCII
letters, digits and underscores.
-/

namespace RequestDispatch

namespace Template

/-! ## Cutting -/

/-- A part of a tag: a quoted text, or any other character. -/
inductive Atom where
  /-- A character outside quotes. -/
  | char (c : Char)
  /-- A text that was written in quotes. -/
  | quote (text : String)

/-- What the text of a template is cut into. -/
inductive Segment where
  /-- Text between tags. -/
  | literal (text : String)
  /-- A tag in double braces, which prints. -/
  | output (atoms : List Atom)
  /-- A tag in braces and percent signs, which chooses or repeats. -/
  | statement (atoms : List Atom)

/-- Where cutting stands in a template, with what it has seen there, the latest first. -/
inductive Place where
  /-- In text between tags. -/
  | text (seen : List Char)
  /-- In a comment. -/
  | comment
  /-- In a tag that ends with the character `ending` and a closing brace. -/
  | tag (ending : Char) (seen : List Atom)
  /-- In a quoted text in a tag. -/
  | quote (ending : Char) (atoms : List Atom) (mark : Char) (seen : List Char)

/-- The segment of some text, if there is any. -/
def literalSegment (seen : List Char) : List Segment :=
  if seen.isEmpty then [] else [.literal (String.ofList seen.reverse)]

/-- The segment of a tag. -/
def tagSegment (ending : Char) (seen : List Atom) : Segment :=
  if ending = '%' then .statement seen.reverse else .output seen.reverse

/-- Cut a template from a place on. There is no result if a tag, a comment or a quoted text
is not closed. -/
def cutFrom : Place → List Char → Option (List Segment)
  | .text seen, [] => some (literalSegment seen)
  | .text seen, '{' :: '{' :: rest => (literalSegment seen ++ ·) <$> cutFrom (.tag '}' []) rest
  | .text seen, '{' :: '%' :: rest => (literalSegment seen ++ ·) <$> cutFrom (.tag '%' []) rest
  | .text seen, '{' :: '#' :: rest => (literalSegment seen ++ ·) <$> cutFrom .comment rest
  | .text seen, c :: rest => cutFrom (.text (c :: seen)) rest
  | .comment, '#' :: '}' :: rest => cutFrom (.text []) rest
  | .comment, _ :: rest => cutFrom .comment rest
  | .comment, [] => none
  | .tag ending seen, c :: '}' :: rest =>
    if c = ending then (tagSegment ending seen :: ·) <$> cutFrom (.text []) rest
    else if c = '\'' ∨ c = '"' then cutFrom (.quote ending seen c []) ('}' :: rest)
    else cutFrom (.tag ending (.char c :: seen)) ('}' :: rest)
  | .tag ending seen, c :: rest =>
    if c = '\'' ∨ c = '"' then cutFrom (.quote ending seen c []) rest
    else cutFrom (.tag ending (.char c :: seen)) rest
  | .tag _ _, [] => none
  | .quote ending atoms mark seen, c :: rest =>
    if c = mark then cutFrom (.tag ending (.quote (String.ofList seen.reverse) :: atoms)) rest
    else if c = '\\' then none
    else cutFrom (.quote ending atoms mark (c :: seen)) rest
  | .quote .., [] => none

/-- A template's text without the line break at its end. -/
def dropLastBreak (cs : List Char) : List Char :=
  match cs.reverse with
  | '\n' :: '\r' :: rest => rest.reverse
  | '\n' :: rest => rest.reverse
  | _ => cs

/-- The segments of a template's text. -/
def segments? (source : String) : Option (List Segment) :=
  cutFrom (.text []) (dropLastBreak source.toList)

/-! ## Tokens -/

/-- A token of a tag. -/
inductive Token where
  /-- White space. -/
  | blank
  /-- A full stop, before a member's name. -/
  | dot
  /-- A vertical bar, before a filter's name. -/
  | bar
  /-- A word made of name characters. -/
  | word (chars : List Char)
  /-- A quoted text. -/
  | quote (text : String)
deriving DecidableEq

/-- Whether a character may be part of a name. -/
def isNameChar (c : Char) : Bool := c.isAlphanum || c = '_'

/-- Whether a character may stand between tokens. -/
def isSpace (c : Char) : Bool := c = ' ' || c = '\t' || c = '\n' || c = '\r' || c = '\x0c'

/-- The tokens of atoms, white space included. There is no result if a character cannot be
part of a token. -/
def tokensOf : List Atom → Option (List Token)
  | [] => some []
  | .quote text :: rest => (.quote text :: ·) <$> tokensOf rest
  | .char c :: rest => do
    let tokens ← tokensOf rest
    if isNameChar c then
      match tokens with
      | .word chars :: tokens => some (.word (c :: chars) :: tokens)
      | tokens => some (.word [c] :: tokens)
    else if isSpace c then some (.blank :: tokens)
    else if c = '.' then some (.dot :: tokens)
    else if c = '|' then some (.bar :: tokens)
    else none

/-- The tokens of a tag. No word begins with a digit. -/
def tokens? (atoms : List Atom) : Option (List Token) := do
  let tokens := (← tokensOf atoms).filter (· ≠ .blank)
  if tokens.all fun token =>
      match token with
      | .word (c :: _) => !c.isDigit
      | _ => true
  then some tokens else none

/-! ## Expressions -/

/-- The words that stand for values. -/
def constant? (word : String) : Option Json :=
  if word = "true" ∨ word = "True" then some (.bool true)
  else if word = "false" ∨ word = "False" then some (.bool false)
  else if word = "none" ∨ word = "None" then some .null
  else none

/-- The expression that a word is on its own. -/
def ofWord (word : String) : TemplateExpr :=
  match constant? word with
  | some value => .constant value
  | none => .name word

/-- What has been read of an expression when an operand is due. -/
structure Pending where
  /-- The disjunction so far. -/
  disjunction : Option TemplateExpr := none
  /-- The conjunction so far. -/
  conjunction : Option TemplateExpr := none
  /-- How often the next operand is negated. -/
  negations : Nat := 0

namespace Pending

/-- An operand with its negations. -/
def negated (operand : TemplateExpr) : Nat → TemplateExpr
  | 0 => operand
  | count + 1 => .not (negated operand count)

/-- The conjunction that ends with an operand. -/
def joined (pending : Pending) (operand : TemplateExpr) : TemplateExpr :=
  let operand := negated operand pending.negations
  match pending.conjunction with
  | some first => .and first operand
  | none => operand

/-- The expression that ends with an operand. -/
def finished (pending : Pending) (operand : TemplateExpr) : TemplateExpr :=
  match pending.disjunction with
  | some first => .or first (pending.joined operand)
  | none => pending.joined operand

end Pending

mutual

/-- Read an expression of which an operand is due. -/
def operand? (pending : Pending) : List Token → Option TemplateExpr
  | .word chars :: rest =>
    let word := String.ofList chars
    if word = "not" then operand? { pending with negations := pending.negations + 1 } rest
    else afterOperand? pending false (ofWord word) rest
  | .quote text :: rest => afterOperand? pending false (.constant (.string text)) rest
  | _ => none

/-- Read on after an operand. Members are taken before filters are applied. -/
def afterOperand? (pending : Pending) (filtered : Bool) (operand : TemplateExpr) :
    List Token → Option TemplateExpr
  | [] => some (pending.finished operand)
  | .dot :: .word chars :: rest =>
    if filtered then none
    else afterOperand? pending false (.member operand (String.ofList chars)) rest
  | .bar :: .word chars :: rest =>
    afterOperand? pending true (.filter operand (String.ofList chars)) rest
  | .word chars :: rest =>
    let word := String.ofList chars
    if word = "and" then
      operand? { pending with conjunction := pending.joined operand, negations := 0 } rest
    else if word = "or" then
      operand? { disjunction := pending.finished operand } rest
    else none
  | _ => none

end

/-- The expression that some tokens are. -/
def expression? (tokens : List Token) : Option TemplateExpr := operand? {} tokens

/-! ## Blocks -/

/-- A tag that chooses or repeats. -/
inductive Tag where
  | ifTag (condition : TemplateExpr)
  | elifTag (condition : TemplateExpr)
  | forTag (item : String) (items : TemplateExpr)
  | elseTag
  | endifTag
  | endforTag

/-- The names that items of a loop cannot have. -/
def isReserved (word : String) : Bool :=
  (constant? word).isSome || word = "loop" || word = "self"

/-- The tag that some tokens are. -/
def tag? : List Token → Option Tag
  | .word keyword :: rest =>
    match String.ofList keyword, rest with
    | "if", condition => .ifTag <$> expression? condition
    | "elif", condition => .elifTag <$> expression? condition
    | "for", .word item :: .word joint :: items =>
      if String.ofList joint = "in" ∧ !isReserved (String.ofList item) then
        .forTag (String.ofList item) <$> expression? items
      else none
    | "else", [] => some .elseTag
    | "endif", [] => some .endifTag
    | "endfor", [] => some .endforTag
    | _, _ => none
  | _ => none

/-- A block whose end has been read but not yet its beginning. -/
structure OpenBlock where
  /-- Whether the block repeats; otherwise it chooses. -/
  repeats : Bool
  /-- The part for when its condition fails or there is no item, if that has been read. -/
  otherwise : Option Template := none
  /-- What follows the block. -/
  rest : Template

/-- What has been read from the end of a template back to some segment: the part that the
segment belongs to, and the blocks around that part, the innermost first. -/
structure Ending where
  /-- The part from the segment on. -/
  part : Template := .done
  /-- The blocks around it. -/
  blocks : List OpenBlock := []

/-- Go from a tag back to what comes before it. -/
def Ending.beforeTag (ending : Ending) (tag : Tag) : Option Ending :=
  match tag, ending.blocks with
  | .endifTag, blocks => some ⟨.done, ⟨false, none, ending.part⟩ :: blocks⟩
  | .endforTag, blocks => some ⟨.done, ⟨true, none, ending.part⟩ :: blocks⟩
  | .elseTag, ⟨repeats, none, rest⟩ :: blocks =>
    some ⟨.done, ⟨repeats, some ending.part, rest⟩ :: blocks⟩
  | .elifTag condition, ⟨false, otherwise, rest⟩ :: blocks =>
    let chosen := .choose condition ending.part (otherwise.getD .done) .done
    some ⟨.done, ⟨false, some chosen, rest⟩ :: blocks⟩
  | .ifTag condition, ⟨false, otherwise, rest⟩ :: blocks =>
    some ⟨.choose condition ending.part (otherwise.getD .done) rest, blocks⟩
  | .forTag item items, ⟨true, otherwise, rest⟩ :: blocks =>
    some ⟨.forEach item items ending.part (otherwise.getD .done) rest, blocks⟩
  | _, _ => none

/-- Go from a segment back to what comes before it. -/
def Ending.before (ending : Ending) : Segment → Option Ending
  | .literal text => some { ending with part := .literal text ending.part }
  | .output atoms => do
    let value ← expression? (← tokens? atoms)
    some { ending with part := .print value ending.part }
  | .statement atoms => do ending.beforeTag (← tag? (← tokens? atoms))

/-- The end of a template from a segment on. -/
def endingOf : List Segment → Option Ending
  | [] => some {}
  | segment :: rest => do (← endingOf rest).before segment

/-- The template of some segments. Every block must be opened and closed. -/
def ofSegments? (segments : List Segment) : Option Template := do
  let ending ← endingOf segments
  if ending.blocks.isEmpty then some ending.part else none

/-- Read a template. -/
def parse? (source : String) : Option Template := do ofSegments? (← segments? source)

end Template

end RequestDispatch
