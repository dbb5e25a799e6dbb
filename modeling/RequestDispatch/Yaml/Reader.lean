import RequestDispatch.NameMap
import RequestDispatch.Yaml.Text

/-!
# Reading YAML

From text to `YamlDocument`. Nodes are read by recursive descent, where collections are told
by indentation or written in brackets. Each call either passes over a character or goes from a
place to a smaller kind of node at the same place, so a bound on the calls that is a multiple
of the text's length is never reached.
-/

namespace RequestDispatch.Yaml

/-- A node that has been read. -/
structure Reading where
  /-- The node. -/
  node : YamlNode
  /-- The place after it. -/
  after : Cursor
  /-- Whether it is well-formed. -/
  wellFormed : Bool := true

/-- A reading that comes upon something wrong. -/
def stuck (cursor : Cursor) : Reading := ⟨.broken, cursor, false⟩

/-- An absent node. -/
def absent (cursor : Cursor) : Reading := ⟨.plain "", cursor, true⟩

/-! ## Names, references and tags -/

/-- Whether a character may occur in the name of a node. -/
def isAnchorChar (c : Char) : Bool := c.isAlphanum || c = '-' || c = '_'

/-- The name that begins some characters, and what follows it. -/
def anchorName? (cs : List Char) : Option (String × List Char) :=
  let name := cs.takeWhile isAnchorChar
  let rest := cs.drop name.length
  let ends := atGap rest ||
    rest.head?.any fun c => ['?', ':', ',', ']', '}', '%', '@', '\x60'].contains c
  if name.isEmpty || !ends then none else some (String.ofList name, rest)

/-- The place after white space on the present line. -/
def Cursor.skipBlanks (cursor : Cursor) : Cursor :=
  cursor.advance (cursor.rest.dropWhile isBlank)

/-- The name that is given to a node here, if one is, and the place after it. -/
def anchor? (cursor : Cursor) : Option (Option String × Cursor) :=
  match cursor.rest with
  | '&' :: rest =>
    (anchorName? rest).map fun (name, rest) => (some name, (cursor.advance rest).skipBlanks)
  | _ => some (none, cursor)

/-- The place after a tag, if there is one here. -/
def afterTag? (cursor : Cursor) : Option Cursor :=
  match cursor.rest with
  | '!' :: rest =>
    let rest := rest.dropWhile fun c => !(isBlank c || c = '\n' || isFlowMark c)
    if atGap rest || rest.head? == some ',' then some (cursor.advance rest).skipBlanks else none
  | _ => some cursor

/-- The name in front of a node, if it has one, and the place after name and tag, which come
in either order. -/
def properties? (cursor : Cursor) : Option (Option String × Cursor) := do
  let (name, place) ← anchor? cursor
  let place ← afterTag? place
  match name with
  | some _ => return (name, place)
  | none => anchor? place

/-- Whether a name or a tag stands between two places. -/
def passed (before after : Cursor) : Bool := after.rest.length < before.rest.length

/-- The name in front of a node that does not begin on the present line, and the place after
name and tag. -/
def lineProperties? (cursor : Cursor) : Option (Option String × Cursor) :=
  (properties? cursor).filter fun (_, place) =>
    passed cursor place && (place.rest.isEmpty || place.rest.head?.any fun c => c = '\n' || c = '#')

/-- Give a node that has been read a name. -/
def named (name : Option String) (reading : Reading) : Reading :=
  match name with
  | none => reading
  | some name =>
    let anchors := (name, reading.node) :: reading.after.anchors
    { reading with after := { reading.after with anchors } }

/-- The node that a reference refers to. -/
def reference (cursor : Cursor) : Reading :=
  match anchorName? (cursor.rest.drop 1) with
  | none => stuck cursor
  | some (name, rest) =>
    match RequestDispatch.lookupByName name cursor.anchors with
    | some node => ⟨node, cursor.advance rest, true⟩
    | none => stuck cursor

/-! ## Parts of collections -/

/-- Whether a character stands here that is followed by a gap, as the marks of items, keys and
values are. -/
def atMark (mark : Char) (cursor : Cursor) : Bool :=
  match cursor.rest with
  | c :: rest => c = mark && atGap rest
  | [] => false

/-- The place after one character. -/
def Cursor.next (cursor : Cursor) : Cursor := cursor.advance (cursor.rest.drop 1)

/-- How many characters may be between the beginning of a key that is not marked and its
colon. -/
def keyLimit : Nat := 1024

/-- Whether a colon at a place can belong to a key that begins at `key` and is not marked: the
two are on one line and not far apart. -/
def isNear (key place : Cursor) : Bool :=
  place.line = key.line && key.rest.length ≤ place.rest.length + keyLimit

/-- The place after the colon that follows a key outside brackets, if one does. -/
def afterKey? (key : Cursor) (cursor : Cursor) : Option Cursor :=
  let place := cursor.skipBlanks
  if atMark ':' place && isNear key place then some place.next else none

/-- A scalar in brackets. -/
def bracketScalar (fuel : Nat) (cursor : Cursor) : Reading :=
  match cursor.rest with
  | '"' :: _ | '\'' :: _ =>
    match quotedText? cursor with
    | some (text, after) => ⟨.quoted text, after, true⟩
    | none => stuck cursor
  | rest =>
    if !beginsPlain true rest then stuck cursor
    else
      let (first, after) := plainPart true cursor
      let (more, last) := plainLines true 0 fuel after
      let text := first ++ more
      if text.getLast? == some ':' && last.rest.head?.any isFlowMark then stuck cursor
      else ⟨.plain (String.ofList text), last, true⟩

/-- A scalar outside brackets, on one or more lines. -/
def scalar (fuel : Nat) (indent : Int) (cursor : Cursor) : Reading :=
  match cursor.rest with
  | '"' :: _ | '\'' :: _ =>
    match quotedText? cursor with
    | some (text, after) => ⟨.quoted text, after, true⟩
    | none => stuck cursor
  | '|' :: _ | '>' :: _ =>
    match block? indent cursor with
    | some (text, after) => ⟨.quoted text, after, true⟩
    | none => stuck cursor
  | rest =>
    if !beginsPlain false rest then stuck cursor
    else
      let (first, after) := plainPart false cursor
      let (more, last) := plainLines false indent fuel after
      ⟨.plain (String.ofList (first ++ more)), last, true⟩

mutual

/-- A node in brackets. -/
def bracketNode : (fuel : Nat) → Cursor → Reading
  | 0, cursor => stuck cursor
  | fuel + 1, cursor =>
    match properties? cursor with
    | none => stuck cursor
    | some (name, place) =>
      let isMarked := passed cursor place
      let place := if isMarked then place.skip true else place
      named name <|
        match place.rest with
        | '[' :: _ => bracketSequence fuel [] (place.next.skip true)
        | '{' :: _ => bracketMapping fuel [] (place.next.skip true)
        | '*' :: _ => if isMarked then stuck place else reference place
        | ',' :: _ | ']' :: _ | '}' :: _ | ':' :: _ =>
          if isMarked then absent place else stuck place
        | _ => bracketScalar fuel place

/-- A part of an entry in brackets, which is absent where the entry ends. -/
def bracketPart : (fuel : Nat) → Cursor → Reading
  | 0, cursor => stuck cursor
  | fuel + 1, cursor =>
    match cursor.rest with
    | ',' :: _ | ']' :: _ | '}' :: _ => absent cursor
    | _ => bracketNode fuel cursor

/-- An entry in brackets: its key, and its value if a colon follows the key or a question mark
stands before it. -/
def bracketEntry : (fuel : Nat) → Cursor → Reading × Option Reading
  | 0, cursor => (stuck cursor, none)
  | fuel + 1, cursor =>
    let isMarked := cursor.rest.head? == some '?'
    let start := if isMarked then cursor.next.skip true else cursor
    let key :=
      if !isMarked then bracketNode fuel start
      else if start.rest.head? == some ':' then absent start
      else bracketPart fuel start
    let place := key.after.skip true
    if !key.wellFormed then (key, none)
    else if place.rest.head? == some ':' && (isMarked || isNear cursor place) then
      (key, some (bracketPart fuel (place.next.skip true)))
    else (key, if isMarked then some (absent place) else none)

/-- The items of a sequence in square brackets after those read so far. An item may be an
entry, which stands for a mapping without other entries. -/
def bracketSequence : (fuel : Nat) → List YamlNode → Cursor → Reading
  | 0, _, cursor => stuck cursor
  | fuel + 1, items, cursor =>
    match cursor.rest with
    | ']' :: _ => ⟨.sequence items, cursor.next, true⟩
    | _ =>
      let (key, value) := bracketEntry fuel cursor
      let item : Reading := match value with
        | some value => ⟨.mapping [(key.node, value.node)], value.after, value.wellFormed⟩
        | none => key
      let items := items ++ [item.node]
      let place := item.after.skip true
      if !item.wellFormed then ⟨.sequence items, place, false⟩
      else
        match place.rest with
        | ',' :: _ => bracketSequence fuel items (place.next.skip true)
        | ']' :: _ => ⟨.sequence items, place.next, true⟩
        | _ => ⟨.sequence (items ++ [.broken]), place, false⟩

/-- The entries of a mapping in braces after those read so far. -/
def bracketMapping : (fuel : Nat) → List (YamlNode × YamlNode) → Cursor → Reading
  | 0, _, cursor => stuck cursor
  | fuel + 1, entries, cursor =>
    match cursor.rest with
    | '}' :: _ => ⟨.mapping entries, cursor.next, true⟩
    | _ =>
      let (key, value) := bracketEntry fuel cursor
      if !key.wellFormed then ⟨.mapping (entries ++ [(key.node, .broken)]), key.after, false⟩
      else
        let value := value.getD (absent key.after)
        let entries := entries ++ [(key.node, value.node)]
        let place := value.after.skip true
        if !value.wellFormed then ⟨.mapping entries, place, false⟩
        else
          match place.rest with
          | ',' :: _ => bracketMapping fuel entries (place.next.skip true)
          | '}' :: _ => ⟨.mapping entries, place.next, true⟩
          | _ => ⟨.mapping (entries ++ [(.broken, .broken)]), place, false⟩

end

/-! ## Nodes told by indentation -/

/-- A node that is no collection told by indentation. -/
def inlineNode (fuel : Nat) (indent : Int) (cursor : Cursor) : Reading :=
  match properties? cursor with
  | none => stuck cursor
  | some (name, place) =>
    named name <|
      match place.rest with
      | '[' :: _ | '{' :: _ => bracketNode fuel place
      | '*' :: _ => if passed cursor place then stuck place else reference place
      | _ => scalar fuel indent place

/-- A node that begins on a line on which no collection told by indentation may begin. After a
name or a tag alone on the line, it is read by `below` from the place where it begins. -/
def lineNode (fuel : Nat) (indent : Int) (below : Cursor → Reading) (cursor : Cursor) :
    Reading :=
  if atMark '-' cursor then stuck cursor
  else
    match lineProperties? cursor with
    | some (name, after) => named name (below (after.skip false))
    | none => inlineNode fuel indent cursor

/-- A key that is not marked, without name and tag. It is written on a single line, and absent
only if it has a name or a tag. -/
def bareKey (fuel : Nat) (hasProperties : Bool) (cursor : Cursor) : Reading :=
  match cursor.rest with
  | '[' :: _ | '{' :: _ => bracketNode fuel cursor
  | '*' :: _ => if hasProperties then stuck cursor else reference cursor
  | '"' :: _ | '\'' :: _ => scalar fuel 0 cursor
  | rest =>
    if beginsPlain false rest then
      let (part, after) := plainPart false cursor
      ⟨.plain (String.ofList part), after, true⟩
    else if hasProperties && atMark ':' cursor then absent cursor
    else stuck cursor

/-- The key of an entry that begins here if it is not marked, and the place after its colon. -/
def key? (fuel : Nat) (cursor : Cursor) : Option (YamlNode × Cursor) := do
  let (name, place) ← properties? cursor
  let key := named name (bareKey fuel (passed cursor place) place)
  let after ← afterKey? cursor key.after
  if key.wellFormed then return (key.node, after) else none

mutual

/-- A node within one of some indentation. -/
def node : (fuel : Nat) → (indent : Int) → Cursor → Reading
  | 0, _, cursor => stuck cursor
  | fuel + 1, indent, cursor =>
    if atMark '-' cursor then blockSequence fuel cursor.column [] cursor
    else
      match lineProperties? cursor with
      | some (name, after) =>
        let place := after.skip false
        named name <|
          if place.atEnd || Int.ofNat place.column ≤ indent then absent place
          else node fuel indent place
      | none =>
        if atMark '?' cursor || (key? fuel cursor).isSome then
          blockMapping fuel cursor.column [] cursor
        else inlineNode fuel indent cursor

/-- A part of an entry of a mapping in a column, where a collection may begin. -/
def blockPart : (fuel : Nat) → (column : Nat) → Cursor → Reading
  | 0, _, cursor => stuck cursor
  | fuel + 1, column, cursor =>
    if cursor.atEnd then absent cursor
    else if cursor.column = column && atMark '-' cursor then blockSequence fuel column [] cursor
    else if cursor.column ≤ column then absent cursor
    else node fuel column cursor

/-- The value of an entry of a mapping in a column, from its colon on. -/
def blockValue : (fuel : Nat) → (column : Nat) → Cursor → Reading
  | 0, _, cursor => stuck cursor
  | fuel + 1, column, cursor =>
    let place := cursor.skip false
    if place.atEnd || place.line ≠ cursor.line then blockPart fuel column place
    else lineNode fuel column (blockPart fuel column) place

/-- An entry of a mapping in a column: its key and the reading of its value. -/
def blockEntry : (fuel : Nat) → (column : Nat) → Cursor → YamlNode × Reading
  | 0, _, cursor => (.broken, stuck cursor)
  | fuel + 1, column, cursor =>
    if atMark '?' cursor then
      let key := blockPart fuel column (cursor.next.skip false)
      let place := key.after.skip false
      if !key.wellFormed then (key.node, stuck place)
      else if place.column = column && atMark ':' place then
        (key.node, blockPart fuel column (place.next.skip false))
      else (key.node, absent place)
    else
      match key? fuel cursor with
      | some (key, place) => (key, blockValue fuel column place)
      | none => (.broken, stuck cursor)

/-- The items of a sequence in a column, from an item on. -/
def blockSequence : (fuel : Nat) → (column : Nat) → List YamlNode → Cursor → Reading
  | 0, _, _, cursor => stuck cursor
  | fuel + 1, column, items, cursor =>
    let place := cursor.next.skip false
    let item :=
      if place.atEnd || place.column ≤ column then absent place
      else node fuel column place
    let items := items ++ [item.node]
    if !item.wellFormed then ⟨.sequence items, item.after, false⟩
    else
      let place := item.after.skip false
      if place.atEnd || place.column < column then ⟨.sequence items, place, true⟩
      else if place.column = column && atMark '-' place then
        blockSequence fuel column items place
      else if place.column = column then ⟨.sequence items, place, true⟩
      else ⟨.sequence (items ++ [.broken]), place, false⟩

/-- The entries of a mapping in a column, from an entry on. -/
def blockMapping : (fuel : Nat) → (column : Nat) → List (YamlNode × YamlNode) → Cursor → Reading
  | 0, _, _, cursor => stuck cursor
  | fuel + 1, column, entries, cursor =>
    let (key, value) := blockEntry fuel column cursor
    let entries := entries ++ [(key, value.node)]
    if !value.wellFormed then ⟨.mapping entries, value.after, false⟩
    else
      let place := value.after.skip false
      if place.atEnd || place.column < column then ⟨.mapping entries, place, true⟩
      else if place.column = column then blockMapping fuel column entries place
      else ⟨.mapping (entries ++ [(.broken, .broken)]), place, false⟩

end

/-! ## Documents -/

/-- Whether a line is a directive: the version of the language, or a shorthand for tags. -/
def isDirective (line : List Char) : Bool :=
  let words := (RequestDispatch.Text.pieces isBlank line).filter (!·.isEmpty)
  match words.map String.ofList with
  | ["%YAML", "1.1"] | ["%YAML", "1.2"] | ["%TAG", _, _] => true
  | _ => false

/-- The place after the directives in front of a document, if they are well-formed. -/
def afterDirectives? : (fuel : Nat) → Cursor → Option Cursor
  | 0, _ => none
  | fuel + 1, cursor =>
    match cursor.rest with
    | '%' :: _ =>
      let line := cursor.rest.takeWhile (· ≠ '\n')
      if cursor.column = 0 && isDirective line then
        afterDirectives? fuel ((cursor.advance (cursor.rest.drop line.length)).skip false)
      else none
    | _ => some cursor

/-- The place where a document's content begins, if what is in front of it is well-formed, and
whether that is after the marker that begins a document. The marker must be there if there are
directives. -/
def contentPlace? (cursor : Cursor) : Option (Cursor × Bool) := do
  let place ← afterDirectives? (cursor.rest.length + 1) cursor
  if !place.atMarker then
    if passed cursor place then none else return (place, false)
  else if place.rest.head? == some '-' then return (place.advance (place.rest.drop 3), true)
  else none

/-- A document's root. On the line of the marker that begins the document, no collection told by
indentation may begin. -/
def rootNode (cursor : Cursor) (afterMarker : Bool) : Reading :=
  let fuel := 4 * cursor.rest.length + 16
  let root := fun place : Cursor => if place.atEnd then absent place else node fuel (-1) place
  let place := cursor.skip false
  if afterMarker && !place.atEnd && place.line = cursor.line then lineNode fuel (-1) root place
  else root place

/-- Whether nothing comes after a document's root. A document may be ended by a marker of three
dots, but no other document may follow. -/
def nothingFollows (cursor : Cursor) : Bool :=
  cursor.rest.isEmpty ||
    (cursor.atMarker && cursor.rest.head? == some '.' &&
      ((cursor.advance (cursor.rest.drop 3)).skip false).rest.isEmpty)

/-- Read a document. One that holds nothing has an absent root. -/
def parse (source : String) : YamlDocument :=
  let chars := unifyBreaks source.toList
  let chars := if chars.head? = some '\ufeff' then chars.drop 1 else chars
  if !chars.all isAllowed then ⟨.broken, false⟩
  else
    match contentPlace? (Cursor.skip false { rest := chars }) with
    | none => ⟨.broken, false⟩
    | some (start, afterMarker) =>
      let root := rootNode start afterMarker
      ⟨root.node, root.wellFormed && nothingFollows (root.after.skip false)⟩

end RequestDispatch.Yaml
