import RequestDispatch.Decimal.Reading
import RequestDispatch.Json.Basic
import RequestDispatch.Text.Quoted

/-!
# Reading JSON

The value that a JSON text denotes. Whole numbers that fit in 64 bits stay whole; all other
numbers are floating-point. Of two members of one name the later counts.
-/

namespace RequestDispatch.Json

open Text

/-- Drop the white space that JSON allows between tokens. -/
def skipBlanks (cs : List Char) : List Char :=
  cs.dropWhile fun c => c = ' ' || c = '\n' || c = '\r' || c = '\t'

/-- The value of four hexadecimal digits. -/
def hexUnit? (a b c d : Char) : Option Nat := do
  return (← hexByte? a b) * 256 + (← hexByte? c d)

/-- The characters of a string up to its closing quote, and what follows the quote. -/
def readString? : List Char → Option (List Char × List Char)
  | [] => none
  | '"' :: rest => some ([], rest)
  | '\\' :: 'u' :: a :: b :: c :: d :: '\\' :: 'u' :: a' :: b' :: c' :: d' :: rest => do
    let first ← hexUnit? a b c d
    if 0xD800 ≤ first && first < 0xDC00 then
      let second ← hexUnit? a' b' c' d'
      if 0xDC00 ≤ second && second < 0xE000 then
        let (chars, after) ← readString? rest
        let code := 0x10000 + (first - 0xD800) * 0x400 + (second - 0xDC00)
        return (Char.ofNat code :: chars, after)
      else none
    else if 0xDC00 ≤ first && first < 0xE000 then none
    else
      let (chars, after) ← readString? ('\\' :: 'u' :: a' :: b' :: c' :: d' :: rest)
      return (Char.ofNat first :: chars, after)
  | '\\' :: 'u' :: a :: b :: c :: d :: rest => do
    let unit ← hexUnit? a b c d
    if 0xD800 ≤ unit && unit < 0xE000 then none
    else
      let (chars, after) ← readString? rest
      return (Char.ofNat unit :: chars, after)
  | '\\' :: c :: rest => do
    let char ←
      match c with
      | '"' => some '"'
      | '\\' => some '\\'
      | '/' => some '/'
      | 'b' => some '\x08'
      | 'f' => some '\x0c'
      | 'n' => some '\n'
      | 'r' => some '\r'
      | 't' => some '\t'
      | _ => none
    let (chars, after) ← readString? rest
    return (char :: chars, after)
  | c :: rest => do
    if c.toNat < 0x20 then none
    else
      let (chars, after) ← readString? rest
      return (c :: chars, after)

/-- Whether a character may occur in a number. -/
def isNumberChar (c : Char) : Bool :=
  c.isDigit || c = '-' || c = '+' || c = '.' || c = 'e' || c = 'E'

/-- Whether a text is a whole number without needless zeros in front. -/
def isWhole : List Char → Bool
  | ['0'] => true
  | '0' :: _ => false
  | digits => !digits.isEmpty && digits.all Char.isDigit

/-- Whether a text is an optional power of ten. -/
def isPower : List Char → Bool
  | [] => true
  | c :: rest =>
    let digits := (Decimal.takeSign rest).2
    (c = 'e' || c = 'E') && !digits.isEmpty && digits.all Char.isDigit

/-- Whether what follows the whole part of a number is well-formed: optional decimal places
and an optional power of ten. -/
def isPlaces : List Char → Bool
  | '.' :: rest => !(rest.takeWhile Char.isDigit).isEmpty && isPower (rest.dropWhile Char.isDigit)
  | rest => isPower rest

/-- The number that a text denotes. -/
def number? (cs : List Char) : Option JsonNumber :=
  let negative := cs.head? == some '-'
  let magnitude := if negative then cs.drop 1 else cs
  let digits := magnitude.takeWhile Char.isDigit
  let places := magnitude.dropWhile Char.isDigit
  let n := Decimal.ofDigits digits
  if !isWhole digits || !isPlaces places then none
  else if places.isEmpty && !negative && n < Nat.pow 2 64 then some (.whole (Int.ofNat n))
  else if places.isEmpty && negative && n ≠ 0 && n ≤ Nat.pow 2 63 then some (.whole (-Int.ofNat n))
  else (Decimal.read? (String.ofList cs)).map .float

mutual

/-- The value at the beginning of a text, and what follows it. -/
def readValue? (fuel : Nat) (cs : List Char) : Option (Json × List Char) :=
  match fuel with
  | 0 => none
  | fuel + 1 =>
    match skipBlanks cs with
    | 'n' :: 'u' :: 'l' :: 'l' :: rest => some (null, rest)
    | 't' :: 'r' :: 'u' :: 'e' :: rest => some (bool true, rest)
    | 'f' :: 'a' :: 'l' :: 's' :: 'e' :: rest => some (bool false, rest)
    | '"' :: rest => (readString? rest).map fun (chars, after) =>
        (string (String.ofList chars), after)
    | '[' :: rest =>
      match skipBlanks rest with
      | ']' :: after => some (array [], after)
      | rest => (readItems? fuel rest).map fun (items, after) => (array items, after)
    | '\x7b' :: rest =>
      match skipBlanks rest with
      | '\x7d' :: after => some (object [], after)
      | rest => (readMembers? fuel rest).map fun (members, after) => (ofMembers members, after)
    | rest =>
      (number? (rest.takeWhile isNumberChar)).map fun value =>
        (number value, rest.dropWhile isNumberChar)

/-- The items of an array up to its closing bracket. -/
def readItems? (fuel : Nat) (cs : List Char) : Option (List Json × List Char) :=
  match fuel with
  | 0 => none
  | fuel + 1 => do
    let (item, rest) ← readValue? fuel cs
    match skipBlanks rest with
    | ']' :: after => return ([item], after)
    | ',' :: rest =>
      let (items, after) ← readItems? fuel rest
      return (item :: items, after)
    | _ => none

/-- The members of an object up to its closing brace. -/
def readMembers? (fuel : Nat) (cs : List Char) : Option (List (String × Json) × List Char) :=
  match fuel with
  | 0 => none
  | fuel + 1 =>
    match skipBlanks cs with
    | '"' :: rest => do
      let (name, rest) ← readString? rest
      match skipBlanks rest with
      | ':' :: rest =>
        let (value, rest) ← readValue? fuel rest
        let entry := (String.ofList name, value)
        match skipBlanks rest with
        | '\x7d' :: after => return ([entry], after)
        | ',' :: rest =>
          let (members, after) ← readMembers? fuel rest
          return (entry :: members, after)
        | _ => none
      | _ => none
    | _ => none

end

/-- The value of a JSON text; none if the text is no JSON. -/
def parse? (text : String) : Option Json :=
  let cs := text.toList
  match readValue? (2 * cs.length + 2) cs with
  | some (value, rest) => if (skipBlanks rest).isEmpty then some value else none
  | none => none

end RequestDispatch.Json
