/-!
# Cutting Text

Splitting text at characters, trimming it, and replacing every occurrence of a word. The
functions work on lists of characters, where their laws are proved by structural induction;
each has a companion on `String`.
-/

namespace RequestDispatch.Text

/-- The characters before the first one that satisfies `stop`; all of them if none does. -/
def before (stop : Char → Bool) (cs : List Char) : List Char := cs.takeWhile (!stop ·)

/-- The characters after the first one that satisfies `stop`; none if there is no such
character. -/
def after? (stop : Char → Bool) : List Char → Option (List Char)
  | [] => none
  | c :: rest => if stop c then some rest else after? stop rest

/-- The part of a text before its first character that satisfies `stop`. -/
def upTo (stop : Char → Bool) (text : String) : String :=
  String.ofList (before stop text.toList)

/-- The part of a text after its first character that satisfies `stop`. -/
def following? (stop : Char → Bool) (text : String) : Option String :=
  (after? stop text.toList).map String.ofList

/-- The pieces of a list of characters between those that satisfy `stop`. There is always at
least one piece, and pieces may be empty. -/
def pieces (stop : Char → Bool) : List Char → List (List Char)
  | [] => [[]]
  | c :: rest =>
    if stop c then [] :: pieces stop rest
    else
      match pieces stop rest with
      | [] => [[c]]
      | piece :: others => (c :: piece) :: others

/-- The pieces of a text between the characters that satisfy `stop`. -/
def splitAt (stop : Char → Bool) (text : String) : List String :=
  (pieces stop text.toList).map String.ofList

/-- A list of characters without its longest ending of characters that satisfy `p`. -/
def dropEnd (p : Char → Bool) (cs : List Char) : List Char := (cs.reverse.dropWhile p).reverse

/-- Whether a character is white space (the Unicode property White_Space). -/
def isBlank (c : Char) : Bool :=
  let code := c.toNat
  (9 ≤ code && code ≤ 13) || code == 0x20 || code == 0x85 || code == 0xa0 || code == 0x1680 ||
    (0x2000 ≤ code && code ≤ 0x200a) || code == 0x2028 || code == 0x2029 || code == 0x202f ||
    code == 0x205f || code == 0x3000

/-- A text without the white space at its two ends. -/
def trim (text : String) : String :=
  String.ofList (dropEnd isBlank (text.toList.dropWhile isBlank))

/-- What follows `head` in a list of characters that starts with it. -/
def rest? : List Char → List Char → Option (List Char)
  | [], cs => some cs
  | _ :: _, [] => none
  | h :: head, c :: cs => if h = c then rest? head cs else none

/-- What precedes `tail` in a list of characters that ends with it. -/
def init? (tail cs : List Char) : Option (List Char) :=
  (rest? tail.reverse cs.reverse).map List.reverse

/-- Replace every occurrence of `old`, from left to right, after passing over the first
`skip` characters. The characters of an occurrence are passed over once it is replaced, so
occurrences do not overlap and inserted text is not searched again. -/
def replaceFrom (old new : List Char) : Nat → List Char → List Char
  | _, [] => []
  | skip + 1, _ :: cs => replaceFrom old new skip cs
  | 0, c :: cs =>
    if old.isPrefixOf (c :: cs) then new ++ replaceFrom old new (old.length - 1) cs
    else c :: replaceFrom old new 0 cs

/-- Replace every occurrence of a non-empty word in a text. -/
def replaceWord (old new text : String) : String :=
  if old.isEmpty then text
  else String.ofList (replaceFrom old.toList new.toList 0 text.toList)

/-- Whether two texts are equal when the letters A to Z and a to z are not told apart. -/
def equalIgnoringCase (a b : String) : Bool :=
  a.toList.map Char.toLower == b.toList.map Char.toLower

end RequestDispatch.Text
