/-!
# UTF-8 with Replacement

Decoding bytes that need not be well-formed UTF-8. Every maximal part of a broken sequence,
that is the bytes that could still have begun a character, gives one replacement character
U+FFFD; decoding goes on with the byte that broke the sequence.
-/

namespace RequestDispatch.Text

/-- A character whose lead byte has been read but not all its continuation bytes. -/
structure Unfinished where
  /-- How many continuation bytes are missing. -/
  missing : Nat
  /-- The least value of the next byte. -/
  low : Nat
  /-- The greatest value of the next byte. -/
  high : Nat
  /-- The value of the bits read so far. -/
  code : Nat

/-- The character that stands for bytes that are no UTF-8. -/
def replacement : Char := '\uFFFD'

/-- Read a byte where a character begins: the characters it completes and what it leaves
unfinished. -/
def beginChar (byte : Nat) : List Char × Option Unfinished :=
  if byte < 0x80 then ([Char.ofNat byte], none)
  else if byte < 0xC2 then ([replacement], none)
  else if byte < 0xE0 then ([], some ⟨1, 0x80, 0xBF, byte - 0xC0⟩)
  else if byte = 0xE0 then ([], some ⟨2, 0xA0, 0xBF, 0⟩)
  else if byte = 0xED then ([], some ⟨2, 0x80, 0x9F, 0xD⟩)
  else if byte < 0xF0 then ([], some ⟨2, 0x80, 0xBF, byte - 0xE0⟩)
  else if byte = 0xF0 then ([], some ⟨3, 0x90, 0xBF, 0⟩)
  else if byte < 0xF4 then ([], some ⟨3, 0x80, 0xBF, byte - 0xF0⟩)
  else if byte = 0xF4 then ([], some ⟨3, 0x80, 0x8F, 4⟩)
  else ([replacement], none)

/-- Read one byte after what was left unfinished before it. -/
def readByte (unfinished : Option Unfinished) (byte : Nat) : List Char × Option Unfinished :=
  match unfinished with
  | none => beginChar byte
  | some part =>
    if part.low ≤ byte && byte ≤ part.high then
      let code := part.code * 64 + (byte - 0x80)
      if part.missing ≤ 1 then ([Char.ofNat code], none)
      else ([], some ⟨part.missing - 1, 0x80, 0xBF, code⟩)
    else
      let (chars, next) := beginChar byte
      (replacement :: chars, next)

/-- Decode bytes, starting from what is left unfinished by the bytes before them. -/
def decodeFrom (unfinished : Option Unfinished) : List Nat → List Char
  | [] => if unfinished.isSome then [replacement] else []
  | byte :: bytes =>
    let (chars, next) := readByte unfinished byte
    chars ++ decodeFrom next bytes

/-- The text of some bytes, each maximal broken part replaced by U+FFFD. -/
def decodeLossy (bytes : List Nat) : String := String.ofList (decodeFrom none bytes)

/-- The UTF-8 bytes of a text. -/
def bytesOf (text : String) : List Nat := text.toUTF8.toList.map UInt8.toNat

end RequestDispatch.Text
