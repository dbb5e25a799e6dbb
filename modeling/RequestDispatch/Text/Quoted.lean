import RequestDispatch.Text.Printable

/-!
# Quoted Text

The form in which log lines show texts, lists of texts and maps of texts: in double quotes,
with escapes for quotes, backslashes, control characters and everything that has no visible
form of its own. The last of these are escaped by the hexadecimal digits of the character, which are
written in small letters; where such digits are read, either case will do.
-/

namespace RequestDispatch.Text

/-- The value of a hexadecimal digit. -/
def hexValue? (c : Char) : Option Nat :=
  if '0' ≤ c && c ≤ '9' then some (c.toNat - 48)
  else if 'a' ≤ c && c ≤ 'f' then some (c.toNat - 87)
  else if 'A' ≤ c && c ≤ 'F' then some (c.toNat - 55)
  else none

/-- The byte that two hexadecimal digits name. -/
def hexByte? (high low : Char) : Option Nat := do
  return (← hexValue? high) * 16 + (← hexValue? low)

/-- The lower-case hexadecimal digits of a number. -/
def hexDigits (n : Nat) : List Char := Nat.toDigits 16 n

/-- A character inside double quotes. -/
def quoteChar (c : Char) : List Char :=
  match c with
  | '\x00' => ['\\', '0']
  | '\t' => ['\\', 't']
  | '\r' => ['\\', 'r']
  | '\n' => ['\\', 'n']
  | '"' => ['\\', '"']
  | '\\' => ['\\', '\\']
  | c => if isPrintable c then [c] else ['\\', 'u', '\x7b'] ++ hexDigits c.toNat ++ ['\x7d']

/-- A text in double quotes. -/
def quoted (text : String) : String :=
  String.ofList ('"' :: text.toList.flatMap quoteChar ++ ['"'])

/-- A list of quoted texts in square brackets. -/
def quotedList (texts : List String) : String :=
  "[" ++ ", ".intercalate (texts.map quoted) ++ "]"

/-- A list of quoted names with their quoted values in braces. -/
def quotedMap (entries : List (String × String)) : String :=
  "\x7b" ++ ", ".intercalate (entries.map fun entry => quoted entry.1 ++ ": " ++ quoted entry.2)
    ++ "\x7d"

end RequestDispatch.Text
