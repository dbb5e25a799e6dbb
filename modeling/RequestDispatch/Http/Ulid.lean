/-!
# ULIDs

Identifiers of 128 bits written as 26 digits of base 32. The digits are those of Crockford:
the numerals and the capital letters without I, L, O and U. Reading accepts small letters
too. Twenty-six digits hold 130 bits; the two highest are dropped.
-/

namespace RequestDispatch

/-- An identifier of 128 bits. -/
structure Ulid where
  /-- The bits. -/
  bits : BitVec 128
deriving DecidableEq

namespace Ulid

/-- Why a text is no identifier. -/
inductive Fault where
  /-- It does not have 26 bytes. -/
  | length
  /-- It has a character that is no digit. -/
  | character
deriving DecidableEq, Repr

/-- What is wrong, in words. -/
def Fault.message : Fault → String
  | length => "invalid length"
  | character => "invalid character"

/-- The digits of base 32 in the order of their values. -/
def digits : List Char := "0123456789ABCDEFGHJKMNPQRSTVWXYZ".toList

/-- The number of digits of an identifier. -/
def width : Nat := 26

/-- The value of a digit, in capitals or not. -/
def digitValue? (c : Char) : Option Nat := digits.idxOf? c.toUpper

/-- Append the digits of a text to the bits read before them, highest digit first. -/
def readDigits (bits : BitVec 128) : List Char → Except Fault (BitVec 128)
  | [] => .ok bits
  | c :: rest =>
    match digitValue? c with
    | none => .error .character
    | some value => readDigits (bits <<< 5 ||| BitVec.ofNat 128 value) rest

/-- Read an identifier. The length, in bytes, is checked before the digits are. -/
def parse (text : String) : Except Fault Ulid :=
  if text.utf8ByteSize ≠ width then .error .length
  else (readDigits 0 text.toList).map Ulid.mk

/-- The last `count` digits of a number, the highest first. -/
def lastDigits : Nat → Nat → List Char
  | 0, _ => []
  | count + 1, value => lastDigits count (value / 32) ++ [digits.getD (value % 32) '0']

/-- The 26 digits of an identifier. -/
def text (ulid : Ulid) : String := String.ofList (lastDigits width ulid.bits.toNat)

end Ulid

end RequestDispatch
