import RequestDispatch.Decimal.Notation
import RequestDispatch.Decimal.Reading
import RequestDispatch.Text.Quoted

/-!
# YAML Scalars

What a scalar without quotes stands for, where it does not stand for its text: nothing, a
truth value or a number.
-/

namespace RequestDispatch.Yaml

open Text

/-- What a scalar without quotes stands for. -/
inductive Meaning where
  | nothing
  | bool (value : Bool)
  | integer (value : Int)
  | float (value : Float)
  | text (value : String)

/-- The truth value that a scalar stands for. -/
def bool? : String → Option Bool
  | "true" | "True" | "TRUE" => some true
  | "false" | "False" | "FALSE" => some false
  | _ => none

/-- Whether a scalar stands for nothing. -/
def isNothing : String → Bool
  | "" | "null" | "Null" | "NULL" | "~" => true
  | _ => false

/-- The value of a digit in a base of at most sixteen. -/
def digit? (base : Nat) (c : Char) : Option Nat :=
  let value :=
    if c.isDigit then c.toNat - '0'.toNat
    else if 'a' ≤ c ∧ c ≤ 'f' then c.toNat - 'a'.toNat + 10
    else if 'A' ≤ c ∧ c ≤ 'F' then c.toNat - 'A'.toNat + 10
    else base
  if value < base then some value else none

/-- The number that digits denote in a base. -/
def natural? (base : Nat) (digits : List Char) : Option Nat :=
  if digits.isEmpty then none
  else digits.foldlM (fun n c => (digit? base c).map (n * base + ·)) 0

/-- Digits in the base that their first two characters name: a zero followed by `x`, `o` or
`b`. Decimal digits do not begin with a zero, unless it is the only digit. -/
def unsigned? : List Char → Option Nat
  | '0' :: 'x' :: digits => natural? 16 digits
  | '0' :: 'o' :: digits => natural? 8 digits
  | '0' :: 'b' :: digits => natural? 2 digits
  | ['0'] => some 0
  | '0' :: _ => none
  | digits => natural? 10 digits

/-- The whole number that a scalar stands for. -/
def integer? (text : String) : Option Int :=
  match text.toList with
  | '-' :: digits => (unsigned? digits).map fun value => -Int.ofNat value
  | '+' :: digits => (unsigned? digits).map Int.ofNat
  | digits => (unsigned? digits).map Int.ofNat

/-- Whether a text is more than one decimal digit with a zero in front, after a sign. -/
def hasLeadingZero (text : String) : Bool :=
  let digits :=
    match text.toList with
    | '-' :: digits | '+' :: digits => digits
    | digits => digits
  match digits with
  | '0' :: rest => !rest.isEmpty && rest.all Char.isDigit
  | _ => false

/-- The floating-point number that a scalar stands for. -/
def float? (text : String) : Option Float :=
  match text with
  | ".inf" | ".Inf" | ".INF" | "+.inf" | "+.Inf" | "+.INF" => some (1.0 / 0.0)
  | "-.inf" | "-.Inf" | "-.INF" => some (-1.0 / 0.0)
  | ".nan" | ".NaN" | ".NAN" => some (0.0 / 0.0)
  | _ =>
    if hasLeadingZero text then none
    else (Decimal.read? text).filter fun value => value.isFinite

/-- What a scalar without quotes stands for. -/
def meaning (text : String) : Meaning :=
  if isNothing text then .nothing
  else
    match bool? text with
    | some value => .bool value
    | none =>
      match integer? text with
      | some value => .integer value
      | none =>
        match float? text with
        | some value => .float value
        | none => .text text

/-- The greatest whole number that a word of 64 bits holds. -/
def greatestWord : Int := 18446744073709551615

/-- The least whole number that a signed word of 64 bits holds. -/
def leastWord : Int := -9223372036854775808

/-- A description of what a scalar stands for. -/
def Meaning.description : Meaning → String
  | nothing => "unit value"
  | bool value => if value then "boolean `true`" else "boolean `false`"
  | integer value =>
    let described := "integer `" ++ toString value ++ "`"
    if value < leastWord then described ++ " as i128"
    else if greatestWord < value then described ++ " as u128"
    else described
  | float value => "floating point `" ++ Decimal.text Decimal.templateStyle value ++ "`"
  | text value => "string " ++ quoted value

end RequestDispatch.Yaml
