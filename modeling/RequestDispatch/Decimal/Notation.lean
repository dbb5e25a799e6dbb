import RequestDispatch.Decimal.Shortest

/-!
# Decimal Notation

How decimal numbers are written: positionally, or with a power of ten, and with or without a
point in whole numbers. A `Style` fixes these choices; the styles of the formats that the
library writes stand at the end.
-/

namespace RequestDispatch.Decimal

/-- The choices that an output format makes for decimal numbers. -/
structure Style where
  /-- Numbers of at least ten to this power are written with a power of ten. -/
  positionalBelow : Option Int
  /-- Numbers less than ten to this power are written with a power of ten. -/
  positionalFrom : Option Int
  /-- Whole numbers written positionally end in `.0`. -/
  pointZero : Bool
  /-- Positive powers of ten are written with a plus sign. -/
  plusSign : Bool
  /-- The text of a number that is not a number. -/
  nan : String := "NaN"
  /-- The text of infinity. -/
  infinity : String := "inf"

/-- The decimal digits of a natural number. -/
def digitsOf (n : Nat) : List Char := Nat.toDigits 10 n

/-- A number written out in full. -/
def positional (style : Style) (number : Scaled) : List Char :=
  let digits := digitsOf number.digits
  let wholeEnd := if style.pointZero then ['.', '0'] else []
  if 0 ≤ number.exponent then
    digits ++ List.replicate number.exponent.toNat '0' ++ wholeEnd
  else
    let places := (-number.exponent).toNat
    if places < digits.length then
      digits.take (digits.length - places) ++ '.' :: digits.drop (digits.length - places)
    else ['0', '.'] ++ List.replicate (places - digits.length) '0' ++ digits

/-- A number with its point after the first digit and a power of ten. -/
def withPower (style : Style) (number : Scaled) : List Char :=
  let digits := digitsOf number.digits
  let power := number.exponent + Int.ofNat digits.length - 1
  let mantissa :=
    match digits with
    | [] | [_] => digits
    | first :: rest => first :: '.' :: rest
  let sign := if style.plusSign && 0 ≤ power then ['+'] else []
  mantissa ++ 'e' :: sign ++ (toString power).toList

/-- The power of ten that the first digit of a number counts. -/
def leadingPower (number : Scaled) : Int :=
  number.exponent + Int.ofNat (digitsOf number.digits).length - 1

/-- The text of a floating-point number, with the fewest digits that read back. -/
def text (style : Style) (value : Float) : String :=
  let sign := fun negative : Bool => if negative then "-" else ""
  match kindOf value with
  | .nan => style.nan
  | .infinite negative => sign negative ++ style.infinity
  | .zero negative => sign negative ++ (if style.pointZero then "0.0" else "0")
  | .finite negative m q =>
    let number := shortest m q
    let power := leadingPower number
    let isPositional :=
      style.positionalBelow.all (power < ·) && style.positionalFrom.all (· ≤ power)
    sign negative ++ String.ofList
      (if isPositional then positional style number else withPower style number)

/-- Numbers in JSON: with a power of ten from ten to the sixteenth on and below ten to the
minus fifth. -/
def jsonStyle : Style := ⟨some 16, some (-5), true, true, "null", "null"⟩

/-- Numbers in settings: always written out, whole numbers without a point. -/
def plainStyle : Style := ⟨none, none, false, false, "NaN", "inf"⟩

/-- Numbers printed by templates: always written out, with a point. -/
def templateStyle : Style := ⟨none, none, true, false, "NaN", "inf"⟩

/-- Numbers inside lists and maps printed by templates: with a power of ten from ten to the
sixteenth on and below ten to the minus fourth. -/
def nestedStyle : Style := ⟨some 16, some (-4), true, false, "NaN", "inf"⟩

end RequestDispatch.Decimal
