import RequestDispatch.Text.Cut

/-!
# Reading Decimals

The floating-point number that a decimal text denotes, rounded to nearest. A text is an
optional sign and either digits, with an optional point among or around them and an optional
power of ten, or one of the words for infinity and for no number, in letters of any case.
-/

namespace RequestDispatch.Decimal

open Text

/-- The natural number with the given decimal digits. -/
def ofDigits (digits : List Char) : Nat :=
  digits.foldl (fun n c => n * 10 + (c.toNat - 48)) 0

/-- An optional sign: whether it is a minus, and what follows it. -/
def takeSign : List Char → Bool × List Char
  | '-' :: rest => (true, rest)
  | '+' :: rest => (false, rest)
  | cs => (false, cs)

/-- The power of ten at the end of a number, zero if there is none. -/
def readPower? : List Char → Option Int
  | [] => some 0
  | c :: rest =>
    if c = 'e' ∨ c = 'E' then
      let (negative, digits) := takeSign rest
      if digits.isEmpty || !digits.all Char.isDigit then none
      else
        let power := Int.ofNat (ofDigits digits)
        some (if negative then -power else power)
    else none

/-- The number `mantissa * 10 ^ power`, rounded to nearest. Powers beyond the range of
floating-point numbers give infinity or zero at once. -/
def scale (mantissa : Nat) (power : Int) : Float :=
  let leading := Int.ofNat (Nat.toDigits 10 mantissa).length + power
  if mantissa = 0 || leading < -400 then 0.0
  else if leading > 400 then 1.0 / 0.0
  else Float.ofScientific mantissa (power < 0) power.natAbs

/-- Read a number that is written in digits. -/
def readDigits? (cs : List Char) : Option Float := do
  let whole := cs.takeWhile Char.isDigit
  let afterWhole := cs.dropWhile Char.isDigit
  let (places, afterPlaces) :=
    match afterWhole with
    | '.' :: rest => (rest.takeWhile Char.isDigit, rest.dropWhile Char.isDigit)
    | _ => ([], afterWhole)
  if whole.isEmpty && places.isEmpty then none
  else
    let power ← readPower? afterPlaces
    return scale (ofDigits (whole ++ places)) (power - Int.ofNat places.length)

/-- Read a floating-point number. -/
def read? (text : String) : Option Float :=
  let (negative, cs) := takeSign text.toList
  let word := String.ofList (cs.map Char.toLower)
  let magnitude :=
    if word = "inf" ∨ word = "infinity" then some (1.0 / 0.0)
    else if word = "nan" then some (0.0 / 0.0)
    else readDigits? cs
  magnitude.map fun value => if negative then -value else value

end RequestDispatch.Decimal
