/-!
# Shortest Decimals

The decimal number with the fewest digits that reads back as a given binary floating-point
number. A finite number is `m * 2 ^ q` for natural `m`; the reals that round to it form an
interval around it, whose ends belong to it exactly if `m` is even. Among the multiples of a
power of ten, if any lies in the interval then so does one of the two neighbours of the
number itself, so it is enough to try these on coarser and then finer grids.
-/

namespace RequestDispatch.Decimal

/-- A decimal number `digits * 10 ^ exponent`. -/
structure Scaled where
  /-- The digits, as one natural number. -/
  digits : Nat
  /-- The power of ten that the last digit counts. -/
  exponent : Int
deriving DecidableEq, Repr

/-- A positive number `m * 2 ^ q` with the numbers half-way to its neighbours. All three are
multiples of `2 ^ (q - 2)`. -/
structure Interval where
  /-- The lower end. -/
  low : Nat
  /-- The number itself. -/
  middle : Nat
  /-- The upper end. -/
  high : Nat
  /-- The power of two that the three count. -/
  exponent : Int
  /-- Whether the ends belong to the interval. -/
  closed : Bool

/-- The interval of reals that round to `m * 2 ^ q`. Below a power of two the next number is
only half as far, unless the exponent is the least there is. -/
def Interval.around (m : Nat) (q : Int) : Interval where
  low := 4 * m - (if m = Nat.pow 2 52 ∧ q ≠ -1074 then 1 else 2)
  middle := 4 * m
  high := 4 * m + 2
  exponent := q - 2
  closed := m % 2 = 0

/-- The factors that make multiples of `2 ^ e` and of `10 ^ k` comparable: `a * 2 ^ e` is less
than `d * 10 ^ k` exactly if `a * binary` is less than `d * decimal`. -/
def scales (e k : Int) : Nat × Nat :=
  (Nat.pow 2 e.toNat * Nat.pow 10 (-k).toNat, Nat.pow 10 k.toNat * Nat.pow 2 (-e).toNat)

/-- The multiple of `10 ^ k` nearest to the middle of an interval among the two next to it, if
it lies in the interval. Of two equally near ones the even one counts. -/
def Interval.onGrid? (interval : Interval) (k : Int) : Option Nat :=
  let (binary, decimal) := scales interval.exponent k
  let inside := fun d : Nat =>
    if interval.closed then
      interval.low * binary ≤ d * decimal && d * decimal ≤ interval.high * binary
    else interval.low * binary < d * decimal && d * decimal < interval.high * binary
  let value := interval.middle * binary
  let below := value / decimal
  let above := below + 1
  match inside below, inside above with
  | true, true =>
    let down := value - below * decimal
    let up := above * decimal - value
    some (if down < up || (down == up && below % 2 == 0) then below else above)
  | true, false => some below
  | false, true => some above
  | false, false => none

/-- How many grids are tried. The coarsest is coarser than the number, and seventeen digits
always suffice. -/
def gridCount : Nat := 24

/-- The shortest decimal that rounds to `m * 2 ^ q`. -/
def shortest (m : Nat) (q : Int) : Scaled :=
  let interval := Interval.around m q
  let coarsest := (Int.ofNat (Nat.log2 m) + q + 1) * 30103 / 100000 + 2
  ((List.range gridCount).findSome? fun step =>
      let k := coarsest - Int.ofNat step
      (interval.onGrid? k).bind fun digits =>
        if digits = 0 then none else some (Scaled.mk digits k)).getD ⟨0, 0⟩

/-- A floating-point number by kind. -/
inductive Kind where
  | nan
  | infinite (negative : Bool)
  | zero (negative : Bool)
  /-- The number `m * 2 ^ q`, or its negation. -/
  | finite (negative : Bool) (m : Nat) (q : Int)
deriving DecidableEq, Repr

/-- Take a floating-point number apart. -/
def kindOf (value : Float) : Kind :=
  let bits := value.toBits.toNat
  let negative := bits / Nat.pow 2 63 == 1
  let biased := bits / Nat.pow 2 52 % Nat.pow 2 11
  let fraction := bits % Nat.pow 2 52
  if biased = 2047 then
    if fraction = 0 then .infinite negative else .nan
  else if biased = 0 then
    if fraction = 0 then .zero negative else .finite negative fraction (-1074)
  else .finite negative (Nat.pow 2 52 + fraction) (Int.ofNat biased - 1075)

end RequestDispatch.Decimal
