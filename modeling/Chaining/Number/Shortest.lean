import Chaining.Number.Nearest

set_option autoImplicit false

namespace Chaining.Number

/-- Which of two equally close decimals is taken. -/
inductive Tie where
  | toEven
  | upward
deriving DecidableEq

/-- The decimal `0.d₁d₂… × 10 ^ point` with the given digits. -/
structure Decimal where
  digits : List Char
  point : Int
deriving DecidableEq

/-- The decimal for `count * 10 ^ power`, zeros at its end left out. -/
def Decimal.ofScaled (count : Nat) (power : Int) : Decimal :=
  let digits := Nat.toDigits 10 count
  { digits := (digits.reverse.dropWhile (· == '0')).reverse, point := power + digits.length }

/-- The reals that round to a finite positive number are those between `low` and `high`, the ends
among them when the significand is even. Both are multiples of `2 ^ (exponent - 2)`. -/
structure Interval where
  low : Nat
  high : Nat
  exponent : Int
  closed : Bool

def interval (number : Number) : Interval :=
  let significand := number.significand
  { low := if significand = Nat.pow 2 52 ∧ -1074 < number.exponent then 4 * significand - 1
      else 4 * significand - 2
    high := 4 * significand + 2
    exponent := number.exponent - 2
    closed := significand % 2 = 0 }

/-- Compares `decimal * 10 ^ power` with `binary * 2 ^ exponent`. -/
def compareScaled (decimal : Nat) (power : Int) (binary : Nat) (exponent : Int) : Ordering :=
  compare (decimal * Nat.pow 10 power.toNat * Nat.pow 2 (-exponent).toNat)
    (binary * Nat.pow 2 exponent.toNat * Nat.pow 10 (-power).toNat)

def Interval.holds (interval : Interval) (decimal : Nat) (power : Int) : Bool :=
  let below := compareScaled decimal power interval.low interval.exponent
  let above := compareScaled decimal power interval.high interval.exponent
  (below == .gt || (interval.closed && below == .eq)) &&
    (above == .lt || (interval.closed && above == .eq))

/-- The least `point` with the number below `10 ^ point`, counted up from a lower estimate. -/
def decimalPoint (number : Number) : Int :=
  let estimate : Int := ((Nat.log2 number.significand + number.exponent) * 30103).fdiv 100000
  let exceeds (point : Int) : Bool :=
    compareScaled 1 point number.significand number.exponent != .gt
  let candidates := (List.range 4).map fun (step : Nat) => estimate - 1 + (step : Int)
  (candidates.find? fun point => !exceeds point).getD (estimate + 3)

/-- The two neighbours of the number on the grid `10 ^ power`: the nearer one that identifies the
number. -/
def gridDecimal? (tie : Tie) (number : Number) (power : Int) : Option Nat :=
  let interval := number.interval
  let ratio := number.ratio
  let floor :=
    if 0 ≤ power then ratio.1 / (ratio.2 * Nat.pow 10 power.toNat)
    else ratio.1 * Nat.pow 10 (-power).toNat / ratio.2
  let pick (decimal : Nat) : Option Nat :=
    if 0 < decimal && interval.holds decimal power then some decimal else none
  match pick floor, pick (floor + 1) with
  | some lower, some upper =>
    match compareScaled (lower + upper) power (2 * number.significand) number.exponent, tie with
    | .lt, _ => some upper
    | .gt, _ => some lower
    | .eq, .upward => some upper
    | .eq, .toEven => some (if lower % 2 = 0 then lower else upper)
  | some lower, none => some lower
  | none, found => found

/-- The shortest decimal that identifies a finite number other than zero, its sign left aside. The
first grid with a decimal that does wins; seventeen digits always do. -/
def shortest (tie : Tie) (number : Number) : Decimal :=
  let point := number.decimalPoint
  let found := (List.range 17).findSome? fun (count : Nat) =>
    let power := point - (count : Int) - 1
    (number.gridDecimal? tie power).map fun count => Decimal.ofScaled count power
  found.getD { digits := [], point }

end Chaining.Number
