import Chaining.Number.Basic

set_option autoImplicit false

namespace Chaining.Number

/-- The quotient rounded to the nearest integer, a half going to the even neighbour. -/
def halfEven (numerator denominator : Nat) : Nat :=
  let quotient := numerator / denominator
  let remainder := numerator % denominator
  if 2 * remainder < denominator ∨ (2 * remainder = denominator ∧ quotient % 2 = 0) then quotient
  else quotient + 1

/-- The quotient over `2 ^ exponent`, as numerator and denominator. -/
def scaled (numerator denominator : Nat) (exponent : Int) : Nat × Nat :=
  if 0 ≤ exponent then (numerator, denominator * Nat.pow 2 exponent.toNat)
  else (numerator * Nat.pow 2 (-exponent).toNat, denominator)

/-- The exponent that leaves the quotient 53 binary digits before the point, or the least exponent
if that is larger. -/
def unitExponent (numerator denominator : Nat) : Int :=
  let estimate : Int := (Nat.log2 numerator : Int) - Nat.log2 denominator - 52
  let ratio := scaled numerator denominator estimate
  max (if ratio.1 < ratio.2 * Nat.pow 2 52 then estimate - 1 else estimate) (-1074)

/-- The number nearest to `numerator / denominator`. A carry out of the significand raises the
exponent by itself, and what is too large is infinite. -/
def nearest (negative : Bool) (numerator denominator : Nat) : Number :=
  if numerator = 0 then ofMagnitude negative 0
  else
    let exponent := unitExponent numerator denominator
    let ratio := scaled numerator denominator exponent
    let magnitude := (exponent + 1074).toNat * Nat.pow 2 52 + halfEven ratio.1 ratio.2
    ofMagnitude negative (min magnitude infiniteMagnitude)

def ofNat (count : Nat) : Number := nearest false count 1

def ofInt (integer : Int) : Number := nearest (integer < 0) integer.natAbs 1

def ratio (number : Number) : Nat × Nat :=
  if 0 ≤ number.exponent then (number.significand * Nat.pow 2 number.exponent.toNat, 1)
  else (number.significand, Nat.pow 2 (-number.exponent).toNat)

def times (left right : Number) : Number :=
  nearest (left.negative != right.negative) (left.ratio.1 * right.ratio.1)
    (left.ratio.2 * right.ratio.2)

def dividedBy (left right : Number) : Number :=
  nearest (left.negative != right.negative) (left.ratio.1 * right.ratio.2)
    (left.ratio.2 * right.ratio.1)

end Chaining.Number
