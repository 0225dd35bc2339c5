set_option autoImplicit false

namespace Chaining

/-- A number is the 64-bit word that holds it. -/
structure Number where
  bits : UInt64
deriving DecidableEq

namespace Number

/-- The first magnitude that is not finite. -/
def infiniteMagnitude : Nat := 0x7FF0000000000000

def negative (number : Number) : Bool := Nat.pow 2 63 ≤ number.bits.toNat

def magnitude (number : Number) : Nat := number.bits.toNat % Nat.pow 2 63

def ofMagnitude (negative : Bool) (magnitude : Nat) : Number :=
  ⟨UInt64.ofNat (if negative then Nat.pow 2 63 + magnitude else magnitude)⟩

def zero : Number := ofMagnitude false 0

def infinity (negative : Bool) : Number := ofMagnitude negative infiniteMagnitude

def notANumber : Number := ofMagnitude false 0x7FF8000000000000

def isFinite (number : Number) : Bool := number.magnitude < infiniteMagnitude

def isNotANumber (number : Number) : Bool := infiniteMagnitude < number.magnitude

def isZero (number : Number) : Bool := number.magnitude = 0

def negate (number : Number) : Number := ofMagnitude (!number.negative) number.magnitude

/-- The integer multiple of `2 ^ exponent` that a finite number stands for, without its sign. -/
def significand (number : Number) : Nat :=
  if number.magnitude < Nat.pow 2 52 then number.magnitude
  else Nat.pow 2 52 + number.magnitude % Nat.pow 2 52

def exponent (number : Number) : Int :=
  if number.magnitude < Nat.pow 2 52 then -1074 else (number.magnitude / Nat.pow 2 52 : Nat) - 1075

/-- Position in the total order of words: a sign bit puts a word below every word without one,
and among negative words the larger magnitude comes first. -/
def rank (number : Number) : Int :=
  if number.negative then -(number.magnitude : Int) - 1 else number.magnitude

def order (left right : Number) : Ordering := compare left.rank right.rank

/-- Numeric equality: the two zeros are the same, and what is not a number is never the same. -/
def same (left right : Number) : Bool :=
  !left.isNotANumber && !right.isNotANumber && (left == right || (left.isZero && right.isZero))

/-- The integer that a number stands for, when it is whole and below `bound` in magnitude. -/
def whole? (number : Number) (bound : Nat) : Option Int :=
  let size :=
    if 0 ≤ number.exponent then some (number.significand * Nat.pow 2 number.exponent.toNat)
    else if number.significand % Nat.pow 2 (-number.exponent).toNat = 0 then
      some (number.significand / Nat.pow 2 (-number.exponent).toNat)
    else none
  match size with
  | some size =>
    if number.isFinite && size < bound then
      some (if number.negative then -(size : Int) else size)
    else none
  | none => none

end Number

end Chaining
