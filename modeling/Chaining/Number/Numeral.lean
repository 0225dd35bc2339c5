import Chaining.Number.Nearest

set_option autoImplicit false

namespace Chaining

inductive ExponentSign where
  | none
  | plus
  | minus
deriving DecidableEq

/-- The parts of a written number. No fraction means no decimal point. -/
structure Numeral where
  negative : Bool
  whole : List Char
  fraction : List Char
  exponent : Option (ExponentSign × List Char)
deriving DecidableEq

inductive Quantity where
  | natural (size : Nat)
  | negative (size : Nat)
  | real (number : Number)
deriving DecidableEq

namespace Quantity

def number : Quantity → Number
  | natural size => .ofNat size
  | negative size => .nearest true size 1
  | real number => number

end Quantity

namespace Numeral

def digitLimit : Nat := Nat.pow 2 64

/-- An integer below `digitLimit` and the power of ten that scales it. -/
structure Scaled where
  digits : Nat
  power : Int

/-- Takes whole digits while they fit; from the first that does not, each adds one to the power. -/
def takeWhole : Scaled → List Char → Scaled
  | scaled, [] => scaled
  | scaled, digit :: rest =>
    let next := Nat.ofDigitChars 10 [digit] scaled.digits
    if scaled.power = 0 ∧ next < digitLimit then takeWhole { scaled with digits := next } rest
    else takeWhole { scaled with power := scaled.power + 1 } rest

/-- Takes digits of the fraction while they fit and drops the others. -/
def takeFraction : Scaled → List Char → Scaled
  | scaled, [] => scaled
  | scaled, digit :: rest =>
    let next := Nat.ofDigitChars 10 [digit] scaled.digits
    if next < digitLimit then takeFraction ⟨next, scaled.power - 1⟩ rest else scaled

def exponentLimit : Nat := Nat.pow 2 31 - 1

/-- Multiplies or divides by a power of ten, in steps of at most 308. Nothing is returned when the
result is too large. Zero stays zero, and division stops there. -/
def scale (number : Number) (power : Int) : Nat → Option Number
  | 0 => some number
  | steps + 1 =>
    if power.natAbs ≤ 308 then
      let factor := Number.ofNat (Nat.pow 10 power.natAbs)
      if 0 ≤ power then
        let product := number.times factor
        if product.isFinite then some product else none
      else some (number.dividedBy factor)
    else if number.isZero then some number
    else if 0 ≤ power then none
    else scale (number.dividedBy (Number.ofNat (Nat.pow 10 308))) (power + 308) steps

/-- A division step takes 308 decimal digits off a number below 2 ^ 64, so the second one reaches
zero or the end. -/
def scaleSteps : Nat := 4

def magnitude? (numeral : Numeral) : Option Number :=
  let scaled := takeFraction (takeWhole ⟨0, 0⟩ numeral.whole) numeral.fraction
  let zero := Number.zero
  match numeral.exponent with
  | none => scale (Number.ofNat scaled.digits) scaled.power scaleSteps
  | some (sign, digits) =>
    let size := Nat.ofDigitChars 10 digits 0
    if exponentLimit < size then
      if sign = .minus ∨ scaled.digits = 0 then some zero else none
    else
      let power := if sign = .minus then scaled.power - size else scaled.power + size
      scale (Number.ofNat scaled.digits) power scaleSteps

/-- A numeral without fraction and exponent is an integer as far as 64 bits hold it, except that
`-0` is the negative zero. Nothing is returned for a number out of range. -/
def quantity? (numeral : Numeral) : Option Quantity :=
  let size := Nat.ofDigitChars 10 numeral.whole 0
  let integral := numeral.fraction.isEmpty && numeral.exponent.isNone
  if integral && !numeral.negative && size < Nat.pow 2 64 then some (.natural size)
  else if integral && numeral.negative && 0 < size && size ≤ Nat.pow 2 63 then some (.negative size)
  else
    numeral.magnitude?.map fun number => .real (if numeral.negative then number.negate else number)

def ofNat (count : Nat) : Numeral := ⟨false, Nat.toDigits 10 count, [], none⟩

def ofInt (integer : Int) : Numeral :=
  ⟨integer < 0, Nat.toDigits 10 integer.natAbs, [], none⟩

def signText : ExponentSign → List Char
  | .none => []
  | .plus => ['+']
  | .minus => ['-']

def text (numeral : Numeral) : List Char :=
  (if numeral.negative then ['-'] else []) ++ numeral.whole ++
    (if numeral.fraction.isEmpty then [] else '.' :: numeral.fraction) ++
    (match numeral.exponent with
      | none => []
      | some (sign, digits) => 'e' :: (signText sign ++ digits))

end Numeral

end Chaining
