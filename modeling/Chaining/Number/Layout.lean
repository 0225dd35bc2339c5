import Chaining.Number.Numeral
import Chaining.Number.Shortest

set_option autoImplicit false

namespace Chaining.Number

structure Layout where
  /-- Decides by the decimal point whether a number is written without an exponent. -/
  positional : Int → Bool
  /-- Whole numbers written without an exponent end in `.0`. -/
  keepsPoint : Bool
  /-- The sign of an exponent that is not negative. -/
  exponentSign : ExponentSign
  tie : Tie
  notFinite : Number → String

namespace Layout

def words (number : Number) : String :=
  if number.isNotANumber then "NaN" else if number.negative then "-inf" else "inf"

/-- Numbers in JSON text are positional from 0.00001 up to below 10 ^ 16 and never look like an
integer; what is not finite is null. -/
def json : Layout where
  positional := fun point => -4 ≤ point ∧ point ≤ 16
  keepsPoint := true
  exponentSign := .plus
  tie := .toEven
  notFinite := fun _ => "null"

/-- Numbers shown to a reader have no exponent. -/
def plain : Layout where
  positional := fun _ => true
  keepsPoint := false
  exponentSign := .none
  tie := .upward
  notFinite := words

/-- Numbers in the debug text of an event are positional from 0.0001 up to below 10 ^ 16. -/
def debug : Layout where
  positional := fun point => -3 ≤ point ∧ point ≤ 16
  keepsPoint := true
  exponentSign := .none
  tie := .upward
  notFinite := words

def pointText (layout : Layout) : List Char := if layout.keepsPoint then ['0'] else []

/-- Digits around the decimal point, zeros filling the gap on either side. -/
def positionalNumeral (layout : Layout) (negative : Bool) (decimal : Decimal) : Numeral :=
  let digits := decimal.digits
  if decimal.point ≤ 0 then
    ⟨negative, ['0'], List.replicate (-decimal.point).toNat '0' ++ digits, none⟩
  else
    let places := decimal.point.toNat
    if places < digits.length then ⟨negative, digits.take places, digits.drop places, none⟩
    else
      ⟨negative, digits ++ List.replicate (places - digits.length) '0', layout.pointText, none⟩

/-- One digit, the others behind a point, and the exponent. -/
def scientificNumeral (layout : Layout) (negative : Bool) (decimal : Decimal) : Numeral :=
  let exponent := decimal.point - 1
  let sign := if exponent < 0 then .minus else layout.exponentSign
  ⟨negative, decimal.digits.take 1, decimal.digits.drop 1,
    some (sign, Nat.toDigits 10 exponent.natAbs)⟩

end Layout

def numeral (layout : Layout) (number : Number) : Numeral :=
  if number.isZero then ⟨number.negative, ['0'], layout.pointText, none⟩
  else
    let decimal := number.shortest layout.tie
    if layout.positional decimal.point then layout.positionalNumeral number.negative decimal
    else layout.scientificNumeral number.negative decimal

def text (layout : Layout) (number : Number) : String :=
  if number.isFinite then String.ofList (number.numeral layout).text else layout.notFinite number

end Chaining.Number
