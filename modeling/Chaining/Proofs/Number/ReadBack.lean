import Chaining.Proofs.Json.Numeral
import Chaining.Proofs.Json.Reading
import Chaining.Proofs.Number.Comparison
import Chaining.Proofs.Number.Finiteness

set_option autoImplicit false

namespace Chaining

open Json (Outline Token)

theorem Numeral.quantity?_ofInt {integer : Int} (small : integer.natAbs ≤ Nat.pow 2 63) :
    (Numeral.ofInt integer).quantity? =
      some (if integer < 0 then .negative integer.natAbs else .natural integer.natAbs) := by
  have size : Nat.ofDigitChars 10 (Nat.toDigits 10 integer.natAbs) 0 = integer.natAbs :=
    Nat.ofDigitChars_ten_toDigits
  unfold quantity? ofInt
  simp only [size, List.isEmpty_nil, Option.isNone_none, Bool.and_self, Bool.true_and]
  by_cases negative : integer < 0
  · have least : 0 < integer.natAbs := by omega
    simp only [negative, least, small, decide_true, Bool.not_true, Bool.false_and, Bool.and_self,
      Bool.false_eq_true, ↓reduceIte]
  · have most : integer.natAbs < Nat.pow 2 64 := Nat.lt_of_le_of_lt small (by decide)
    simp only [negative, most, decide_true, decide_false, Bool.not_false, Bool.and_self, ↓reduceIte]

theorem Json.Outline.readInteger_ofInt (expected : String) {low high integer : Int}
    (small : integer.natAbs ≤ Nat.pow 2 63) (inside : low ≤ integer ∧ integer ≤ high) :
    Outline.readInteger expected low high (.ofJson (.ofInt integer)) = .ok integer := by
  have found := Numeral.quantity?_ofInt small
  rw [Json.ofInt, ofJson, readInteger, quantity_eq_ok.mpr found, ok_bind]
  by_cases negative : integer < 0
  · have magnitude : -(integer.natAbs : Int) = integer := by omega
    simp only [negative, ↓reduceIte, magnitude, inside.1]
  · have magnitude : (integer.natAbs : Int) = integer := by omega
    simp only [negative, ↓reduceIte, magnitude, inside.2]

namespace Number

def readsBack (number : Number) : Bool :=
  (Json.readDocument Outline.readNumber (number.text .json)).toOption.any fun again =>
    again.same number

theorem scan_of_readNumber {numeral : Numeral} (digital : numeral.IsDigital) {number : Number}
    (read : Json.readDocument Outline.readNumber (String.ofList numeral.text) = .ok number) :
    ∃ token quantity, Token.scan numeral.text = [.number token] ∧
      token.quantity? = some quantity ∧ quantity.number = number := by
  obtain ⟨root, trailing⟩ := Json.readDocument_eq_ok.mp read
  rw [Outline.read, String.toList_ofList] at root trailing
  cases scanned : Token.scan numeral.text with
  | nil =>
    rw [scanned] at root
    cases root
  | cons token rest =>
    have numeric := Token.scanNumeral_isNumeric numeral.negative numeral.unsigned
    rw [← (Token.scan_text digital scanned).1] at numeric
    rw [scanned] at root trailing
    cases token with
    | number token =>
      obtain ⟨quantity, found, value⟩ := bind_eq_ok.mp root
      cases rest with
      | nil =>
        exact ⟨token, quantity, rfl, Outline.quantity_eq_ok.mp found, pure_eq_ok.mp value⟩
      | cons next rest => cases trailing
    | broken startsText fault skipped => cases root
    | openArray
    | closeArray
    | openObject
    | closeObject
    | comma
    | colon
    | null
    | boolean _
    | text _ => exact numeric.elim

/-- A number that JSON text preserves. -/
structure IsPreserved (number : Number) : Prop where
  finite : number.isFinite = true
  back : number.readsBack = true

theorem quantity?_zero (negative : Bool) :
    ((ofMagnitude negative 0).numeral .json).quantity? =
      some (.real (ofMagnitude negative 0)) := by
  cases negative <;> decide +kernel

/-- The numeral of a finite number stands for no other number that is the same. -/
theorem eq_of_same {number : Number} (finite : number.isFinite = true) {quantity : Quantity}
    (found : (number.numeral .json).quantity? = some quantity)
    (same : quantity.number.same number = true) : quantity.number = number := by
  rcases (same_iff (Numeral.quantity?_isFinite found) finite).mp same with equal | zeros
  · exact equal
  -- Zeros of different signs would be the same, but each of them is read as itself.
  · have zero := eq_ofMagnitude_of_isZero zeros.2.1
    rw [zero, quantity?_zero, Option.some.injEq] at found
    rw [← found]
    exact zero.symm

/-- The numeral of a preserved number is one of JSON and stands for that number. -/
theorem IsPreserved.quantity? {number : Number} (preserved : number.IsPreserved) :
    (number.numeral .json).IsWritten ∧ ∃ quantity,
      (number.numeral .json).quantity? = some quantity ∧ quantity.number = number := by
  have digital := numeral_isDigital .json number
  have back := preserved.back
  unfold readsBack text at back
  rw [if_pos preserved.finite] at back
  cases read : Json.readDocument Outline.readNumber
      (String.ofList (number.numeral .json).text) with
  | error _ =>
    rw [read] at back
    cases back
  | ok again =>
    rw [read] at back
    obtain ⟨token, quantity, scanned, found, rfl⟩ := scan_of_readNumber digital read
    obtain rfl := Token.eq_of_scan digital scanned
    exact ⟨Token.isWritten_of_scan digital scanned, quantity, found,
      eq_of_same preserved.finite found back⟩

end Number

end Chaining
