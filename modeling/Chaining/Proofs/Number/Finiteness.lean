import Chaining.Number.Numeral
import Mathlib.Tactic.Ring

set_option autoImplicit false

namespace Chaining

namespace Number

theorem magnitude_ofMagnitude (negative : Bool) {magnitude : Nat} (bounded : magnitude < 2 ^ 63) :
    (ofMagnitude negative magnitude).magnitude = magnitude := by
  cases negative <;> simp [Number.magnitude, ofMagnitude, UInt64.toNat_ofNat] <;> omega

theorem isFinite_ofMagnitude (negative : Bool) {magnitude : Nat}
    (bounded : magnitude < infiniteMagnitude) :
    (ofMagnitude negative magnitude).isFinite = true := by
  have room : magnitude < 2 ^ 63 := Nat.lt_trans bounded (by decide)
  rw [isFinite, magnitude_ofMagnitude negative room]
  exact decide_eq_true bounded

theorem isFinite_negate {number : Number} (finite : number.isFinite = true) :
    number.negate.isFinite = true :=
  isFinite_ofMagnitude _ (of_decide_eq_true finite)

theorem halfEven_le (numerator denominator : Nat) :
    halfEven numerator denominator ≤ numerator / denominator + 1 := by
  unfold halfEven
  dsimp only
  split <;> omega

/-- The binary digits of numerator and denominator bound a scaled quotient. -/
theorem scaled_lt {numerator denominator digits : Nat} {exponent : Int}
    (positive : denominator ≠ 0)
    (fits : (Nat.log2 numerator : Int) + 1 ≤ Nat.log2 denominator + exponent + digits) :
    (scaled numerator denominator exponent).1 <
      (scaled numerator denominator exponent).2 * 2 ^ digits := by
  have below : numerator < 2 ^ (Nat.log2 numerator + 1) := Nat.lt_log2_self
  have above : 2 ^ Nat.log2 denominator ≤ denominator := Nat.log2_self_le positive
  unfold scaled
  split
  · calc numerator < 2 ^ (Nat.log2 numerator + 1) := below
      _ ≤ 2 ^ (Nat.log2 denominator + (exponent.toNat + digits)) :=
        Nat.pow_le_pow_right (by decide) (by omega)
      _ = 2 ^ Nat.log2 denominator * (2 ^ exponent.toNat * 2 ^ digits) := by
        rw [Nat.pow_add, Nat.pow_add]
      _ ≤ denominator * (2 ^ exponent.toNat * 2 ^ digits) := Nat.mul_le_mul_right _ above
      _ = denominator * 2 ^ exponent.toNat * 2 ^ digits := (Nat.mul_assoc _ _ _).symm
  · calc numerator * 2 ^ (-exponent).toNat
        < 2 ^ (Nat.log2 numerator + 1) * 2 ^ (-exponent).toNat :=
        Nat.mul_lt_mul_of_pos_right below (Nat.two_pow_pos _)
      _ = 2 ^ (Nat.log2 numerator + 1 + (-exponent).toNat) := (Nat.pow_add _ _ _).symm
      _ ≤ 2 ^ (Nat.log2 denominator + digits) := Nat.pow_le_pow_right (by decide) (by omega)
      _ = 2 ^ Nat.log2 denominator * 2 ^ digits := Nat.pow_add _ _ _
      _ ≤ denominator * 2 ^ digits := Nat.mul_le_mul_right _ above

theorem unitExponent_bounds (numerator denominator : Nat) :
    (Nat.log2 numerator : Int) - Nat.log2 denominator - 53 ≤
        unitExponent numerator denominator ∧
      unitExponent numerator denominator ≤
        max ((Nat.log2 numerator : Int) - Nat.log2 denominator - 52) (-1074) := by
  unfold unitExponent
  dsimp only
  split <;> omega

/-- What is rounded to an infinite number is no smaller than a power of two near the largest finite
number. -/
theorem nearest_isFinite (negative : Bool) {numerator denominator bits : Nat} (few : bits ≤ 1021)
    (bounded : numerator < denominator * 2 ^ bits) :
    (nearest negative numerator denominator).isFinite = true := by
  unfold nearest
  split
  · exact isFinite_ofMagnitude negative (by decide)
  · rename_i nonzero
    have positive : denominator ≠ 0 := by
      rintro rfl
      rw [Nat.zero_mul] at bounded
      exact Nat.not_lt_zero _ bounded
    dsimp only
    obtain ⟨least, most⟩ := unitExponent_bounds numerator denominator
    generalize unitExponent numerator denominator = exponent at least most
    have size : Nat.log2 numerator < Nat.log2 denominator + 1 + bits := by
      rw [Nat.log2_lt nonzero, Nat.pow_add]
      exact Nat.lt_trans bounded
        (Nat.mul_lt_mul_of_pos_right Nat.lt_log2_self (Nat.two_pow_pos bits))
    obtain ⟨digits, covered⟩ : ∃ digits : Nat, digits = ((Nat.log2 numerator : Int) -
      Nat.log2 denominator + 1 - exponent).toNat := ⟨_, rfl⟩
    have small : (scaled numerator denominator exponent).1 <
        (scaled numerator denominator exponent).2 * 2 ^ digits :=
      scaled_lt positive (by omega)
    have quotient := Nat.div_lt_of_lt_mul small
    have rounded := halfEven_le (scaled numerator denominator exponent).1
      (scaled numerator denominator exponent).2
    generalize halfEven (scaled numerator denominator exponent).1
      (scaled numerator denominator exponent).2 = units at rounded
    -- A quotient of 54 digits has an exponent that is lower by one.
    have room : (exponent + 1074).toNat * 2 ^ 52 + units < infiniteMagnitude := by
      have width : digits ≤ 53 ∨ digits = 54 := by omega
      unfold infiniteMagnitude
      rcases width with narrow | wide
      · have power : 2 ^ digits ≤ 2 ^ 53 := Nat.pow_le_pow_right (by decide) narrow
        omega
      · subst wide
        omega
    exact isFinite_ofMagnitude negative (Nat.lt_of_le_of_lt (Nat.min_le_left _ _) room)

theorem ratio_pos (number : Number) : 0 < number.ratio.2 := by
  unfold ratio
  split
  · exact Nat.one_pos
  · exact Nat.two_pow_pos _

theorem ratio_lt {number : Number} (finite : number.isFinite = true) {bits : Nat}
    (many : 1024 ≤ bits) : number.ratio.1 < number.ratio.2 * 2 ^ bits := by
  have bounded : number.magnitude < 2047 * 2 ^ 52 := of_decide_eq_true finite
  have digits : number.significand < 2 ^ 53 := by
    unfold significand
    simp only [Nat.pow_eq]
    split <;> omega
  have limit : number.exponent ≤ 971 := by
    unfold exponent
    simp only [Nat.pow_eq]
    split <;> omega
  unfold ratio
  split
  · calc number.significand * 2 ^ number.exponent.toNat
        < 2 ^ 53 * 2 ^ number.exponent.toNat :=
        Nat.mul_lt_mul_of_pos_right digits (Nat.two_pow_pos _)
      _ = 2 ^ (53 + number.exponent.toNat) := (Nat.pow_add _ _ _).symm
      _ ≤ 2 ^ bits := Nat.pow_le_pow_right (by decide) (by omega)
      _ = 1 * 2 ^ bits := (Nat.one_mul _).symm
  · calc number.significand < 2 ^ 53 := digits
      _ ≤ 2 ^ bits := Nat.pow_le_pow_right (by decide) (by omega)
      _ ≤ 2 ^ (-number.exponent).toNat * 2 ^ bits := Nat.le_mul_of_pos_left _ (Nat.two_pow_pos _)

theorem dividedBy_isFinite {left right : Number} (finite : left.isFinite = true)
    (large : 8 * right.ratio.2 ≤ right.ratio.1) : (left.dividedBy right).isFinite = true := by
  obtain ⟨bits, few, many⟩ : ∃ bits, bits ≤ 1021 ∧ 1024 ≤ bits + 3 := ⟨1021, by decide, by decide⟩
  refine nearest_isFinite _ few ?_
  calc left.ratio.1 * right.ratio.2 < left.ratio.2 * 2 ^ (bits + 3) * right.ratio.2 :=
        Nat.mul_lt_mul_of_pos_right (ratio_lt finite many) right.ratio_pos
    _ = left.ratio.2 * (8 * right.ratio.2) * 2 ^ bits := by
        rw [Nat.pow_add]
        ring
    _ ≤ left.ratio.2 * right.ratio.1 * 2 ^ bits :=
        Nat.mul_le_mul_right _ (Nat.mul_le_mul_left _ large)

theorem ofNat_isFinite {count : Nat} (bounded : count < 2 ^ 64) :
    (ofNat count).isFinite = true := by
  have few : 64 ≤ 1021 := by decide
  refine nearest_isFinite false few ?_
  rw [Nat.one_mul]
  exact bounded

/-- The powers of ten that numbers are divided by make them smaller. -/
theorem eight_le_power : ∀ power < 309, 1 ≤ power →
    8 * (ofNat (Nat.pow 10 power)).ratio.2 ≤ (ofNat (Nat.pow 10 power)).ratio.1 := by
  decide +kernel

end Number

namespace Numeral

theorem takeWhole_digits_lt {scaled : Scaled} (bounded : scaled.digits < digitLimit)
    (digits : List Char) : (takeWhole scaled digits).digits < digitLimit := by
  induction digits generalizing scaled with
  | nil => exact bounded
  | cons digit rest ih =>
    unfold takeWhole
    dsimp only
    split
    · rename_i fits
      exact ih fits.2
    · exact ih bounded

theorem takeFraction_digits_lt {scaled : Scaled} (bounded : scaled.digits < digitLimit)
    (digits : List Char) : (takeFraction scaled digits).digits < digitLimit := by
  induction digits generalizing scaled with
  | nil => exact bounded
  | cons digit rest ih =>
    unfold takeFraction
    dsimp only
    split
    · rename_i fits
      exact ih fits
    · exact bounded

theorem scale_isFinite {number result : Number} {power : Int} {steps : Nat}
    (finite : number.isFinite = true) (scaled : scale number power steps = some result) :
    result.isFinite = true := by
  induction steps generalizing number power with
  | zero => exact Option.some.inj scaled ▸ finite
  | succ steps ih =>
    unfold scale at scaled
    dsimp only at scaled
    split at scaled
    · rename_i near
      split at scaled
      · split at scaled
        · rename_i checked
          exact Option.some.inj scaled ▸ checked
        · cases scaled
      · rename_i negative
        have large := Number.eight_le_power power.natAbs (by omega) (by omega)
        exact Option.some.inj scaled ▸ Number.dividedBy_isFinite finite large
    · split at scaled
      · exact Option.some.inj scaled ▸ finite
      · split at scaled
        · cases scaled
        · exact ih (Number.dividedBy_isFinite finite
            (Number.eight_le_power 308 (by decide) (by decide))) scaled

theorem magnitude?_isFinite {numeral : Numeral} {number : Number}
    (read : numeral.magnitude? = some number) : number.isFinite = true := by
  have begins : (⟨0, 0⟩ : Scaled).digits < digitLimit := by decide
  have whole := takeWhole_digits_lt begins numeral.whole
  have finite := Number.ofNat_isFinite (takeFraction_digits_lt whole numeral.fraction)
  unfold magnitude? at read
  dsimp only at read
  split at read
  · exact scale_isFinite finite read
  · split at read
    · split at read
      · exact Option.some.inj read ▸ by decide
      · cases read
    · exact scale_isFinite finite read

theorem quantity?_isFinite {numeral : Numeral} {quantity : Quantity}
    (read : numeral.quantity? = some quantity) : quantity.number.isFinite = true := by
  unfold quantity? at read
  dsimp only at read
  split at read
  · rename_i natural
    cases read
    simp only [Bool.and_eq_true, decide_eq_true_eq] at natural
    exact Number.ofNat_isFinite natural.2
  · split at read
    · rename_i integer
      cases read
      simp only [Bool.and_eq_true, decide_eq_true_eq] at integer
      have few : 64 ≤ 1021 := by decide
      have bounded : Nat.ofDigitChars 10 numeral.whole 0 < 1 * 2 ^ 64 :=
        Nat.lt_of_le_of_lt integer.2 (by decide)
      exact Number.nearest_isFinite true few bounded
    · obtain ⟨number, found, rfl⟩ := Option.map_eq_some_iff.mp read
      have finite := magnitude?_isFinite found
      change (if numeral.negative then number.negate else number).isFinite = true
      split
      · exact Number.isFinite_negate finite
      · exact finite

end Numeral

end Chaining
