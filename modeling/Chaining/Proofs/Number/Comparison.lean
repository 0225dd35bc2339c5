import Chaining.Number.Basic

set_option autoImplicit false

namespace Chaining.Number

theorem toNat_bits (number : Number) :
    number.bits.toNat = (if number.negative then Nat.pow 2 63 else 0) + number.magnitude := by
  have bound := number.bits.toNat_lt
  unfold negative magnitude
  simp only [Nat.pow_eq, decide_eq_true_eq]
  split <;> omega

theorem ext_magnitude {left right : Number} (sign : left.negative = right.negative)
    (size : left.magnitude = right.magnitude) : left = right := by
  have words : left.bits.toNat = right.bits.toNat := by
    rw [toNat_bits, toNat_bits, sign, size]
  cases left
  cases right
  exact congrArg mk (UInt64.toNat_inj.mp words)

/-- No two words share a rank. -/
theorem rank_inj {left right : Number} : left.rank = right.rank ↔ left = right := by
  refine ⟨fun ranked => ?_, congrArg rank⟩
  unfold rank at ranked
  apply ext_magnitude
  · cases one : left.negative <;> cases other : right.negative <;> simp [one, other] at ranked ⊢ <;>
      omega
  · split at ranked <;> split at ranked <;> omega

def OppositeZeros (left right : Number) : Prop :=
  left.isZero = true ∧ right.isZero = true ∧ left.negative ≠ right.negative

instance (left right : Number) : Decidable (left.OppositeZeros right) :=
  inferInstanceAs (Decidable (_ ∧ _ ∧ _))

/-- Finite numbers are the same when they share a word, and when they are the two zeros. -/
theorem same_iff {left right : Number} (finite : left.isFinite = true)
    (finites : right.isFinite = true) :
    left.same right = true ↔ left = right ∨ left.OppositeZeros right := by
  have number : left.isNotANumber = false := by
    simp only [isFinite, isNotANumber, decide_eq_true_eq, decide_eq_false_iff_not] at finite ⊢
    omega
  have other : right.isNotANumber = false := by
    simp only [isFinite, isNotANumber, decide_eq_true_eq, decide_eq_false_iff_not] at finites ⊢
    omega
  rw [same, number, other]
  simp only [Bool.not_false, Bool.true_and, Bool.or_eq_true, beq_iff_eq, Bool.and_eq_true,
    OppositeZeros]
  constructor
  · rintro (equal | ⟨zero, zeros⟩)
    · exact Or.inl equal
    · by_cases sign : left.negative = right.negative
      · refine Or.inl (ext_magnitude sign ?_)
        rw [of_decide_eq_true zero, of_decide_eq_true zeros]
      · exact Or.inr ⟨zero, zeros, sign⟩
  · exact Or.imp_right fun zeros => ⟨zeros.1, zeros.2.1⟩

theorem order_swap (left right : Number) : left.order right = (right.order left).swap :=
  Std.OrientedOrd.eq_swap

theorem eq_ofMagnitude_of_isZero {number : Number} (zero : number.isZero = true) :
    number = ofMagnitude number.negative 0 := by
  cases sign : number.negative with
  | true =>
    refine ext_magnitude sign ?_
    rw [of_decide_eq_true zero]
    rfl
  | false =>
    refine ext_magnitude sign ?_
    rw [of_decide_eq_true zero]
    rfl

theorem same_self {number : Number} (finite : number.isFinite = true) : number.same number = true :=
  (same_iff finite finite).mpr (.inl rfl)

end Chaining.Number
