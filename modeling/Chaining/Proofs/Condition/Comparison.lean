import Chaining.Condition
import Chaining.Proofs.Number.Comparison

set_option autoImplicit false

namespace Chaining

namespace Operator

variable {left right : Number}

theorem test_equal :
    equal.test (.number left) (.number right) = left.same right := by
  simp [test, Value.same]

theorem test_greater : greater.test (.number left) (.number right) = true ↔
    right.rank < left.rank := by
  simp [test, Value.compareNumbers, Number.order, Std.compare_eq_gt]

theorem test_less : less.test (.number left) (.number right) = true ↔ left.rank < right.rank := by
  simp [test, Value.compareNumbers, Number.order, Std.compare_eq_lt]

theorem test_atLeast : atLeast.test (.number left) (.number right) = true ↔
    right.rank ≤ left.rank := by
  simp [test, Value.compareNumbers, Number.order, Std.compare_eq_lt]

theorem test_atMost : atMost.test (.number left) (.number right) = true ↔
    left.rank ≤ right.rank := by
  simp [test, Value.compareNumbers, Number.order, Std.compare_eq_gt]

end Operator

namespace Condition

theorem holds_of_bound {memory : Memory} {fact : String} {actual : Value}
    (bound : memory.get? fact = some actual) (known : actual ≠ .null) (operator : Operator)
    (expected : Value) :
    holds ⟨fact, operator, expected⟩ memory = operator.test actual expected := by
  simp only [holds, bound]

theorem holds_of_number {memory : Memory} {fact : String} {number : Number}
    (bound : memory.get? fact = some (.number number)) (operator : Operator) (expected : Value) :
    holds ⟨fact, operator, expected⟩ memory = operator.test (.number number) expected :=
  holds_of_bound bound (fun null => by cases null) operator expected

/-- Equality and order agree about a fact: of less, equal and greater it is exactly one, and the two
operators that allow for equality follow from these. -/
structure Coherent (memory : Memory) (fact : String) (expected : Value) : Prop where
  one : [Operator.less, .equal, .greater].countP
    (fun operator => holds ⟨fact, operator, expected⟩ memory) = 1
  atLeast : holds ⟨fact, .atLeast, expected⟩ memory = true ↔
    holds ⟨fact, .greater, expected⟩ memory = true ∨ holds ⟨fact, .equal, expected⟩ memory = true
  atMost : holds ⟨fact, .atMost, expected⟩ memory = true ↔
    holds ⟨fact, .less, expected⟩ memory = true ∨ holds ⟨fact, .equal, expected⟩ memory = true

/-- Equality and order agree about finite numbers, unless these are zeros of different signs. -/
theorem coherent_iff {memory : Memory} {fact : String} {actual expected : Number}
    (bound : memory.get? fact = some (.number actual)) (finite : actual.isFinite = true)
    (finites : expected.isFinite = true) :
    Coherent memory fact (.number expected) ↔ ¬ actual.OppositeZeros expected := by
  have less : holds ⟨fact, .less, .number expected⟩ memory = true ↔
      actual.rank < expected.rank := by
    rw [holds_of_number bound, Operator.test_less]
  have greater : holds ⟨fact, .greater, .number expected⟩ memory = true ↔
      expected.rank < actual.rank := by
    rw [holds_of_number bound, Operator.test_greater]
  have equal : holds ⟨fact, .equal, .number expected⟩ memory = true ↔
      actual.rank = expected.rank ∨ actual.OppositeZeros expected := by
    rw [holds_of_number bound, Operator.test_equal, Number.same_iff finite finites,
      Number.rank_inj]
  have count : [Operator.less, .equal, .greater].countP
      (fun operator => holds ⟨fact, operator, .number expected⟩ memory) =
        (if actual.rank = expected.rank ∨ actual.OppositeZeros expected then 1 else 0) +
          if actual.rank = expected.rank then 0 else 1 := by
    simp only [List.countP_cons, List.countP_nil, less, equal, greater]
    generalize
      (if actual.rank = expected.rank ∨ actual.OppositeZeros expected then 1 else 0) = same
    rcases Int.lt_trichotomy actual.rank expected.rank with below | level | above <;> grind
  constructor
  · rintro ⟨one, -, -⟩ zeros
    -- Two words are ranked one below the other, and the zeros count as equal besides.
    have ranked : actual.rank ≠ expected.rank := fun same =>
      zeros.2.2 (congrArg Number.negative (Number.rank_inj.mp same))
    simp [count, ranked, zeros] at one
  · intro apart
    refine ⟨?_, ?_, ?_⟩
    · rw [count]
      by_cases level : actual.rank = expected.rank <;> simp [level, apart]
    · rw [equal, greater, holds_of_number bound, Operator.test_atLeast]
      simp only [apart, or_false]
      omega
    · rw [equal, less, holds_of_number bound, Operator.test_atMost]
      simp only [apart, or_false]
      omega

/-- One and a half, below two by order and not equal to it. -/
theorem coherent_iff_depth :
    (Memory.ofList [("depth", .number ⟨0x3FF8000000000000⟩)]).get? "depth" =
        some (.number ⟨0x3FF8000000000000⟩) ∧
      Number.isFinite ⟨0x3FF8000000000000⟩ = true ∧ Number.isFinite ⟨0x4000000000000000⟩ = true ∧
      Coherent (Memory.ofList [("depth", .number ⟨0x3FF8000000000000⟩)]) "depth"
        (.number ⟨0x4000000000000000⟩) := by
  have bound : (Memory.ofList [("depth", .number ⟨0x3FF8000000000000⟩)]).get? "depth" =
    some (.number ⟨0x3FF8000000000000⟩) := rfl
  have finite : Number.isFinite ⟨0x3FF8000000000000⟩ = true := by decide
  have finites : Number.isFinite ⟨0x4000000000000000⟩ = true := by decide
  exact ⟨bound, finite, finites, (coherent_iff bound finite finites).mpr (by decide)⟩

/-- A balance of minus zero is equal to zero, below zero, and not at least zero. -/
theorem balance_of_minus_zero :
    let memory := Memory.ofList [("balance", .number Number.zero.negate)]
    let meets operator := holds ⟨"balance", operator, .number .zero⟩ memory
    meets .equal = true ∧ meets .less = true ∧ meets .atLeast = false ∧
      ¬ Coherent memory "balance" (.number .zero) := by
  intro memory meets
  have less : meets .less = true := by decide
  have equal : meets .equal = true := by decide
  refine ⟨equal, less, by decide, fun coherent => ?_⟩
  exact absurd coherent.one (by decide)

end Condition

end Chaining
