import Chaining.Proofs.Condition.Comparison
import Chaining.Proofs.Memory.Lookup

set_option autoImplicit false

namespace Chaining

namespace Value

theorem compareNumbers_swap (left right : Value) :
    left.compareNumbers right = (right.compareNumbers left).swap := by
  unfold compareNumbers
  split
  · exact Number.order_swap _ _
  · rename_i apart
    split
    · exact absurd rfl (apart _ _ rfl)
    · rfl

theorem compareNumbers_gt {left right : Value} (above : left.compareNumbers right = .gt) :
    ∃ one two, left = .number one ∧ right = .number two := by
  unfold compareNumbers at above
  split at above
  · exact ⟨_, _, rfl, rfl⟩
  · cases above

theorem same_text {value : Value} {content : String} (same : value.same (.text content) = true) :
    value = .text content := by
  unfold Value.same at same
  split at same
  all_goals simp_all

end Value

namespace Operator

theorem occursIn_iff {part whole : List Char} : occursIn part whole = true ↔ part <:+: whole := by
  induction whole with
  | nil => rw [occursIn, List.isEmpty_iff, List.infix_nil]
  | cons first rest ih =>
    rw [occursIn, Bool.or_eq_true, ih, List.isPrefixOf_iff_prefix, List.infix_cons_iff]

theorem test_greater_eq (left right : Value) : greater.test left right = less.test right left := by
  simp only [test, left.compareNumbers_swap right]
  cases right.compareNumbers left <;> rfl

theorem test_greater_trans {first second third : Value}
    (one : greater.test first second = true) (two : greater.test second third = true) :
    greater.test first third = true := by
  obtain ⟨first, second, rfl, rfl⟩ := Value.compareNumbers_gt (eq_of_beq one)
  obtain ⟨_, third, _, rfl⟩ := Value.compareNumbers_gt (eq_of_beq two)
  rw [test_greater] at one two ⊢
  exact Int.lt_trans two one

theorem test_contains_of_end {operator : Operator}
    (either : operator = startsWith ∨ operator = endsWith) {actual : Value} {part : String}
    (ends : operator.test actual (.text part) = true) :
    contains.test actual (.text part) = true := by
  cases actual with
  | text whole =>
    apply occursIn_iff.mpr
    rcases either with rfl | rfl
    · exact (List.isPrefixOf_iff_prefix.mp ends).isInfix
    · exact (List.isSuffixOf_iff_suffix.mp ends).isInfix
  | null | boolean | number | list => rcases either with rfl | rfl <;> cases ends

theorem test_text_self {operator : Operator} (text : String)
    (tests : operator ∈ [startsWith, endsWith, contains]) :
    operator.test (.text text) (.text text) = true := by
  simp only [List.mem_cons, List.not_mem_nil, or_false] at tests
  rcases tests with rfl | rfl | rfl
  · exact List.isPrefixOf_iff_prefix.mpr List.prefix_rfl
  · exact List.isSuffixOf_iff_suffix.mpr List.suffix_rfl
  · exact occursIn_iff.mpr List.infix_rfl

end Operator

namespace Condition

theorem holds_eq_false_of_blank {condition : Condition} {memory : Memory}
    (blank : memory.Blank condition.fact) : condition.holds memory = false := by
  rcases blank with unbound | null <;> simp [holds, *]

theorem bound_of_holds {condition : Condition} {memory : Memory}
    (met : condition.holds memory = true) :
    ∃ actual, memory.get? condition.fact = some actual ∧ actual ≠ .null := by
  unfold holds at met
  split at met
  · cases met
  · cases met
  · rename_i actual known bound
    exact ⟨actual, bound, known⟩

/-- Of two operators exactly one holds between a fact and a value. -/
def Alternative (memory : Memory) (fact : String) (expected : Value) (one other : Operator) :
    Prop :=
  holds ⟨fact, other, expected⟩ memory = !holds ⟨fact, one, expected⟩ memory

/-- What the operators say about a fact and its value, whatever it is compared with. -/
structure Lawful (memory : Memory) (fact : String) (actual : Value) : Prop where
  equality : ∀ expected, Alternative memory fact expected .equal .notEqual
  atMost : ∀ expected, Alternative memory fact expected .greater .atMost
  atLeast : ∀ expected, Alternative memory fact expected .less .atLeast
  /-- Nothing is both above a value and below it. -/
  strict : ∀ expected, holds ⟨fact, .greater, expected⟩ memory = true →
    holds ⟨fact, .less, expected⟩ memory = false
  /-- A value is above another one where that is below it. -/
  turned : ∀ (others : Memory) (name : String) (expected : Value), expected ≠ .null →
    others.get? name = some expected →
    holds ⟨fact, .greater, expected⟩ memory = holds ⟨name, .less, actual⟩ others
  /-- A value is in a list that contains it. -/
  member : ∀ (others : Memory) (name : String) (items : List Value),
    others.get? name = some (.list items) →
    holds ⟨fact, .among, .list items⟩ memory = holds ⟨name, .contains, actual⟩ others
  /-- Texts contain what they start or end with. -/
  ends : ∀ (part : String), ∀ operator ∈ [Operator.startsWith, .endsWith],
    holds ⟨fact, operator, .text part⟩ memory = true →
    holds ⟨fact, .contains, .text part⟩ memory = true
  whole : ∀ (text : String), holds ⟨fact, .equal, .text text⟩ memory = true →
    ∀ operator ∈ [Operator.startsWith, .endsWith, .contains],
      holds ⟨fact, operator, .text text⟩ memory = true

theorem lawful_of_bound {memory : Memory} {fact : String} {actual : Value}
    (bound : memory.get? fact = some actual) (known : actual ≠ .null) :
    Lawful memory fact actual := by
  have tests := holds_of_bound bound known
  constructor
  case equality =>
    intro expected
    rw [Alternative, tests, tests]
    rfl
  case atMost | atLeast =>
    intro expected
    rw [Alternative, tests, tests]
    rfl
  case strict =>
    intro expected above
    rw [tests] at above ⊢
    rw [Operator.test, eq_of_beq above]
    rfl
  case turned =>
    intro others name expected given there
    rw [tests, holds_of_bound there given, Operator.test_greater_eq]
  case member =>
    intro others name items there
    rw [tests, holds_of_bound there (fun null => by cases null)]
    rfl
  case ends =>
    intro part operator either starts
    rw [tests] at starts ⊢
    exact Operator.test_contains_of_end (by simpa using either) starts
  case whole =>
    intro text equal operator among
    rw [tests] at equal ⊢
    rw [Value.same_text equal]
    exact Operator.test_text_self text among

/-- The laws of the operators. A fact of which nothing is known meets no condition. Any other one
obeys the laws, and what is above is so transitively. -/
theorem holds_lawful (memory : Memory) (fact : String) :
    (memory.Blank fact → ∀ operator expected, holds ⟨fact, operator, expected⟩ memory = false) ∧
      (∀ actual, memory.get? fact = some actual → actual ≠ .null → Lawful memory fact actual) ∧
      ∀ (others : Memory) (name : String) (second third : Value),
        others.get? name = some second →
        holds ⟨fact, .greater, second⟩ memory = true →
        holds ⟨name, .greater, third⟩ others = true →
        holds ⟨fact, .greater, third⟩ memory = true := by
  refine ⟨fun blank operator expected => holds_eq_false_of_blank blank,
    fun actual bound known => lawful_of_bound bound known, ?_⟩
  intro others name second third there one two
  obtain ⟨first, bound, known⟩ := bound_of_holds one
  obtain ⟨middle, here, given⟩ := bound_of_holds two
  obtain rfl := Option.some.inj (here.symm.trans there)
  rw [holds_of_bound bound known] at one ⊢
  rw [holds_of_bound there given] at two
  exact Operator.test_greater_trans one two

/-- A pond of unknown age, as deep as can be. -/
def pondMemory : Memory :=
  Memory.ofList [("age", .null), ("depth", .number (.infinity false)), ("pet", .text "catfish"),
    ("width", .ofInt 7)]

theorem holds_lawful_pond :
    (pondMemory.Blank "age" ∧ holds ⟨"age", .atMost, .null⟩ pondMemory = false) ∧
      (Lawful pondMemory "pet" (.text "catfish") ∧
        holds ⟨"pet", .contains, .text "fish"⟩ pondMemory = true) ∧
      holds ⟨"depth", .greater, .number Number.notANumber.negate⟩ pondMemory = true := by
  have blank : pondMemory.Blank "age" := Or.inr rfl
  have lawful : Lawful pondMemory "pet" (.text "catfish") :=
    (holds_lawful pondMemory "pet").2.1 _ rfl fun null => by cases null
  have ends : holds ⟨"pet", .endsWith, .text "fish"⟩ pondMemory = true := by decide
  have deep : holds ⟨"depth", .greater, .ofInt 7⟩ pondMemory = true := by decide +kernel
  have wide : holds ⟨"width", .greater, .number Number.notANumber.negate⟩ pondMemory = true := by
    decide +kernel
  exact ⟨⟨blank, (holds_lawful pondMemory "age").1 blank .atMost .null⟩,
    ⟨lawful, lawful.ends "fish" .endsWith (by decide) ends⟩,
    (holds_lawful pondMemory "depth").2.2 pondMemory "width" _ _ rfl deep wide⟩

end Condition

end Chaining
