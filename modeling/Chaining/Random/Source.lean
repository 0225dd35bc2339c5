set_option autoImplicit false

namespace Chaining.Random

/-- Chooses below a size. The state is that of the source. -/
structure Source (ρ : Type) where
  choose : Nat → ρ → Nat × ρ
  choose_lt : ∀ size state, 0 < size → (choose size state).1 < size

structure Generator (γ : Type) where
  next : γ → UInt64 × γ

/-- The binary digits that a size has less than a word. -/
def leadingZeros (size : Nat) : Nat := 63 - Nat.log2 size

/-- The largest low half of a product that is accepted. -/
def zone (size : Nat) : Nat := (size * Nat.pow 2 (leadingZeros size) - 1) % Nat.pow 2 64

/-- The high half of the product of a word and the size is a member. Words that would favour some
members are not accepted. -/
def accept? (size : Nat) (word : UInt64) : Option Nat :=
  let product := word.toNat * size
  if product % Nat.pow 2 64 ≤ zone size then some (product / Nat.pow 2 64) else none

theorem accept?_lt {size member : Nat} {word : UInt64} (positive : 0 < size)
    (accepted : accept? size word = some member) : member < size := by
  simp only [accept?, Option.ite_none_right_eq_some, Option.some.injEq] at accepted
  rw [← accepted.2]
  apply Nat.div_lt_of_lt_mul
  exact Nat.mul_lt_mul_of_pos_right word.toNat_lt positive

/-- Draws words until one is accepted. -/
def draw {γ : Type} (generator : Generator γ) (size : Nat) : Nat → γ → Nat × γ
  | 0, state => (0, state)
  | attempts + 1, state =>
    match accept? size (generator.next state).1 with
    | some member => (member, (generator.next state).2)
    | none => draw generator size attempts (generator.next state).2

theorem draw_lt {γ : Type} (generator : Generator γ) {size : Nat} (positive : 0 < size)
    (attempts : Nat) (state : γ) : (draw generator size attempts state).1 < size := by
  induction attempts generalizing state with
  | zero => exact positive
  | succ attempts ih =>
    unfold draw
    split
    · rename_i accepted
      exact accept?_lt positive accepted
    · exact ih _

/-- More words than there are, so that a generator which goes through all of them is never cut
off. -/
def attemptLimit : Nat := Nat.pow 2 64

def Generator.source {γ : Type} (generator : Generator γ) : Source γ where
  choose := fun size state => draw generator size attemptLimit state
  choose_lt := fun _ state positive => draw_lt generator positive attemptLimit state

/-- Words that grow by the same step each time. -/
structure Steps where
  value : UInt64
  increment : UInt64

def Steps.generator : Generator Steps :=
  ⟨fun steps => (steps.value, { steps with value := steps.value + steps.increment })⟩

end Chaining.Random
