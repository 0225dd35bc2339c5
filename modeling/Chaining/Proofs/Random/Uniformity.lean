import Chaining.Strategy
import Mathlib.Data.Set.Card
import Mathlib.Logic.Function.Iterate
import Mathlib.Order.Interval.Finset.Nat

set_option autoImplicit false

namespace Chaining

namespace Random

variable {size member : Nat}

/-- Moved up by its leading zeros, a size has the highest bit of a word and no bit beyond it. -/
theorem leadingZeros_bounds (positive : 0 < size) (bounded : size < 2 ^ 64) :
    2 ^ 63 ≤ size * 2 ^ leadingZeros size ∧ size * 2 ^ leadingZeros size < 2 ^ 64 := by
  have nonzero : size ≠ 0 := Nat.ne_of_gt positive
  have short : Nat.log2 size < 64 := (Nat.log2_lt nonzero).mpr bounded
  have below : Nat.log2 size + leadingZeros size = 63 := by
    unfold leadingZeros
    omega
  constructor
  · calc 2 ^ 63 = 2 ^ Nat.log2 size * 2 ^ leadingZeros size := by rw [← Nat.pow_add, below]
      _ ≤ size * 2 ^ leadingZeros size := Nat.mul_le_mul_right _ (Nat.log2_self_le nonzero)
  · calc size * 2 ^ leadingZeros size
        < 2 ^ (Nat.log2 size + 1) * 2 ^ leadingZeros size :=
        Nat.mul_lt_mul_of_pos_right Nat.lt_log2_self (Nat.two_pow_pos _)
      _ = 2 ^ 64 := by rw [← Nat.pow_add, Nat.add_right_comm, below]

/-- The leading zeros of a size are those of the word that holds it. -/
theorem leadingZeros_eq_clz (positive : 0 < size) (bounded : size < 2 ^ 64) :
    leadingZeros size = (BitVec.ofNat 64 size).clz.toNat := by
  have nonzero : size ≠ 0 := Nat.ne_of_gt positive
  have held : (BitVec.ofNat 64 size).toNat = size := Nat.mod_eq_of_lt bounded
  have some : BitVec.ofNat 64 size ≠ 0#64 := fun zero => nonzero (by rw [← held, zero]; rfl)
  have least := BitVec.two_pow_sub_clz_le_toNat_of_ne_zero (by decide) some
  have most := @BitVec.toNat_lt_two_pow_sub_clz 64 (BitVec.ofNat 64 size)
  rw [held] at least most
  rw [← Nat.le_log2 nonzero] at least
  rw [← Nat.log2_lt nonzero] at most
  unfold leadingZeros
  omega

/-- A word stands for a member when its product with the size lies in the front part of the segment
of that member. -/
theorem accept?_eq_some_iff (positive : 0 < size) (bounded : size < 2 ^ 64) {word : UInt64} :
    accept? size word = some member ↔ member * 2 ^ 64 ≤ word.toNat * size ∧
      word.toNat * size < member * 2 ^ 64 + 2 ^ leadingZeros size * size := by
  obtain ⟨least, most⟩ := leadingZeros_bounds positive bounded
  simp only [accept?, Option.ite_none_right_eq_some, Option.some.injEq]
  simp only [zone, Nat.pow_eq]
  rw [Nat.mul_comm size] at least most ⊢
  generalize 2 ^ leadingZeros size * size = part at least most ⊢
  generalize word.toNat * size = product
  omega

/-- The least number whose product with the size reaches the segment of a member. -/
def firstWord (size member : Nat) : Nat := (member * 2 ^ 64 + (size - 1)) / size

theorem lt_firstWord_add_iff (positive : 0 < size) {number count : Nat} :
    number < firstWord size member + count ↔
      number * size < member * 2 ^ 64 + count * size := by
  rw [firstWord, ← Nat.add_mul_div_right _ _ positive, Nat.lt_iff_add_one_le,
    Nat.le_div_iff_mul_le positive, Nat.add_mul]
  omega

/-- The words that stand for a member follow one another. -/
theorem accept?_eq_some_iff_mem (positive : 0 < size) (bounded : size < 2 ^ 64) {word : UInt64} :
    accept? size word = some member ↔ word.toNat ∈
      Set.Ico (firstWord size member) (firstWord size member + 2 ^ leadingZeros size) := by
  have before := @lt_firstWord_add_iff size member positive word.toNat 0
  rw [Nat.add_zero, Nat.zero_mul, Nat.add_zero] at before
  rw [accept?_eq_some_iff positive bounded, Set.mem_Ico, lt_firstWord_add_iff positive,
    ← Nat.not_lt, ← Nat.not_lt, before]

theorem firstWord_add_le (positive : 0 < size) (bounded : size < 2 ^ 64) (inside : member < size) :
    firstWord size member + 2 ^ leadingZeros size ≤ 2 ^ 64 := by
  have part := (leadingZeros_bounds positive bounded).2
  rw [← Nat.not_lt, lt_firstWord_add_iff positive, Nat.not_lt]
  calc member * 2 ^ 64 + 2 ^ leadingZeros size * size
      ≤ member * 2 ^ 64 + 2 ^ 64 := by
        rw [Nat.mul_comm _ size]
        exact Nat.add_le_add_left (Nat.le_of_lt part) _
    _ = (member + 1) * 2 ^ 64 := (Nat.succ_mul _ _).symm
    _ ≤ 2 ^ 64 * size := by
        rw [Nat.mul_comm]
        exact Nat.mul_le_mul_left _ inside

theorem ncard_words {low high : Nat} (words : high ≤ 2 ^ 64) :
    {word : UInt64 | word.toNat ∈ Set.Ico low high}.ncard = high - low := by
  have image : UInt64.toNat '' {word : UInt64 | word.toNat ∈ Set.Ico low high} =
      ↑(Finset.Ico low high) := by
    rw [Finset.coe_Ico]
    refine Set.image_preimage_eq_of_subset fun number inside => ?_
    exact ⟨UInt64.ofNat number, UInt64.toNat_ofNat_of_lt' (Nat.lt_of_lt_of_le inside.2 words)⟩
  rw [← Set.ncard_image_of_injective _ fun _ _ same => UInt64.toNat_inj.mp same, image,
    Set.ncard_coe_finset, Nat.card_Ico]

/-- Every member of a range has the same number of words that stand for it. -/
theorem ncard_accepted (positive : 0 < size) (bounded : size < 2 ^ 64) (inside : member < size) :
    {word : UInt64 | accept? size word = some member}.ncard = 2 ^ leadingZeros size := by
  simp only [accept?_eq_some_iff_mem positive bounded]
  rw [ncard_words (firstWord_add_le positive bounded inside), Nat.add_sub_cancel_left]

section

variable {γ : Type}

def Generator.after (generator : Generator γ) (count : Nat) (state : γ) : γ :=
  (fun state => (generator.next state).2)^[count] state

def Generator.word (generator : Generator γ) (state : γ) (count : Nat) : UInt64 :=
  (generator.next (generator.after count state)).1

/-- Words that are not accepted are drawn again, and the first that is accepted decides. -/
theorem draw_of_accepted (generator : Generator γ) {count attempts : Nat} (few : count < attempts)
    {state : γ} (refused : ∀ earlier < count, accept? size (generator.word state earlier) = none)
    (accepted : accept? size (generator.word state count) = some member) :
    draw generator size attempts state = (member, generator.after (count + 1) state) := by
  induction count generalizing attempts state with
  | zero =>
    obtain ⟨attempts, rfl⟩ := Nat.exists_eq_add_one_of_ne_zero (Nat.ne_zero_of_lt few)
    rw [draw, show accept? size (generator.next state).1 = some member from accepted]
    rfl
  | succ count ih =>
    obtain ⟨attempts, rfl⟩ := Nat.exists_eq_add_one_of_ne_zero (Nat.ne_zero_of_lt few)
    have first : accept? size (generator.next state).1 = none := refused 0 (Nat.succ_pos count)
    rw [draw, first]
    exact ih (Nat.lt_of_succ_lt_succ few)
      (fun earlier before => refused (earlier + 1) (Nat.succ_lt_succ before)) accepted

end

end Random

namespace Strategy

open Chaining.Random (Generator accept? attemptLimit leadingZeros)

/-- A random strategy always chooses one of the rules, and favours none of them. Each position is
what as many words stand for as the number of rules, held in a word, has leading zeros to the power
of two; all other words are drawn again. -/
theorem select_uniform {rules : List Rule} (nonempty : rules ≠ [])
    (bounded : rules.length < 2 ^ 64) :
    (leadingZeros rules.length = (BitVec.ofNat 64 rules.length).clz.toNat ∧
      ∀ position < rules.length, {word : UInt64 | accept? rules.length word = some position}.ncard =
        2 ^ leadingZeros rules.length) ∧
      ∀ {γ : Type} (generator : Generator γ) (state : γ),
        (∃ position next, random.select generator.source rules state = some (position, next) ∧
          position < rules.length) ∧
        ∀ count < attemptLimit,
          (∀ earlier < count, accept? rules.length (generator.word state earlier) = none) →
          ∀ position, accept? rules.length (generator.word state count) = some position →
            position < rules.length ∧ random.select generator.source rules state =
              some (position, generator.after (count + 1) state) := by
  have positive : 0 < rules.length := List.length_pos_iff.mpr nonempty
  have some : rules.isEmpty = false := List.isEmpty_eq_false_iff.mpr nonempty
  refine ⟨⟨Random.leadingZeros_eq_clz positive bounded, fun position inside =>
    Random.ncard_accepted positive bounded inside⟩, fun generator state => ⟨?_, ?_⟩⟩
  · refine ⟨(generator.source.choose rules.length state).1,
      (generator.source.choose rules.length state).2, ?_,
      generator.source.choose_lt rules.length state positive⟩
    simp only [select, some, Bool.false_eq_true, ↓reduceIte]
  · intro count few refused position accepted
    refine ⟨Random.accept?_lt positive accepted, ?_⟩
    simp only [select, some, Bool.false_eq_true, ↓reduceIte, Generator.source]
    rw [Random.draw_of_accepted generator few refused accepted]

def tripletRules : List Rule := [⟨"one", 0, [], []⟩, ⟨"two", 0, [], []⟩, ⟨"three", 0, [], []⟩]

/-- A quarter of all words is drawn again, and the others are shared out evenly. -/
theorem select_uniform_triplet :
    tripletRules ≠ [] ∧ tripletRules.length < 2 ^ 64 ∧
      {word : UInt64 | accept? 3 word = some 2}.ncard = 2 ^ 62 ∧
      accept? 3 (Random.Steps.generator.word ⟨0x4000000000000000, 0x4000000000000000⟩ 0) = none ∧
      random.select Random.Steps.generator.source tripletRules
        ⟨0x4000000000000000, 0x4000000000000000⟩ =
          some (1, ⟨0xC000000000000000, 0x4000000000000000⟩) := by
  have nonempty : tripletRules ≠ [] := List.cons_ne_nil _ _
  have bounded : tripletRules.length < 2 ^ 64 := by decide
  obtain ⟨⟨-, even⟩, chosen⟩ := select_uniform nonempty bounded
  have refused : ∀ earlier < 1, accept? tripletRules.length
      (Random.Steps.generator.word ⟨0x4000000000000000, 0x4000000000000000⟩ earlier) = none := by
    decide
  have few : 1 < attemptLimit := by decide
  exact ⟨nonempty, bounded, even 2 (by decide), refused 0 Nat.one_pos,
    ((chosen Random.Steps.generator _).2 1 few refused 1 (by decide)).2⟩

end Strategy

end Chaining
