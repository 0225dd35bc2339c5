import Chaining.Assignment
import Chaining.Rule
import Chaining.Proofs.Memory.Written

set_option autoImplicit false

namespace Chaining

namespace Memory

/-- All numbers are finite, those in lists included. -/
def IsFinite (memory : Memory) : Prop := ∀ number ∈ memory.numbers, number.isFinite = true

theorem IsFinite.set {memory : Memory} (finite : memory.IsFinite) (name : String) {value : Value}
    (written : ∀ number ∈ value.numbers, number.isFinite = true) :
    (memory.set name value).IsFinite := by
  intro number inside
  obtain ⟨binding, bound, inside⟩ := List.mem_flatMap.mp inside
  rcases mem_place bound with rfl | before
  · exact written number inside
  · exact numbers_of_mem before finite number inside

end Memory

def Rule.SetsFinite (rule : Rule) : Prop :=
  ∀ action ∈ rule.actions, ∀ number ∈ action.value.numbers, number.isFinite = true

theorem Memory.IsFinite.apply {memory : Memory} (finite : memory.IsFinite) {rule : Rule}
    (sets : rule.SetsFinite) : (rule.apply memory).IsFinite := by
  have kept (actions : List Action) (sets : ∀ action ∈ actions, ∀ number ∈ action.value.numbers,
      number.isFinite = true) {memory : Memory} (finite : memory.IsFinite) :
      (actions.foldl (fun memory action => action.apply memory) memory).IsFinite := by
    induction actions generalizing memory with
    | nil => exact finite
    | cons action rest ih =>
      obtain ⟨first, sets⟩ := List.forall_mem_cons.mp sets
      exact ih sets (finite.set action.fact first)
  exact kept rule.actions sets finite

theorem Memory.IsFinite.foldl_apply {memory : Memory} (finite : memory.IsFinite)
    {rules : List Rule} (sets : ∀ rule ∈ rules, rule.SetsFinite) :
    (rules.foldl (fun memory rule => rule.apply memory) memory).IsFinite := by
  induction rules generalizing memory with
  | nil => exact finite
  | cons rule rest ih =>
    obtain ⟨first, sets⟩ := List.forall_mem_cons.mp sets
    exact ih (finite.apply first) sets

theorem Assignment.read_finite {argument : String} {binding : String × Value}
    (accepted : Assignment.read argument = .ok binding) :
    ∀ number ∈ binding.2.numbers, number.isFinite = true := by
  unfold Assignment.read at accepted
  dsimp only at accepted
  split at accepted
  · cases accepted
  · split at accepted
    · cases accepted
    · split at accepted
      · rename_i value read
        cases accepted
        exact (Value.writable_of_read (Json.readDocument_eq_ok.mp read).1).finite
      · split at accepted
        · cases accepted
          simp [Value.numbers]
        · cases accepted

end Chaining
