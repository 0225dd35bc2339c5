import Chaining.Proofs.Forward.Chronicle
import Chaining.Proofs.Strategy.Order

set_option autoImplicit false

namespace Chaining.Forward

variable {ρ σ : Type}

/-- The rules that are eligible when a pass begins, with their places and in their order. -/
def Run.eligible (run : Run) (rules : List Rule) (start : Memory) (iteration : Nat) :
    List (Nat × Rule) :=
  (Rule.placed rules).filter fun entry => run.Eligible rules start iteration entry.1

namespace Engine

variable {engine : Engine ρ} {sink : Sink σ} {goals : List String} {key : Rule → Int}

/-- A pass fires from the front of the arrangement of what is ready. -/
theorem Pass.arranged {iteration : Nat} {ready batch : List (Nat × Rule)}
    {progress after : Progress ρ σ} {done : Bool}
    (pass : engine.Pass sink goals iteration ready progress batch done after)
    (ranked : engine.strategy.key? = some key)
    (ascending : ready.Pairwise fun earlier later => earlier.1 < later.1) :
    batch <+: Strategy.arranged key ready ∧
      (done = false → batch = Strategy.arranged key ready) := by
  induction pass with
  | emptied => exact ⟨by simp, fun _ => List.mergeSort_nil.symm⟩
  | reached chosen satisfied =>
    obtain ⟨best, _⟩ := Strategy.select_isEarliestLargest ranked engine.chance chosen.1
    rw [Strategy.arranged_eq_cons ascending chosen.2 best]
    exact ⟨(List.prefix_cons_inj _).mpr List.nil_prefix, by simp⟩
  | further chosen unsatisfied later ih =>
    obtain ⟨best, _⟩ := Strategy.select_isEarliestLargest ranked engine.chance chosen.1
    obtain ⟨front, whole⟩ := ih (ascending.sublist (List.eraseIdx_sublist _ _))
    rw [Strategy.arranged_eq_cons ascending chosen.2 best]
    exact ⟨(List.prefix_cons_inj _).mpr front, fun unfinished => by rw [← whole unfinished]⟩

namespace Makes

variable {rules : List Rule} {start : Memory} {run : Run} {number : Nat}
  {before after : Progress ρ σ} {batch : List (Nat × Rule)} {done : Bool}

theorem ready_ascending
    (makes : engine.Makes sink goals rules start run number before batch done after) :
    before.ready.Pairwise fun earlier later => earlier.1 < later.1 :=
  makes.ledger.pool_ascending.sublist List.filter_sublist

theorem eligible_eq
    (makes : engine.Makes sink goals rules start run number before batch done after) :
    run.eligible rules start (number + 1) = before.ready := by
  rw [Run.eligible, Progress.ready, makes.ledger.pool, List.filter_filter]
  apply List.filter_congr
  intro entry placed
  have found := Rule.mem_placed.mp placed
  rw [Bool.eq_iff_iff, decide_eq_true_iff, Run.Eligible, Run.not_firedIn_iff, Run.memoryBefore,
    makes.firedBefore_eq, ← makes.ledger.memory]
  simp [found, and_comm]

end Makes

end Engine

structure Run.IsArranged (run : Run) (rules : List Rule) (start : Memory) (key : Rule → Int) :
    Prop where
  /-- A pass fires eligible rules in the order of the key, from the first of them on. -/
  front : ∀ iteration, 1 ≤ iteration → iteration ≤ run.iterations →
    run.firedIn iteration <+:
      (Strategy.arranged key (run.eligible rules start iteration)).map (·.1)
  /-- It fires all of them, unless it is the last one and has reached the goals. -/
  whole : ∀ iteration, 1 ≤ iteration → iteration ≤ run.iterations →
    ¬(iteration = run.iterations ∧ run.halt = .goalsReached) →
    run.firedIn iteration = (Strategy.arranged key (run.eligible rules start iteration)).map (·.1)

namespace Engine

variable (engine : Engine ρ) (sink : Sink σ) (goals : List String) (start : Memory) (source : ρ)
  (trace : σ)

/-- Every pass of a run under a strategy with a key fires the eligible rules as a stable sort by
descending key arranges them; only the pass that reaches the goals may stop short. -/
theorem run_isArranged {key : Rule → Int} (ranked : engine.strategy.key? = some key) :
    (engine.run sink goals start source trace).run.IsArranged engine.rules start key := by
  constructor
  · intro iteration positive counted
    obtain ⟨number, rfl⟩ := Nat.exists_eq_add_of_le' positive
    obtain ⟨before, batch, done, after, makes⟩ :=
      engine.run_makes sink goals start source trace counted
    rw [makes.firedIn_eq, makes.eligible_eq]
    exact (makes.pass.arranged ranked makes.ready_ascending).1.map _
  · intro iteration positive counted unreached
    obtain ⟨number, rfl⟩ := Nat.exists_eq_add_of_le' positive
    obtain ⟨before, batch, done, after, makes⟩ :=
      engine.run_makes sink goals start source trace counted
    have unfinished : done = false := Bool.eq_false_iff.mpr (mt makes.reached unreached)
    rw [makes.firedIn_eq, makes.eligible_eq,
      (makes.pass.arranged ranked makes.ready_ascending).2 unfinished]

/-- Chores of unequal urgency, two of them equally urgent. -/
def choreEngine : Engine Unit where
  rules := [⟨"sweep", -1, [], [⟨"floor", .boolean true⟩]⟩, ⟨"cook", 2, [], []⟩,
    ⟨"wash", 2, [⟨"floor", .absent, .null⟩], []⟩, ⟨"shop", 7, [], []⟩, ⟨"bake", 2, [], []⟩]
  strategy := .highestPriority
  chance := .first
  cap := 3

theorem run_isArranged_chores :
    choreEngine.strategy.key? = some Rule.priority ∧
      (choreEngine.run Sink.ignore ["rest"] Memory.empty () ()).run.firedIn 1 = [3, 1, 4, 0] ∧
      (choreEngine.run Sink.ignore ["rest"] Memory.empty () ()).run.IsArranged choreEngine.rules
        Memory.empty Rule.priority :=
  ⟨rfl, rfl, run_isArranged choreEngine Sink.ignore ["rest"] Memory.empty () () rfl⟩

end Engine

end Chaining.Forward
