import Chaining.Proofs.Forward.Halting
import Chaining.Proofs.Forward.Order
import Mathlib.Data.List.Perm.Subperm

set_option autoImplicit false

namespace Chaining.Forward

variable {ρ σ : Type}

namespace Engine

variable {engine : Engine ρ} {sink : Sink σ} {goals : List String} {rules : List Rule}
  {start : Memory} {iteration : Nat}

theorem Pass.fired_lt {ready batch : List (Nat × Rule)} {progress after : Progress ρ σ}
    (pass : engine.Pass sink goals iteration ready progress batch false after)
    (nonempty : ready ≠ []) : progress.fired.length < after.fired.length := by
  obtain ⟨rest, reordered, complete⟩ := pass.perm
  rw [complete rfl, List.append_nil] at reordered
  have positive : 0 < batch.length := reordered.length_eq ▸ List.length_pos_iff.mpr nonempty
  rw [pass.fired_eq, List.length_append, List.length_map]
  omega

namespace Course

variable {left : Nat} {progress : Progress ρ σ} {outcome : Outcome ρ σ}

theorem iterations_le (course : engine.Course sink goals left iteration progress outcome) :
    outcome.run.iterations ≤ iteration + left := by
  induction course with
  | capped => exact Nat.le_refl _
  | stuck | reached =>
    change _ + 1 ≤ _
    omega
  | again ready pass later ih => omega

/-- Each pass that has been made fired something, apart from the last, which fired something too
when the run was cut off. -/
theorem productive (course : engine.Course sink goals left iteration progress outcome) :
    outcome.run.iterations + progress.fired.length ≤ iteration + outcome.run.fired.length + 1 ∧
      (outcome.run.halt = .iterationCap →
        outcome.run.iterations + progress.fired.length ≤
          iteration + outcome.run.fired.length) := by
  induction course with
  | capped => exact ⟨Nat.le_succ _, fun _ => Nat.le_refl _⟩
  | @stuck _ iteration progress unready =>
    refine ⟨?_, fun capped => by cases capped⟩
    change iteration + 1 + progress.fired.length ≤ iteration + progress.fired.length + 1
    omega
  | @reached _ iteration progress after batch pass =>
    refine ⟨?_, fun capped => by cases capped⟩
    change iteration + 1 + progress.fired.length ≤ iteration + after.fired.length + 1
    have kept : after.fired.length = progress.fired.length + _ :=
      pass.fired_eq ▸ List.length_append
    omega
  | @again _ iteration progress after _ outcome ready pass later ih =>
    have fired : progress.fired.length < after.fired.length := pass.fired_lt ready
    exact ⟨by omega, fun capped => by have := ih.2 capped; omega⟩

end Course

end Engine

/-- A record that keeps within the bounds of its rules and its cap. -/
structure Run.IsBounded (run : Run) (rules : List Rule) (start : Memory) (cap : Nat) : Prop where
  fired : run.fired.length ≤ rules.length
  capped : run.iterations ≤ cap
  productive : run.iterations ≤ run.fired.length + 1
  uncapped : rules.length < cap → run.halt ≠ .iterationCap
  /-- A pass fires all that is ready when it begins, unless it reaches the goals. -/
  drained : ∀ iteration, 1 ≤ iteration → iteration ≤ run.iterations →
    (run.firedIn iteration).Perm ((run.eligible rules start iteration).map (·.1)) ∨
      (iteration = run.iterations ∧ run.halt = .goalsReached)

theorem Progress.Ledger.fired_le {rules : List Rule} {start : Memory} {iteration : Nat}
    {progress : Progress ρ σ} (ledger : progress.Ledger rules start iteration) :
    progress.fired.length ≤ rules.length := by
  have inside : progress.fired.map (·.index) ⊆ List.range rules.length := by
    intro index member
    obtain ⟨firing, fired, rfl⟩ := List.mem_map.mp member
    obtain ⟨rule, found, _⟩ := Option.map_eq_some_iff.mp (ledger.named firing fired)
    exact List.mem_range.mpr (List.getElem?_eq_some_iff.mp found).1
  have fewer := (List.Nodup.subperm ledger.once inside).length_le
  rwa [List.length_map, List.length_range] at fewer

namespace Engine

variable (engine : Engine ρ) (sink : Sink σ) (goals : List String) (start : Memory) (source : ρ)
  (trace : σ)

/-- A run is made of passes in which every choice falls on a rule that is ready, and a choice among
some rules is never refused. So it fires no more rules than there are, makes at most one pass more
than it has firings, and is cut off only by a cap that does not exceed the number of rules. -/
theorem run_isBounded :
    engine.Course sink goals engine.cap 0 ⟨start, source, trace, engine.pool, []⟩
        (engine.run sink goals start source trace) ∧
      (∀ candidates : List Rule, candidates ≠ [] → ∀ state, ∃ position next,
        engine.strategy.select engine.chance candidates state = some (position, next) ∧
          position < candidates.length) ∧
      (engine.run sink goals start source trace).run.IsBounded engine.rules start engine.cap := by
  have course := engine.run_course sink goals start source trace
  obtain ⟨last, ledger, fired, _, _⟩ := engine.run_halts sink goals start source trace
  obtain ⟨most, cutOff⟩ := course.productive
  simp only [List.length_nil, Nat.add_zero, Nat.zero_add] at most cutOff
  have within := ledger.fired_le
  rw [← fired] at within
  refine ⟨course, fun candidates some state =>
    engine.strategy.select_some engine.chance some state, within, ?_, most, ?_, ?_⟩
  · simpa using course.iterations_le
  · intro more capped
    have iterations := course.iterations_of_capped capped
    have enough := cutOff capped
    omega
  · intro iteration positive counted
    obtain ⟨number, rfl⟩ := Nat.exists_eq_add_of_le' positive
    obtain ⟨before, batch, done, after, makes⟩ :=
      engine.run_makes sink goals start source trace counted
    obtain ⟨rest, reordered, complete⟩ := makes.pass.perm
    cases done with
    | true => exact Or.inr (makes.reached rfl)
    | false =>
      rw [complete rfl, List.append_nil] at reordered
      rw [makes.firedIn_eq, makes.eligible_eq]
      exact Or.inl (reordered.map _)

end Engine

end Chaining.Forward
