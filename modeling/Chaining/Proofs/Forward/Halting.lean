import Chaining.Proofs.Forward.Batches

set_option autoImplicit false

namespace Chaining.Forward

variable {ρ σ : Type}

/-- What looking at the goals after every firing has told: they hold after the latest one or not,
and after none before it. -/
structure Progress.Watched (rules : List Rule) (start : Memory) (goals : List String) (done : Bool)
    (progress : Progress ρ σ) : Prop where
  earlier : ∀ count, 1 ≤ count → count < progress.fired.length →
    (replay rules start (progress.fired.take count)).satisfies goals = false
  latest : progress.fired ≠ [] → progress.memory.satisfies goals = done

namespace Progress.Watched

variable {rules : List Rule} {start : Memory} {goals : List String} {progress : Progress ρ σ}

theorem choose {iteration : Nat} (watched : progress.Watched rules start goals false)
    (ledger : progress.Ledger rules start iteration) (sink : Sink σ) (size : Nat) (source : ρ)
    (entry : Nat × Rule) :
    (progress.choose sink iteration size source entry).Watched rules start goals
      ((entry.2.apply progress.memory).satisfies goals) := by
  refine ⟨fun count positive less => ?_, fun _ => by rw [choose_memory]⟩
  rw [choose_fired, List.length_append, List.length_singleton] at less
  have within : count ≤ progress.fired.length := Nat.le_of_lt_succ less
  rw [choose_fired, List.take_append_of_le_length within]
  by_cases before : count < progress.fired.length
  · exact watched.earlier count positive before
  · have all : count = progress.fired.length := by omega
    have some : progress.fired ≠ [] := List.length_pos_iff.mp (all ▸ positive)
    rw [all, List.take_length, ← ledger.memory]
    exact watched.latest some

end Progress.Watched

namespace Engine

variable {engine : Engine ρ} {sink : Sink σ} {goals : List String} {rules : List Rule}
  {start : Memory} {iteration : Nat}

/-- A pass is done exactly when the goals hold after its last firing. -/
theorem Pass.watched {ready batch : List (Nat × Rule)} {progress after : Progress ρ σ} {done : Bool}
    (pass : engine.Pass sink goals iteration ready progress batch done after)
    (begun : 1 ≤ iteration) (within : ready.Sublist progress.pool)
    (ledger : progress.Ledger rules start iteration)
    (watched : progress.Watched rules start goals false) :
    after.Watched rules start goals done := by
  induction pass with
  | emptied => exact watched
  | reached chosen satisfied =>
    rw [← satisfied]
    exact watched.choose ledger sink _ _ _
  | @further ready _ progress _ _ entry source _ chosen unsatisfied later ih =>
    have member := within.subset (List.mem_of_getElem? chosen.2)
    have next := watched.choose ledger sink ready.length source entry
    rw [unsatisfied] at next
    exact ih (eraseIdx_sublist_pool within ledger.pool_ascending chosen.2)
      (ledger.choose begun member sink _ _) next

namespace Course

variable {left : Nat} {progress : Progress ρ σ} {outcome : Outcome ρ σ}

theorem watched_after {batch : List (Nat × Rule)} {done : Bool} {after : Progress ρ σ}
    (pass : engine.Pass sink goals (iteration + 1) progress.ready
      (progress.report sink (.iterationStarted (iteration + 1))) batch done after)
    (ledger : progress.Ledger rules start iteration)
    (watched : progress.Watched rules start goals false) :
    after.Watched rules start goals done :=
  pass.watched (Nat.le_add_left 1 iteration) List.filter_sublist
    ((ledger.report sink _).mono (Nat.le_succ iteration)) ⟨watched.earlier, watched.latest⟩

theorem watched (course : engine.Course sink goals left iteration progress outcome)
    (ledger : progress.Ledger rules start iteration)
    (watched : progress.Watched rules start goals false) :
    (∀ count, 1 ≤ count → count < outcome.run.fired.length →
      (replay rules start (outcome.run.fired.take count)).satisfies goals = false) ∧
    (outcome.run.fired ≠ [] → outcome.memory.satisfies goals = outcome.run.goalsReached) := by
  induction course with
  | capped => exact ⟨watched.earlier, watched.latest⟩
  | stuck unready => exact ⟨watched.earlier, watched.latest⟩
  | reached pass =>
    have next := watched_after pass ledger watched
    exact ⟨next.earlier, next.latest⟩
  | again ready pass later ih =>
    exact ih (ledger_after pass ledger) (watched_after pass ledger watched)

theorem fired_ne_nil (course : engine.Course sink goals left iteration progress outcome)
    (reached : outcome.run.halt = .goalsReached) : outcome.run.fired ≠ [] := by
  induction course with
  | capped => cases reached
  | stuck unready => cases reached
  | @reached _ _ _ after _ pass =>
    change after.fired ≠ []
    rw [pass.fired_eq]
    exact List.append_ne_nil_of_right_ne_nil _ (mt List.map_eq_nil_iff.mp pass.batch_ne_nil)
  | again ready pass later ih => exact ih reached

theorem iterations_of_capped (course : engine.Course sink goals left iteration progress outcome)
    (capped : outcome.run.halt = .iterationCap) :
    outcome.run.iterations = iteration + left := by
  induction course with
  | capped => rfl
  | stuck unready => cases capped
  | reached pass => cases capped
  | again ready pass later ih =>
    rw [ih capped]
    omega

end Course

end Engine

structure Run.IsHalted (run : Run) (rules : List Rule) (start : Memory) (goals : List String)
    (cap : Nat) : Prop where
  unmet : ∀ count, 1 ≤ count → count < run.fired.length →
    (run.memoryAfter rules start count).satisfies goals = false
  reached : run.halt = .goalsReached ↔ 1 ≤ run.fired.length ∧
    (run.memoryAfter rules start run.fired.length).satisfies goals = true
  stuck : run.halt = .noApplicableRules → ∀ (index : Nat) (rule : Rule),
    rules[index]? = some rule → index ∉ run.fired.map (·.index) →
    rule.isApplicable (run.memoryAfter rules start run.fired.length) = false
  capped : run.halt = .iterationCap → run.iterations = cap ∧
    ∀ iteration, 1 ≤ iteration → iteration ≤ cap → run.firedIn iteration ≠ []

namespace Engine

variable (engine : Engine ρ) (sink : Sink σ) (goals : List String) (start : Memory) (source : ρ)
  (trace : σ)

theorem run_memory :
    (engine.run sink goals start source trace).memory =
      (engine.run sink goals start source trace).run.memoryAfter engine.rules start
        (engine.run sink goals start source trace).run.fired.length := by
  obtain ⟨last, ledger, fired, memory, _⟩ := engine.run_halts sink goals start source trace
  rw [Run.memoryAfter, List.take_length, memory, fired]
  exact ledger.memory

/-- The goals hold after the last firing of a run exactly when it halted for them; it gets stuck
only when nothing that is left applies, and is cut off only after passes that all fired. -/
theorem run_isHalted :
    (engine.run sink goals start source trace).memory =
        (engine.run sink goals start source trace).run.memoryAfter engine.rules start
          (engine.run sink goals start source trace).run.fired.length ∧
      (engine.run sink goals start source trace).run.IsHalted engine.rules start goals
        engine.cap := by
  have course := engine.run_course sink goals start source trace
  have memory := engine.run_memory sink goals start source trace
  obtain ⟨unmet, latest⟩ := course.watched
    (Progress.Ledger.initial engine.rules start source trace) ⟨by simp, by simp⟩
  refine ⟨memory, unmet, ?_, ?_, ?_⟩
  · rw [← memory]
    constructor
    · intro halted
      have fired := course.fired_ne_nil halted
      exact ⟨List.length_pos_iff.mpr fired, (latest fired).trans (decide_eq_true halted)⟩
    · rintro ⟨positive, satisfied⟩
      rw [latest (List.length_pos_iff.mp positive)] at satisfied
      exact of_decide_eq_true satisfied
  · intro halted index rule found unfired
    obtain ⟨last, ledger, fired, ended, unready⟩ :=
      engine.run_halts sink goals start source trace
    rw [fired] at unfired
    rw [← memory, ended]
    have pooled : (index, rule) ∈ last.pool := ledger.mem_pool.mpr ⟨found, unfired⟩
    exact Bool.eq_false_iff.mpr (List.filter_eq_nil_iff.mp (unready halted) _ pooled)
  · intro halted
    have iterations := course.iterations_of_capped halted
    rw [Nat.zero_add] at iterations
    refine ⟨iterations, fun iteration positive within none => ?_⟩
    obtain ⟨number, rfl⟩ := Nat.exists_eq_add_of_le' positive
    obtain ⟨before, batch, done, after, makes⟩ :=
      engine.run_makes sink goals start source trace (iterations.symm ▸ within)
    rw [makes.firedIn_eq, List.map_eq_nil_iff] at none
    -- The goals were not reached, so a pass that fires nothing had nothing ready.
    have unfinished : done = false := by
      refine Bool.eq_false_iff.mpr fun reached => ?_
      rw [(makes.reached reached).2] at halted
      cases halted
    obtain ⟨rest, reordered, complete⟩ := makes.pass.perm
    rw [complete unfinished, none, List.nil_append] at reordered
    rw [makes.stuck reordered.symm.eq_nil] at halted
    cases halted

end Engine

end Chaining.Forward
