import Chaining.Forward
import Chaining.Proofs.Rule.Places
import Chaining.Proofs.Strategy.Selection

set_option autoImplicit false

namespace Chaining.Forward

variable {ρ σ : Type}

/-- Announces how many rules there are to choose from, and fires the chosen one. -/
def Progress.choose (progress : Progress ρ σ) (sink : Sink σ) (iteration size : Nat) (source : ρ)
    (entry : Nat × Rule) : Progress ρ σ :=
  Progress.fire { progress.report sink (.conflictSet size) with source } sink iteration
    entry.1 entry.2

@[simp] theorem Progress.choose_memory (progress : Progress ρ σ) (sink : Sink σ)
    (iteration size : Nat) (source : ρ) (entry : Nat × Rule) :
    (progress.choose sink iteration size source entry).memory =
      entry.2.apply progress.memory :=
  Rule.fire_memory entry.2 sink progress.memory _

@[simp] theorem Progress.choose_fired (progress : Progress ρ σ) (sink : Sink σ)
    (iteration size : Nat) (source : ρ) (entry : Nat × Rule) :
    (progress.choose sink iteration size source entry).fired =
      progress.fired ++ [⟨entry.1, entry.2.name, iteration⟩] := rfl

@[simp] theorem Progress.choose_pool (progress : Progress ρ σ) (sink : Sink σ)
    (iteration size : Nat) (source : ρ) (entry : Nat × Rule) :
    (progress.choose sink iteration size source entry).pool =
      progress.pool.filter fun other => other.1 ≠ entry.1 := rfl

theorem Progress.choose_told (progress : Progress ρ σ) (sink : Sink σ)
    (iteration size : Nat) (source : ρ) (entry : Nat × Rule) :
    (progress.choose sink iteration size source entry).trace =
      entry.2.account.foldl sink.record (sink.record progress.trace (.conflictSet size)) :=
  Rule.fire_trace entry.2 sink progress.memory _

namespace Engine

variable (engine : Engine ρ) (sink : Sink σ) (goals : List String)

/-- The strategy chooses an entry, at a position among those that are ready. -/
def Chooses (ready : List (Nat × Rule)) (source : ρ) (position : Nat) (entry : Nat × Rule)
    (next : ρ) : Prop :=
  engine.strategy.select engine.chance (ready.map (·.2)) source = some (position, next) ∧
    ready[position]? = some entry

/-- The course of one pass: what was ready, where the run stood, what fired in order, whether the
goals were reached, and where the run stands then. -/
inductive Pass (iteration : Nat) :
    List (Nat × Rule) → Progress ρ σ → List (Nat × Rule) → Bool → Progress ρ σ → Prop
  | emptied {progress : Progress ρ σ} : Pass iteration [] progress [] false progress
  | reached {ready : List (Nat × Rule)} {progress : Progress ρ σ} {position : Nat}
      {entry : Nat × Rule} {source : ρ}
      (chosen : engine.Chooses ready progress.source position entry source)
      (satisfied : (entry.2.apply progress.memory).satisfies goals = true) :
      Pass iteration ready progress [entry] true
        (progress.choose sink iteration ready.length source entry)
  | further {ready batch : List (Nat × Rule)} {progress after : Progress ρ σ} {position : Nat}
      {entry : Nat × Rule} {source : ρ} {done : Bool}
      (chosen : engine.Chooses ready progress.source position entry source)
      (unsatisfied : (entry.2.apply progress.memory).satisfies goals = false)
      (later : Pass iteration (ready.eraseIdx position)
        (progress.choose sink iteration ready.length source entry) batch done after) :
      Pass iteration ready progress (entry :: batch) done after

theorem chooses_some {ready : List (Nat × Rule)} (nonempty : ready ≠ []) (source : ρ) :
    ∃ position entry next, engine.Chooses ready source position entry next := by
  have rules : ready.map (·.2) ≠ [] := mt List.map_eq_nil_iff.mp nonempty
  obtain ⟨position, next, selected, inside⟩ :=
    engine.strategy.select_some engine.chance rules source
  rw [List.length_map] at inside
  exact ⟨position, ready[position], next, selected, List.getElem?_eq_getElem inside⟩

theorem Chooses.inside {engine : Engine ρ} {ready : List (Nat × Rule)} {source next : ρ}
    {position : Nat} {entry : Nat × Rule}
    (chosen : engine.Chooses ready source position entry next) : position < ready.length :=
  (List.getElem?_eq_some_iff.mp chosen.2).1

theorem Chooses.unique {engine : Engine ρ} {ready : List (Nat × Rule)} {source next later : ρ}
    {position place : Nat} {entry other : Nat × Rule}
    (chosen : engine.Chooses ready source position entry next)
    (again : engine.Chooses ready source place other later) :
    place = position ∧ other = entry ∧ later = next := by
  obtain ⟨rfl, rfl⟩ := Prod.mk.inj (Option.some.inj (again.1.symm.trans chosen.1))
  exact ⟨rfl, Option.some.inj (again.2.symm.trans chosen.2), rfl⟩

/-- One step of a pass fires the chosen rule, and goes on unless the goals hold then. -/
theorem drain_succ (iteration steps : Nat) {ready : List (Nat × Rule)} {progress : Progress ρ σ}
    {position : Nat} {entry : Nat × Rule} {source : ρ}
    (chosen : engine.Chooses ready progress.source position entry source) :
    engine.drain sink goals iteration (steps + 1) ready progress =
      let after := progress.choose sink iteration ready.length source entry
      if (entry.2.apply progress.memory).satisfies goals then (true, after)
      else engine.drain sink goals iteration steps (ready.eraseIdx position) after := by
  have some : ready.isEmpty = false := by
    rw [List.isEmpty_eq_false_iff_exists_mem]
    exact ⟨entry, List.mem_of_getElem? chosen.2⟩
  have announced : (progress.report sink (.conflictSet ready.length)).source =
      progress.source := rfl
  rw [← Progress.choose_memory progress sink iteration ready.length source entry]
  simp only [drain, some, Bool.false_eq_true, ↓reduceIte, announced, chosen.1, chosen.2]
  rfl

/-- As many steps as there are rules ready drain a pass to its end. -/
theorem drain_pass (iteration steps : Nat) (ready : List (Nat × Rule)) (progress : Progress ρ σ)
    (enough : ready.length ≤ steps) :
    ∃ batch, engine.Pass sink goals iteration ready progress batch
      (engine.drain sink goals iteration steps ready progress).1
      (engine.drain sink goals iteration steps ready progress).2 := by
  induction steps generalizing ready progress with
  | zero =>
    have empty : ready = [] := List.eq_nil_of_length_eq_zero (Nat.le_zero.mp enough)
    subst empty
    exact ⟨[], .emptied⟩
  | succ steps ih =>
    by_cases empty : ready = []
    · subst empty
      exact ⟨[], .emptied⟩
    · obtain ⟨position, entry, source, chosen⟩ := engine.chooses_some empty progress.source
      rw [drain_succ engine sink goals iteration steps chosen]
      dsimp only
      split
      · rename_i satisfied
        exact ⟨[entry], .reached chosen satisfied⟩
      · rename_i unsatisfied
        have shorter : (ready.eraseIdx position).length ≤ steps := by
          rw [List.length_eraseIdx_of_lt chosen.inside]
          omega
        obtain ⟨batch, later⟩ := ih (ready.eraseIdx position)
          (progress.choose sink iteration ready.length source entry) shorter
        exact ⟨entry :: batch, .further chosen (Bool.eq_false_iff.mpr unsatisfied) later⟩

/-- The course of a run with some passes left: each pass announces itself, and the run goes on only
after a pass that fired all it could without reaching the goals. -/
inductive Course : Nat → Nat → Progress ρ σ → Outcome ρ σ → Prop
  | capped {iteration : Nat} {progress : Progress ρ σ} :
      Course 0 iteration progress
        ((progress.report sink (.iterationCapReached iteration)).halt .iterationCap iteration)
  | stuck {left iteration : Nat} {progress : Progress ρ σ} (unready : progress.ready = []) :
      Course (left + 1) iteration progress
        (((progress.report sink (.iterationStarted (iteration + 1))).report sink
          (.noApplicableRules (iteration + 1))).halt .noApplicableRules (iteration + 1))
  | reached {left iteration : Nat} {progress after : Progress ρ σ} {batch : List (Nat × Rule)}
      (pass : engine.Pass sink goals (iteration + 1) progress.ready
        (progress.report sink (.iterationStarted (iteration + 1))) batch true after) :
      Course (left + 1) iteration progress
        ((after.report sink (.goalReached (iteration + 1))).halt .goalsReached (iteration + 1))
  | again {left iteration : Nat} {progress after : Progress ρ σ} {batch : List (Nat × Rule)}
      {outcome : Outcome ρ σ} (ready : progress.ready ≠ [])
      (pass : engine.Pass sink goals (iteration + 1) progress.ready
        (progress.report sink (.iterationStarted (iteration + 1))) batch false after)
      (later : Course left (iteration + 1) after outcome) :
      Course (left + 1) iteration progress outcome

theorem passes_course (left iteration : Nat) (progress : Progress ρ σ) :
    engine.Course sink goals left iteration progress
      (engine.passes sink goals left iteration progress) := by
  induction left generalizing iteration progress with
  | zero => exact .capped
  | succ left ih =>
    have ready : (progress.report sink (.iterationStarted (iteration + 1))).ready =
        progress.ready := rfl
    by_cases unready : progress.ready = []
    · simp only [passes, ready, unready, List.isEmpty_nil, ↓reduceIte]
      exact .stuck unready
    · obtain ⟨batch, pass⟩ := engine.drain_pass sink goals (iteration + 1) progress.ready.length
        progress.ready (progress.report sink (.iterationStarted (iteration + 1))) (Nat.le_refl _)
      simp only [passes, ready, List.isEmpty_iff, unready, ↓reduceIte]
      split
      · rename_i after drained
        rw [drained] at pass
        exact .reached pass
      · rename_i after drained
        rw [drained] at pass
        exact .again unready pass (ih (iteration + 1) after)

theorem run_course (memory : Memory) (source : ρ) (trace : σ) :
    engine.Course sink goals engine.cap 0 ⟨memory, source, trace, engine.pool, []⟩
      (engine.run sink goals memory source trace) :=
  engine.passes_course sink goals engine.cap 0 _

section

variable {engine : Engine ρ} {sink : Sink σ} {goals : List String} {iteration left : Nat}

theorem Pass.ready_ne_nil {ready batch : List (Nat × Rule)} {progress after : Progress ρ σ}
    (pass : engine.Pass sink goals iteration ready progress batch true after) : ready ≠ [] := by
  rintro rfl
  cases pass with
  | reached chosen => exact absurd chosen.inside (Nat.not_lt_zero _)
  | further chosen => exact absurd chosen.inside (Nat.not_lt_zero _)

theorem Pass.drain_eq {ready batch : List (Nat × Rule)} {progress after : Progress ρ σ}
    {done : Bool} (pass : engine.Pass sink goals iteration ready progress batch done after)
    {steps : Nat} (enough : ready.length ≤ steps) :
    engine.drain sink goals iteration steps ready progress = (done, after) := by
  induction pass generalizing steps with
  | emptied => cases steps <;> rfl
  | reached chosen satisfied =>
    obtain ⟨steps, rfl⟩ := Nat.exists_eq_succ_of_ne_zero
      (Nat.ne_of_gt (Nat.lt_of_lt_of_le (Nat.zero_lt_of_lt chosen.inside) enough))
    rw [drain_succ engine sink goals iteration steps chosen]
    simp only [satisfied, ↓reduceIte]
  | further chosen unsatisfied later ih =>
    obtain ⟨steps, rfl⟩ := Nat.exists_eq_succ_of_ne_zero
      (Nat.ne_of_gt (Nat.lt_of_lt_of_le (Nat.zero_lt_of_lt chosen.inside) enough))
    rw [drain_succ engine sink goals iteration steps chosen]
    simp only [unsatisfied, Bool.false_eq_true, ↓reduceIte]
    apply ih
    rw [List.length_eraseIdx_of_lt chosen.inside]
    omega

/-- A run has no other course than the one that the engine makes. -/
theorem Course.eq_passes {progress : Progress ρ σ} {outcome : Outcome ρ σ}
    (course : engine.Course sink goals left iteration progress outcome) :
    outcome = engine.passes sink goals left iteration progress := by
  have ready (progress : Progress ρ σ) (iteration : Nat) :
      (progress.report sink (.iterationStarted iteration)).ready = progress.ready := rfl
  induction course with
  | capped => rfl
  | stuck unready => simp only [passes, ready, unready, List.isEmpty_nil, ↓reduceIte]
  | reached pass =>
    have some := List.isEmpty_eq_false_iff.mpr pass.ready_ne_nil
    simp only [passes, ready, some, Bool.false_eq_true, ↓reduceIte, pass.drain_eq (Nat.le_refl _)]
  | again some pass later ih =>
    have some := List.isEmpty_eq_false_iff.mpr some
    simp only [passes, ready, some, Bool.false_eq_true, ↓reduceIte, pass.drain_eq (Nat.le_refl _)]
    exact ih

end

end Engine

end Chaining.Forward
