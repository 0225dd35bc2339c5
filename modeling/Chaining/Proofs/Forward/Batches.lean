import Chaining.Proofs.Forward.Record
import Mathlib.Data.List.Perm.Basic

set_option autoImplicit false

namespace Chaining.Forward

variable {ρ σ : Type}

/-- No two entries share a place, so that taking one out is leaving out its place. -/
theorem eraseIdx_eq_filter {ready : List (Nat × Rule)} {position : Nat} {entry : Nat × Rule}
    (ascending : ready.Pairwise fun earlier later => earlier.1 < later.1)
    (found : ready[position]? = some entry) :
    ready.eraseIdx position = ready.filter fun other => other.1 ≠ entry.1 := by
  induction ready generalizing position with
  | nil => cases found
  | cons first rest ih =>
    obtain ⟨above, ascending⟩ := List.pairwise_cons.mp ascending
    cases position with
    | zero =>
      obtain rfl : first = entry := Option.some.inj found
      have apart : ∀ other ∈ rest, decide (other.1 ≠ first.1) = true := fun other member =>
        decide_eq_true (Nat.ne_of_gt (above other member))
      rw [List.eraseIdx_cons_zero, List.filter_cons_of_neg (by simp), List.filter_eq_self.mpr apart]
    | succ position =>
      have apart : first.1 ≠ entry.1 := Nat.ne_of_lt (above entry (List.mem_of_getElem? found))
      rw [List.eraseIdx_cons_succ, ih ascending found, List.filter_cons_of_pos (by simpa)]

theorem eraseIdx_sublist_pool {ready pool : List (Nat × Rule)} {position : Nat}
    {entry : Nat × Rule} (within : ready.Sublist pool)
    (ascending : pool.Pairwise fun earlier later => earlier.1 < later.1)
    (found : ready[position]? = some entry) :
    (ready.eraseIdx position).Sublist (pool.filter fun other => other.1 ≠ entry.1) := by
  rw [eraseIdx_eq_filter (ascending.sublist within) found]
  exact within.filter _

namespace Engine

variable {engine : Engine ρ} {sink : Sink σ} {goals : List String} {rules : List Rule}
  {start : Memory} {iteration : Nat}

namespace Pass

variable {ready batch : List (Nat × Rule)} {progress after : Progress ρ σ} {done : Bool}

theorem fired_eq (pass : engine.Pass sink goals iteration ready progress batch done after) :
    after.fired = progress.fired ++ batch.map (Firing.ofEntry iteration) := by
  induction pass with
  | emptied => simp
  | reached chosen satisfied => rfl
  | further chosen unsatisfied later ih =>
    rw [ih, Progress.choose_fired, List.append_assoc]
    rfl

theorem memory_eq (pass : engine.Pass sink goals iteration ready progress batch done after) :
    after.memory = batch.foldl (fun memory entry => entry.2.apply memory) progress.memory := by
  induction pass with
  | emptied => rfl
  | reached chosen satisfied => exact Progress.choose_memory _ sink iteration _ _ _
  | further chosen unsatisfied later ih => rw [ih, Progress.choose_memory, List.foldl_cons]

theorem pool_eq (pass : engine.Pass sink goals iteration ready progress batch done after) :
    after.pool = progress.pool.filter fun other => other.1 ∉ batch.map (·.1) := by
  induction pass with
  | emptied => exact (List.filter_eq_self.mpr fun _ _ => by simp).symm
  | reached chosen satisfied => simp
  | further chosen unsatisfied later ih =>
    rw [ih, Progress.choose_pool, List.filter_filter]
    apply List.filter_congr
    intro other _
    simp only [List.map_cons, List.mem_cons, not_or, Bool.decide_and, ne_eq]
    exact Bool.and_comm _ _

/-- A batch is made of what was ready, and leaves some of it only when the goals are reached. -/
theorem perm (pass : engine.Pass sink goals iteration ready progress batch done after) :
    ∃ rest, (batch ++ rest).Perm ready ∧ (done = false → rest = []) := by
  induction pass with
  | emptied => exact ⟨[], .refl _, fun _ => rfl⟩
  | @reached ready _ position _ _ chosen satisfied =>
    obtain ⟨inside, rfl⟩ := List.getElem?_eq_some_iff.mp chosen.2
    exact ⟨ready.eraseIdx position, List.getElem_cons_eraseIdx_perm inside, by simp⟩
  | further chosen unsatisfied later ih =>
    obtain ⟨inside, rfl⟩ := List.getElem?_eq_some_iff.mp chosen.2
    obtain ⟨rest, reordered, complete⟩ := ih
    exact ⟨rest, (reordered.cons _).trans (List.getElem_cons_eraseIdx_perm inside), complete⟩

/-- A pass keeps the ledger, for it fires from the pool what was ready there. -/
theorem ledger (pass : engine.Pass sink goals iteration ready progress batch done after)
    (begun : 1 ≤ iteration) (within : ready.Sublist progress.pool)
    (ledger : progress.Ledger rules start iteration) : after.Ledger rules start iteration := by
  induction pass with
  | emptied => exact ledger
  | reached chosen satisfied =>
    have member := within.subset (List.mem_of_getElem? chosen.2)
    exact ledger.choose begun member sink _ _
  | further chosen unsatisfied later ih =>
    have member := within.subset (List.mem_of_getElem? chosen.2)
    exact ih (eraseIdx_sublist_pool within ledger.pool_ascending chosen.2)
      (ledger.choose begun member sink _ _)

theorem batch_ne_nil (pass : engine.Pass sink goals iteration ready progress batch true after) :
    batch ≠ [] := by
  cases pass with
  | reached chosen => exact List.cons_ne_nil _ _
  | further chosen => exact List.cons_ne_nil _ _

end Pass

namespace Course

variable {left : Nat} {progress : Progress ρ σ} {outcome : Outcome ρ σ}

/-- A run only adds firings, and those of later passes. -/
theorem extends_fired (course : engine.Course sink goals left iteration progress outcome) :
    ∃ back, outcome.run.fired = progress.fired ++ back ∧
      ∀ firing ∈ back, iteration < firing.iteration := by
  induction course with
  | capped => exact ⟨[], (List.append_nil _).symm, by simp⟩
  | stuck unready => exact ⟨[], (List.append_nil _).symm, by simp⟩
  | reached pass =>
    refine ⟨_, pass.fired_eq, fun firing member => ?_⟩
    rw [iteration_of_mem_map member]
    exact Nat.lt_succ_self _
  | @again _ iteration _ _ batch _ ready pass later ih =>
    obtain ⟨back, fired, beyond⟩ := ih
    refine ⟨batch.map (Firing.ofEntry (iteration + 1)) ++ back, ?_, fun firing member => ?_⟩
    · rw [fired, pass.fired_eq, List.append_assoc]
      rfl
    · rcases List.mem_append.mp member with within | after
      · rw [iteration_of_mem_map within]
        exact Nat.lt_succ_self _
      · exact Nat.lt_of_succ_lt (beyond firing after)

theorem ledger_after {batch : List (Nat × Rule)} {done : Bool} {after : Progress ρ σ}
    (pass : engine.Pass sink goals (iteration + 1) progress.ready
      (progress.report sink (.iterationStarted (iteration + 1))) batch done after)
    (ledger : progress.Ledger rules start iteration) :
    after.Ledger rules start (iteration + 1) :=
  pass.ledger (Nat.le_add_left 1 iteration) List.filter_sublist
    ((ledger.report sink _).mono (Nat.le_succ iteration))

end Course

/-- A run makes the pass behind the first `number` of them: how it begins, what it fires, and what
it means for the run. -/
structure Makes (engine : Engine ρ) (sink : Sink σ) (goals : List String) (rules : List Rule)
    (start : Memory) (run : Run) (number : Nat) (before : Progress ρ σ)
    (batch : List (Nat × Rule)) (done : Bool) (after : Progress ρ σ) : Prop where
  ledger : before.Ledger rules start number
  pass : engine.Pass sink goals (number + 1) before.ready
    (before.report sink (.iterationStarted (number + 1))) batch done after
  fired : ∃ back, run.fired = before.fired ++ batch.map (Firing.ofEntry (number + 1)) ++ back ∧
    ∀ firing ∈ back, number + 1 < firing.iteration
  reached : done = true → number + 1 = run.iterations ∧ run.halt = .goalsReached
  stuck : before.ready = [] → run.halt = .noApplicableRules

section

variable {left : Nat} {progress after : Progress ρ σ} {outcome : Outcome ρ σ}
  {batch : List (Nat × Rule)}

theorem makes_stuck (ledger : progress.Ledger rules start iteration)
    (unready : progress.ready = []) :
    engine.Makes sink goals rules start ⟨.noApplicableRules, iteration + 1, progress.fired⟩
      iteration progress [] false (progress.report sink (.iterationStarted (iteration + 1))) := by
  have pass : engine.Pass sink goals (iteration + 1) progress.ready
      (progress.report sink (.iterationStarted (iteration + 1))) [] false
      (progress.report sink (.iterationStarted (iteration + 1))) := by
    rw [unready]
    exact .emptied
  exact ⟨ledger, pass, ⟨[], by simp, by simp⟩, by simp, fun _ => rfl⟩

theorem makes_reached (ledger : progress.Ledger rules start iteration)
    (pass : engine.Pass sink goals (iteration + 1) progress.ready
      (progress.report sink (.iterationStarted (iteration + 1))) batch true after) :
    engine.Makes sink goals rules start ⟨.goalsReached, iteration + 1, after.fired⟩ iteration
      progress batch true after := by
  have fired := pass.fired_eq
  exact ⟨ledger, pass, ⟨[], by rw [List.append_nil]; exact fired, by simp⟩, fun _ => ⟨rfl, rfl⟩,
    fun unready => absurd unready pass.ready_ne_nil⟩

/-- What follows a pass that has fired all it could belongs to later passes. -/
theorem makes_again (ledger : progress.Ledger rules start iteration) (ready : progress.ready ≠ [])
    (pass : engine.Pass sink goals (iteration + 1) progress.ready
      (progress.report sink (.iterationStarted (iteration + 1))) batch false after)
    (later : engine.Course sink goals left (iteration + 1) after outcome) :
    engine.Makes sink goals rules start outcome.run iteration progress batch false after := by
  obtain ⟨back, fired, beyond⟩ := later.extends_fired
  rw [pass.fired_eq] at fired
  exact ⟨ledger, pass, ⟨back, fired, beyond⟩, by simp, fun unready => absurd unready ready⟩

end

/-- Every pass that a run counts is one that it makes. -/
theorem Course.makes {left : Nat} {progress : Progress ρ σ} {outcome : Outcome ρ σ}
    (course : engine.Course sink goals left iteration progress outcome)
    (ledger : progress.Ledger rules start iteration) {number : Nat} (reached : iteration ≤ number)
    (counted : number < outcome.run.iterations) :
    ∃ before batch done after,
      engine.Makes sink goals rules start outcome.run number before batch done after := by
  induction course with
  | capped => exact absurd counted (Nat.not_lt.mpr reached)
  | @stuck _ iteration progress unready =>
    obtain rfl : number = iteration := Nat.le_antisymm (Nat.le_of_lt_succ counted) reached
    exact ⟨progress, [], false, _, makes_stuck ledger unready⟩
  | @reached _ iteration progress after batch pass =>
    obtain rfl : number = iteration := Nat.le_antisymm (Nat.le_of_lt_succ counted) reached
    exact ⟨progress, batch, true, after, makes_reached ledger pass⟩
  | @again _ iteration progress after batch outcome ready pass later ih =>
    by_cases current : number = iteration
    · subst current
      exact ⟨progress, batch, false, after, makes_again ledger ready pass later⟩
    · have passed : iteration + 1 ≤ number :=
        Nat.succ_le_of_lt (Nat.lt_of_le_of_ne reached (Ne.symm current))
      exact ih (ledger_after pass ledger) passed counted

namespace Makes

variable {run : Run} {number : Nat} {before after : Progress ρ σ} {batch : List (Nat × Rule)}
  {done : Bool}

theorem firedBefore_eq
    (makes : engine.Makes sink goals rules start run number before batch done after) :
    run.firedBefore (number + 1) = before.fired := by
  obtain ⟨back, fired, beyond⟩ := makes.fired
  have first : before.fired.filter (fun firing => firing.iteration < number + 1) =
      before.fired := by
    refine List.filter_eq_self.mpr fun firing member => decide_eq_true ?_
    exact Nat.lt_succ_of_le (makes.ledger.counted firing member).2
  have second : (batch.map (Firing.ofEntry (number + 1))).filter
      (fun firing => firing.iteration < number + 1) = [] := by
    refine List.filter_eq_nil_iff.mpr fun firing member => ?_
    simp [iteration_of_mem_map member]
  have third : back.filter (fun firing => firing.iteration < number + 1) = [] := by
    refine List.filter_eq_nil_iff.mpr fun firing member => ?_
    simpa using Nat.le_of_lt (beyond firing member)
  rw [Run.firedBefore, fired, List.filter_append, List.filter_append, first, second, third,
    List.append_nil, List.append_nil]

theorem firedIn_eq
    (makes : engine.Makes sink goals rules start run number before batch done after) :
    run.firedIn (number + 1) = batch.map (·.1) := by
  obtain ⟨back, fired, beyond⟩ := makes.fired
  have first : before.fired.filter (fun firing => firing.iteration = number + 1) = [] := by
    refine List.filter_eq_nil_iff.mpr fun firing member => ?_
    have earlier := (makes.ledger.counted firing member).2
    simpa using Nat.ne_of_lt (Nat.lt_succ_of_le earlier)
  have second : (batch.map (Firing.ofEntry (number + 1))).filter
      (fun firing => firing.iteration = number + 1) =
        batch.map (Firing.ofEntry (number + 1)) := by
    refine List.filter_eq_self.mpr fun firing member => ?_
    exact decide_eq_true (iteration_of_mem_map member)
  have third : back.filter (fun firing => firing.iteration = number + 1) = [] := by
    refine List.filter_eq_nil_iff.mpr fun firing member => ?_
    simpa using Nat.ne_of_gt (beyond firing member)
  rw [Run.firedIn, fired, List.filter_append, List.filter_append, first, second, third,
    List.append_nil, List.nil_append, List.map_map]
  rfl

/-- The rules that are ready when a pass begins are the eligible ones. -/
theorem eligible_iff
    (makes : engine.Makes sink goals rules start run number before batch done after)
    (index : Nat) :
    run.Eligible rules start (number + 1) index ↔ index ∈ before.ready.map (·.1) := by
  rw [Run.Eligible, Run.not_firedIn_iff, Run.memoryBefore, makes.firedBefore_eq,
    ← makes.ledger.memory]
  constructor
  · rintro ⟨unfired, rule, found, applicable⟩
    exact List.mem_map.mpr
      ⟨(index, rule), makes.ledger.mem_ready.mpr ⟨found, unfired, applicable⟩, rfl⟩
  · intro member
    obtain ⟨entry, ready, rfl⟩ := List.mem_map.mp member
    obtain ⟨found, unfired, applicable⟩ := makes.ledger.mem_ready.mp ready
    exact ⟨unfired, entry.2, found, applicable⟩

end Makes

theorem Course.halts {left : Nat} {progress : Progress ρ σ} {outcome : Outcome ρ σ}
    (course : engine.Course sink goals left iteration progress outcome)
    (ledger : progress.Ledger rules start iteration) :
    ∃ last : Progress ρ σ, last.Ledger rules start outcome.run.iterations ∧
      outcome.run.fired = last.fired ∧ outcome.memory = last.memory ∧
      (outcome.run.halt = .noApplicableRules → last.ready = []) := by
  induction course with
  | @capped iteration progress =>
    refine ⟨progress, ledger, rfl, rfl, fun halt => ?_⟩
    cases halt
  | @stuck _ iteration progress unready =>
    exact ⟨progress, ledger.mono (Nat.le_succ iteration), rfl, rfl, fun _ => unready⟩
  | @reached _ iteration progress after _ pass =>
    refine ⟨after, ledger_after pass ledger, rfl, rfl, fun halt => ?_⟩
    cases halt
  | again ready pass later ih => exact ih (ledger_after pass ledger)

end Engine

structure Run.IsBatched (run : Run) (rules : List Rule) (start : Memory) : Prop where
  /-- A pass fires eligible rules only. -/
  eligible : ∀ iteration, 1 ≤ iteration → iteration ≤ run.iterations →
    ∀ index ∈ run.firedIn iteration, run.Eligible rules start iteration index
  /-- A pass fires all of them, unless it is the last one and has reached the goals. -/
  complete : ∀ iteration, 1 ≤ iteration → iteration ≤ run.iterations →
    ¬(iteration = run.iterations ∧ run.halt = .goalsReached) →
    ∀ index, run.Eligible rules start iteration index → index ∈ run.firedIn iteration
  once : (run.fired.map (·.index)).Nodup
  named : ∀ firing ∈ run.fired, ∃ rule, rules[firing.index]? = some rule ∧
    firing.name = rule.name
  ordered : run.fired.Pairwise fun earlier later => earlier.iteration ≤ later.iteration
  counted : ∀ firing ∈ run.fired, 1 ≤ firing.iteration ∧ firing.iteration ≤ run.iterations

namespace Engine

variable (engine : Engine ρ) (sink : Sink σ) (goals : List String) (start : Memory) (source : ρ)
  (trace : σ)

theorem run_makes {number : Nat}
    (counted : number < (engine.run sink goals start source trace).run.iterations) :
    ∃ before batch done after, engine.Makes sink goals engine.rules start
      (engine.run sink goals start source trace).run number before batch done after :=
  (engine.run_course sink goals start source trace).makes
    (Progress.Ledger.initial engine.rules start source trace) (Nat.zero_le number) counted

theorem run_halts : ∃ last : Progress ρ σ,
    last.Ledger engine.rules start (engine.run sink goals start source trace).run.iterations ∧
      (engine.run sink goals start source trace).run.fired = last.fired ∧
      (engine.run sink goals start source trace).memory = last.memory ∧
      ((engine.run sink goals start source trace).run.halt = .noApplicableRules →
        last.ready = []) :=
  (engine.run_course sink goals start source trace).halts
    (Progress.Ledger.initial engine.rules start source trace)

/-- Every pass of a run fires exactly the rules that are left and applicable when it begins, each
once in the whole run; only the pass that reaches the goals may leave some of them. -/
theorem run_isBatched :
    (engine.run sink goals start source trace).run.IsBatched engine.rules start := by
  obtain ⟨last, ledger, fired, _, _⟩ := engine.run_halts sink goals start source trace
  refine ⟨?_, ?_, ?_, ?_, ?_, ?_⟩
  · intro iteration positive counted index member
    obtain ⟨number, rfl⟩ := Nat.exists_eq_add_of_le' positive
    obtain ⟨before, batch, done, after, makes⟩ :=
      engine.run_makes sink goals start source trace counted
    obtain ⟨rest, reordered, _⟩ := makes.pass.perm
    rw [makes.firedIn_eq] at member
    rw [makes.eligible_iff]
    exact List.map_subset _ (fun entry inside =>
      reordered.subset (List.mem_append_left rest inside)) member
  · intro iteration positive counted unreached index eligible
    obtain ⟨number, rfl⟩ := Nat.exists_eq_add_of_le' positive
    obtain ⟨before, batch, done, after, makes⟩ :=
      engine.run_makes sink goals start source trace counted
    obtain ⟨rest, reordered, complete⟩ := makes.pass.perm
    have unfinished : done = false := Bool.eq_false_iff.mpr (mt makes.reached unreached)
    rw [complete unfinished, List.append_nil] at reordered
    rw [makes.eligible_iff] at eligible
    rw [makes.firedIn_eq]
    exact List.map_subset _ reordered.symm.subset eligible
  · rw [fired]
    exact ledger.once
  · intro firing member
    rw [fired] at member
    obtain ⟨rule, found, name⟩ := Option.map_eq_some_iff.mp (ledger.named firing member)
    exact ⟨rule, found, name.symm⟩
  · rw [fired]
    exact ledger.ordered
  · rw [fired]
    exact ledger.counted

/-- A guest knocks at a closed door, although the same pass opens it before. -/
example :
    let closed : Condition := ⟨"door", .equal, .text "closed"⟩
    let rules : List Rule := [⟨"opening", 0, [closed], [⟨"door", .text "open"⟩]⟩,
      ⟨"knocking", 0, [closed], [⟨"knock", .boolean true⟩]⟩]
    let engine : Engine Unit := ⟨rules, .firstMatch, ⟨fun _ _ => (0, ()), fun _ _ => id⟩, 5⟩
    let start := Memory.ofList [("door", .text "closed")]
    (engine.run Sink.ignore ["answer"] start () ()).run.firedIn 1 = [0, 1] := by
  rfl

end Engine

end Chaining.Forward
