import Chaining.Proofs.Backward.Exactness
import Chaining.Proofs.Forward.Halting

set_option autoImplicit false

namespace Chaining

theorem Condition.has_of_holds {condition : Condition} {memory : Memory}
    (holds : condition.holds memory = true) : memory.has condition.fact = true := by
  unfold Condition.holds at holds
  split at holds
  · cases holds
  · cases holds
  · rename_i value _ bound
    exact Memory.has_iff.mpr ⟨value, bound⟩

theorem Rule.has_of_isApplicable {rule : Rule} {memory : Memory}
    (applicable : rule.isApplicable memory = true) :
    ∀ fact ∈ rule.tested, memory.has fact = true := by
  intro fact tested
  obtain ⟨condition, member, rfl⟩ := List.mem_map.mp tested
  exact Condition.has_of_holds (List.all_eq_true.mp applicable condition member)

theorem Memory.has_of_satisfies {memory : Memory} {goals : List String} {goal : String}
    (satisfied : memory.satisfies goals = true) (member : goal ∈ goals) :
    memory.has goal = true := by
  exact Option.isSome_of_any (List.all_eq_true.mp satisfied goal member)

/-- No rule breaks the property by firing. It was applicable when its pass began; since then, the
memory may have become another one. -/
def Rule.Preserve (rules : List Rule) (property : Memory → Prop) : Prop :=
  ∀ rule ∈ rules, ∀ begun now, property begun → rule.isApplicable begun = true → property now →
    property (rule.apply now)

theorem Rule.preserve_supported {rules : List Rule} (start : Memory)
    (affirming : ∀ rule ∈ rules, ∀ action ∈ rule.actions, action.value.isAffirmative = true) :
    Rule.Preserve rules fun memory =>
      Backward.Supported rules start memory ∧ memory.Affirmative := by
  rintro rule member begun now ⟨derived, affirmed⟩ applicable ⟨supported, affirmative⟩
  have usable : Backward.Usable rules start rule := by
    intro fact tested
    obtain ⟨value, bound⟩ := Memory.has_iff.mp (rule.has_of_isApplicable applicable fact tested)
    exact derived fact value bound (affirmed fact value bound)
  exact ⟨supported.apply member usable, affirmative.apply (affirming rule member)⟩

theorem Backward.proved_of_derivable {σ κ : Type} [Preorder κ] {rank : String → κ}
    {rules : List Rule} (layered : Rule.Layered rank rules) {start : Memory}
    (affirmative : start.Affirmative) {goal : String} (derivable : Derivable rules start goal)
    (sink : Sink σ) (trace : σ) : (prove rules sink start goal trace).proved = true := by
  obtain ⟨fired, ⟨last, course, _⟩, _⟩ := fires_unique rules sink start goal trace
  have settled := Search.Settled.initial rules affirmative trace
  exact (course.settles layered (by simp [Task.Below]) settled).2.mpr derivable

namespace Forward.Engine

variable {ρ σ : Type} {engine : Engine ρ} {sink : Sink σ} {goals : List String}
  {rules : List Rule} {start : Memory} {iteration : Nat} {property : Memory → Prop}

/-- The rules that are ready when a pass begins keep the property whenever they fire. -/
theorem kept_by_ready {progress : Progress ρ σ}
    (ledger : progress.Ledger rules start iteration) (preserved : Rule.Preserve rules property)
    (holds : property progress.memory) :
    ∀ entry ∈ progress.ready, ∀ now, property now → property (entry.2.apply now) := by
  intro entry ready now
  obtain ⟨found, _, applicable⟩ := ledger.mem_ready.mp ready
  exact preserved entry.2 (List.mem_of_getElem? found) progress.memory now holds applicable

theorem Pass.preserves {ready batch : List (Nat × Rule)} {progress after : Progress ρ σ}
    {done : Bool} (pass : engine.Pass sink goals iteration ready progress batch done after)
    (kept : ∀ entry ∈ ready, ∀ now, property now → property (entry.2.apply now))
    (holds : property progress.memory) : property after.memory := by
  induction pass with
  | emptied => exact holds
  | reached chosen satisfied =>
    rw [Progress.choose_memory]
    exact kept _ (List.mem_of_getElem? chosen.2) _ holds
  | further chosen unsatisfied later ih =>
    refine ih (fun entry left => kept entry (List.mem_of_mem_eraseIdx left)) ?_
    rw [Progress.choose_memory]
    exact kept _ (List.mem_of_getElem? chosen.2) _ holds

theorem Course.preserves {left : Nat} {progress : Progress ρ σ} {outcome : Outcome ρ σ}
    (course : engine.Course sink goals left iteration progress outcome)
    (ledger : progress.Ledger rules start iteration) (preserved : Rule.Preserve rules property)
    (holds : property progress.memory) : property outcome.memory := by
  induction course with
  | capped => exact holds
  | stuck unready => exact holds
  | reached pass => exact pass.preserves (kept_by_ready ledger preserved holds) holds
  | again ready pass later ih =>
    exact ih (ledger_after pass ledger)
      (pass.preserves (kept_by_ready ledger preserved holds) holds)

variable (engine sink goals start) (source : ρ) (trace : σ)

/-- A run keeps what no rule breaks. -/
theorem run_preserves (preserved : Rule.Preserve engine.rules property) (holds : property start) :
    property (engine.run sink goals start source trace).memory :=
  (engine.run_course sink goals start source trace).preserves
    (Progress.Ledger.initial engine.rules start source trace) preserved holds

/-- All that a run binds can be derived from the memory at its start. -/
theorem derivable_of_run_has
    (affirming : ∀ rule ∈ engine.rules, ∀ action ∈ rule.actions,
      action.value.isAffirmative = true)
    (affirmative : start.Affirmative) {name : String}
    (bound : (engine.run sink goals start source trace).memory.has name = true) :
    Backward.Derivable engine.rules start name := by
  obtain ⟨supported, affirmed⟩ := engine.run_preserves sink goals start source trace
    (Rule.preserve_supported start affirming)
    ⟨Backward.supported_start engine.rules start, affirmative⟩
  obtain ⟨value, found⟩ := Memory.has_iff.mp bound
  exact supported name value found (affirmed name value found)

theorem run_satisfies
    (reached : (engine.run sink goals start source trace).run.halt = .goalsReached) :
    (engine.run sink goals start source trace).memory.satisfies goals = true := by
  have course := engine.run_course sink goals start source trace
  obtain ⟨_, latest⟩ := course.watched
    (Progress.Ledger.initial engine.rules start source trace) ⟨by simp, by simp⟩
  exact (latest (course.fired_ne_nil reached)).trans (decide_eq_true reached)

/-- Over layered rules and from a memory of affirmative values, a search proves every fact that some
run binds, and every goal that some run reaches. -/
theorem proved_of_run_has {κ τ : Type} [Preorder κ] (rank : String → κ)
    (layered : Rule.Layered rank engine.rules) (affirmative : start.Affirmative)
    (observer : Sink τ) (goal : String) (observed : τ) :
    ((engine.run sink goals start source trace).memory.has goal = true →
        (Backward.prove engine.rules observer start goal observed).proved = true) ∧
      ((engine.run sink goals start source trace).run.halt = .goalsReached → goal ∈ goals →
        (Backward.prove engine.rules observer start goal observed).proved = true) := by
  have proved : (engine.run sink goals start source trace).memory.has goal = true →
      (Backward.prove engine.rules observer start goal observed).proved = true := fun bound =>
    Backward.proved_of_derivable layered affirmative
      (engine.derivable_of_run_has sink goals start source trace layered.affirming affirmative
        bound) observer observed
  refine ⟨proved, fun reached member => proved ?_⟩
  exact Memory.has_of_satisfies (engine.run_satisfies sink goals start source trace reached) member

/-- A run that takes the last of the rules at each choice tells a storm from the dew. -/
def stormEngine : Engine Unit where
  rules := Backward.stormRules
  strategy := .random
  chance := ⟨fun size _ => (size - 1, ()), fun _ _ positive => Nat.sub_one_lt_of_lt positive⟩
  cap := 5

theorem proved_of_run_has_storm :
    Rule.Layered String.length stormEngine.rules ∧ Backward.dewMemory.Affirmative ∧
      (stormEngine.run Sink.ignore ["storm"] Backward.dewMemory () ()).memory.has "damp" = true ∧
      (stormEngine.run Sink.ignore ["storm"] Backward.dewMemory () ()).run.halt = .goalsReached ∧
      (Backward.prove stormEngine.rules Sink.ignore Backward.dewMemory "damp" ()).proved = true ∧
      (Backward.prove stormEngine.rules Sink.ignore Backward.dewMemory "storm" ()).proved =
        true := by
  have layered : Rule.Layered String.length stormEngine.rules := ⟨by decide, by decide⟩
  have affirmative : Backward.dewMemory.Affirmative := Memory.affirmative_of_all (by decide)
  have damp : (stormEngine.run Sink.ignore ["storm"] Backward.dewMemory () ()).memory.has "damp" =
      true := rfl
  have reached : (stormEngine.run Sink.ignore ["storm"] Backward.dewMemory () ()).run.halt =
      .goalsReached := rfl
  obtain ⟨known, _⟩ := proved_of_run_has stormEngine Sink.ignore ["storm"] Backward.dewMemory () ()
    String.length layered affirmative Sink.ignore "damp" ()
  obtain ⟨_, proved⟩ := proved_of_run_has stormEngine Sink.ignore ["storm"] Backward.dewMemory () ()
    String.length layered affirmative Sink.ignore "storm" ()
  exact ⟨layered, affirmative, damp, reached, known damp, proved reached List.mem_cons_self⟩

end Forward.Engine

end Chaining
