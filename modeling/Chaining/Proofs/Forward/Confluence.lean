import Chaining.Proofs.Forward.Batches

set_option autoImplicit false

namespace Chaining

/-- Rules that write the same fact leave the same value there. -/
def Rule.Consistent (rules : List Rule) : Prop :=
  ∀ first ∈ rules, ∀ second ∈ rules, ∀ fact ∈ first.written, fact ∈ second.written →
    first.lastValue? fact = second.lastValue? fact

namespace Rule.Consistent

variable {rules : List Rule}

/-- The order of two rules does not matter. -/
theorem apply_comm (consistent : Consistent rules) {first second : Rule} (member : first ∈ rules)
    (other : second ∈ rules) (memory : Memory) :
    second.apply (first.apply memory) = first.apply (second.apply memory) := by
  refine Memory.ext_get? fun fact => ?_
  rw [get?_apply, get?_apply, get?_apply, get?_apply]
  by_cases inside : fact ∈ first.written
  · by_cases also : fact ∈ second.written
    · rw [consistent first member second other fact inside also, ← Option.or_assoc,
        Option.or_self]
    · rw [lastValue?_eq_none_iff.mpr also, Option.none_or, Option.none_or]
  · rw [lastValue?_eq_none_iff.mpr inside, Option.none_or, Option.none_or]

theorem foldl_perm (consistent : Consistent rules) {first second : List (Nat × Rule)}
    (reordered : first.Perm second) (members : ∀ entry ∈ first, entry.2 ∈ rules)
    (memory : Memory) :
    first.foldl (fun memory entry => entry.2.apply memory) memory =
      second.foldl (fun memory entry => entry.2.apply memory) memory :=
  reordered.foldl_eq' (fun entry inside other also memory =>
    consistent.apply_comm (members entry inside) (members other also) memory) memory

end Rule.Consistent

namespace Forward

variable {ρ σ τ υ : Type}

/-- Runs stand alike when they have fired the same rules in the same passes. -/
structure Progress.Alike (first : Progress ρ σ) (second : Progress τ υ) : Prop where
  memory : first.memory = second.memory
  pool : first.pool = second.pool
  fired : first.fired.Perm second.fired

/-- Runs end alike: for the same reason, after the same batches and with the same memory. -/
structure Outcome.Alike (first : Outcome ρ σ) (second : Outcome τ υ) : Prop where
  halt : first.run.halt = second.run.halt
  iterations : first.run.iterations = second.run.iterations
  batches : ∀ iteration, (first.run.firedIn iteration).Perm (second.run.firedIn iteration)
  memory : first.memory = second.memory

namespace Progress.Alike

variable {progress : Progress ρ σ} {other : Progress τ υ}

theorem ready (alike : progress.Alike other) : progress.ready = other.ready := by
  rw [Progress.ready, Progress.ready, alike.memory, alike.pool]

theorem report (alike : progress.Alike other) (sink : Sink σ) (observer : Sink υ) (event : Event) :
    (progress.report sink event).Alike (other.report observer event) :=
  ⟨alike.memory, alike.pool, alike.fired⟩

theorem halt (alike : progress.Alike other) (halt : Halt) (iterations : Nat) :
    (progress.halt halt iterations).Alike (other.halt halt iterations) where
  halt := rfl
  iterations := rfl
  batches := fun _ => (alike.fired.filter _).map _
  memory := alike.memory

end Progress.Alike

namespace Engine

variable {engine : Engine ρ} {another : Engine τ} {sink : Sink σ} {observer : Sink υ}
  {goals : List String} {rules : List Rule} {start : Memory} {iteration left : Nat}

/-- Complete passes over the same rules lead from alike to alike. -/
theorem Pass.alike {ready batch others : List (Nat × Rule)} {progress after : Progress ρ σ}
    {other beyond : Progress τ υ}
    (pass : engine.Pass sink goals iteration ready progress batch false after)
    (second : another.Pass observer goals iteration ready other others false beyond)
    (alike : progress.Alike other) (consistent : Rule.Consistent rules)
    (members : ∀ entry ∈ ready, entry.2 ∈ rules) : after.Alike beyond := by
  obtain ⟨rest, reordered, complete⟩ := pass.perm
  obtain ⟨remainder, shuffled, entire⟩ := second.perm
  rw [complete rfl, List.append_nil] at reordered
  rw [entire rfl, List.append_nil] at shuffled
  have batches : batch.Perm others := reordered.trans shuffled.symm
  refine ⟨?_, ?_, ?_⟩
  · rw [pass.memory_eq, second.memory_eq, alike.memory]
    exact consistent.foldl_perm batches
      (fun entry inside => members entry (reordered.subset inside)) other.memory
  · rw [pass.pool_eq, second.pool_eq, alike.pool]
    apply List.filter_congr
    intro entry _
    rw [decide_eq_decide, (batches.map (·.1)).mem_iff]
  · rw [pass.fired_eq, second.fired_eq]
    exact alike.fired.append (batches.map _)

/-- Courses that do not reach their goals lead from alike to alike. -/
theorem Course.alike {progress : Progress ρ σ} {outcome : Outcome ρ σ} {other : Progress τ υ}
    {result : Outcome τ υ}
    (course : engine.Course sink goals left iteration progress outcome)
    (second : another.Course observer goals left iteration other result)
    (unreached : outcome.run.halt ≠ .goalsReached) (missed : result.run.halt ≠ .goalsReached)
    (alike : progress.Alike other) (consistent : Rule.Consistent rules)
    (ledger : progress.Ledger rules start iteration) : outcome.Alike result := by
  induction course generalizing other with
  | capped =>
    cases second with
    | capped => exact (alike.report sink observer _).halt _ _
  | stuck unready =>
    cases second with
    | stuck => exact ((alike.report sink observer _).report sink observer _).halt _ _
    | reached pass => exact absurd rfl missed
    | again ready => exact absurd (alike.ready ▸ unready) ready
  | reached pass => exact absurd rfl unreached
  | @again _ iteration progress _ _ _ ready pass later ih =>
    cases second with
    | stuck unready => exact absurd (alike.ready.trans unready) ready
    | reached pass => exact absurd rfl missed
    | again _ otherPass otherLater =>
      have members : ∀ entry ∈ progress.ready, entry.2 ∈ rules := fun entry inside =>
        List.mem_of_getElem? (ledger.mem_ready.mp inside).1
      rw [← alike.ready] at otherPass
      exact ih otherLater unreached
        (pass.alike otherPass (alike.report sink observer _) consistent members)
        (ledger_after pass ledger)

/-- Whatever chooses among rules that do not contradict one another, two runs that are not cut short
by their goals fire the same batches and end alike. -/
theorem run_alike (first : Engine ρ) (second : Engine τ) (sameRules : first.rules = second.rules)
    (sameCap : first.cap = second.cap) (consistent : Rule.Consistent first.rules) (sink : Sink σ)
    (observer : Sink υ) (goals : List String) (start : Memory) (source : ρ) (chance : τ) (trace : σ)
    (observed : υ)
    (unreached : (first.run sink goals start source trace).run.halt ≠ .goalsReached)
    (missed : (second.run observer goals start chance observed).run.halt ≠ .goalsReached) :
    (first.run sink goals start source trace).Alike
      (second.run observer goals start chance observed) := by
  have course := first.run_course sink goals start source trace
  have other := second.run_course observer goals start chance observed
  have samePool : first.pool = second.pool := by rw [pool, pool, sameRules]
  rw [← sameCap] at other
  exact course.alike other unreached missed ⟨rfl, samePool, .refl []⟩ consistent
    (Progress.Ledger.initial first.rules start source trace)

/-- Two reasons to light a lamp: the first puts an end to what the second tests, and the second
writes twice. -/
def lampRules : List Rule :=
  [⟨"dusk", 0, [⟨"sun", .equal, .text "low"⟩],
      [⟨"sun", .text "down"⟩, ⟨"lamp", .text "lit"⟩]⟩,
    ⟨"reading", 1, [⟨"sun", .equal, .text "low"⟩],
      [⟨"lamp", .text "trimmed"⟩, ⟨"lamp", .text "lit"⟩]⟩,
    ⟨"moths", 0, [⟨"lamp", .equal, .text "lit"⟩], [⟨"window", .text "shut"⟩]⟩]

def lampEngine (strategy : Strategy) : Engine Unit :=
  ⟨lampRules, strategy, ⟨fun _ _ => (0, ()), fun _ _ => id⟩, 5⟩

def eveningMemory : Memory := Memory.ofList [("sun", .text "low")]

theorem run_alike_lamp :
    Rule.Consistent lampRules ∧
      ((lampEngine .firstMatch).run Sink.ignore ["rain"] eveningMemory () ()).run.firedIn 1 =
        [0, 1] ∧
      ((lampEngine .highestPriority).run Sink.ignore ["rain"] eveningMemory () ()).run.firedIn 1 =
        [1, 0] ∧
      ((lampEngine .firstMatch).run Sink.ignore ["rain"] eveningMemory () ()).Alike
        ((lampEngine .highestPriority).run Sink.ignore ["rain"] eveningMemory () ()) := by
  have consistent : Rule.Consistent lampRules := by
    intro first member second other fact inside also
    simp only [lampRules, List.mem_cons, List.not_mem_nil, or_false] at member other
    rcases member with rfl | rfl | rfl <;> rcases other with rfl | rfl | rfl <;>
      simp_all [Rule.written, Rule.lastValue?]
  have unreached : ((lampEngine .firstMatch).run Sink.ignore ["rain"] eveningMemory ()
      ()).run.halt ≠ .goalsReached := by decide
  have missed : ((lampEngine .highestPriority).run Sink.ignore ["rain"] eveningMemory ()
      ()).run.halt ≠ .goalsReached := by decide
  exact ⟨consistent, rfl, rfl, run_alike (lampEngine .firstMatch) (lampEngine .highestPriority) rfl
    rfl consistent Sink.ignore Sink.ignore ["rain"] eveningMemory () () () () unreached missed⟩

end Engine

end Forward

end Chaining
