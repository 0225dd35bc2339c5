import Chaining.Proofs.Forward.Chronicle

set_option autoImplicit false

namespace Chaining

theorem Memory.satisfies_of_subset {memory : Memory} {goals wider : List String}
    (subset : goals ⊆ wider) (satisfied : memory.satisfies wider = true) :
    memory.satisfies goals = true := by
  rw [satisfies, List.all_eq_true] at satisfied ⊢
  exact fun goal member => satisfied goal (subset member)

namespace Forward

variable {ρ : Type}

/-- What has been fired and told at one point of a run comes first at another one. -/
structure Progress.Extends (earlier later : Progress ρ (List Event)) : Prop where
  fired : earlier.fired <+: later.fired
  trace : earlier.trace <+: later.trace

/-- What a run has fired, and what it has told before it told why it halts, comes first in another
run. -/
structure Outcome.Precedes (short long : Outcome ρ (List Event)) : Prop where
  fired : short.run.fired <+: long.run.fired
  trace : short.trace.dropLast <+: long.trace

namespace Progress.Extends

variable {progress between later : Progress ρ (List Event)}

theorem refl (progress : Progress ρ (List Event)) : progress.Extends progress :=
  ⟨List.prefix_rfl, List.prefix_rfl⟩

theorem trans (first : progress.Extends between) (second : between.Extends later) :
    progress.Extends later :=
  ⟨first.fired.trans second.fired, first.trace.trans second.trace⟩

theorem report (progress : Progress ρ (List Event)) (event : Event) :
    progress.Extends (progress.report Sink.collect event) :=
  ⟨List.prefix_rfl, List.prefix_append _ _⟩

theorem choose (progress : Progress ρ (List Event)) (iteration size : Nat) (source : ρ)
    (entry : Nat × Rule) :
    progress.Extends (progress.choose Sink.collect iteration size source entry) := by
  constructor
  · rw [choose_fired]
    exact List.prefix_append _ _
  · rw [choose_trace]
    exact List.prefix_append _ _

end Progress.Extends

theorem Outcome.Precedes.of_extends {progress : Progress ρ (List Event)}
    {long : Outcome ρ (List Event)} (fired : progress.fired <+: long.run.fired)
    (trace : progress.trace <+: long.trace) (event : Event) (halt : Halt) (iterations : Nat) :
    ((progress.report Sink.collect event).halt halt iterations).Precedes long := by
  refine ⟨fired, ?_⟩
  change (progress.trace ++ [event]).dropLast <+: long.trace
  rw [List.dropLast_concat]
  exact trace

namespace Engine

variable {engine : Engine ρ} {goals wider : List String} {iteration left larger cap : Nat}

theorem Pass.extends {ready batch : List (Nat × Rule)} {progress after : Progress ρ (List Event)}
    {done : Bool}
    (pass : engine.Pass Sink.collect goals iteration ready progress batch done after) :
    progress.Extends after := by
  induction pass with
  | emptied => exact .refl _
  | reached chosen satisfied => exact .choose _ _ _ _ _
  | further chosen unsatisfied later ih => exact (Progress.Extends.choose _ _ _ _ _).trans ih

theorem Course.extends {progress : Progress ρ (List Event)} {outcome : Outcome ρ (List Event)}
    (course : engine.Course Sink.collect goals left iteration progress outcome) :
    progress.fired <+: outcome.run.fired ∧ progress.trace <+: outcome.trace := by
  induction course with
  | capped => exact ⟨List.prefix_rfl, List.prefix_append _ _⟩
  | stuck unready =>
    exact ⟨List.prefix_rfl, (List.prefix_append _ _).trans (List.prefix_append _ _)⟩
  | reached pass =>
    have made := (Progress.Extends.report _ _).trans pass.extends
    exact ⟨made.fired, made.trace.trans (List.prefix_append _ _)⟩
  | again ready pass later ih =>
    have made := (Progress.Extends.report _ _).trans pass.extends
    exact ⟨made.fired.trans ih.1, made.trace.trans ih.2⟩

/-- A pass that waits for more goals is the same pass, or it goes on where the other one has reached
its goals. -/
theorem Pass.follow {ready batch others : List (Nat × Rule)}
    {progress after beyond : Progress ρ (List Event)} {done finished : Bool}
    (pass : engine.Pass Sink.collect goals iteration ready progress batch done after)
    (other : Pass { engine with cap } Sink.collect wider iteration ready progress others finished
      beyond)
    (subset : goals ⊆ wider) :
    (finished = done ∧ beyond = after) ∨
      (done = true ∧ ¬ wider ⊆ goals ∧ after.Extends beyond) := by
  induction pass generalizing others with
  | emptied =>
    cases other with
    | emptied => exact Or.inl ⟨rfl, rfl⟩
    | reached chosen => exact absurd chosen.inside (Nat.not_lt_zero _)
    | further chosen => exact absurd chosen.inside (Nat.not_lt_zero _)
  | reached chosen satisfied =>
    cases other with
    | emptied => exact absurd chosen.inside (Nat.not_lt_zero _)
    | reached again =>
      obtain ⟨rfl, rfl, rfl⟩ := chosen.unique again
      exact Or.inl ⟨rfl, rfl⟩
    | further again unsatisfied later =>
      obtain ⟨rfl, rfl, rfl⟩ := chosen.unique again
      refine Or.inr ⟨rfl, fun equal => ?_, later.extends⟩
      rw [Memory.satisfies_of_subset equal satisfied] at unsatisfied
      cases unsatisfied
  | further chosen unsatisfied later ih =>
    cases other with
    | emptied => exact absurd chosen.inside (Nat.not_lt_zero _)
    | reached again satisfied =>
      obtain ⟨rfl, rfl, rfl⟩ := chosen.unique again
      rw [Memory.satisfies_of_subset subset satisfied] at unsatisfied
      cases unsatisfied
    | further again _ otherLater =>
      obtain ⟨rfl, rfl, rfl⟩ := chosen.unique again
      exact ih otherLater

/-- A course with more passes left and more goals is the same course, or it goes on where the other
one was cut off or has reached its goals. -/
theorem Course.follow {progress : Progress ρ (List Event)} {outcome result : Outcome ρ (List Event)}
    (course : engine.Course Sink.collect goals left iteration progress outcome)
    (other : Course { engine with cap } Sink.collect wider larger iteration progress result)
    (longer : left ≤ larger) (subset : goals ⊆ wider) :
    outcome = result ∨ (outcome.Precedes result ∧
      (outcome.run.halt = .iterationCap ∨
        (outcome.run.halt = .goalsReached ∧ ¬ wider ⊆ goals))) := by
  induction course generalizing larger with
  | capped =>
    exact Or.inr ⟨.of_extends other.extends.1 other.extends.2 _ _ _, Or.inl rfl⟩
  | stuck unready =>
    cases other with
    | capped => omega
    | stuck => exact Or.inl rfl
    | reached pass => exact absurd unready pass.ready_ne_nil
    | again ready => exact absurd unready ready
  | reached pass =>
    cases other with
    | capped => omega
    | stuck unready => exact absurd unready pass.ready_ne_nil
    | reached otherPass =>
      rcases pass.follow otherPass subset with ⟨_, rfl⟩ | ⟨_, fewer, within⟩
      · exact Or.inl rfl
      · refine Or.inr ⟨.of_extends within.fired ?_ _ _ _, Or.inr ⟨rfl, fewer⟩⟩
        exact within.trace.trans (List.prefix_append _ _)
    | again ready otherPass otherLater =>
      rcases pass.follow otherPass subset with ⟨finished, _⟩ | ⟨_, fewer, within⟩
      · cases finished
      · obtain ⟨fired, trace⟩ := otherLater.extends
        exact Or.inr ⟨.of_extends (within.fired.trans fired) (within.trace.trans trace) _ _ _,
          Or.inr ⟨rfl, fewer⟩⟩
  | again ready pass later ih =>
    cases other with
    | capped => omega
    | stuck unready => exact absurd unready ready
    | reached otherPass =>
      rcases pass.follow otherPass subset with ⟨finished, _⟩ | ⟨unfinished, _⟩
      · cases finished
      · cases unfinished
    | again _ otherPass otherLater =>
      rcases pass.follow otherPass subset with ⟨_, rfl⟩ | ⟨unfinished, _⟩
      · exact ih otherLater (Nat.le_of_succ_le_succ longer)
      · cases unfinished

/-- With a larger cap and more goals, a run begins with all that it fires and tells without them. If
it runs out of rules, or reaches the very same goals, the larger cap changes nothing at all. -/
theorem run_precedes (engine : Engine ρ) {cap : Nat} (longer : engine.cap ≤ cap)
    {goals wider : List String} (subset : goals ⊆ wider) (start : Memory) (source : ρ) :
    let short := engine.run Sink.collect goals start source []
    let long := ({ engine with cap } : Engine ρ).run Sink.collect wider start source []
    short.Precedes long ∧
      ((short.run.halt ≠ .iterationCap ∧ wider = goals) ∨ short.run.halt = .noApplicableRules →
        short = long) := by
  intro short long
  have course := engine.run_course Sink.collect goals start source []
  have other := ({ engine with cap } : Engine ρ).run_course Sink.collect wider start source []
  rcases course.follow other longer subset with equal | ⟨before, halted⟩
  · have same : short = long := equal
    refine ⟨?_, fun _ => same⟩
    rw [← same]
    exact ⟨List.prefix_rfl, List.dropLast_prefix _⟩
  · refine ⟨before, fun ended => ?_⟩
    rcases ended with ⟨uncapped, rfl⟩ | stuck
    · rcases halted with capped | ⟨_, fewer⟩
      · exact absurd capped uncapped
      · exact absurd (List.Subset.refl _) fewer
    · rcases halted with capped | ⟨reached, _⟩
      · cases stuck.symm.trans capped
      · cases stuck.symm.trans reached

/-- A seed becomes a plant and the plant a fruit, one pass for each. -/
def gardenEngine : Engine Unit where
  rules := [⟨"sprout", 0, [⟨"seed", .present, .null⟩], [⟨"plant", .boolean true⟩]⟩,
    ⟨"ripen", 0, [⟨"plant", .present, .null⟩], [⟨"fruit", .boolean true⟩]⟩]
  strategy := .firstMatch
  chance := .first
  cap := 4

def seedMemory : Memory := Memory.ofList [("seed", .number .zero)]

theorem run_precedes_garden :
    gardenEngine.cap ≤ 9 ∧ ["plant"] ⊆ ["fruit", "plant"] ∧
      (gardenEngine.run Sink.collect ["plant"] seedMemory () []).run.fired =
        [⟨0, "sprout", 1⟩] ∧
      (({ gardenEngine with cap := 9 } : Engine Unit).run Sink.collect ["fruit", "plant"]
        seedMemory () []).run.fired = [⟨0, "sprout", 1⟩, ⟨1, "ripen", 2⟩] ∧
      (gardenEngine.run Sink.collect ["plant"] seedMemory () []).Precedes
        (({ gardenEngine with cap := 9 } : Engine Unit).run Sink.collect ["fruit", "plant"]
          seedMemory () []) :=
  ⟨by decide, by decide, rfl, rfl,
    (run_precedes gardenEngine (by decide) (by decide) seedMemory ()).1⟩

end Engine

end Forward

end Chaining
