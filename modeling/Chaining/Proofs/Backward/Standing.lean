import Chaining.Proofs.Backward.Exactness

set_option autoImplicit false

namespace Chaining

theorem Memory.satisfies_singleton (memory : Memory) (goal : String) :
    memory.satisfies [goal] = (memory.get? goal).any Value.isAffirmative := by
  simp [satisfies]

/-- The last value that a rule has for a fact does not establish it. -/
def Rule.TakesBack (rule : Rule) (fact : String) : Prop :=
  ∃ value, rule.lastValue? fact = some value ∧ value.isAffirmative = false

theorem Rule.satisfies_apply_iff {rule : Rule} {fact : String} (memory : Memory)
    (written : fact ∈ rule.written) :
    (rule.apply memory).satisfies [fact] = true ↔ ¬ rule.TakesBack fact := by
  have bound : rule.lastValue? fact ≠ none := fun absent =>
    lastValue?_eq_none_iff.mp absent written
  obtain ⟨value, last⟩ := Option.ne_none_iff_exists'.mp bound
  rw [Memory.satisfies_singleton, get?_apply, last, Option.some_or]
  simp [TakesBack, last]

namespace Backward

variable {σ : Type} {rules : List Rule} {sink : Sink σ} {goal : String}

theorem prove_of_bound (rules : List Rule) (sink : Sink σ) {memory : Memory} {value : Value}
    (bound : memory.get? goal = some value) (trace : σ) :
    (prove rules sink memory goal trace).proved = value.isAffirmative ∧
      (prove rules sink memory goal trace).memory = memory := by
  simp [prove, depthBound, proveGoal, bound, Search.report]

namespace Course

variable {search after : Search σ} {fired : List (Nat × Rule)}

/-- The producers of a goal prove it by firing one of them last of all. -/
theorem fired_of_producers {entries : List (Nat × Rule)}
    (course : Course rules sink (.producers goal entries) search fired true after) :
    ∃ front entry memory, fired = front ++ [entry] ∧ goal ∈ entry.2.written ∧
      after.memory = entry.2.apply memory := by
  induction entries generalizing search fired with
  | nil => cases course
  | cons entry entries ih =>
    cases course with
    | @established _ _ _ front _ between producer premises =>
      exact ⟨front, entry, between.memory, rfl, (Rule.mem_producers.mp producer).2,
        between.fire_memory sink entry.2⟩
    | @refused _ _ _ tried _ _ _ _ _ _ _ later =>
      obtain ⟨front, last, memory, rfl, written, left⟩ := ih later
      exact ⟨tried ++ front, last, memory, (List.append_assoc _ _ _).symm, written, left⟩

/-- A proved goal holds unless the rule that was fired last takes it back. -/
theorem satisfies_iff (course : Course rules sink (.goal goal) search fired true after) :
    after.memory.satisfies [goal] = true ↔
      ∀ front entry, fired = front ++ [entry] → ¬ entry.2.TakesBack goal := by
  cases bound : search.memory.get? goal with
  | some value =>
    obtain ⟨rfl, affirmative, rfl⟩ := course.unique (.known bound)
    have unchanged : (search.report sink (.goalKnown goal value)).memory = search.memory := rfl
    rw [unchanged, Memory.satisfies_singleton, bound]
    simpa using affirmative.symm
  | none =>
    obtain ⟨front, entry, memory, rfl, written, left⟩ :=
      (course.attempts_of_proved bound rfl).fired_of_producers
    rw [left, Rule.satisfies_apply_iff memory written]
    refine ⟨fun kept other last same => ?_, fun all => all front entry rfl⟩
    obtain rfl : entry = last := (List.append_singleton_inj.mp same).2
    exact kept

end Course

/-- A proved goal holds in the memory that its proof leaves, unless the rule that was fired last
takes it back. Asked for again at once, it is proved exactly when it holds, and nothing changes. -/
theorem prove_stands {τ : Type} (rules : List Rule) (sink : Sink σ) (memory : Memory)
    (goal : String) (trace : σ) (proved : (prove rules sink memory goal trace).proved = true) :
    let left := (prove rules sink memory goal trace).memory
    (left.satisfies [goal] = true ↔ ∀ front entry,
        Fires rules sink memory goal trace (front ++ [entry]) → ¬ entry.2.TakesBack goal) ∧
      ∀ (other : Sink τ) (events : τ),
        (prove rules other left goal events).proved = left.satisfies [goal] ∧
          (prove rules other left goal events).memory = left := by
  intro left
  obtain ⟨fired, fires, only⟩ := fires_unique rules sink memory goal trace
  obtain ⟨last, course, remembered, _⟩ := id fires
  rw [proved] at course
  have remembered : last.memory = left := remembered
  obtain ⟨value, bound⟩ : ∃ value, left.get? goal = some value :=
    remembered ▸ Memory.has_iff.mp (course.bound rfl)
  refine ⟨?_, fun other events => ?_⟩
  · rw [← remembered, course.satisfies_iff]
    refine forall₂_congr fun front entry => imp_congr_left ⟨fun same => same ▸ fires, ?_⟩
    exact fun other => (only _ other).symm
  · rw [Memory.satisfies_singleton, bound, Option.any_some]
    exact prove_of_bound rules other bound events

/-- A lamp is switched on by a hand that finds the switch, and tells how bright it is last. -/
def lampRules : List Rule :=
  [⟨"touch", 0, [], [⟨"switch", .boolean true⟩]⟩,
    ⟨"turn", 0, [⟨"switch", .present, .null⟩], [⟨"lamp", .null⟩, ⟨"lamp", .number .zero⟩]⟩]

theorem prove_stands_lamp :
    (prove lampRules Sink.ignore Memory.empty "lamp" ()).proved = true ∧
      (prove lampRules Sink.ignore Memory.empty "lamp" ()).memory.satisfies ["lamp"] = true ∧
      (prove lampRules Sink.ignore (prove lampRules Sink.ignore Memory.empty "lamp" ()).memory
        "lamp" ()).proved = true := by
  have proved : (prove lampRules Sink.ignore Memory.empty "lamp" ()).proved = true := rfl
  have holds : (prove lampRules Sink.ignore Memory.empty "lamp" ()).memory.satisfies ["lamp"] =
      true := rfl
  have again := (prove_stands lampRules Sink.ignore Memory.empty "lamp" () proved).2 Sink.ignore ()
  exact ⟨proved, holds, again.1.trans holds⟩

/-- A candle that is blown out is proved, and does not burn: the proof does not hold, and fails
when it is made again. -/
theorem prove_candle :
    let rules : List Rule := [⟨"blow", 0, [], [⟨"candle", .boolean false⟩]⟩]
    let left := (prove rules Sink.ignore Memory.empty "candle" ()).memory
    (prove rules Sink.ignore Memory.empty "candle" ()).proved = true ∧
      left.satisfies ["candle"] = false ∧
      (prove rules Sink.ignore left "candle" ()).proved = false :=
  ⟨rfl, rfl, rfl⟩

end Backward

end Chaining
