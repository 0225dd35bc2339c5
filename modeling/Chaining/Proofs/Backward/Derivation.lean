import Chaining.Command.Answer
import Chaining.Proofs.Backward.Course

set_option autoImplicit false

namespace Chaining.Backward

/-- The facts that a memory establishes, and those that rules write which test such facts alone. -/
inductive Derivable (rules : List Rule) (memory : Memory) : String → Prop
  | known {name : String} {value : Value} (bound : memory.get? name = some value)
      (affirmative : value.isAffirmative = true) : Derivable rules memory name
  | produced {name : String} {rule : Rule} (member : rule ∈ rules)
      (premises : ∀ fact ∈ rule.tested, Derivable rules memory fact)
      (written : name ∈ rule.written) : Derivable rules memory name

def Usable (rules : List Rule) (memory : Memory) (rule : Rule) : Prop :=
  ∀ fact ∈ rule.tested, Derivable rules memory fact

/-- What it means that a task can be done, apart from any search. -/
def Task.Holds (rules : List Rule) (memory : Memory) : Task → Prop
  | goal name => Derivable rules memory name
  | producers _ entries => ∃ entry ∈ entries, Usable rules memory entry.2
  | facts names => ∀ name ∈ names, Derivable rules memory name

/-- What a task binds when it succeeds. -/
def Task.Bound (memory : Memory) : Task → Prop
  | goal name => memory.has name = true
  | producers name _ => memory.has name = true
  | facts names => ∀ name ∈ names, memory.has name = true

/-- A memory establishes nothing but what can be derived from the one at the start. -/
def Supported (rules : List Rule) (start memory : Memory) : Prop :=
  ∀ name value, memory.get? name = some value → value.isAffirmative = true →
    Derivable rules start name

variable {σ : Type} {rules : List Rule} {sink : Sink σ} {start memory : Memory}

theorem supported_start (rules : List Rule) (start : Memory) : Supported rules start start :=
  fun _ _ => .known

theorem Supported.apply (supported : Supported rules start memory) {rule : Rule}
    (member : rule ∈ rules) (usable : Usable rules start rule) :
    Supported rules start (rule.apply memory) := by
  intro name value bound affirmative
  by_cases written : name ∈ rule.written
  · exact .produced member usable written
  · rw [Rule.get?_apply_of_not_mem rule memory written] at bound
    exact supported name value bound affirmative

theorem mem_of_producer {goal : String} {entry : Nat × Rule}
    (producer : entry ∈ Rule.producers rules goal) : entry.2 ∈ rules :=
  List.mem_of_getElem? (Rule.mem_producers.mp producer).1

theorem derivable_of_producer {goal : String} {entry : Nat × Rule}
    (producer : entry ∈ Rule.producers rules goal) (usable : Usable rules start entry.2) :
    Derivable rules start goal :=
  .produced (mem_of_producer producer) usable (Rule.mem_producers.mp producer).2

namespace Course

variable {task : Task} {search after : Search σ} {fired : List (Nat × Rule)} {proved : Bool}

/-- A search only fires usable rules and only succeeds in what can be done. -/
theorem sound (course : Course rules sink task search fired proved after)
    (supported : Supported rules start search.memory) :
    Supported rules start after.memory ∧ (∀ entry ∈ fired, Usable rules start entry.2) ∧
      (proved = true → task.Holds rules start) := by
  induction course with
  | known bound => exact ⟨supported, by simp, supported _ _ bound⟩
  | cycle unbound visited => exact ⟨supported, by simp, by simp⟩
  | orphan unbound fresh none => exact ⟨supported, by simp, by simp⟩
  | searched unbound fresh some attempts ih =>
    obtain ⟨kept, usable, holds⟩ := ih supported
    refine ⟨kept, usable, fun succeeded => ?_⟩
    obtain ⟨entry, producer, premises⟩ := holds succeeded
    exact derivable_of_producer producer premises
  | exhausted => exact ⟨supported, by simp, by simp⟩
  | @established _ entry _ _ _ after producer premises ih =>
    obtain ⟨kept, usable, holds⟩ := ih supported
    have premises : Usable rules start entry.2 := holds rfl
    refine ⟨?_, ?_, fun _ => ⟨entry, List.mem_cons_self, premises⟩⟩
    · rw [Search.fire_memory]
      exact kept.apply (mem_of_producer producer) premises
    · exact List.forall_mem_append.mpr ⟨usable, List.forall_mem_singleton.mpr premises⟩
  | refused producer premises later first second =>
    obtain ⟨kept, usable, _⟩ := first supported
    obtain ⟨kept, more, holds⟩ := second kept
    refine ⟨kept, List.forall_mem_append.mpr ⟨usable, more⟩, fun succeeded => ?_⟩
    obtain ⟨entry, member, premises⟩ := holds succeeded
    exact ⟨entry, List.mem_cons_of_mem _ member, premises⟩
  | met => exact ⟨supported, by simp, fun _ => by simp [Task.Holds]⟩
  | failed first ih =>
    obtain ⟨kept, usable, _⟩ := ih supported
    exact ⟨kept, usable, by simp⟩
  | further first later one two =>
    obtain ⟨kept, usable, head⟩ := one supported
    obtain ⟨kept, more, tail⟩ := two kept
    exact ⟨kept, List.forall_mem_append.mpr ⟨usable, more⟩,
      fun succeeded => List.forall_mem_cons.mpr ⟨head rfl, tail succeeded⟩⟩

theorem has_mono (course : Course rules sink task search fired proved after) {name : String}
    (bound : search.memory.has name = true) : after.memory.has name = true := by
  induction course with
  | known | cycle | orphan | exhausted | met => exact bound
  | searched unbound fresh some attempts ih => exact ih bound
  | @established _ entry _ _ _ after producer premises ih =>
    rw [Search.fire_memory]
    exact (Rule.has_apply entry.2 after.memory name).mpr (Or.inl (ih bound))
  | refused producer premises later first second => exact second (first bound)
  | failed first ih => exact ih bound
  | further first later one two => exact two (one bound)

/-- What a search proves it leaves bound, be it to null. -/
theorem bound (course : Course rules sink task search fired proved after)
    (succeeded : proved = true) : task.Bound after.memory := by
  induction course with
  | known bound => exact Memory.has_iff.mpr ⟨_, bound⟩
  | cycle | orphan | exhausted | failed => cases succeeded
  | searched unbound fresh some attempts ih => exact ih succeeded
  | @established goal entry _ _ _ after producer premises =>
    change ((after.fire sink entry.2).memory).has goal = true
    rw [Search.fire_memory]
    exact (Rule.has_apply entry.2 after.memory goal).mpr
      (Or.inr (Rule.mem_producers.mp producer).2)
  | refused producer premises later first second => exact second succeeded
  | met => simp [Task.Bound]
  | further first later one two =>
    exact List.forall_mem_cons.mpr ⟨later.has_mono (one rfl), two succeeded⟩

end Course

/-- An answer with a bound goal never says that the goal is proved without telling its value. -/
theorem summary_ne_of_bound (answer : Command.BackwardAnswer)
    (bound : answer.proved = true → answer.memory.has answer.goal = true) :
    answer.summary ≠ "proved '" ++ answer.goal ++ "'" := by
  intro equal
  have length := congrArg String.length equal
  unfold Command.BackwardAnswer.summary at length
  split at length
  · simp only [String.length_append] at length
    have longer : "' = ".length = 4 := rfl
    have quote : "'".length = 1 := rfl
    omega
  · rename_i proved unbound
    exact absurd (bound proved) (Memory.not_has_iff.mpr unbound)
  · simp only [String.length_append] at length
    have longer : "could not prove '".length = 17 := rfl
    have shorter : "proved '".length = 8 := rfl
    omega

/-- Whatever the rules, a proof fires usable rules only, and a goal that it proves can be derived
and has a value to show. -/
theorem prove_sound (rules : List Rule) (sink : Sink σ) (memory : Memory) (goal : String)
    (trace : σ) :
    (∃ fired, Fires rules sink memory goal trace fired ∧
        ∀ entry ∈ fired, Usable rules memory entry.2) ∧
      ((prove rules sink memory goal trace).proved = true → Derivable rules memory goal ∧
        (prove rules sink memory goal trace).memory.has goal = true) ∧
      ∀ (base : KnowledgeBase) (events : List Event),
        Command.BackwardAnswer.summary ⟨base, goal, (prove rules sink memory goal trace).proved,
          (prove rules sink memory goal trace).memory, events⟩ ≠ "proved '" ++ goal ++ "'" := by
  obtain ⟨fired, fires, _⟩ := fires_unique rules sink memory goal trace
  obtain ⟨last, course, remembered, _⟩ := id fires
  obtain ⟨_, usable, derivable⟩ := course.sound (supported_start rules memory)
  have bound := course.bound
  rw [← remembered]
  exact ⟨⟨fired, fires, usable⟩, fun proved => ⟨derivable proved, bound proved⟩,
    fun _ _ => summary_ne_of_bound _ bound⟩

/-- Smoke and fire that are only told by one another are not proved. -/
example :
    let rules : List Rule := [⟨"smoke", 0, [⟨"fire", .present, .null⟩], [⟨"smoke", .boolean true⟩]⟩,
      ⟨"fire", 0, [⟨"smoke", .present, .null⟩], [⟨"fire", .boolean true⟩]⟩]
    (prove rules Sink.ignore Memory.empty "smoke" ()).proved = false := by
  rfl

end Chaining.Backward
