import Chaining.Proofs.Backward.Chronicle
import Chaining.Proofs.Backward.Parallel

set_option autoImplicit false

namespace Chaining

/-- Memories bind names to the same values, or not at all. -/
def Memory.SameOn (names : List String) (left right : Memory) : Prop :=
  ∀ name ∈ names, left.get? name = right.get? name

theorem Memory.SameOn.apply {names : List String} {left right : Memory}
    (same : left.SameOn names right) (rule : Rule) :
    (rule.apply left).SameOn names (rule.apply right) := by
  intro name member
  rw [rule.get?_apply, rule.get?_apply, same name member]

namespace Event

def LastSet (events : List Event) (name : String) (value : Value) : Prop :=
  ∃ front back, events = front ++ factSet name value :: back ∧
    ∀ other, factSet name other ∉ back

theorem LastSet.cons {events : List Event} {name : String} {value : Value}
    (last : LastSet events name value) (event : Event) : LastSet (event :: events) name value := by
  obtain ⟨front, back, rfl, only⟩ := last
  exact ⟨event :: front, back, rfl, only⟩

/-- A fact that no event sets keeps its binding; any other one ends as it was set last. -/
theorem get?_replay (events : List Event) (memory : Memory) (name : String) :
    ((∀ value, factSet name value ∉ events) ∧
        (replay memory events).get? name = memory.get? name) ∨
      ∃ value, LastSet events name value ∧ (replay memory events).get? name = some value := by
  induction events generalizing memory with
  | nil => exact Or.inl ⟨by simp, rfl⟩
  | cons event rest ih =>
    rcases ih (event.apply memory) with ⟨untouched, kept⟩ | ⟨value, last, bound⟩
    · by_cases now : ∃ value, event = factSet name value
      · obtain ⟨value, rfl⟩ := now
        refine Or.inr ⟨value, ⟨[], rest, rfl, untouched⟩, kept.trans ?_⟩
        exact memory.get?_set_self name value
      · refine Or.inl ⟨fun value member => ?_, kept.trans ?_⟩
        · rcases List.mem_cons.mp member with equal | later
          · exact now ⟨value, equal.symm⟩
          · exact untouched value later
        · cases event with
          | factSet other value =>
            refine memory.get?_set_of_ne (fun same => now ⟨value, ?_⟩) value
            rw [same]
          | _ => rfl
    · exact Or.inr ⟨value, last.cons event, bound⟩

end Event

namespace Backward

variable {σ : Type} {rules : List Rule} {sink : Sink σ} {goal : String}

/-- The facts that a proof of the goal can ask for. -/
def looksAt (rules : List Rule) (goal : String) : List String :=
  goal :: rules.flatMap Rule.tested

def writtenBy (fired : List (Nat × Rule)) : List String :=
  fired.flatMap fun entry => entry.2.written

/-- Searches stand side by side when they differ at most in facts that are not asked for. -/
structure Search.Twin (names : List String) (first second : Search σ) : Prop where
  memory : first.memory.SameOn names second.memory
  visited : first.visited = second.visited
  trace : first.trace = second.trace

theorem Search.Twin.parallel (rules : List Rule) (goal : String) (sink : Sink σ) :
    Parallel rules (· ∈ looksAt rules goal) sink sink (Twin (looksAt rules goal)) where
  tested := fun rule member fact tested =>
    List.mem_cons_of_mem _ (List.mem_flatMap.mpr ⟨rule, member, tested⟩)
  known := fun twin name looked => twin.memory name looked
  visited := Twin.visited
  report := fun twin event =>
    ⟨twin.memory, twin.visited, congrArg (sink.record · event) twin.trace⟩
  visit := fun twin goal => ⟨twin.memory, congrArg (goal :: ·) twin.visited, twin.trace⟩
  fire := fun twin rule => ⟨by
    rw [fire_memory, fire_memory]
    exact twin.memory.apply rule, twin.visited, by
    rw [Search.fire, Search.fire, rule.fire_trace, rule.fire_trace, twin.trace]⟩

theorem Course.mem_writtenBy {search after : Search (List Event)} {task : Task}
    {fired : List (Nat × Rule)} {proved : Bool}
    (course : Course rules Sink.collect task search fired proved after) (silent : search.trace = [])
    {name : String} :
    name ∈ writtenBy fired ↔ ∃ value, .factSet name value ∈ after.trace := by
  have told := course.effects
  rw [silent, List.filter_nil, List.nil_append] at told
  have kept : ∀ value, .factSet name value ∈ after.trace ↔
      ∃ entry ∈ fired, .factSet name value ∈ entry.2.account := by
    intro value
    rw [← List.mem_flatMap, ← told, List.mem_filter]
    simp [isEffect]
  simp only [kept, writtenBy, List.mem_flatMap, Rule.mem_account, Rule.mem_written]
  constructor
  · rintro ⟨entry, member, action, acts, rfl⟩
    exact ⟨action.value, entry, member, Or.inr ⟨action, acts, rfl⟩⟩
  · rintro ⟨value, entry, member, named | ⟨action, acts, equal⟩⟩
    · cases named
    · cases equal
      exact ⟨entry, member, action, acts, rfl⟩

/-- What the firing of some rules, and nothing else, has made of a memory. -/
structure Outcome.Frames (outcome : Outcome (List Event)) (start : Memory)
    (fired : List (Nat × Rule)) : Prop where
  bound : ∀ name, outcome.memory.has name = true ↔
    start.has name = true ∨ name ∈ writtenBy fired
  kept : ∀ name ∉ writtenBy fired, outcome.memory.get? name = start.get? name
  last : ∀ name ∈ writtenBy fired, ∃ value, Event.LastSet outcome.trace name value ∧
    outcome.memory.get? name = some value

theorem Course.frames {memory : Memory} {last : Search (List Event)} {fired : List (Nat × Rule)}
    {proved : Bool}
    (course : Course rules Sink.collect (.goal goal) ⟨memory, [], []⟩ fired proved last) :
    (prove rules Sink.collect memory goal []).Frames memory fired := by
  rw [course.prove_eq]
  have replayed := (course.block (Search.Told.initial memory)).1.replayed
  have told (name : String) := Event.get?_replay last.trace memory name
  rw [replayed] at told
  have kept : ∀ name ∉ writtenBy fired, last.memory.get? name = memory.get? name := by
    intro name untouched
    rcases told name with ⟨_, same⟩ | ⟨value, ⟨front, back, set, _⟩, _⟩
    · exact same
    · have member : .factSet name value ∈ last.trace := by simp [set]
      exact absurd ((course.mem_writtenBy rfl).mpr ⟨value, member⟩) untouched
  have written : ∀ name ∈ writtenBy fired, ∃ value, Event.LastSet last.trace name value ∧
      last.memory.get? name = some value := by
    intro name touched
    obtain ⟨value, member⟩ := (course.mem_writtenBy rfl).mp touched
    exact (told name).resolve_left fun untouched => untouched.1 value member
  refine ⟨fun name => ?_, kept, written⟩
  by_cases touched : name ∈ writtenBy fired
  · obtain ⟨value, _, bound⟩ := written name touched
    simp [Memory.has, bound, touched]
  · simp [Memory.has, kept name touched, touched]

/-- From memories that agree on all that a proof can ask for, a proof gives the same answer, fires
the same rules and tells the same. In each of them no names are bound in the end but those that were
bound before and those that the fired rules write: these have the values that were told last, and
all others are as they were. -/
theorem prove_twin (rules : List Rule) (goal : String) {left right : Memory}
    (agree : left.SameOn (looksAt rules goal) right) :
    let first := prove rules Sink.collect left goal []
    let second := prove rules Sink.collect right goal []
    first.proved = second.proved ∧ first.trace = second.trace ∧
      ∃ fired, Fires rules Sink.collect left goal [] fired ∧
        Fires rules Sink.collect right goal [] fired ∧
        first.Frames left fired ∧ second.Frames right fired := by
  intro first second
  have begun : Search.Twin (looksAt rules goal) ⟨left, [], ([] : List Event)⟩ ⟨right, [], []⟩ :=
    ⟨agree, rfl, rfl⟩
  obtain ⟨fired, proved, last, beyond, course, again, twin⟩ :=
    prove_parallel (Search.Twin.parallel rules goal Sink.collect) goal List.mem_cons_self begun
  have one : first = ⟨proved, last.memory, last.visited.length, last.trace⟩ := course.prove_eq
  have two : second = ⟨proved, beyond.memory, beyond.visited.length, beyond.trace⟩ := again.prove_eq
  refine ⟨by rw [one, two], ?_, fired, course.fires, again.fires, course.frames, again.frames⟩
  rw [one, two]
  exact twin.trace

/-- Tea needs water, which a noisy tap gives, and leaves, which nothing gives. -/
def teaRules : List Rule :=
  [⟨"brew", 0, [⟨"water", .atLeast, .null⟩, ⟨"leaves", .present, .null⟩],
      [⟨"tea", .boolean true⟩]⟩,
    ⟨"tap", 0, [], [⟨"noise", .text "drip"⟩, ⟨"water", .boolean false⟩, ⟨"noise", .text "gush"⟩]⟩]

def kitchenMemory : Memory := Memory.ofList [("cup", .null), ("noise", .text "none")]

/-- The tea is not made, and the water runs all the same. -/
theorem prove_twin_tea :
    Memory.empty.SameOn (looksAt teaRules "tea") kitchenMemory ∧
      (prove teaRules Sink.collect Memory.empty "tea" []).proved = false ∧
      (prove teaRules Sink.collect kitchenMemory "tea" []).proved = false ∧
      (prove teaRules Sink.collect kitchenMemory "tea" []).trace =
        (prove teaRules Sink.collect Memory.empty "tea" []).trace ∧
      (prove teaRules Sink.collect kitchenMemory "tea" []).memory.bindings =
        [("cup", .null), ("noise", .text "gush"), ("water", .boolean false)] := by
  have agree : Memory.empty.SameOn (looksAt teaRules "tea") kitchenMemory := by
    intro name member
    have names : looksAt teaRules "tea" = ["tea", "water", "leaves"] := rfl
    rw [names] at member
    simp only [List.mem_cons, List.not_mem_nil, or_false] at member
    rcases member with rfl | rfl | rfl
    · rfl
    · rfl
    · rfl
  have failed : (prove teaRules Sink.collect Memory.empty "tea" []).proved = false := rfl
  obtain ⟨same, told, _⟩ := prove_twin teaRules "tea" agree
  exact ⟨agree, failed, same.symm.trans failed, told.symm, rfl⟩

end Backward

end Chaining
