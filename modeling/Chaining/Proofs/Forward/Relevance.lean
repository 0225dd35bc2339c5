import Chaining.Proofs.Condition.Laws
import Chaining.Proofs.Forward.Halting
import Chaining.Proofs.Forward.Parallel

set_option autoImplicit false

namespace Chaining

namespace Memory

/-- Memories agree on names when each name has the same value in both, or nothing is known about it
in either. -/
def AgreeOn (names : List String) (left right : Memory) : Prop :=
  ∀ name ∈ names, left.get? name = right.get? name ∨ (left.Blank name ∧ right.Blank name)

theorem satisfies_eq_of_agreeOn {goals : List String} {left right : Memory}
    (agree : left.AgreeOn goals right) : left.satisfies goals = right.satisfies goals := by
  rw [satisfies, satisfies, Bool.eq_iff_iff, List.all_eq_true, List.all_eq_true]
  refine forall₂_congr fun goal member => ?_
  rcases agree goal member with same | ⟨unbound | null, absent | blank⟩ <;>
    simp [Value.isAffirmative, *]

end Memory

theorem Rule.isApplicable_eq_of_agreeOn {rule : Rule} {left right : Memory}
    (agree : left.AgreeOn rule.tested right) :
    rule.isApplicable left = rule.isApplicable right := by
  rw [isApplicable, isApplicable, Bool.eq_iff_iff, List.all_eq_true, List.all_eq_true]
  refine forall₂_congr fun condition member => ?_
  rcases agree condition.fact (List.mem_map_of_mem member) with same | ⟨blank, also⟩
  · rw [Condition.holds, Condition.holds, same]
  · rw [Condition.holds_eq_false_of_blank blank, Condition.holds_eq_false_of_blank also]

theorem Memory.AgreeOn.apply {names : List String} {left right : Memory}
    (agree : left.AgreeOn names right) (rule : Rule) :
    (rule.apply left).AgreeOn names (rule.apply right) := by
  intro name member
  rw [Memory.Blank, Memory.Blank, Rule.get?_apply, Rule.get?_apply]
  cases rule.lastValue? name with
  | some value => exact Or.inl rfl
  | none => exact agree name member

namespace Forward

variable {ρ σ : Type}

/-- Runs stand side by side when they differ at most in what nobody looks at. -/
structure Progress.Twin (names : List String) (first second : Progress ρ σ) : Prop where
  memory : first.memory.AgreeOn names second.memory
  source : first.source = second.source
  trace : first.trace = second.trace
  pool : first.pool = second.pool
  fired : first.fired = second.fired
  looked : ∀ entry ∈ first.pool, entry.2.tested ⊆ names

namespace Progress.Twin

variable {names : List String} {first second : Progress ρ σ}

theorem ready (twin : first.Twin names second) : first.ready = second.ready := by
  rw [Progress.ready, Progress.ready, ← twin.pool]
  apply List.filter_congr
  intro entry member
  exact Rule.isApplicable_eq_of_agreeOn fun name tested =>
    twin.memory name (twin.looked entry member tested)

theorem report (twin : first.Twin names second) (sink : Sink σ) (event : Event) :
    (first.report sink event).Twin names (second.report sink event) :=
  ⟨twin.memory, twin.source, congrArg (sink.record · event) twin.trace, twin.pool, twin.fired,
    twin.looked⟩

theorem choose (twin : first.Twin names second) (sink : Sink σ) (iteration size : Nat) (source : ρ)
    (entry : Nat × Rule) :
    (first.choose sink iteration size source entry).Twin names
      (second.choose sink iteration size source entry) where
  memory := by
    rw [choose_memory, choose_memory]
    exact twin.memory.apply entry.2
  source := rfl
  trace := by rw [choose_told, choose_told, twin.trace]
  pool := by rw [choose_pool, choose_pool, twin.pool]
  fired := by rw [choose_fired, choose_fired, twin.fired]
  looked := fun other member => twin.looked other (List.mem_of_mem_filter member)

end Progress.Twin

structure Outcome.Twin (names : List String) (first second : Outcome ρ σ) : Prop where
  run : first.run = second.run
  source : first.source = second.source
  trace : first.trace = second.trace
  memory : first.memory.AgreeOn names second.memory

theorem Progress.Twin.halt {names : List String} {first second : Progress ρ σ}
    (twin : first.Twin names second) (halt : Halt) (iterations : Nat) :
    (first.halt halt iterations).Twin names (second.halt halt iterations) where
  run := by rw [Progress.halt, Progress.halt, twin.fired]
  source := twin.source
  trace := twin.trace
  memory := twin.memory

namespace Engine

variable {engine : Engine ρ} {sink : Sink σ} {goals names : List String} {iteration left : Nat}

theorem parallel_twin (engine : Engine ρ) (sink : Sink σ) (wanted : goals ⊆ names) :
    engine.Parallel sink sink goals (Progress.Twin names) where
  ready := Progress.Twin.ready
  met := fun twin => Memory.satisfies_eq_of_agreeOn fun goal member =>
    twin.memory goal (wanted member)
  report := fun twin => twin.report sink
  choose := fun twin _ _ entry next chosen => by
    rw [twin.source] at chosen
    exact ⟨next, chosen, fun iteration size => twin.choose sink iteration size next entry⟩

theorem Course.twin {progress other : Progress ρ σ} {outcome result : Outcome ρ σ}
    (course : engine.Course sink goals left iteration progress outcome)
    (second : engine.Course sink goals left iteration other result)
    (wanted : goals ⊆ names) (twin : progress.Twin names other) : outcome.Twin names result := by
  obtain ⟨made, again, alike⟩ := course.parallel (parallel_twin engine sink wanted) twin
  rw [again.eq_passes, ← second.eq_passes] at alike
  obtain ⟨last, beyond, halt, iterations, ended, rfl, rfl⟩ := alike
  exact ended.halt halt iterations

end Engine

def writtenBy (rules : List Rule) (firings : List Firing) : List String :=
  firings.flatMap fun firing => rules[firing.index]?.elim [] Rule.written

theorem get?_replay_of_not_mem {rules : List Rule} {firings : List Firing} {name : String}
    (untouched : name ∉ writtenBy rules firings) (start : Memory) :
    (replay rules start firings).get? name = start.get? name := by
  induction firings generalizing start with
  | nil => rfl
  | cons firing rest ih =>
    rw [writtenBy, List.flatMap_cons, List.mem_append, not_or] at untouched
    rw [replay_cons, ih untouched.2]
    cases found : rules[firing.index]? with
    | none => rfl
    | some rule =>
      rw [found] at untouched
      exact rule.get?_apply_of_not_mem start untouched.1

theorem get?_replay_of_mem {rules : List Rule} {firings : List Firing} {name : String}
    (written : name ∈ writtenBy rules firings) (left right : Memory) :
    ∃ value, (replay rules left firings).get? name = some value ∧
      (replay rules right firings).get? name = some value := by
  induction firings generalizing left right with
  | nil => cases written
  | cons firing rest ih =>
    rw [replay_cons, replay_cons]
    by_cases later : name ∈ writtenBy rules rest
    · exact ih later _ _
    · rw [get?_replay_of_not_mem later, get?_replay_of_not_mem later]
      rw [writtenBy, List.flatMap_cons, List.mem_append] at written
      replace written := written.resolve_right later
      cases found : rules[firing.index]? with
      | none =>
        rw [found] at written
        cases written
      | some rule =>
        rw [found] at written
        have bound := Option.isSome_iff_ne_none.mpr
          (mt Rule.lastValue?_eq_none_iff.mp (not_not.mpr written))
        obtain ⟨value, last⟩ := Option.isSome_iff_exists.mp bound
        refine ⟨value, ?_, ?_⟩
        · rw [Option.elim_some, Rule.get?_apply, last, Option.some_or]
        · rw [Option.elim_some, Rule.get?_apply, last, Option.some_or]

namespace Engine

/-- The facts that a run can look at: those that rules test, and the goals. -/
def looksAt (engine : Engine ρ) (goals : List String) : List String :=
  engine.rules.flatMap Rule.tested ++ goals

/-- From memories that agree on all that a run looks at, a run fires the same rules, tells the same
and halts alike. The memories agree then as they did before, bind whatever was written to the same
values and are otherwise left alone. -/
theorem run_twin (engine : Engine ρ) (sink : Sink σ) (goals : List String) {left right : Memory}
    (agree : left.AgreeOn (engine.looksAt goals) right) (source : ρ) (trace : σ) :
    let first := engine.run sink goals left source trace
    let second := engine.run sink goals right source trace
    first.Twin (engine.looksAt goals) second ∧
      (∀ name ∈ writtenBy engine.rules first.run.fired,
        ∃ value, first.memory.get? name = some value ∧ second.memory.get? name = some value) ∧
      ∀ name ∉ writtenBy engine.rules first.run.fired,
        first.memory.get? name = left.get? name ∧ second.memory.get? name = right.get? name := by
  intro first second
  have looked : ∀ entry ∈ engine.pool, entry.2.tested ⊆ engine.looksAt goals := by
    intro entry member name tested
    have found := List.mem_of_getElem? (Rule.mem_placed.mp member)
    exact List.mem_append_left goals (List.mem_flatMap.mpr ⟨entry.2, found, tested⟩)
  have twin : first.Twin (engine.looksAt goals) second :=
    (engine.run_course sink goals left source trace).twin
      (engine.run_course sink goals right source trace)
      (List.subset_append_right _ goals) ⟨agree, rfl, rfl, rfl, rfl, looked⟩
  have memory : first.memory = replay engine.rules left first.run.fired := by
    have replayed := engine.run_memory sink goals left source trace
    rwa [Run.memoryAfter, List.take_length] at replayed
  have other : second.memory = replay engine.rules right first.run.fired := by
    have replayed := engine.run_memory sink goals right source trace
    rw [Run.memoryAfter, List.take_length] at replayed
    rw [twin.run]
    exact replayed
  rw [memory, other]
  exact ⟨twin, fun name written => get?_replay_of_mem written left right,
    fun name untouched => ⟨get?_replay_of_not_mem untouched left,
      get?_replay_of_not_mem untouched right⟩⟩

/-- A gate that opens for guests, and a bell that nobody listens to. -/
def gateEngine : Engine Unit where
  rules := [⟨"guest", 0, [⟨"name", .notEqual, .text "thief"⟩], [⟨"gate", .text "open"⟩]⟩,
    ⟨"stranger", 0, [⟨"badge", .atMost, .null⟩], [⟨"gate", .text "shut"⟩]⟩]
  strategy := .firstMatch
  chance := .first
  cap := 3

def quietMemory : Memory := Memory.ofList [("badge", .null), ("name", .text "guest")]

def noisyMemory : Memory :=
  Memory.ofList [("bell", .boolean true), ("gate", .text "shut"), ("name", .text "guest")]

theorem run_twin_gate :
    quietMemory.AgreeOn (gateEngine.looksAt ["rain"]) noisyMemory ∧
      (gateEngine.run Sink.collect ["rain"] quietMemory () []).run.fired = [⟨0, "guest", 1⟩] ∧
      (gateEngine.run Sink.collect ["rain"] quietMemory () []).Twin (gateEngine.looksAt ["rain"])
        (gateEngine.run Sink.collect ["rain"] noisyMemory () []) := by
  have agree : quietMemory.AgreeOn (gateEngine.looksAt ["rain"]) noisyMemory := by
    intro name member
    simp only [looksAt, gateEngine, Rule.tested, List.flatMap_cons, List.flatMap_nil, List.map_cons,
      List.map_nil, List.append_nil, List.cons_append, List.nil_append, List.mem_cons,
      List.not_mem_nil, or_false] at member
    rcases member with rfl | rfl | rfl
    · exact Or.inl rfl
    · exact Or.inr ⟨Or.inr rfl, Or.inl rfl⟩
    · exact Or.inl rfl
  exact ⟨agree, rfl, (run_twin gateEngine Sink.collect ["rain"] agree () []).1⟩

end Engine

end Forward

end Chaining
