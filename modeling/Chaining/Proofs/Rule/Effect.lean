import Chaining.Event
import Chaining.Proofs.Memory.Lookup

set_option autoImplicit false

namespace Chaining

theorem Sink.foldl_collect (events trace : List Event) :
    events.foldl Sink.collect.record trace = trace ++ events := by
  induction events generalizing trace with
  | nil => exact (List.append_nil trace).symm
  | cons event rest ih => exact (ih (trace ++ [event])).trans (List.append_assoc _ _ _)

namespace Rule

theorem mem_written {rule : Rule} {fact : String} :
    fact ∈ rule.written ↔ ∃ action ∈ rule.actions, action.fact = fact :=
  List.mem_map

theorem produces_iff {rule : Rule} {fact : String} :
    rule.produces fact = true ↔ fact ∈ rule.written := by
  simp only [produces, List.any_eq_true, beq_iff_eq, mem_written]

/-- The value that the last of the actions on a fact gives it. -/
def lastValue? (rule : Rule) (fact : String) : Option Value :=
  (rule.actions.reverse.find? fun action => action.fact == fact).map (·.value)

theorem lastValue?_eq_none_iff {rule : Rule} {fact : String} :
    rule.lastValue? fact = none ↔ fact ∉ rule.written := by
  simp only [lastValue?, Option.map_eq_none_iff, List.find?_eq_none, List.mem_reverse, beq_iff_eq,
    mem_written, not_exists, not_and]

/-- Writing is decided by the last values alone. -/
theorem get?_apply (rule : Rule) (memory : Memory) (fact : String) :
    (rule.apply memory).get? fact = (rule.lastValue? fact).or (memory.get? fact) := by
  unfold apply lastValue?
  induction rule.actions generalizing memory with
  | nil => rfl
  | cons first rest ih =>
    rw [List.foldl_cons, ih, List.reverse_cons, List.find?_append]
    cases rest.reverse.find? fun action => action.fact == fact with
    | some last => rfl
    | none =>
      by_cases equal : first.fact = fact
      · simp [Action.apply, equal]
      · simp [Action.apply, equal, Memory.get?_set_of_ne memory (Ne.symm equal)]

theorem get?_apply_of_not_mem (rule : Rule) (memory : Memory) {fact : String}
    (outside : fact ∉ rule.written) : (rule.apply memory).get? fact = memory.get? fact := by
  rw [get?_apply, lastValue?_eq_none_iff.mpr outside, Option.none_or]

theorem get?_apply_of_mem (rule : Rule) (memory : Memory) {fact : String}
    (inside : fact ∈ rule.written) :
    ∃ action ∈ rule.actions, action.fact = fact ∧
      (rule.apply memory).get? fact = some action.value := by
  cases last : rule.lastValue? fact with
  | none => exact absurd inside (lastValue?_eq_none_iff.mp last)
  | some value =>
    obtain ⟨action, found, rfl⟩ := Option.map_eq_some_iff.mp last
    refine ⟨action, List.mem_reverse.mp (List.mem_of_find?_eq_some found), ?_, ?_⟩
    · simpa using List.find?_some found
    · rw [get?_apply, last, Option.some_or]

theorem has_apply (rule : Rule) (memory : Memory) (fact : String) :
    (rule.apply memory).has fact = true ↔ memory.has fact = true ∨ fact ∈ rule.written := by
  by_cases inside : fact ∈ rule.written
  · obtain ⟨action, _, _, bound⟩ := get?_apply_of_mem rule memory inside
    simp [Memory.has, bound, inside]
  · simp [Memory.has, get?_apply_of_not_mem rule memory inside, inside]

theorem fire_memory {σ : Type} (rule : Rule) (sink : Sink σ) (memory : Memory) (trace : σ) :
    (rule.fire sink memory trace).1 = rule.apply memory := by
  unfold fire apply
  generalize sink.record trace (.ruleFired rule.name) = trace
  induction rule.actions generalizing memory trace with
  | nil => rfl
  | cons action rest ih => exact ih (action.apply memory) _

/-- What a rule tells when it fires: its name, and then every fact that it sets. -/
def account (rule : Rule) : List Event :=
  .ruleFired rule.name :: rule.actions.map fun action => .factSet action.fact action.value

theorem mem_account {rule : Rule} {event : Event} :
    event ∈ rule.account ↔ event = .ruleFired rule.name ∨
      ∃ action ∈ rule.actions, event = .factSet action.fact action.value := by
  simp only [account, List.mem_cons, List.mem_map, eq_comm]

theorem replay_account (rule : Rule) (memory : Memory) :
    Event.replay memory rule.account = rule.apply memory := by
  change (rule.actions.map fun action => Event.factSet action.fact action.value).foldl Event.apply
    memory = rule.apply memory
  rw [List.foldl_map]
  rfl

theorem fire_trace {σ : Type} (rule : Rule) (sink : Sink σ) (memory : Memory) (trace : σ) :
    (rule.fire sink memory trace).2 = rule.account.foldl sink.record trace := by
  rw [fire, account, List.foldl_cons, List.foldl_map]
  generalize sink.record trace (.ruleFired rule.name) = trace
  induction rule.actions generalizing memory trace with
  | nil => rfl
  | cons action rest ih => exact ih (action.apply memory) _

theorem fire_collect (rule : Rule) (memory : Memory) (events : List Event) :
    (rule.fire Sink.collect memory events).2 = events ++ rule.account := by
  rw [fire_trace, Sink.foldl_collect]

end Rule

namespace Event

theorem replay_append (memory : Memory) (first second : List Event) :
    replay memory (first ++ second) = replay (replay memory first) second :=
  List.foldl_append

end Event

end Chaining
