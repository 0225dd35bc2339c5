import Chaining.Proofs.Backward.Course
import Mathlib.Logic.Relation

set_option autoImplicit false

namespace Chaining.Backward

variable {σ : Type}

/-- An attempt under way to prove a goal by a rule. -/
structure Attempt where
  goal : String
  rule : Rule
  /-- The facts that are still to be asked for. -/
  facts : List String
  /-- The producers to try when the rule fails. -/
  rest : List (Nat × Rule)

/-- What happens next: a goal is asked for, or the innermost attempt goes on with an answer. -/
inductive Turn where
  | ask (goal : String)
  | answer (proved : Bool)

structure Moment (σ : Type) where
  turn : Turn
  /-- The attempts under way, the innermost one first. -/
  stack : List Attempt
  search : Search σ
  /-- The attempts that have begun so far, in order: goals, and producers with their places. -/
  tried : List (String × (Nat × Rule))

namespace Moment

def start (memory : Memory) (goal : String) (trace : σ) : Moment σ :=
  ⟨.ask goal, [], ⟨memory, [], trace⟩, []⟩

/-- Begins an attempt with the first of some producers, or gives the goal up. An attempt goes on
from its beginning as from a fact that was proved. -/
def attempt (sink : Sink σ) (goal : String) (stack : List Attempt) (search : Search σ)
    (tried : List (String × (Nat × Rule))) : List (Nat × Rule) → Moment σ
  | [] => ⟨.answer false, stack, search.report sink (.goalFailed goal), tried⟩
  | entry :: rest =>
    ⟨.answer true, ⟨goal, entry.2, entry.2.tested, rest⟩ :: stack,
      search.report sink (.tryingRule goal entry.2.name), tried ++ [(goal, entry)]⟩

/-- The moment after the next step. There is none once the first goal has its answer. -/
def next (rules : List Rule) (sink : Sink σ) : Moment σ → Option (Moment σ)
  | ⟨.ask goal, stack, search, tried⟩ =>
    match search.memory.get? goal with
    | some value =>
      some ⟨.answer value.isAffirmative, stack, search.report sink (.goalKnown goal value), tried⟩
    | none =>
      if goal ∈ search.visited then
        some ⟨.answer false, stack, search.report sink (.cycleDetected goal), tried⟩
      else
        match Rule.producers rules goal with
        | [] =>
          let search := (search.visit goal).report sink (.noProducingRule goal)
          some ⟨.answer false, stack, search, tried⟩
        | entry :: rest => some (attempt sink goal stack (search.visit goal) tried (entry :: rest))
  | ⟨.answer _, [], _, _⟩ => none
  | ⟨.answer false, ⟨goal, _, _, rest⟩ :: stack, search, tried⟩ =>
    some (attempt sink goal stack search tried rest)
  | ⟨.answer true, ⟨_, rule, [], _⟩ :: stack, search, tried⟩ =>
    some ⟨.answer true, stack, search.fire sink rule, tried⟩
  | ⟨.answer true, ⟨goal, rule, fact :: facts, rest⟩ :: stack, search, tried⟩ =>
    some ⟨.ask fact, ⟨goal, rule, facts, rest⟩ :: stack, search, tried⟩

inductive Step (rules : List Rule) (sink : Sink σ) : Moment σ → Moment σ → Prop where
  | known {goal : String} {value : Value} {stack : List Attempt} {search : Search σ}
      {tried : List (String × (Nat × Rule))} (bound : search.memory.get? goal = some value) :
      Step rules sink ⟨.ask goal, stack, search, tried⟩
        ⟨.answer value.isAffirmative, stack, search.report sink (.goalKnown goal value), tried⟩
  | cycle {goal : String} {stack : List Attempt} {search : Search σ}
      {tried : List (String × (Nat × Rule))} (unbound : search.memory.get? goal = none)
      (visited : goal ∈ search.visited) :
      Step rules sink ⟨.ask goal, stack, search, tried⟩
        ⟨.answer false, stack, search.report sink (.cycleDetected goal), tried⟩
  | orphan {goal : String} {stack : List Attempt} {search : Search σ}
      {tried : List (String × (Nat × Rule))} (unbound : search.memory.get? goal = none)
      (fresh : goal ∉ search.visited) (none : Rule.producers rules goal = []) :
      Step rules sink ⟨.ask goal, stack, search, tried⟩
        ⟨.answer false, stack, (search.visit goal).report sink (.noProducingRule goal), tried⟩
  | searched {goal : String} {stack : List Attempt} {search : Search σ}
      {tried : List (String × (Nat × Rule))} (unbound : search.memory.get? goal = none)
      (fresh : goal ∉ search.visited) (some : Rule.producers rules goal ≠ []) :
      Step rules sink ⟨.ask goal, stack, search, tried⟩
        (attempt sink goal stack (search.visit goal) tried (Rule.producers rules goal))
  | refused {goal : String} {rule : Rule} {facts : List String} {rest : List (Nat × Rule)}
      {stack : List Attempt} {search : Search σ} {tried : List (String × (Nat × Rule))} :
      Step rules sink ⟨.answer false, ⟨goal, rule, facts, rest⟩ :: stack, search, tried⟩
        (attempt sink goal stack search tried rest)
  | established {goal : String} {rule : Rule} {rest : List (Nat × Rule)} {stack : List Attempt}
      {search : Search σ} {tried : List (String × (Nat × Rule))} :
      Step rules sink ⟨.answer true, ⟨goal, rule, [], rest⟩ :: stack, search, tried⟩
        ⟨.answer true, stack, search.fire sink rule, tried⟩
  | further {goal fact : String} {rule : Rule} {facts : List String} {rest : List (Nat × Rule)}
      {stack : List Attempt} {search : Search σ} {tried : List (String × (Nat × Rule))} :
      Step rules sink ⟨.answer true, ⟨goal, rule, fact :: facts, rest⟩ :: stack, search, tried⟩
        ⟨.ask fact, ⟨goal, rule, facts, rest⟩ :: stack, search, tried⟩

theorem step_of_next {rules : List Rule} {sink : Sink σ} {moment later : Moment σ}
    (next : moment.next rules sink = some later) : Step rules sink moment later := by
  obtain ⟨turn, stack, search, tried⟩ := moment
  cases turn with
  | ask goal =>
    simp only [Moment.next] at next
    split at next
    · cases next
      exact .known ‹_›
    · split at next
      · cases next
        exact .cycle ‹_› ‹_›
      · split at next
        · cases next
          exact .orphan ‹_› ‹_› ‹_›
        · rename_i unbound fresh _ entry rest producers
          cases next
          rw [← producers]
          exact .searched unbound fresh (producers ▸ List.cons_ne_nil _ _)
  | answer proved =>
    cases stack with
    | nil => cases next
    | cons innermost stack =>
      obtain ⟨goal, rule, facts, rest⟩ := innermost
      cases proved with
      | false =>
        cases next
        exact .refused
      | true =>
        cases facts with
        | nil =>
          cases next
          exact .established
        | cons fact facts =>
          cases next
          exact .further

def Leads (rules : List Rule) (sink : Sink σ) : Moment σ → Moment σ → Prop :=
  Relation.ReflTransGen fun moment later => moment.next rules sink = some later

/-- A proof ends at a moment as its outcome says. -/
structure Concludes (moment : Moment σ) (outcome : Outcome σ) : Prop where
  turn : moment.turn = .answer outcome.proved
  memory : moment.search.memory = outcome.memory
  visited : moment.search.visited.length = outcome.visited
  trace : moment.search.trace = outcome.trace

variable {rules : List Rule} {sink : Sink σ}

/-- What a moment leads to comes before the end. -/
theorem Leads.before_end {first moment last : Moment σ} (leads : Leads rules sink first moment)
    (whole : Leads rules sink first last) (ended : last.next rules sink = none) :
    Leads rules sink moment last := by
  have unique : Relator.RightUnique fun moment later : Moment σ =>
      moment.next rules sink = some later :=
    fun _ _ _ one two => Option.some.inj (one.symm.trans two)
  rcases Relation.ReflTransGen.total_of_right_unique unique leads whole with before | beyond
  · exact before
  · rcases beyond.cases_head with rfl | ⟨later, step, _⟩
    · exact .refl
    · rw [ended] at step
      cases step

end Moment

open Moment

/-- A walk does a task: it begins where the task is to be done, and ends with the answer to it
inside the same attempts. Facts are asked for by the innermost attempt, which has none of them left
when all are proved. -/
def Task.Walked (rules : List Rule) (sink : Sink σ) (search : Search σ) (proved : Bool)
    (after : Search σ) : Task → Prop
  | goal name => ∀ stack tried, ∃ more,
      Leads rules sink ⟨.ask name, stack, search, tried⟩ ⟨.answer proved, stack, after, more⟩
  | producers name entries => ∀ stack tried, ∃ more,
      Leads rules sink (attempt sink name stack search tried entries)
        ⟨.answer proved, stack, after, more⟩
  | facts names => ∀ name rule rest stack tried, ∃ left more, (proved = true → left = []) ∧
      Leads rules sink ⟨.answer true, ⟨name, rule, names, rest⟩ :: stack, search, tried⟩
        ⟨.answer proved, ⟨name, rule, left, rest⟩ :: stack, after, more⟩

theorem Course.walked {rules : List Rule} {sink : Sink σ} {task : Task} {search after : Search σ}
    {fired : List (Nat × Rule)} {proved : Bool}
    (course : Course rules sink task search fired proved after) :
    task.Walked rules sink search proved after := by
  induction course with
  | known bound =>
    intro stack tried
    exact ⟨tried, .single (by simp only [Moment.next, bound])⟩
  | cycle unbound visited =>
    intro stack tried
    exact ⟨tried, .single (by simp only [Moment.next, unbound, visited, ↓reduceIte])⟩
  | orphan unbound fresh none =>
    intro stack tried
    exact ⟨tried, .single (by simp only [Moment.next, unbound, fresh, none, ↓reduceIte])⟩
  | @searched goal search _ _ _ unbound fresh some attempts ih =>
    intro stack tried
    obtain ⟨more, walk⟩ := ih stack tried
    obtain ⟨entry, rest, producers⟩ := List.exists_cons_of_ne_nil some
    refine ⟨more, .head ?_ walk⟩
    simp only [Moment.next, unbound, fresh, producers, ↓reduceIte]
  | exhausted =>
    intro stack tried
    exact ⟨tried, .refl⟩
  | established producer premises ih =>
    intro stack tried
    obtain ⟨left, more, empty, walk⟩ := ih _ _ _ stack _
    obtain rfl := empty rfl
    exact ⟨more, walk.tail rfl⟩
  | refused producer premises later first second =>
    intro stack tried
    obtain ⟨left, between, _, walk⟩ := first _ _ _ stack _
    obtain ⟨more, onward⟩ := second stack between
    exact ⟨more, (walk.tail rfl).trans onward⟩
  | met =>
    intro name rule rest stack tried
    exact ⟨[], tried, fun _ => rfl, .refl⟩
  | @failed fact facts _ _ _ first ih =>
    intro name rule rest stack tried
    obtain ⟨more, walk⟩ := ih (⟨name, rule, facts, rest⟩ :: stack) tried
    exact ⟨facts, more, by simp, .head rfl walk⟩
  | @further fact facts _ _ _ _ _ _ first later one two =>
    intro name rule rest stack tried
    obtain ⟨between, walk⟩ := one (⟨name, rule, facts, rest⟩ :: stack) tried
    obtain ⟨left, more, empty, onward⟩ := two name rule rest stack between
    exact ⟨left, more, empty, .head rfl (walk.trans onward)⟩

/-- Every proof is walked to its end. -/
theorem prove_walked (rules : List Rule) (sink : Sink σ) (memory : Memory) (goal : String)
    (trace : σ) : ∃ last : Moment σ, Leads rules sink (.start memory goal trace) last ∧
      last.next rules sink = none ∧ last.Concludes (prove rules sink memory goal trace) := by
  obtain ⟨fired, ⟨after, course, remembered, asked, told⟩, _⟩ :=
    fires_unique rules sink memory goal trace
  obtain ⟨tried, walk⟩ := course.walked [] []
  exact ⟨_, walk, rfl, rfl, remembered, asked, told⟩

end Chaining.Backward
