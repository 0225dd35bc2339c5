import Chaining.Backward
import Chaining.Proofs.Rule.Places

set_option autoImplicit false

namespace Chaining.Backward

variable {σ : Type}

/-- What a part of a search is to do: prove a goal, prove it by one of some rules with their places,
or prove facts one after another. -/
inductive Task where
  | goal (name : String)
  | producers (goal : String) (entries : List (Nat × Rule))
  | facts (names : List String)

def Search.visit (search : Search σ) (goal : String) : Search σ :=
  { search with visited := goal :: search.visited }

@[simp] theorem Search.fire_memory (search : Search σ) (sink : Sink σ) (rule : Rule) :
    (search.fire sink rule).memory = rule.apply search.memory :=
  Rule.fire_memory rule sink search.memory search.trace

/-- Every goal that a search asked for is bound, pending or given up. -/
def Search.Answered (givenUp : String → Prop) (pending : List String) (search : Search σ) : Prop :=
  ∀ name ∈ search.visited, search.memory.has name = true ∨ name ∈ pending ∨ givenUp name

namespace Search.Answered

variable {search : Search σ} {givenUp : String → Prop} {pending : List String}

theorem visit (answered : search.Answered givenUp pending) (goal : String) :
    (search.visit goal).Answered givenUp (goal :: pending) := by
  refine List.forall_mem_cons.mpr ⟨Or.inr (Or.inl List.mem_cons_self), fun name visited => ?_⟩
  exact (answered name visited).imp_right (Or.imp_left (List.mem_cons_of_mem goal))

theorem leave {goal : String} (answered : search.Answered givenUp (goal :: pending))
    (answer : search.memory.has goal = true ∨ givenUp goal) :
    search.Answered givenUp pending := by
  intro name visited
  rcases answered name visited with bound | waiting | givenUp
  · exact Or.inl bound
  · rcases List.mem_cons.mp waiting with rfl | waiting
    · exact answer.imp_right Or.inr
    · exact Or.inr (Or.inl waiting)
  · exact Or.inr (Or.inr givenUp)

theorem fire (answered : search.Answered givenUp pending) (sink : Sink σ) (rule : Rule) :
    (search.fire sink rule).Answered givenUp pending := by
  intro name visited
  rw [fire_memory]
  exact (answered name visited).imp_left fun bound =>
    (rule.has_apply search.memory name).mpr (Or.inl bound)

theorem mono (answered : search.Answered givenUp pending) {given : String → Prop}
    (more : ∀ name, givenUp name → given name) : search.Answered given pending :=
  fun name visited => (answered name visited).imp_right (Or.imp_right (more name))

end Search.Answered

def isEffect : Event → Bool
  | .ruleFired _ => true
  | .factSet _ _ => true
  | _ => false

theorem filter_isEffect_account (rule : Rule) : rule.account.filter isEffect = rule.account := by
  refine List.filter_eq_self.mpr fun event member => ?_
  rcases Rule.mem_account.mp member with rfl | ⟨action, _, rfl⟩
  · rfl
  · rfl

def firedName? : Event → Option String
  | .ruleFired name => some name
  | _ => none

theorem filterMap_firedName?_account (rule : Rule) :
    rule.account.filterMap firedName? = [rule.name] := by
  simp [Rule.account, firedName?, Function.comp_def]

theorem filterMap_firedName?_filter (events : List Event) :
    (events.filter isEffect).filterMap firedName? = events.filterMap firedName? := by
  rw [List.filterMap_filter]
  refine congrArg (List.filterMap · events) (funext fun event => ?_)
  cases event <;> rfl

/-- The course of a task: where the search stood, the rules it fired in order with their places,
whether it succeeded, and where it stands then. -/
inductive Course (rules : List Rule) (sink : Sink σ) :
    Task → Search σ → List (Nat × Rule) → Bool → Search σ → Prop
  | known {goal : String} {search : Search σ} {value : Value}
      (bound : search.memory.get? goal = some value) :
      Course rules sink (.goal goal) search [] value.isAffirmative
        (search.report sink (.goalKnown goal value))
  | cycle {goal : String} {search : Search σ} (unbound : search.memory.get? goal = none)
      (visited : goal ∈ search.visited) :
      Course rules sink (.goal goal) search [] false (search.report sink (.cycleDetected goal))
  | orphan {goal : String} {search : Search σ} (unbound : search.memory.get? goal = none)
      (fresh : goal ∉ search.visited) (none : Rule.producers rules goal = []) :
      Course rules sink (.goal goal) search [] false
        ((search.visit goal).report sink (.noProducingRule goal))
  | searched {goal : String} {search after : Search σ} {fired : List (Nat × Rule)}
      {proved : Bool} (unbound : search.memory.get? goal = none)
      (fresh : goal ∉ search.visited) (some : Rule.producers rules goal ≠ [])
      (attempts : Course rules sink (.producers goal (Rule.producers rules goal))
        (search.visit goal) fired proved after) :
      Course rules sink (.goal goal) search fired proved after
  | exhausted {goal : String} {search : Search σ} :
      Course rules sink (.producers goal []) search [] false
        (search.report sink (.goalFailed goal))
  | established {goal : String} {entry : Nat × Rule} {rest fired : List (Nat × Rule)}
      {search after : Search σ} (producer : entry ∈ Rule.producers rules goal)
      (premises : Course rules sink (.facts entry.2.tested)
        (search.report sink (.tryingRule goal entry.2.name)) fired true after) :
      Course rules sink (.producers goal (entry :: rest)) search (fired ++ [entry]) true
        (after.fire sink entry.2)
  | refused {goal : String} {entry : Nat × Rule} {rest fired more : List (Nat × Rule)}
      {search between after : Search σ} {proved : Bool}
      (producer : entry ∈ Rule.producers rules goal)
      (premises : Course rules sink (.facts entry.2.tested)
        (search.report sink (.tryingRule goal entry.2.name)) fired false between)
      (later : Course rules sink (.producers goal rest) between more proved after) :
      Course rules sink (.producers goal (entry :: rest)) search (fired ++ more) proved after
  | met {search : Search σ} : Course rules sink (.facts []) search [] true search
  | failed {name : String} {names : List String} {fired : List (Nat × Rule)}
      {search after : Search σ}
      (first : Course rules sink (.goal name) search fired false after) :
      Course rules sink (.facts (name :: names)) search fired false after
  | further {name : String} {names : List String} {fired more : List (Nat × Rule)}
      {search between after : Search σ} {proved : Bool}
      (first : Course rules sink (.goal name) search fired true between)
      (later : Course rules sink (.facts names) between more proved after) :
      Course rules sink (.facts (name :: names)) search (fired ++ more) proved after

namespace Course

variable {rules : List Rule} {sink : Sink σ} {task : Task} {search after : Search σ}
  {fired : List (Nat × Rule)} {proved : Bool}

theorem visited_subset (course : Course rules sink task search fired proved after) :
    search.visited ⊆ after.visited := by
  induction course with
  | known bound => exact List.Subset.refl _
  | cycle unbound visited => exact List.Subset.refl _
  | orphan unbound fresh none => exact List.subset_cons_self _ _
  | searched unbound fresh some attempts ih =>
    exact List.Subset.trans (List.subset_cons_self _ _) ih
  | exhausted => exact List.Subset.refl _
  | established producer premises ih => exact ih
  | refused producer premises later first second => exact List.Subset.trans first second
  | met => exact List.Subset.refl _
  | failed first ih => exact ih
  | further first later one two => exact List.Subset.trans one two

/-- A task has one course only. -/
theorem unique (course : Course rules sink task search fired proved after)
    {otherFired : List (Nat × Rule)} {otherProved : Bool} {otherAfter : Search σ}
    (other : Course rules sink task search otherFired otherProved otherAfter) :
    fired = otherFired ∧ proved = otherProved ∧ after = otherAfter := by
  induction course generalizing otherFired otherProved otherAfter with
  | known bound =>
    cases other with
    | known again =>
      rw [bound] at again
      cases again
      exact ⟨rfl, rfl, rfl⟩
    | cycle unbound | orphan unbound | searched unbound =>
      rw [bound] at unbound
      cases unbound
  | cycle unbound visited =>
    cases other with
    | known bound =>
      rw [bound] at unbound
      cases unbound
    | cycle => exact ⟨rfl, rfl, rfl⟩
    | orphan _ fresh | searched _ fresh => exact absurd visited fresh
  | orphan unbound fresh none =>
    cases other with
    | known bound =>
      rw [bound] at unbound
      cases unbound
    | cycle _ visited => exact absurd visited fresh
    | orphan => exact ⟨rfl, rfl, rfl⟩
    | searched _ _ some => exact absurd none some
  | searched unbound fresh some attempts ih =>
    cases other with
    | known bound =>
      rw [bound] at unbound
      cases unbound
    | cycle _ visited => exact absurd visited fresh
    | orphan _ _ none => exact absurd none some
    | searched _ _ _ again => exact ih again
  | exhausted =>
    cases other
    exact ⟨rfl, rfl, rfl⟩
  | established producer premises ih =>
    cases other with
    | established _ again =>
      obtain ⟨rfl, _, rfl⟩ := ih again
      exact ⟨rfl, rfl, rfl⟩
    | refused _ again => cases (ih again).2.1
  | refused producer premises later first second =>
    cases other with
    | established _ again => cases (first again).2.1
    | refused _ again more =>
      obtain ⟨rfl, _, rfl⟩ := first again
      obtain ⟨rfl, rfl, rfl⟩ := second more
      exact ⟨rfl, rfl, rfl⟩
  | met =>
    cases other
    exact ⟨rfl, rfl, rfl⟩
  | failed first ih =>
    cases other with
    | failed again => exact ih again
    | further again => cases (ih again).2.1
  | further first later one two =>
    cases other with
    | failed again => cases (one again).2.1
    | further again more =>
      obtain ⟨rfl, _, rfl⟩ := one again
      obtain ⟨rfl, rfl, rfl⟩ := two more
      exact ⟨rfl, rfl, rfl⟩

theorem memory_eq (course : Course rules sink task search fired proved after) :
    after.memory = fired.foldl (fun memory entry => entry.2.apply memory) search.memory := by
  induction course with
  | known | cycle | orphan | exhausted | met => rfl
  | searched unbound fresh some attempts ih => exact ih
  | established producer premises ih =>
    rw [Search.fire_memory, ih, List.foldl_append]
    rfl
  | refused producer premises later first second =>
    rw [second, first, List.foldl_append]
    rfl
  | failed first ih => exact ih
  | further first later one two => rw [two, one, List.foldl_append]

theorem mem_rules (course : Course rules sink task search fired proved after) :
    ∀ entry ∈ fired, rules[entry.1]? = some entry.2 := by
  induction course with
  | known | cycle | orphan | exhausted | met => simp
  | searched unbound fresh some attempts ih => exact ih
  | established producer premises ih =>
    have found := (Rule.mem_producers.mp producer).1
    exact List.forall_mem_append.mpr ⟨ih, List.forall_mem_singleton.mpr found⟩
  | refused producer premises later first second =>
    exact List.forall_mem_append.mpr ⟨first, second⟩
  | failed first ih => exact ih
  | further first later one two => exact List.forall_mem_append.mpr ⟨one, two⟩

/-- What a trace tells of firings is the accounts of the rules that were fired. -/
theorem effects {search after : Search (List Event)}
    (course : Course rules Sink.collect task search fired proved after) :
    after.trace.filter isEffect =
      search.trace.filter isEffect ++ fired.flatMap fun entry => entry.2.account := by
  induction course with
  | known | cycle | orphan | exhausted | met =>
    simp [Search.report, Search.visit, Sink.collect, isEffect]
  | searched unbound fresh some attempts ih => exact ih
  | @established goal entry rest fired search after producer premises ih =>
    have told : (after.fire Sink.collect entry.2).trace.filter isEffect =
        after.trace.filter isEffect ++ entry.2.account := by
      rw [Search.fire, Rule.fire_collect, List.filter_append, filter_isEffect_account]
    rw [told, ih]
    simp [Search.report, Sink.collect, isEffect]
  | refused producer premises later first second =>
    rw [second, first]
    simp [Search.report, Sink.collect, isEffect]
  | failed first ih => exact ih
  | further first later one two => rw [two, one, List.append_assoc, List.flatMap_append]

theorem reported {search after : Search (List Event)}
    (course : Course rules Sink.collect task search fired proved after) :
    after.trace.filterMap firedName? =
      search.trace.filterMap firedName? ++ fired.map (·.2.name) := by
  rw [← filterMap_firedName?_filter, course.effects, List.filterMap_append,
    filterMap_firedName?_filter, List.filterMap_flatMap, List.map_eq_flatMap]
  simp only [filterMap_firedName?_account]

end Course

def unvisited (rules : List Rule) (visited : List String) : Nat :=
  ((producible rules).filter fun fact => fact ∉ visited).length

theorem mem_producible {rules : List Rule} {goal : String}
    (some : Rule.producers rules goal ≠ []) : goal ∈ producible rules := by
  obtain ⟨entry, member⟩ := List.exists_mem_of_ne_nil _ some
  obtain ⟨found, written⟩ := Rule.mem_producers.mp member
  rw [producible, List.mem_eraseDups, List.mem_flatMap]
  exact ⟨entry.2, List.mem_of_getElem? found, written⟩

theorem unvisited_le {rules : List Rule} {before after : List String} (grown : before ⊆ after) :
    unvisited rules after ≤ unvisited rules before := by
  have fewer : (producible rules).filter (fun fact => fact ∉ after) =
      ((producible rules).filter fun fact => fact ∉ before).filter fun fact => fact ∉ after := by
    rw [List.filter_filter]
    apply List.filter_congr
    intro fact _
    simpa using fun unasked inside => unasked (grown inside)
  rw [unvisited, fewer]
  exact List.length_filter_le _ _

/-- Asking for a new goal that can be produced leaves fewer of them. -/
theorem unvisited_cons_lt {rules : List Rule} {visited : List String} {goal : String}
    (some : Rule.producers rules goal ≠ []) (fresh : goal ∉ visited) :
    unvisited rules (goal :: visited) < unvisited rules visited := by
  have fewer : (producible rules).filter (fun fact => fact ∉ goal :: visited) =
      ((producible rules).filter fun fact => fact ∉ visited).filter fun fact => fact ≠ goal := by
    rw [List.filter_filter]
    apply List.filter_congr
    intro fact _
    simp [not_or]
  rw [unvisited, fewer, unvisited, List.length_filter_lt_length_iff_exists]
  exact ⟨goal, List.mem_filter.mpr ⟨mem_producible some, by simpa using fresh⟩, by simp⟩

section

variable {rules : List Rule} {sink : Sink σ} {attempt : String → Search σ → Bool × Search σ}
  {depth : Nat}
  (attempts : ∀ goal search, unvisited rules search.visited < depth →
    ∃ fired, Course rules sink (.goal goal) search fired (attempt goal search).1
      (attempt goal search).2)

include attempts

theorem attemptAll_course (names : List String) (search : Search σ)
    (enough : unvisited rules search.visited < depth) :
    ∃ fired, Course rules sink (.facts names) search fired
      (attemptAll attempt names search).1 (attemptAll attempt names search).2 := by
  induction names generalizing search with
  | nil => exact ⟨[], .met⟩
  | cons name names ih =>
    obtain ⟨fired, first⟩ := attempts name search enough
    unfold attemptAll
    split
    · rename_i between attempted
      rw [attempted] at first
      have still := Nat.lt_of_le_of_lt (unvisited_le first.visited_subset) enough
      obtain ⟨more, later⟩ := ih between still
      exact ⟨fired ++ more, .further first later⟩
    · rename_i between attempted
      rw [attempted] at first
      exact ⟨fired, .failed first⟩

theorem tryRules_course (goal : String) (entries : List (Nat × Rule)) (search : Search σ)
    (producers : entries ⊆ Rule.producers rules goal)
    (enough : unvisited rules search.visited < depth) :
    ∃ fired, Course rules sink (.producers goal entries) search fired
      (tryRules sink attempt goal (entries.map (·.2)) search).1
      (tryRules sink attempt goal (entries.map (·.2)) search).2 := by
  induction entries generalizing search with
  | nil => exact ⟨[], .exhausted⟩
  | cons entry entries ih =>
    have producer := producers List.mem_cons_self
    obtain ⟨fired, premises⟩ := attemptAll_course attempts entry.2.tested
      (search.report sink (.tryingRule goal entry.2.name)) enough
    rw [List.map_cons]
    unfold tryRules
    split
    · rename_i between attempted
      rw [attempted] at premises
      exact ⟨fired ++ [entry], .established producer premises⟩
    · rename_i between attempted
      rw [attempted] at premises
      have still := Nat.lt_of_le_of_lt (unvisited_le premises.visited_subset) enough
      obtain ⟨more, later⟩ := ih between (List.subset_of_cons_subset producers) still
      exact ⟨fired ++ more, .refused producer premises later⟩

end

/-- With more depth than facts to ask for, a goal is proved or refused by its course. -/
theorem proveGoal_course (rules : List Rule) (sink : Sink σ) (depth : Nat) (goal : String)
    (search : Search σ) (enough : unvisited rules search.visited < depth) :
    ∃ fired, Course rules sink (.goal goal) search fired
      (proveGoal rules sink depth goal search).1 (proveGoal rules sink depth goal search).2 := by
  induction depth generalizing goal search with
  | zero => exact absurd enough (Nat.not_lt_zero _)
  | succ depth ih =>
    unfold proveGoal
    split
    · rename_i value bound
      exact ⟨[], .known bound⟩
    · rename_i unbound
      split
      · rename_i visited
        exact ⟨[], .cycle unbound (List.contains_iff_mem.mp visited)⟩
      · rename_i unvisited
        have fresh : goal ∉ search.visited := mt List.contains_iff_mem.mpr unvisited
        dsimp only
        split
        · rename_i none
          exact ⟨[], .orphan unbound fresh (List.isEmpty_iff.mp none)⟩
        · rename_i some
          rw [List.isEmpty_iff] at some
          have fewer : Backward.unvisited rules (search.visit goal).visited < depth :=
            Nat.lt_of_lt_of_le (unvisited_cons_lt some fresh) (Nat.le_of_lt_succ enough)
          obtain ⟨fired, attempts⟩ := tryRules_course (fun goal search => ih goal search) goal
            (Rule.producers rules goal) (search.visit goal) (List.Subset.refl _) fewer
          exact ⟨fired, .searched unbound fresh some attempts⟩

theorem Course.prove_eq {rules : List Rule} {sink : Sink σ} {memory : Memory} {goal : String}
    {trace : σ} {last : Search σ} {fired : List (Nat × Rule)} {proved : Bool}
    (course : Course rules sink (.goal goal) ⟨memory, [], trace⟩ fired proved last) :
    prove rules sink memory goal trace =
      ⟨proved, last.memory, last.visited.length, last.trace⟩ := by
  have enough : unvisited rules [] < depthBound rules :=
    Nat.lt_succ_of_le (List.length_filter_le _ _)
  obtain ⟨_, made⟩ := proveGoal_course rules sink (depthBound rules) goal ⟨memory, [], trace⟩ enough
  obtain ⟨_, rfl, rfl⟩ := course.unique made
  rfl

/-- The rules that the proof of a goal fires, in order and with their places. -/
def Fires (rules : List Rule) (sink : Sink σ) (memory : Memory) (goal : String) (trace : σ)
    (fired : List (Nat × Rule)) : Prop :=
  ∃ last : Search σ, Course rules sink (.goal goal) ⟨memory, [], trace⟩ fired
      (prove rules sink memory goal trace).proved last ∧
    last.memory = (prove rules sink memory goal trace).memory ∧
    last.visited.length = (prove rules sink memory goal trace).visited ∧
    last.trace = (prove rules sink memory goal trace).trace

theorem Course.fires {rules : List Rule} {sink : Sink σ} {memory : Memory} {goal : String}
    {trace : σ} {last : Search σ} {fired : List (Nat × Rule)} {proved : Bool}
    (course : Course rules sink (.goal goal) ⟨memory, [], trace⟩ fired proved last) :
    Fires rules sink memory goal trace fired := by
  rw [Fires, course.prove_eq]
  exact ⟨last, course, rfl, rfl, rfl⟩

/-- Every proof fires exactly one sequence of rules. -/
theorem fires_unique (rules : List Rule) (sink : Sink σ) (memory : Memory) (goal : String)
    (trace : σ) : ∃ fired, Fires rules sink memory goal trace fired ∧
      ∀ other, Fires rules sink memory goal trace other → other = fired := by
  have enough : unvisited rules [] < depthBound rules :=
    Nat.lt_succ_of_le (List.length_filter_le _ _)
  obtain ⟨fired, course⟩ := proveGoal_course rules sink (depthBound rules) goal
    ⟨memory, [], trace⟩ enough
  refine ⟨fired, ⟨_, course, rfl, rfl, rfl⟩, ?_⟩
  rintro other ⟨last, again, _⟩
  exact (again.unique course).1

namespace Fires

variable {rules : List Rule} {sink : Sink σ} {memory : Memory} {goal : String}
  {fired : List (Nat × Rule)}

theorem memory_eq {trace : σ} (fires : Fires rules sink memory goal trace fired) :
    (prove rules sink memory goal trace).memory =
      fired.foldl (fun memory entry => entry.2.apply memory) memory := by
  obtain ⟨last, course, remembered, _⟩ := fires
  rw [← remembered, course.memory_eq]

theorem reported {events : List Event}
    (fires : Fires rules Sink.collect memory goal events fired) :
    (prove rules Sink.collect memory goal events).trace.filterMap firedName? =
      events.filterMap firedName? ++ fired.map (·.2.name) := by
  obtain ⟨last, course, _, _, told⟩ := fires
  rw [← told, course.reported]

end Fires

end Chaining.Backward
