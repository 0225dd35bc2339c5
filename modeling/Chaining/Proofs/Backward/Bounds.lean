import Chaining.Proofs.Backward.Machine
import Mathlib.Data.List.Perm.Subperm

set_option autoImplicit false

namespace Chaining

/-- The goal that is tried and the name of the rule. -/
def Event.tried? : Event → Option (String × String)
  | tryingRule goal rule => some (goal, rule)
  | _ => none

theorem Rule.filterMap_tried?_account (rule : Rule) : rule.account.filterMap Event.tried? = [] := by
  refine List.filterMap_eq_nil_iff.mpr fun event member => ?_
  rcases mem_account.mp member with rfl | ⟨action, _, rfl⟩
  · rfl
  · rfl

namespace Backward

variable {σ : Type} {rules : List Rule} {sink : Sink σ}

/-- The facts that rules write, each with the place of a rule that writes it. -/
def writings (rules : List Rule) : List (String × Nat) :=
  ((Rule.placed rules).flatMap fun entry =>
    entry.2.written.map fun fact => (fact, entry.1)).eraseDups

theorem mem_writings {goal : String} {entry : Nat × Rule}
    (producer : entry ∈ Rule.producers rules goal) : (goal, entry.1) ∈ writings rules := by
  obtain ⟨found, written⟩ := Rule.mem_producers.mp producer
  rw [writings, List.mem_eraseDups, List.mem_flatMap]
  exact ⟨entry, Rule.mem_placed.mpr found, List.mem_map.mpr ⟨goal, written, rfl⟩⟩

/-- The goal of an attempt, and the place of its rule. -/
def place (trial : String × (Nat × Rule)) : String × Nat := (trial.1, trial.2.1)

/-- Different producers of a goal, none of which has been tried for it. -/
structure Untried (rules : List Rule) (tried : List (String × (Nat × Rule))) (goal : String)
    (entries : List (Nat × Rule)) : Prop where
  producers : ∀ entry ∈ entries, entry ∈ Rule.producers rules goal
  ascending : entries.Pairwise fun earlier later => earlier.1 < later.1
  untried : ∀ entry ∈ entries, (goal, entry.1) ∉ tried.map place

namespace Untried

variable {tried : List (String × (Nat × Rule))} {goal : String} {entries : List (Nat × Rule)}

theorem all (fresh : ∀ trial ∈ tried, trial.1 ≠ goal) :
    Untried rules tried goal (Rule.producers rules goal) where
  producers := fun _ => id
  ascending := Rule.producers_ascending rules goal
  untried := by
    intro entry _ member
    obtain ⟨trial, before, same⟩ := List.mem_map.mp member
    exact fresh trial before (congrArg Prod.fst same)

/-- Trying the first of them leaves the others. -/
theorem tail {entry : Nat × Rule} (left : Untried rules tried goal (entry :: entries)) :
    Untried rules (tried ++ [(goal, entry)]) goal entries where
  producers := fun other member => left.producers other (List.mem_cons_of_mem _ member)
  ascending := (List.pairwise_cons.mp left.ascending).2
  untried := by
    intro other member
    have above := (List.pairwise_cons.mp left.ascending).1 other member
    have before := left.untried other (List.mem_cons_of_mem _ member)
    simp only [List.map_append, List.mem_append, not_or]
    refine ⟨before, ?_⟩
    simpa [place] using Nat.ne_of_gt above

/-- Trying a rule for another goal leaves them. -/
theorem beside {other : String} {entry : Nat × Rule} (left : Untried rules tried goal entries)
    (apart : goal ≠ other) : Untried rules (tried ++ [(other, entry)]) goal entries where
  producers := left.producers
  ascending := left.ascending
  untried := by
    intro producer member
    have before := left.untried producer member
    simp only [List.map_append, List.mem_append, not_or]
    exact ⟨before, by simp [place, apart]⟩

end Untried

/-- What the moments of a proof keep: every goal with an attempt was visited before, and there is
room on the stack for all goals that are still to be visited. -/
structure Moment.Orderly (rules : List Rule) (moment : Moment σ) : Prop where
  once : (moment.tried.map place).Nodup
  producers : ∀ trial ∈ moment.tried, trial.2 ∈ Rule.producers rules trial.1
  visited : ∀ trial ∈ moment.tried, trial.1 ∈ moment.search.visited
  distinct : (moment.stack.map (·.goal)).Nodup
  within : ∀ attempt ∈ moment.stack, attempt.goal ∈ moment.search.visited ∧
    attempt.goal ∈ producible rules ∧ Untried rules moment.tried attempt.goal attempt.rest
  room : moment.stack.length + unvisited rules moment.search.visited ≤ (producible rules).length

namespace Moment.Orderly

variable {turn next : Turn} {stack : List Attempt} {search after : Search σ}
  {tried : List (String × (Nat × Rule))} {goal : String}

theorem start (rules : List Rule) (memory : Memory) (goal : String) (trace : σ) :
    (Moment.start memory goal trace).Orderly rules where
  once := List.nodup_nil
  producers := by simp [Moment.start]
  visited := by simp [Moment.start]
  distinct := List.nodup_nil
  within := by simp [Moment.start]
  room := by
    rw [Moment.start, List.length_nil, Nat.zero_add]
    exact List.length_filter_le _ _

theorem grow (orderly : Orderly rules ⟨turn, stack, search, tried⟩)
    (grown : search.visited ⊆ after.visited) : Orderly rules ⟨next, stack, after, tried⟩ where
  once := orderly.once
  producers := orderly.producers
  visited := fun trial member => grown (orderly.visited trial member)
  distinct := orderly.distinct
  within := fun attempt member => (orderly.within attempt member).imp_left (grown ·)
  room := Nat.le_trans (Nat.add_le_add_left (unvisited_le grown) _) orderly.room

theorem pop {attempt : Attempt} (orderly : Orderly rules ⟨turn, attempt :: stack, search, tried⟩) :
    Orderly rules ⟨turn, stack, search, tried⟩ where
  once := orderly.once
  producers := orderly.producers
  visited := orderly.visited
  distinct := (List.nodup_cons.mp orderly.distinct).2
  within := fun other member => orderly.within other (List.mem_cons_of_mem _ member)
  room := by
    have room := orderly.room
    simp only [List.length_cons] at room ⊢
    omega

theorem ask {rule : Rule} {facts left : List String} {rest : List (Nat × Rule)}
    (orderly : Orderly rules ⟨turn, ⟨goal, rule, facts, rest⟩ :: stack, search, tried⟩) :
    Orderly rules ⟨next, ⟨goal, rule, left, rest⟩ :: stack, search, tried⟩ where
  once := orderly.once
  producers := orderly.producers
  visited := orderly.visited
  distinct := orderly.distinct
  within := List.forall_mem_cons.mpr (List.forall_mem_cons.mp orderly.within)
  room := orderly.room

/-- An attempt for a visited goal may begin when none for it is under way. -/
theorem attempt (orderly : Orderly rules ⟨turn, stack, search, tried⟩) (sink : Sink σ)
    {entries : List (Nat × Rule)} (visited : goal ∈ search.visited)
    (produced : goal ∈ producible rules) (apart : goal ∉ stack.map (·.goal))
    (left : Untried rules tried goal entries)
    (room : stack.length + 1 + unvisited rules search.visited ≤ (producible rules).length) :
    (Moment.attempt sink goal stack search tried entries).Orderly rules := by
  cases entries with
  | nil => exact orderly.grow (List.Subset.refl _)
  | cons entry rest =>
    refine ⟨?_, ?_, ?_, List.nodup_cons.mpr ⟨apart, orderly.distinct⟩, ?_, room⟩
    · have untried := left.untried entry List.mem_cons_self
      simp only [Moment.attempt, List.map_append, List.map_cons, List.map_nil]
      refine List.nodup_append.mpr ⟨orderly.once, List.pairwise_singleton _ _, ?_⟩
      rintro pair before other now rfl
      rw [List.mem_singleton.mp now] at before
      exact untried before
    · exact List.forall_mem_append.mpr ⟨orderly.producers,
        List.forall_mem_singleton.mpr (left.producers entry List.mem_cons_self)⟩
    · exact List.forall_mem_append.mpr ⟨orderly.visited, List.forall_mem_singleton.mpr visited⟩
    · refine List.forall_mem_cons.mpr ⟨⟨visited, produced, left.tail⟩, fun other member => ?_⟩
      obtain ⟨asked, producible, untried⟩ := orderly.within other member
      exact ⟨asked, producible, untried.beside fun same =>
        apart (same ▸ List.mem_map_of_mem member)⟩

/-- Every step keeps order. -/
theorem step {moment later : Moment σ} (orderly : moment.Orderly rules)
    (next : moment.next rules sink = some later) : later.Orderly rules := by
  cases Moment.step_of_next next with
  | known bound => exact orderly.grow (List.Subset.refl _)
  | cycle unbound visited => exact orderly.grow (List.Subset.refl _)
  | orphan unbound fresh none => exact orderly.grow (List.subset_cons_self _ _)
  | @searched goal stack search tried unbound fresh some =>
    have visited : Orderly rules ⟨.ask goal, stack, search.visit goal, tried⟩ :=
      orderly.grow (List.subset_cons_self _ _)
    have apart : goal ∉ stack.map (·.goal) := by
      intro inside
      obtain ⟨attempt, member, same⟩ := List.mem_map.mp inside
      exact fresh (same ▸ (orderly.within attempt member).1)
    have untried : ∀ trial ∈ tried, trial.1 ≠ goal := fun trial member same =>
      fresh (same ▸ orderly.visited trial member)
    have room : stack.length + 1 + unvisited rules (search.visit goal).visited ≤
        (producible rules).length := by
      have fewer : unvisited rules (search.visit goal).visited < unvisited rules search.visited :=
        unvisited_cons_lt some fresh
      have before : stack.length + unvisited rules search.visited ≤ (producible rules).length :=
        orderly.room
      omega
    exact visited.attempt sink List.mem_cons_self (mem_producible some) apart (.all untried) room
  | refused =>
    obtain ⟨visited, produced, left⟩ := orderly.within _ List.mem_cons_self
    exact orderly.pop.attempt sink visited produced (List.nodup_cons.mp orderly.distinct).1 left
      orderly.room
  | established => exact orderly.pop.grow (List.Subset.refl _)
  | further => exact orderly.ask

end Moment.Orderly

theorem Moment.Leads.orderly {first last : Moment σ} (leads : Leads rules sink first last)
    (orderly : first.Orderly rules) : last.Orderly rules := by
  induction leads with
  | refl => exact orderly
  | tail _ next ih => exact ih.step next

/-- The attempts that are told are those that have begun. -/
def Moment.Told (moment : Moment (List Event)) : Prop :=
  moment.search.trace.filterMap Event.tried? =
    moment.tried.map fun trial => (trial.1, trial.2.2.name)

namespace Moment.Told

variable {turn next : Turn} {stack others : List Attempt} {search : Search (List Event)}
  {tried : List (String × (Nat × Rule))}

theorem report (told : Told ⟨turn, stack, search, tried⟩) {event : Event}
    (silent : event.tried? = none) :
    Told ⟨next, others, search.report Sink.collect event, tried⟩ := by
  change (search.trace ++ [event]).filterMap Event.tried? = _
  rw [List.filterMap_append, told]
  simp [silent]

theorem attempt (told : Told ⟨turn, stack, search, tried⟩) (goal : String)
    (entries : List (Nat × Rule)) :
    (Moment.attempt Sink.collect goal others search tried entries).Told := by
  cases entries with
  | nil => exact told.report rfl
  | cons entry rest =>
    change (search.trace ++ [Event.tryingRule goal entry.2.name]).filterMap Event.tried? =
      (tried ++ [(goal, entry)]).map _
    rw [List.filterMap_append, told, List.map_append]
    rfl

theorem step {moment later : Moment (List Event)} (told : moment.Told)
    (next : moment.next rules Sink.collect = some later) : later.Told := by
  cases Moment.step_of_next next with
  | known bound => exact told.report rfl
  | cycle unbound visited => exact told.report rfl
  | @orphan goal stack search tried unbound fresh none =>
    have visited : Told ⟨.ask goal, stack, search.visit goal, tried⟩ := told
    exact visited.report rfl
  | @searched goal stack search tried unbound fresh some =>
    have visited : Told ⟨.ask goal, stack, search.visit goal, tried⟩ := told
    exact visited.attempt goal _
  | @refused goal _ _ rest => exact told.attempt goal rest
  | @established _ rule _ _ search =>
    change (search.fire Sink.collect rule).trace.filterMap Event.tried? = _
    rw [Search.fire, Rule.fire_collect, List.filterMap_append, Rule.filterMap_tried?_account,
      List.append_nil]
    exact told
  | further => exact told

end Moment.Told

theorem Moment.Leads.told {first last : Moment (List Event)}
    (leads : Leads rules Sink.collect first last) (told : first.Told) : last.Told := by
  induction leads with
  | refl => exact told
  | tail _ next ih => exact ih.step next

/-- How many goals a task establishes at most that were visited before. -/
def Task.open : Task → Nat
  | goal _ => 0
  | producers _ _ => 1
  | facts _ => 0

/-- Every firing establishes a goal that was visited for it. -/
theorem Course.fired_le {task : Task} {search after : Search σ} {fired : List (Nat × Rule)}
    {proved : Bool} (course : Course rules sink task search fired proved after) :
    fired.length + unvisited rules after.visited ≤
      unvisited rules search.visited + task.open := by
  induction course with
  | known | cycle | exhausted | met => simp [Search.report]
  | @orphan goal search unbound fresh none =>
    have fewer : unvisited rules (goal :: search.visited) ≤ unvisited rules search.visited :=
      unvisited_le (List.subset_cons_self goal search.visited)
    simpa [Search.report, Search.visit, Task.open] using fewer
  | @searched goal search after fired proved unbound fresh some attempts ih =>
    have fewer : unvisited rules (search.visit goal).visited < unvisited rules search.visited :=
      unvisited_cons_lt some fresh
    simp only [Task.open] at ih ⊢
    omega
  | established producer premises ih =>
    simp only [Search.report, Search.fire, Task.open, List.length_append, List.length_singleton]
      at ih ⊢
    omega
  | refused producer premises later first second =>
    simp only [Search.report, Task.open, List.length_append] at first second ⊢
    omega
  | failed first ih => exact ih
  | further first later one two =>
    simp only [Task.open, List.length_append] at one two ⊢
    omega

/-- How many goals have been asked for inside one another that have no answer yet. -/
def Moment.depth (moment : Moment σ) : Nat :=
  match moment.turn with
  | .ask _ => moment.stack.length + 1
  | .answer _ => moment.stack.length

/-- The bounds that every moment of a proof keeps. -/
structure Moment.IsBounded (rules : List Rule) (moment : Moment σ) : Prop where
  /-- A goal is tried with each of its producers at most once. -/
  once : (moment.tried.map place).Nodup
  producers : ∀ trial ∈ moment.tried, trial.2 ∈ Rule.producers rules trial.1
  /-- The goals with attempts under way are different ones, and all of them can be produced. -/
  distinct : (moment.stack.map (·.goal)).Nodup
  produced : ∀ attempt ∈ moment.stack, attempt.goal ∈ producible rules
  depth : moment.depth ≤ (producible rules).length + 1

theorem Moment.Orderly.isBounded {moment : Moment σ} (orderly : moment.Orderly rules) :
    moment.IsBounded rules where
  once := orderly.once
  producers := orderly.producers
  distinct := orderly.distinct
  produced := fun attempt member => (orderly.within attempt member).2.1
  depth := by
    have room := orderly.room
    unfold Moment.depth
    split <;> omega

/-- A proof comes to its end, whatever the rules. It tries no producer twice for the same goal and
no goal inside itself, and fires at most one rule for every fact that can be produced. -/
theorem prove_isBounded (rules : List Rule) (sink : Sink σ) (memory : Memory) (goal : String)
    (trace : σ) :
    (∃ last : Moment σ, last.next rules sink = none ∧
        last.Concludes (prove rules sink memory goal trace) ∧
        ∀ moment, Moment.Leads rules sink (.start memory goal trace) moment →
          Moment.Leads rules sink moment last ∧ moment.IsBounded rules) ∧
      let events := (prove rules Sink.collect memory goal []).trace
      (∃ tried : List (String × (Nat × Rule)), (tried.map place).Nodup ∧
          (∀ trial ∈ tried, trial.2 ∈ Rule.producers rules trial.1) ∧
          events.filterMap Event.tried? = tried.map fun trial => (trial.1, trial.2.2.name)) ∧
        (events.filterMap Event.tried?).length ≤ (writings rules).length ∧
        (events.filterMap firedName?).length ≤ (producible rules).length := by
  obtain ⟨last, walk, ended, concludes⟩ := prove_walked rules sink memory goal trace
  refine ⟨⟨last, ended, concludes, fun moment leads => ⟨leads.before_end walk ended, ?_⟩⟩, ?_⟩
  · exact (leads.orderly (.start rules memory goal trace)).isBounded
  intro events
  obtain ⟨last, walk, _, concludes⟩ := prove_walked rules Sink.collect memory goal []
  have orderly := walk.orderly (.start rules memory goal [])
  have told : events.filterMap Event.tried? =
      last.tried.map fun trial => (trial.1, trial.2.2.name) := by
    have told : last.Told := walk.told rfl
    rwa [Moment.Told, concludes.trace] at told
  refine ⟨⟨last.tried, orderly.once, orderly.producers, told⟩, ?_, ?_⟩
  · have places : last.tried.map place ⊆ writings rules := by
      intro pair member
      obtain ⟨trial, tried, rfl⟩ := List.mem_map.mp member
      exact mem_writings (orderly.producers trial tried)
    have fewer := (List.Nodup.subperm orderly.once places).length_le
    rwa [told, List.length_map, ← List.length_map place]
  · obtain ⟨fired, fires, _⟩ := fires_unique rules Sink.collect memory goal []
    have reported := fires.reported
    rw [List.filterMap_nil, List.nil_append] at reported
    rw [reported, List.length_map]
    obtain ⟨_, course, _⟩ := fires
    have bounded := course.fired_le
    have all : unvisited rules [] ≤ (producible rules).length := List.length_filter_le _ _
    simp only [Task.open] at bounded
    omega

/-- A lamp gives light and heat when there is power, and a circuit gives power when its fuse is
hot. The box with the fuse gives power as well, so the lamp fires for the heat and then again for
the light. -/
example :
    let rules : List Rule :=
      [⟨"lamp", 0, [⟨"power", .present, .null⟩],
          [⟨"light", .boolean true⟩, ⟨"heat", .boolean true⟩]⟩,
        ⟨"circuit", 0, [⟨"fuse", .present, .null⟩, ⟨"heat", .present, .null⟩],
          [⟨"power", .boolean true⟩]⟩,
        ⟨"box", 0, [], [⟨"fuse", .boolean true⟩, ⟨"power", .boolean true⟩]⟩]
    let events := (prove rules Sink.collect Memory.empty "light" []).trace
    events.filterMap firedName? = ["box", "lamp", "circuit", "lamp"] ∧
      (producible rules).length = 4 := by
  decide +kernel

end Backward

end Chaining
