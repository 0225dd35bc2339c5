import Chaining.Proofs.Backward.Derivation

set_option autoImplicit false

namespace Chaining.Backward

def Failed (events : List Event) (goal : String) : Prop :=
  .goalFailed goal ∈ events ∨ .noProducingRule goal ∈ events

/-- The goal has been asked for: an attempt for it is under way, or it has failed. -/
def Asked (pending : List String) (events : List Event) (goal : String) : Prop :=
  goal ∈ pending ∨ Failed events goal

/-- The events of a task, and whether it succeeds. The goals in `pending` have attempts under way
that enclose the task, and `before` has been told already. A goal that is not bound counts as a
cycle exactly inside one of its own attempts and after it has failed. -/
inductive Block (rules : List Rule) (start : Memory) :
    List String → List Event → Task → List Event → Bool → Prop
  | known {pending : List String} {before : List Event} {goal : String} {value : Value}
      (bound : (Event.replay start before).get? goal = some value) :
      Block rules start pending before (.goal goal) [.goalKnown goal value] value.isAffirmative
  | cycle {pending : List String} {before : List Event} {goal : String}
      (unbound : (Event.replay start before).get? goal = none)
      (asked : Asked pending before goal) :
      Block rules start pending before (.goal goal) [.cycleDetected goal] false
  | orphan {pending : List String} {before : List Event} {goal : String}
      (unbound : (Event.replay start before).get? goal = none)
      (fresh : ¬ Asked pending before goal) (none : Rule.producers rules goal = []) :
      Block rules start pending before (.goal goal) [.noProducingRule goal] false
  | tried {pending : List String} {before events : List Event} {goal : String} {proved : Bool}
      (unbound : (Event.replay start before).get? goal = none)
      (fresh : ¬ Asked pending before goal) (some : Rule.producers rules goal ≠ [])
      (attempts : Block rules start pending before (.producers goal (Rule.producers rules goal))
        events proved) :
      Block rules start pending before (.goal goal) events proved
  | exhausted {pending : List String} {before : List Event} {goal : String} :
      Block rules start pending before (.producers goal []) [.goalFailed goal] false
  | established {pending : List String} {before events : List Event} {goal : String}
      {entry : Nat × Rule} {rest : List (Nat × Rule)}
      (premises : Block rules start (goal :: pending) (before ++ [.tryingRule goal entry.2.name])
        (.facts entry.2.tested) events true) :
      Block rules start pending before (.producers goal (entry :: rest))
        (.tryingRule goal entry.2.name :: (events ++ entry.2.account)) true
  | refused {pending : List String} {before events more : List Event} {goal : String}
      {entry : Nat × Rule} {rest : List (Nat × Rule)} {proved : Bool}
      (premises : Block rules start (goal :: pending) (before ++ [.tryingRule goal entry.2.name])
        (.facts entry.2.tested) events false)
      (later : Block rules start pending (before ++ .tryingRule goal entry.2.name :: events)
        (.producers goal rest) more proved) :
      Block rules start pending before (.producers goal (entry :: rest))
        (.tryingRule goal entry.2.name :: (events ++ more)) proved
  | met {pending : List String} {before : List Event} :
      Block rules start pending before (.facts []) [] true
  | failed {pending : List String} {before events : List Event} {name : String}
      {names : List String} (first : Block rules start pending before (.goal name) events false) :
      Block rules start pending before (.facts (name :: names)) events false
  | further {pending : List String} {before events more : List Event} {name : String}
      {names : List String} {proved : Bool}
      (first : Block rules start pending before (.goal name) events true)
      (later : Block rules start pending (before ++ events) (.facts names) more proved) :
      Block rules start pending before (.facts (name :: names)) (events ++ more) proved

def proves : Event → Bool
  | .goalKnown _ value => value.isAffirmative
  | .ruleFired _ => true
  | .factSet _ _ => true
  | _ => false

theorem proves_getLast?_account (rule : Rule) : rule.account.getLast?.map proves = some true := by
  have all : ∀ event ∈ rule.account, proves event = true := by
    intro event member
    rcases Rule.mem_account.mp member with rfl | ⟨action, _, rfl⟩
    · rfl
    · rfl
  have told : rule.account ≠ [] := List.cons_ne_nil _ _
  rw [List.getLast?_eq_some_getLast told, Option.map_some, all _ (List.getLast_mem told)]

theorem proves_getLast?_append {front back : List Event} {proved : Bool}
    (last : back.getLast?.map proves = some proved) :
    (front ++ back).getLast?.map proves = some proved := by
  obtain ⟨event, found, _⟩ := Option.map_eq_some_iff.mp last
  rw [List.getLast?_append, found, Option.some_or, ← found]
  exact last

namespace Block

variable {rules : List Rule} {start : Memory} {pending : List String} {before events : List Event}
  {goal : String} {entries : List (Nat × Rule)} {proved : Bool}

theorem failed_of_refused
    (block : Block rules start pending before (.producers goal entries) events false) :
    .goalFailed goal ∈ events := by
  induction entries generalizing before events with
  | nil =>
    cases block
    exact List.mem_singleton_self _
  | cons entry entries ih =>
    cases block with
    | refused premises later =>
      exact List.mem_cons_of_mem _ (List.mem_append_right _ (ih later))

theorem proves_of_producers
    (block : Block rules start pending before (.producers goal entries) events proved) :
    events.getLast?.map proves = some proved := by
  induction entries generalizing before events with
  | nil =>
    cases block
    rfl
  | cons entry entries ih =>
    cases block with
    | established premises =>
      rw [← List.cons_append]
      exact proves_getLast?_append (proves_getLast?_account entry.2)
    | refused premises later =>
      rw [← List.cons_append]
      exact proves_getLast?_append (ih later)

/-- The last event of a block shows whether its goal is proved. -/
theorem proves_of_goal (block : Block rules start pending before (.goal goal) events proved) :
    events.getLast?.map proves = some proved := by
  cases block with
  | known | cycle | orphan => rfl
  | tried unbound fresh some attempts => exact attempts.proves_of_producers

end Block

/-- The goals that are pending while a task is done. -/
def Task.within (pending : List String) : Task → List String
  | .goal _ => pending
  | .producers name _ => name :: pending
  | .facts _ => pending

/-- What the events of a search have told so far: its memory, and for every goal whether it was
asked for. -/
structure Search.Told (start : Memory) (pending : List String) (search : Search (List Event)) :
    Prop where
  replayed : Event.replay start search.trace = search.memory
  answered : search.Answered (Failed search.trace) pending
  asked : ∀ name, Asked pending search.trace name → name ∈ search.visited

theorem failed_append_iff {events more : List Event} {goal : String} :
    Failed (events ++ more) goal ↔ Failed events goal ∨ Failed more goal := by
  simp only [Failed, List.mem_append]
  exact or_or_or_comm

theorem not_failed_account (rule : Rule) (goal : String) : ¬ Failed rule.account goal := by
  simp [Failed, Rule.mem_account]

theorem Search.fire_trace (search : Search (List Event)) (rule : Rule) :
    (search.fire Sink.collect rule).trace = search.trace ++ rule.account :=
  Rule.fire_collect rule search.memory search.trace

namespace Search.Told

variable {start : Memory} {pending : List String} {search : Search (List Event)}

theorem initial (start : Memory) : Told start [] ⟨start, [], []⟩ :=
  ⟨rfl, by simp [Answered], by simp [Asked, Failed]⟩

theorem report (told : search.Told start pending) {event : Event}
    (silent : ∀ memory, event.apply memory = memory)
    (asked : ∀ name, Failed [event] name → name ∈ search.visited) :
    (search.report Sink.collect event).Told start pending where
  replayed := by
    change Event.replay start (search.trace ++ [event]) = search.memory
    rw [Event.replay_append, told.replayed]
    exact silent search.memory
  answered := Answered.mono told.answered fun _ failed =>
    failed_append_iff.mpr (Or.inl failed)
  asked := by
    rintro name (waiting | failed)
    · exact told.asked name (Or.inl waiting)
    · rcases failed_append_iff.mp failed with earlier | now
      · exact told.asked name (Or.inr earlier)
      · exact asked name now

theorem visit (told : search.Told start pending) (goal : String) :
    (search.visit goal).Told start (goal :: pending) where
  replayed := told.replayed
  answered := Answered.visit told.answered goal
  asked := by
    rintro name (waiting | failed)
    · rcases List.mem_cons.mp waiting with rfl | waiting
      · exact List.mem_cons_self
      · exact List.mem_cons_of_mem goal (told.asked name (Or.inl waiting))
    · exact List.mem_cons_of_mem goal (told.asked name (Or.inr failed))

theorem leave {goal : String} (told : search.Told start (goal :: pending))
    (answer : search.memory.has goal = true ∨ Failed search.trace goal) :
    search.Told start pending where
  replayed := told.replayed
  answered := told.answered.leave answer
  asked := fun name asked => told.asked name (asked.imp_left (List.mem_cons_of_mem goal))

theorem fire (told : search.Told start pending) (rule : Rule) :
    (search.fire Sink.collect rule).Told start pending where
  replayed := by
    rw [fire_memory, fire_trace, Event.replay_append, told.replayed, Rule.replay_account]
  answered := by
    rw [fire_trace]
    exact (told.answered.fire Sink.collect rule).mono fun _ failed =>
      failed_append_iff.mpr (Or.inl failed)
  asked := by
    rw [fire_trace]
    rintro name (waiting | failed)
    · exact told.asked name (Or.inl waiting)
    · exact told.asked name
        (Or.inr ((failed_append_iff.mp failed).resolve_right (not_failed_account rule name)))

end Search.Told

/-- What a course adds to the events is the block of its task. -/
theorem Course.block {rules : List Rule} {start : Memory} {pending : List String} {task : Task}
    {search after : Search (List Event)} {fired : List (Nat × Rule)} {proved : Bool}
    (course : Course rules Sink.collect task search fired proved after)
    (told : search.Told start (task.within pending)) :
    after.Told start (task.within pending) ∧ ∃ events, after.trace = search.trace ++ events ∧
      Block rules start pending search.trace task events proved := by
  induction course generalizing pending with
  | @known goal search value bound =>
    exact ⟨told.report (fun _ => rfl) (by simp [Failed]), [.goalKnown goal value], rfl,
      .known (told.replayed.symm ▸ bound)⟩
  | @cycle goal search unbound visited =>
    refine ⟨told.report (fun _ => rfl) (by simp [Failed]), [.cycleDetected goal], rfl,
      .cycle (told.replayed.symm ▸ unbound) ?_⟩
    rcases told.answered goal visited with bound | asked
    · exact absurd bound (Memory.not_has_iff.mpr unbound)
    · exact asked
  | @orphan goal search unbound fresh none =>
    have failed : Failed (search.trace ++ [.noProducingRule goal]) goal :=
      Or.inr (List.mem_append_right _ (List.mem_singleton_self _))
    have inside : ((search.visit goal).report Sink.collect (.noProducingRule goal)).Told start
        (goal :: pending) :=
      (told.visit goal).report (fun _ => rfl) (by simp [Failed, Search.visit])
    exact ⟨inside.leave (Or.inr failed), [.noProducingRule goal], rfl,
      .orphan (told.replayed.symm ▸ unbound) (mt (told.asked goal) fresh) none⟩
  | @searched goal search after fired proved unbound fresh some attempts ih =>
    obtain ⟨inside, events, trace, block⟩ := ih (told.visit goal)
    refine ⟨inside.leave ?_, events, trace,
      .tried (told.replayed.symm ▸ unbound) (mt (told.asked goal) fresh) some block⟩
    cases proved with
    | true => exact Or.inl (attempts.bound rfl)
    | false =>
      rw [trace]
      exact Or.inr (Or.inl (List.mem_append_right _ block.failed_of_refused))
  | @exhausted goal search =>
    have asked : goal ∈ search.visited := told.asked goal (Or.inl List.mem_cons_self)
    exact ⟨told.report (fun _ => rfl) (by simpa [Failed] using asked), [.goalFailed goal], rfl,
      .exhausted⟩
  | @established goal entry rest fired search after producer premises ih =>
    -- The premises are asked for inside an attempt for the goal.
    have asked : (search.report Sink.collect (.tryingRule goal entry.2.name)).Told start
        ((Task.facts entry.2.tested).within (goal :: pending)) :=
      told.report (fun _ => rfl) (by simp [Failed])
    obtain ⟨inside, events, trace, block⟩ := ih asked
    refine ⟨inside.fire entry.2, _, ?_, .established block⟩
    rw [Search.fire_trace, trace]
    simp [Search.report, Sink.collect]
  | @refused goal entry rest fired more search between after proved producer premises later first
      second =>
    have asked : (search.report Sink.collect (.tryingRule goal entry.2.name)).Told start
        ((Task.facts entry.2.tested).within (goal :: pending)) :=
      told.report (fun _ => rfl) (by simp [Failed])
    obtain ⟨inside, events, trace, block⟩ := first asked
    obtain ⟨kept, more, ended, attempts⟩ := second inside
    have reached : between.trace = search.trace ++ .tryingRule goal entry.2.name :: events := by
      rw [trace]
      simp [Search.report, Sink.collect]
    rw [reached] at ended attempts
    refine ⟨kept, _, ?_, .refused block attempts⟩
    rw [ended]
    simp
  | met => exact ⟨told, [], (List.append_nil _).symm, .met⟩
  | failed first ih =>
    obtain ⟨kept, events, trace, block⟩ := ih told
    exact ⟨kept, events, trace, .failed block⟩
  | further first later one two =>
    obtain ⟨inside, events, trace, block⟩ := one told
    obtain ⟨kept, more, ended, blocks⟩ := two inside
    rw [trace] at ended blocks
    exact ⟨kept, events ++ more, by rw [ended, List.append_assoc], .further block blocks⟩

/-- The events of a proof are one block for its goal, which shows by itself whether the goal is
proved, and they set the facts of the memory that the proof leaves. -/
theorem prove_block (rules : List Rule) (memory : Memory) (goal : String) :
    (∀ succeeds, Block rules memory [] [] (.goal goal)
        (prove rules Sink.collect memory goal []).trace succeeds ↔
          (prove rules Sink.collect memory goal []).proved = succeeds) ∧
      Event.replay memory (prove rules Sink.collect memory goal []).trace =
        (prove rules Sink.collect memory goal []).memory := by
  obtain ⟨fired, ⟨last, course, remembered, _, traced⟩, _⟩ :=
    fires_unique rules Sink.collect memory goal []
  obtain ⟨told, events, trace, block⟩ := course.block (Search.Told.initial memory)
  rw [List.nil_append] at trace
  rw [← remembered, ← traced]
  refine ⟨fun succeeds => ⟨fun other => ?_, fun same => ?_⟩, told.replayed⟩
  · have proves := block.proves_of_goal
    rw [← trace, other.proves_of_goal] at proves
    exact (Option.some.inj proves).symm
  · rw [trace, ← same]
    exact block

/-- Smoke is asked for again while it is being tried, so fire fails, and then smoke. -/
example :
    let rules : List Rule := [⟨"alarm", 0, [⟨"fire", .present, .null⟩], [⟨"smoke", .boolean true⟩]⟩,
      ⟨"blaze", 0, [⟨"smoke", .present, .null⟩], [⟨"fire", .boolean true⟩]⟩]
    (prove rules Sink.collect Memory.empty "smoke" []).trace =
      [.tryingRule "smoke" "alarm", .tryingRule "fire" "blaze", .cycleDetected "smoke",
        .goalFailed "fire", .goalFailed "smoke"] := by
  rfl

end Chaining.Backward
