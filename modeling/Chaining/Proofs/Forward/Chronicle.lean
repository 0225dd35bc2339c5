import Chaining.Proofs.Forward.Batches

set_option autoImplicit false

namespace Chaining

namespace Event

def started? : Event → Option Nat
  | iterationStarted iteration => some iteration
  | _ => none

def isTerminal : Event → Bool
  | noApplicableRules _ => true
  | goalReached _ => true
  | iterationCapReached _ => true
  | _ => false

/-- Adds what an event tells to the pass that was announced last and the firings told so far, each
of them with its pass. -/
def tally (told : Nat × List (String × Nat)) : Event → Nat × List (String × Nat)
  | iterationStarted iteration => (iteration, told.2)
  | ruleFired name => (told.1, told.2 ++ [(name, told.1)])
  | _ => told

/-- The rules that are told to fire, each with the pass that was announced last before. -/
def firings (events : List Event) : List (String × Nat) := (events.foldl tally (0, [])).2

end Event

namespace Rule

theorem foldl_tally_account (rule : Rule) (told : Nat × List (String × Nat)) :
    rule.account.foldl Event.tally told = (told.1, told.2 ++ [(rule.name, told.1)]) := by
  change (rule.actions.map fun action => Event.factSet action.fact action.value).foldl Event.tally
    (told.1, told.2 ++ [(rule.name, told.1)]) = _
  induction rule.actions with
  | nil => rfl
  | cons action rest ih => exact ih

/-- What a rule tells lies within a pass: it neither begins one nor ends the run. -/
theorem within_pass_of_mem_account {rule : Rule} {event : Event} (member : event ∈ rule.account) :
    event.started? = none ∧ event.isTerminal = false := by
  rcases mem_account.mp member with rfl | ⟨action, _, rfl⟩
  · exact ⟨rfl, rfl⟩
  · exact ⟨rfl, rfl⟩

end Rule

namespace Forward

variable {ρ σ : Type}

def Halt.event : Halt → Nat → Event
  | goalsReached => .goalReached
  | noApplicableRules => .noApplicableRules
  | iterationCap => .iterationCapReached

theorem Halt.isTerminal_event (halt : Halt) (iterations : Nat) :
    (halt.event iterations).isTerminal = true := by
  cases halt <;> rfl

namespace Run

instance (run : Run) (rules : List Rule) (start : Memory) (iteration index : Nat) :
    Decidable (run.Eligible rules start iteration index) :=
  decidable_of_iff ((∀ earlier < iteration, index ∉ run.firedIn earlier) ∧
      (rules[index]?.any fun rule =>
        rule.isApplicable (run.memoryBefore rules start iteration)) = true)
    (and_congr_right' (Option.any_eq_true _ _))

def eligibleCount (run : Run) (rules : List Rule) (start : Memory) (iteration : Nat) : Nat :=
  (List.range rules.length).countP fun index => run.Eligible rules start iteration index

/-- What rules tell that are chosen one after another: before each of them, among how many. -/
def narrate (rules : List Rule) : Nat → List Nat → List Event
  | _, [] => []
  | size, index :: later =>
    .conflictSet size :: (rules[index]?.elim [] Rule.account ++ narrate rules (size - 1) later)

/-- What a pass tells: its number, and its firings with the choices that led to them. -/
def chapter (run : Run) (rules : List Rule) (start : Memory) (iteration : Nat) : List Event :=
  .iterationStarted iteration ::
    narrate rules (run.eligibleCount rules start iteration) (run.firedIn iteration)

/-- What a run tells: its passes, and why it halts. -/
def account (run : Run) (rules : List Rule) (start : Memory) : List Event :=
  (List.range' 1 run.iterations).flatMap (run.chapter rules start) ++
    [run.halt.event run.iterations]

theorem within_pass_of_mem_narrate {rules : List Rule} {size : Nat} {indices : List Nat}
    {event : Event} (member : event ∈ narrate rules size indices) :
    event.started? = none ∧ event.isTerminal = false := by
  induction indices generalizing size with
  | nil => cases member
  | cons index later ih =>
    rcases List.mem_cons.mp member with rfl | member
    · exact ⟨rfl, rfl⟩
    · rcases List.mem_append.mp member with told | member
      · cases found : rules[index]? with
        | none =>
          rw [found] at told
          cases told
        | some rule =>
          rw [found] at told
          exact Rule.within_pass_of_mem_account told
      · exact ih member

variable (run : Run) (rules : List Rule) (start : Memory)

theorem filterMap_started?_account :
    (run.account rules start).filterMap Event.started? = List.range' 1 run.iterations := by
  have chapters : ∀ iteration, (run.chapter rules start iteration).filterMap Event.started? =
      [iteration] := by
    intro iteration
    have silent : (narrate rules (run.eligibleCount rules start iteration)
        (run.firedIn iteration)).filterMap Event.started? = [] :=
      List.filterMap_eq_nil_iff.mpr fun event member => (within_pass_of_mem_narrate member).1
    rw [chapter, List.filterMap_cons, silent]
    rfl
  have last : [run.halt.event run.iterations].filterMap Event.started? = [] := by
    cases run.halt <;> rfl
  rw [account, List.filterMap_append, last, List.append_nil, List.filterMap_flatMap,
    List.flatMap_congr fun iteration _ => chapters iteration]
  exact List.flatMap_pure_eq_map id _ |>.trans (List.map_id _)

theorem not_isTerminal_of_mem_chapter {iteration : Nat} {event : Event}
    (member : event ∈ run.chapter rules start iteration) : event.isTerminal = false := by
  rcases List.mem_cons.mp member with rfl | member
  · rfl
  · exact (within_pass_of_mem_narrate member).2

end Run

namespace Progress

theorem choose_trace (progress : Progress ρ (List Event)) (iteration size : Nat) (source : ρ)
    (entry : Nat × Rule) :
    (progress.choose Sink.collect iteration size source entry).trace =
      progress.trace ++ .conflictSet size :: entry.2.account := by
  rw [choose_told, Sink.foldl_collect]
  exact List.append_assoc _ _ _

structure Told (start : Memory) (iteration : Nat) (progress : Progress ρ (List Event)) : Prop where
  replayed : Event.replay start progress.trace = progress.memory
  attributed : progress.trace.foldl Event.tally (0, []) =
    (iteration, progress.fired.map fun firing => (firing.name, firing.iteration))
  offered : ∀ size, .conflictSet size ∈ progress.trace → 1 ≤ size

namespace Told

variable {start : Memory} {iteration : Nat} {progress : Progress ρ (List Event)}

theorem initial (start : Memory) (source : ρ) (pool : List (Nat × Rule)) :
    Told start 0 ⟨start, source, [], pool, []⟩ :=
  ⟨rfl, rfl, by simp⟩

theorem announce (told : progress.Told start iteration) :
    (progress.report Sink.collect (.iterationStarted (iteration + 1))).Told start
      (iteration + 1) where
  replayed := by
    change Event.replay start (progress.trace ++ [.iterationStarted (iteration + 1)]) = _
    rw [Event.replay_append, told.replayed]
    rfl
  attributed := by
    change (progress.trace ++ [Event.iterationStarted (iteration + 1)]).foldl _ _ = _
    rw [List.foldl_append, told.attributed]
    rfl
  offered := by
    intro size member
    rcases List.mem_append.mp member with earlier | now
    · exact told.offered size earlier
    · cases List.mem_singleton.mp now

theorem choose (told : progress.Told start iteration) {size : Nat} (positive : 1 ≤ size)
    (source : ρ) (entry : Nat × Rule) :
    (progress.choose Sink.collect iteration size source entry).Told start iteration where
  replayed := by
    rw [choose_trace, choose_memory, Event.replay_append, told.replayed]
    exact entry.2.replay_account progress.memory
  attributed := by
    rw [choose_trace, choose_fired, List.foldl_append, told.attributed, List.foldl_cons]
    change entry.2.account.foldl Event.tally
      (iteration, progress.fired.map fun firing => (firing.name, firing.iteration)) = _
    rw [Rule.foldl_tally_account, List.map_append]
    rfl
  offered := by
    intro other member
    rw [choose_trace] at member
    rcases List.mem_append.mp member with earlier | member
    · exact told.offered other earlier
    · rcases List.mem_cons.mp member with now | member
      · cases now
        exact positive
      · rcases Rule.mem_account.mp member with fired | ⟨action, _, written⟩
        · cases fired
        · cases written

/-- To tell why the run halts changes neither what the events set nor which firings they tell. -/
theorem halt (told : progress.Told start iteration) (halt : Halt) (iterations : Nat) :
    Event.replay start (progress.trace ++ [halt.event iterations]) = progress.memory ∧
      Event.firings (progress.trace ++ [halt.event iterations]) =
        progress.fired.map (fun firing => (firing.name, firing.iteration)) ∧
      ∀ size, .conflictSet size ∈ progress.trace ++ [halt.event iterations] → 1 ≤ size := by
  refine ⟨?_, ?_, fun size member => ?_⟩
  · rw [Event.replay_append, told.replayed]
    cases halt <;> rfl
  · rw [Event.firings, List.foldl_append, told.attributed]
    cases halt <;> rfl
  · rcases List.mem_append.mp member with earlier | now
    · exact told.offered size earlier
    · cases halt <;> cases List.mem_singleton.mp now

end Told

end Progress

namespace Engine

variable {engine : Engine ρ} {goals : List String} {rules : List Rule} {start : Memory}
  {iteration : Nat}

namespace Pass

variable {ready batch : List (Nat × Rule)} {progress after : Progress ρ (List Event)} {done : Bool}

theorem told (pass : engine.Pass Sink.collect goals iteration ready progress batch done after)
    (told : progress.Told start iteration) : after.Told start iteration := by
  induction pass with
  | emptied => exact told
  | reached chosen satisfied => exact told.choose (Nat.one_le_of_lt chosen.inside) _ _
  | further chosen unsatisfied later ih =>
    exact ih (told.choose (Nat.one_le_of_lt chosen.inside) _ _)

theorem trace_eq (pass : engine.Pass Sink.collect goals iteration ready progress batch done after)
    (found : ∀ entry ∈ ready, rules[entry.1]? = some entry.2) :
    after.trace = progress.trace ++ Run.narrate rules ready.length (batch.map (·.1)) := by
  induction pass with
  | emptied => exact (List.append_nil _).symm
  | reached chosen satisfied =>
    have placed := found _ (List.mem_of_getElem? chosen.2)
    simp [Progress.choose_trace, Run.narrate, placed]
  | further chosen unsatisfied later ih =>
    have placed := found _ (List.mem_of_getElem? chosen.2)
    rw [ih fun entry left => found entry (List.mem_of_mem_eraseIdx left), Progress.choose_trace,
      List.length_eraseIdx_of_lt chosen.inside]
    simp [Run.narrate, placed]

end Pass

namespace Makes

variable {run : Run} {number : Nat} {before after : Progress ρ (List Event)}
  {batch : List (Nat × Rule)} {done : Bool}

theorem eligibleCount_eq
    (makes : engine.Makes Sink.collect goals rules start run number before batch done after) :
    run.eligibleCount rules start (number + 1) = before.ready.length := by
  have eligible : ((List.range rules.length).filter fun index =>
      run.Eligible rules start (number + 1) index).Perm (before.ready.map (·.1)) := by
    have ascending : before.ready.Pairwise fun earlier later => earlier.1 < later.1 :=
      makes.ledger.pool_ascending.sublist List.filter_sublist
    rw [List.perm_ext_iff_of_nodup (List.nodup_range.filter _)
      (List.pairwise_map.mpr (ascending.imp Nat.ne_of_lt))]
    intro index
    rw [List.mem_filter, decide_eq_true_iff, makes.eligible_iff, List.mem_range,
      and_iff_right_iff_imp]
    intro ready
    obtain ⟨_, rule, found, _⟩ := (makes.eligible_iff index).mpr ready
    exact (List.getElem?_eq_some_iff.mp found).1
  rw [Run.eligibleCount, List.countP_eq_length_filter, eligible.length_eq, List.length_map]

theorem trace_eq
    (makes : engine.Makes Sink.collect goals rules start run number before batch done after) :
    after.trace = before.trace ++ run.chapter rules start (number + 1) := by
  have found : ∀ entry ∈ before.ready, rules[entry.1]? = some entry.2 := fun entry ready =>
    (makes.ledger.mem_ready.mp ready).1
  rw [makes.pass.trace_eq found, Run.chapter, makes.eligibleCount_eq, makes.firedIn_eq]
  exact List.append_assoc _ _ _

end Makes

namespace Course

variable {left : Nat} {progress : Progress ρ (List Event)} {outcome : Outcome ρ (List Event)}

theorem trace_eq (course : engine.Course Sink.collect goals left iteration progress outcome)
    (ledger : progress.Ledger rules start iteration) :
    ∃ count, outcome.run.iterations = iteration + count ∧ outcome.trace = progress.trace ++
      ((List.range' (iteration + 1) count).flatMap (outcome.run.chapter rules start) ++
        [outcome.run.halt.event outcome.run.iterations]) := by
  induction course with
  | capped => exact ⟨0, rfl, rfl⟩
  | @stuck _ iteration progress unready =>
    have makes : engine.Makes Sink.collect goals rules start
        ⟨.noApplicableRules, iteration + 1, progress.fired⟩ iteration progress [] false
        (progress.report Sink.collect (.iterationStarted (iteration + 1))) :=
      makes_stuck ledger unready
    refine ⟨1, rfl, ?_⟩
    change _ ++ [Event.noApplicableRules (iteration + 1)] = _
    rw [makes.trace_eq, List.append_assoc, List.range'_one, List.flatMap_singleton]
    rfl
  | @reached _ iteration progress after batch pass =>
    have chapter := (makes_reached ledger pass).trace_eq
    refine ⟨1, rfl, ?_⟩
    change after.trace ++ [Event.goalReached (iteration + 1)] = _
    rw [chapter, List.append_assoc, List.range'_one, List.flatMap_singleton]
    rfl
  | again ready pass later ih =>
    have chapter := (makes_again ledger ready pass later).trace_eq
    obtain ⟨count, iterations, trace⟩ := ih (ledger_after pass ledger)
    refine ⟨count + 1, by omega, ?_⟩
    rw [trace, chapter, List.range'_succ, List.flatMap_cons]
    simp only [List.append_assoc]

theorem told (course : engine.Course Sink.collect goals left iteration progress outcome)
    (told : progress.Told start iteration) :
    Event.replay start outcome.trace = outcome.memory ∧
      Event.firings outcome.trace =
        outcome.run.fired.map (fun firing => (firing.name, firing.iteration)) ∧
      ∀ size, .conflictSet size ∈ outcome.trace → 1 ≤ size := by
  induction course with
  | capped => exact told.halt .iterationCap _
  | stuck unready => exact told.announce.halt .noApplicableRules _
  | reached pass => exact (pass.told told.announce).halt .goalsReached _
  | again ready pass later ih => exact ih (pass.told told.announce)

end Course

end Engine

structure Run.IsTold (run : Run) (rules : List Rule) (start final : Memory)
    (events : List Event) : Prop where
  numbered : events.filterMap Event.started? = List.range' 1 run.iterations
  /-- Every firing stands in its pass, behind the number of rules that were still to choose from. -/
  complete : events = run.account rules start
  offered : ∀ size, .conflictSet size ∈ events → 1 ≤ size
  attributed : Event.firings events = run.fired.map fun firing => (firing.name, firing.iteration)
  replayed : Event.replay start events = final
  ended : ∃ earlier, events = earlier ++ [run.halt.event run.iterations] ∧
    (run.halt.event run.iterations).isTerminal = true ∧
    ∀ event ∈ earlier, event.isTerminal = false

/-- The events of a run tell nothing but the run, and all of it. -/
theorem Engine.run_isTold (engine : Engine ρ) (goals : List String) (start : Memory) (source : ρ) :
    (engine.run Sink.collect goals start source []).run.IsTold engine.rules start
      (engine.run Sink.collect goals start source []).memory
      (engine.run Sink.collect goals start source []).trace := by
  have course := engine.run_course Sink.collect goals start source []
  obtain ⟨replayed, attributed, offered⟩ :=
    course.told (Progress.Told.initial start source engine.pool)
  obtain ⟨count, iterations, trace⟩ :=
    course.trace_eq (Progress.Ledger.initial engine.rules start source [])
  rw [Nat.zero_add] at iterations
  rw [List.nil_append, ← iterations] at trace
  refine ⟨?_, trace, offered, attributed, replayed, _, trace, Halt.isTerminal_event _ _, ?_⟩
  · rw [trace]
    exact Run.filterMap_started?_account _ engine.rules start
  · intro event member
    obtain ⟨iteration, _, told⟩ := List.mem_flatMap.mp member
    exact Run.not_isTerminal_of_mem_chapter _ engine.rules start told

/-- Sowing and watering are ready at once, and a cap of one pass leaves the harvest out. -/
example :
    let rules : List Rule := [⟨"sow", 0, [], [⟨"seed", .boolean true⟩]⟩, ⟨"water", 0, [], []⟩,
      ⟨"harvest", 0, [⟨"seed", .present, .null⟩], [⟨"grain", .boolean true⟩]⟩]
    let engine : Engine Unit := ⟨rules, .firstMatch, ⟨fun _ _ => (0, ()), fun _ _ => id⟩, 1⟩
    (engine.run Sink.collect ["grain"] Memory.empty () []).trace =
      [.iterationStarted 1, .conflictSet 2, .ruleFired "sow", .factSet "seed" (.boolean true),
        .conflictSet 1, .ruleFired "water", .iterationCapReached 1] := by
  rfl

end Forward

end Chaining
