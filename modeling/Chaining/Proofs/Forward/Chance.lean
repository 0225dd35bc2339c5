import Chaining.Proofs.Forward.Chronicle
import Chaining.Proofs.Forward.Observer

set_option autoImplicit false

namespace Chaining

/-- Where a source stands after choices among some numbers of things. -/
def Random.Source.after {ρ : Type} (chance : Random.Source ρ) (sizes : List Nat) (state : ρ) : ρ :=
  sizes.foldl (fun state size => (chance.choose size state).2) state

theorem Random.Source.after_concat {ρ : Type} (chance : Random.Source ρ) (sizes : List Nat)
    (size : Nat) (state : ρ) :
    chance.after (sizes ++ [size]) state = (chance.choose size (chance.after sizes state)).2 :=
  List.foldl_concat _ _ _ _

namespace Event

/-- Keeps the number of rules that was announced last, and adds it to the contests told so far when
a rule fires. -/
def weigh (told : Nat × List Nat) : Event → Nat × List Nat
  | conflictSet size => (size, told.2)
  | ruleFired _ => (told.1, told.2 ++ [told.1])
  | _ => told

/-- For each rule that is told to fire, the number of rules that was announced last before. -/
def contests (events : List Event) : List Nat := (events.foldl weigh (0, [])).2

theorem foldl_weigh_account (rule : Rule) (told : Nat × List Nat) :
    rule.account.foldl weigh told = (told.1, told.2 ++ [told.1]) := by
  change (rule.actions.map fun action => factSet action.fact action.value).foldl weigh
    (told.1, told.2 ++ [told.1]) = _
  induction rule.actions with
  | nil => rfl
  | cons action rest ih => exact ih

theorem contests_choice (events : List Event) (size : Nat) (rule : Rule) :
    contests (events ++ .conflictSet size :: rule.account) = contests events ++ [size] := by
  rw [contests, List.foldl_append, List.foldl_cons, foldl_weigh_account]
  rfl

theorem contests_concat {event : Event} (silent : ∀ name, event ≠ .ruleFired name)
    (events : List Event) : contests (events ++ [event]) = contests events := by
  rw [contests, List.foldl_append]
  cases event with
  | ruleFired name => exact absurd rfl (silent name)
  | _ => rfl

end Event

namespace Forward

variable {ρ τ : Type}

/-- Outcomes agree but for the source of chance. -/
structure Outcome.Agrees {σ : Type} (first : Outcome ρ σ) (second : Outcome τ σ) : Prop where
  run : first.run = second.run
  memory : first.memory = second.memory
  trace : first.trace = second.trace

/-- Progress of two engines that agrees but for the sources of chance, of which the first is where
it began. -/
structure Progress.Unmoved {σ : Type} (source : ρ) (first : Progress ρ σ) (second : Progress τ σ) :
    Prop where
  source : first.source = source
  memory : first.memory = second.memory
  trace : first.trace = second.trace
  pool : first.pool = second.pool
  fired : first.fired = second.fired

namespace Engine

def withChance (engine : Engine ρ) (chance : Random.Source τ) : Engine τ where
  rules := engine.rules
  strategy := engine.strategy
  chance := chance
  cap := engine.cap

theorem simulates_withChance {σ : Type} {engine : Engine ρ} (ranked : engine.strategy ≠ .random)
    (chance : Random.Source τ) (sink : Sink σ) (goals : List String) (source : ρ) :
    engine.Simulates (engine.withChance chance) sink sink goals Eq
      (Progress.Unmoved source) where
  length := congrArg List.length
  ready := fun unmoved => by rw [Progress.ready, Progress.ready, unmoved.memory, unmoved.pool]
  met := fun unmoved => by rw [unmoved.memory]
  report := fun unmoved event => ⟨unmoved.source, unmoved.memory,
    congrArg (sink.record · event) unmoved.trace, unmoved.pool, unmoved.fired⟩
  choose := fun {_ beside} unmoved {one _} same {position entry next} chosen => by
    subst same
    have stays : next = source := by
      have again := Strategy.select_of_ne_random ranked engine.chance source engine.chance source
        (one.map (·.2))
      rw [← unmoved.source, chosen.1] at again
      exact (congrArg Prod.snd (Option.some.inj again)).trans unmoved.source
    have answered : (engine.withChance chance).Chooses one beside.source position entry
        beside.source := by
      refine ⟨?_, chosen.2⟩
      rw [withChance, Strategy.select_of_ne_random ranked engine.chance _ chance, chosen.1]
      rfl
    refine ⟨position, entry, beside.source, answered, rfl, fun iteration size => ?_⟩
    refine ⟨stays, ?_, ?_, ?_, ?_⟩
    · rw [Progress.choose_memory, Progress.choose_memory, unmoved.memory]
    · rw [Progress.choose_told, Progress.choose_told, unmoved.trace]
    · rw [Progress.choose_pool, Progress.choose_pool, unmoved.pool]
    · rw [Progress.choose_fired, Progress.choose_fired, unmoved.fired]

/-- A run that leaves nothing to chance is that of an engine with any other source of chance, and
its own source stays where it is. -/
theorem run_unmoved {σ : Type} {engine : Engine ρ} (ranked : engine.strategy ≠ .random)
    (sink : Sink σ) (goals : List String) (memory : Memory) (source : ρ) (trace : σ)
    (chance : Random.Source τ) (seed : τ) :
    (engine.run sink goals memory source trace).source = source ∧
      (engine.run sink goals memory source trace).Agrees
        ((engine.withChance chance).run sink goals memory seed trace) := by
  have begun : Progress.Unmoved source ⟨memory, source, trace, engine.pool, []⟩
      ⟨memory, seed, trace, (engine.withChance chance).pool, []⟩ := ⟨rfl, rfl, rfl, rfl, rfl⟩
  obtain ⟨last, beyond, halt, iterations, unmoved, ended, again⟩ :=
    run_simulated (simulates_withChance ranked chance sink goals source) rfl begun
  rw [ended, again]
  refine ⟨unmoved.source, ?_, unmoved.memory, unmoved.trace⟩
  rw [Progress.halt, Progress.halt, unmoved.fired]

/-- Runs with one engine, one after another: each has its own memory and its own goals, and the
source of chance goes on from run to run. -/
def runAll (engine : Engine ρ) :
    List (Memory × List String) → ρ → List (Outcome ρ (List Event)) × ρ
  | [], source => ([], source)
  | (memory, goals) :: later, source =>
    let outcome := engine.run Sink.collect goals memory source []
    let others := engine.runAll later outcome.source
    (outcome :: others.1, others.2)

theorem runAll_unmoved {engine : Engine ρ} (ranked : engine.strategy ≠ .random)
    (tasks : List (Memory × List String)) (source : ρ) (chance : Random.Source τ) (seed : τ) :
    (engine.runAll tasks source).2 = source ∧
      List.Forall₂ (fun task outcome => outcome.source = source ∧ outcome.Agrees
        ((engine.withChance chance).run Sink.collect task.2 task.1 seed [])) tasks
        (engine.runAll tasks source).1 := by
  induction tasks with
  | nil => exact ⟨rfl, .nil⟩
  | cons task later ih =>
    obtain ⟨stays, alike⟩ :=
      run_unmoved ranked Sink.collect task.2 task.1 source [] chance seed
    rw [runAll, stays]
    exact ⟨ih.1, .cons ⟨stays, alike⟩ ih.2⟩

end Engine

/-- The rules that a pass may choose from, once it is behind some firings: those that have not fired
and that were applicable when the pass began. -/
def contenders (rules : List Rule) (start : Memory) (earlier : List Firing) (iteration : Nat) :
    List (Nat × Rule) :=
  (Rule.placed rules).filter fun entry => entry.1 ∉ earlier.map (·.index) ∧
    entry.2.isApplicable
      (replay rules start (earlier.filter fun firing => firing.iteration < iteration)) = true

/-- A pass begins with all the contenders there are. -/
theorem Progress.Ledger.ready_eq {σ : Type} {rules : List Rule} {start : Memory} {iteration : Nat}
    {progress : Progress ρ σ} (ledger : progress.Ledger rules start iteration) :
    progress.ready = contenders rules start progress.fired (iteration + 1) := by
  have all : progress.fired.filter (fun firing => firing.iteration < iteration + 1) =
      progress.fired :=
    List.filter_eq_self.mpr fun firing member =>
      decide_eq_true (Nat.lt_succ_of_le (ledger.counted firing member).2)
  rw [Progress.ready, ledger.pool, List.filter_filter, contenders, all, ← ledger.memory]
  apply List.filter_congr
  intro entry _
  rw [Bool.decide_and, Bool.decide_eq_true, Bool.and_comm]

theorem contenders_ascending (rules : List Rule) (start : Memory) (earlier : List Firing)
    (iteration : Nat) : (contenders rules start earlier iteration).Pairwise
      fun first second => first.1 < second.1 :=
  (Rule.placed_ascending rules).filter _

/-- The one that fires is no contender any more, and all others still are. -/
theorem contenders_concat {rules : List Rule} {start : Memory} {earlier : List Firing}
    {iteration position : Nat} {entry : Nat × Rule}
    (found : (contenders rules start earlier iteration)[position]? = some entry) :
    (contenders rules start earlier iteration).eraseIdx position =
      contenders rules start (earlier ++ [Firing.ofEntry iteration entry]) iteration := by
  have same : (earlier ++ [Firing.ofEntry iteration entry]).filter
      (fun firing => firing.iteration < iteration) =
        earlier.filter fun firing => firing.iteration < iteration := by
    simp [Firing.ofEntry]
  rw [eraseIdx_eq_filter (contenders_ascending rules start earlier iteration) found, contenders,
    contenders, same, List.filter_filter]
  apply List.filter_congr
  intro other _
  rw [← Bool.decide_and, decide_eq_decide, List.map_append, List.mem_append]
  constructor
  · rintro ⟨apart, unfired, applicable⟩
    exact ⟨not_or.mpr ⟨unfired, mt List.mem_singleton.mp apart⟩, applicable⟩
  · rintro ⟨unfired, applicable⟩
    obtain ⟨unfired, apart⟩ := not_or.mp unfired
    exact ⟨mt List.mem_singleton.mpr apart, unfired, applicable⟩

/-- Chance has decided the firings of a run: for each of them the source has made one choice, among
the contenders that there were, as many as had been announced. -/
structure IsDrawn (chance : Random.Source ρ) (rules : List Rule) (start : Memory)
    (first last : ρ) (fired : List Firing) (events : List Event) : Prop where
  once : (Event.contests events).length = fired.length
  source : last = chance.after (Event.contests events) first
  chosen : ∀ count size firing, (Event.contests events)[count]? = some size →
    fired[count]? = some firing →
    let choices := contenders rules start (fired.take count) firing.iteration
    let before := chance.after ((Event.contests events).take count) first
    choices.length = size ∧
      (choices[(chance.choose size before).1]?).map (·.1) = some firing.index

namespace IsDrawn

variable {chance : Random.Source ρ} {rules : List Rule} {start : Memory} {first last : ρ}
  {fired : List Firing} {events : List Event}

theorem report (drawn : IsDrawn chance rules start first last fired events) {event : Event}
    (silent : ∀ name, event ≠ .ruleFired name) :
    IsDrawn chance rules start first last fired (events ++ [event]) := by
  obtain ⟨once, source, chosen⟩ := drawn
  rw [← Event.contests_concat silent events] at once source chosen
  exact ⟨once, source, chosen⟩

theorem choose (drawn : IsDrawn chance rules start first last fired events)
    {iteration position : Nat} {next : ρ} {entry : Nat × Rule}
    (choice : chance.choose (contenders rules start fired iteration).length last =
      (position, next))
    (found : (contenders rules start fired iteration)[position]? = some entry) :
    IsDrawn chance rules start first next (fired ++ [Firing.ofEntry iteration entry])
      (events ++ .conflictSet (contenders rules start fired iteration).length ::
        entry.2.account) := by
  have told := Event.contests_choice events (contenders rules start fired iteration).length entry.2
  have count := drawn.once
  refine ⟨?_, ?_, ?_⟩
  · rw [told, List.length_append, List.length_append, count]
    rfl
  · rw [told, chance.after_concat, ← drawn.source, choice]
  · intro count size firing asked fires
    rw [told] at asked ⊢
    have bound := (List.getElem?_eq_some_iff.mp fires).1
    rw [List.length_append, List.length_singleton] at bound
    rcases Nat.lt_or_eq_of_le (Nat.le_of_lt_succ bound) with earlier | now
    · have before : count < (Event.contests events).length := drawn.once ▸ earlier
      rw [List.getElem?_append_left earlier] at fires
      rw [List.getElem?_append_left before] at asked
      rw [List.take_append_of_le_length (Nat.le_of_lt earlier),
        List.take_append_of_le_length (Nat.le_of_lt before)]
      exact drawn.chosen count size firing asked fires
    · subst now
      rw [List.getElem?_concat_length] at fires
      rw [← drawn.once, List.getElem?_concat_length] at asked
      obtain rfl := Option.some.inj fires
      obtain rfl := Option.some.inj asked
      rw [List.take_left, ← drawn.once, List.take_left, ← drawn.source]
      have stands : (contenders rules start fired iteration)[(chance.choose
          (contenders rules start fired iteration).length last).1]? = some entry := by
        rw [choice]
        exact found
      exact ⟨rfl, congrArg (Option.map (·.1)) stands⟩

end IsDrawn

namespace Engine

variable {engine : Engine ρ} {goals : List String} {rules : List Rule} {start : Memory}
  {first : ρ} {iteration : Nat}

theorem Chooses.choose_eq {ready : List (Nat × Rule)} {source next : ρ} {position : Nat}
    {entry : Nat × Rule} (chosen : engine.Chooses ready source position entry next)
    (random : engine.strategy = .random) :
    engine.chance.choose ready.length source = (position, next) := by
  have some : (ready.map (·.2)).isEmpty = false := by
    rw [List.isEmpty_eq_false_iff, ne_eq, List.map_eq_nil_iff]
    exact List.ne_nil_of_mem (List.mem_of_getElem? chosen.2)
  have selected := chosen.1
  simp only [Strategy.select, random, some, Bool.false_eq_true, ↓reduceIte,
    List.length_map] at selected
  exact Option.some.inj selected

theorem Pass.drawn {ready batch : List (Nat × Rule)} {progress after : Progress ρ (List Event)}
    {done : Bool}
    (pass : engine.Pass Sink.collect goals iteration ready progress batch done after)
    (random : engine.strategy = .random)
    (all : ready = contenders rules start progress.fired iteration)
    (drawn : IsDrawn engine.chance rules start first progress.source progress.fired
      progress.trace) :
    IsDrawn engine.chance rules start first after.source after.fired after.trace := by
  induction pass with
  | emptied => exact drawn
  | reached chosen satisfied =>
    subst all
    rw [Progress.choose_trace]
    exact drawn.choose (chosen.choose_eq random) chosen.2
  | further chosen unsatisfied later ih =>
    subst all
    apply ih
    · exact contenders_concat chosen.2
    · rw [Progress.choose_trace]
      exact drawn.choose (chosen.choose_eq random) chosen.2

theorem Course.drawn {left : Nat} {progress : Progress ρ (List Event)}
    {outcome : Outcome ρ (List Event)}
    (course : engine.Course Sink.collect goals left iteration progress outcome)
    (random : engine.strategy = .random) (ledger : progress.Ledger rules start iteration)
    (drawn : IsDrawn engine.chance rules start first progress.source progress.fired
      progress.trace) :
    IsDrawn engine.chance rules start first outcome.source outcome.run.fired outcome.trace := by
  induction course with
  | capped => exact drawn.report (by simp)
  | stuck unready => exact (drawn.report (by simp)).report (by simp)
  | reached pass =>
    exact (pass.drawn random ledger.ready_eq (drawn.report (by simp))).report (by simp)
  | again ready pass later ih =>
    exact ih (ledger_after pass ledger)
      (pass.drawn random ledger.ready_eq (drawn.report (by simp)))

theorem run_isDrawn (random : engine.strategy = .random) (goals : List String) (start : Memory)
    (source : ρ) :
    let outcome := engine.run Sink.collect goals start source []
    IsDrawn engine.chance engine.rules start source outcome.source outcome.run.fired
      outcome.trace := by
  have course := engine.run_course Sink.collect goals start source []
  refine course.drawn random (Progress.Ledger.initial engine.rules start source []) ⟨rfl, rfl, ?_⟩
  intro count size firing asked
  cases asked

/-- Only a random strategy has to do with chance. With any other one the runs of an engine, however
many there are, are those of fresh engines with whatever source, and the source is never moved. With
a random one a run takes one choice from the source for each firing. -/
theorem chance_only_random (engine : Engine ρ) :
    (engine.strategy ≠ .random → ∀ (tasks : List (Memory × List String)) (source : ρ) {τ : Type}
      (chance : Random.Source τ) (seed : τ),
      (engine.runAll tasks source).2 = source ∧
        List.Forall₂ (fun task outcome => outcome.source = source ∧ outcome.Agrees
          ((engine.withChance chance).run Sink.collect task.2 task.1 seed [])) tasks
          (engine.runAll tasks source).1) ∧
      (engine.strategy = .random → ∀ (goals : List String) (start : Memory) (source : ρ),
        let outcome := engine.run Sink.collect goals start source []
        IsDrawn engine.chance engine.rules start source outcome.source outcome.run.fired
          outcome.trace) :=
  ⟨fun ranked tasks source _ chance seed => runAll_unmoved ranked tasks source chance seed,
    fun random goals start source => run_isDrawn random goals start source⟩

/-- A cock and a hen. The source counts its choices and always takes the last there is. -/
def yardEngine (strategy : Strategy) : Engine Nat where
  rules := [⟨"cock", 0, [], [⟨"call", .boolean true⟩]⟩, ⟨"hen", 1, [], [⟨"egg", .boolean true⟩]⟩]
  strategy := strategy
  chance := ⟨fun size count => (size - 1, count + 1),
    fun _ _ positive => Nat.sub_one_lt_of_lt positive⟩
  cap := 2

theorem chance_only_random_yard :
    let tasks : List (Memory × List String) := [(.empty, ["egg"]), (.empty, ["rain"])]
    let chanced := (yardEngine .random).run Sink.collect ["rain"] .empty 5 []
    ((yardEngine .highestPriority).runAll tasks 5).2 = 5 ∧
      (chanced.run.fired = [⟨1, "hen", 1⟩, ⟨0, "cock", 1⟩] ∧ chanced.source = 7) ∧
      IsDrawn (yardEngine .random).chance (yardEngine .random).rules .empty 5 chanced.source
        chanced.run.fired chanced.trace := by
  intro tasks chanced
  have ranked : (yardEngine .highestPriority).strategy ≠ .random := by decide
  exact ⟨((chance_only_random (yardEngine .highestPriority)).1 ranked tasks 5
      Random.Source.first ()).1, ⟨rfl, rfl⟩,
    (chance_only_random (yardEngine .random)).2 rfl ["rain"] .empty 5⟩

end Engine

end Forward

end Chaining
