import Chaining.Proofs.Forward.Parallel

set_option autoImplicit false

namespace Chaining

theorem Strategy.select_of_ne_random {ρ τ : Type} {strategy : Strategy}
    (ranked : strategy ≠ .random) (chance : Random.Source ρ) (source : ρ)
    (others : Random.Source τ) (other : τ) (rules : List Rule) :
    strategy.select others rules other =
      (strategy.select chance rules source).map fun choice => (choice.1, other) := by
  unfold select
  split
  · rfl
  · cases strategy with
    | random => exact absurd rfl ranked
    | firstMatch | highestPriority | mostSpecific => rfl

namespace Forward

variable {ρ σ τ : Type}

/-- Runs stand level when they differ at most in what has been told, and in chance where the
strategy leaves nothing to it. -/
structure Progress.Level (strategy : Strategy) (first : Progress ρ σ) (second : Progress ρ τ) :
    Prop where
  memory : first.memory = second.memory
  source : strategy = .random → first.source = second.source
  pool : first.pool = second.pool
  fired : first.fired = second.fired

namespace Progress.Level

variable {strategy : Strategy} {first : Progress ρ σ} {second : Progress ρ τ}

theorem ready (level : first.Level strategy second) : first.ready = second.ready := by
  rw [Progress.ready, Progress.ready, level.pool, level.memory]

theorem report (level : first.Level strategy second) (sink : Sink σ) (other : Sink τ)
    (event : Event) : (first.report sink event).Level strategy (second.report other event) :=
  ⟨level.memory, level.source, level.pool, level.fired⟩

theorem choose (level : first.Level strategy second) (sink : Sink σ) (other : Sink τ)
    (iteration size : Nat) {source later : ρ} (same : strategy = .random → source = later)
    (entry : Nat × Rule) :
    (first.choose sink iteration size source entry).Level strategy
      (second.choose other iteration size later entry) where
  memory := by rw [choose_memory, choose_memory, level.memory]
  source := same
  pool := by rw [choose_pool, choose_pool, level.pool]
  fired := by rw [choose_fired, choose_fired, level.fired]

end Progress.Level

namespace Engine

variable (engine : Engine ρ) (sink : Sink σ) (other : Sink τ) (goals : List String)

theorem Chooses.level {engine : Engine ρ} {ready : List (Nat × Rule)} {source next start : ρ}
    {position : Nat} {entry : Nat × Rule}
    (chosen : engine.Chooses ready source position entry next)
    (same : engine.strategy = .random → source = start) :
    ∃ later, engine.Chooses ready start position entry later ∧
      (engine.strategy = .random → next = later) := by
  by_cases random : engine.strategy = .random
  · obtain rfl := same random
    exact ⟨next, chosen, fun _ => rfl⟩
  · refine ⟨start, ⟨?_, chosen.2⟩, fun left => absurd left random⟩
    rw [Strategy.select_of_ne_random random engine.chance source, chosen.1, Option.map_some]

theorem parallel_level :
    engine.Parallel sink other goals (Progress.Level engine.strategy) where
  ready := Progress.Level.ready
  met := fun level => by rw [level.memory]
  report := fun level => level.report sink other
  choose := fun level _ _ _ _ chosen => by
    obtain ⟨later, again, same⟩ := chosen.level level.source
    exact ⟨later, again, fun iteration size => level.choose sink other iteration size same _⟩

/-- Two runs with different sinks differ in nothing but what is told. -/
theorem run_level (memory : Memory) {source start : ρ}
    (same : engine.strategy = .random → source = start) (trace : σ) (others : τ) :
    (engine.run sink goals memory source trace).run =
        (engine.run other goals memory start others).run ∧
      (engine.run sink goals memory source trace).memory =
        (engine.run other goals memory start others).memory := by
  obtain ⟨last, beyond, halt, iterations, level, one, two⟩ :=
    run_parallel (engine.parallel_level sink other goals) ⟨rfl, same, rfl, rfl⟩
  rw [one, two, Progress.halt, Progress.halt, level.fired]
  exact ⟨rfl, level.memory⟩

end Engine

/-- A run with some sink beside the one that keeps the events: the sink has been told these. -/
structure Progress.Heard (sink : Sink σ) (trace : σ) (kept : Progress ρ (List Event))
    (progress : Progress ρ σ) : Prop where
  memory : kept.memory = progress.memory
  source : kept.source = progress.source
  pool : kept.pool = progress.pool
  fired : kept.fired = progress.fired
  told : progress.trace = kept.trace.foldl sink.record trace

namespace Engine

variable (engine : Engine ρ) (goals : List String)

theorem parallel_heard (sink : Sink σ) (trace : σ) :
    engine.Parallel Sink.collect sink goals (Progress.Heard sink trace) where
  ready := fun heard => by rw [Progress.ready, Progress.ready, heard.pool, heard.memory]
  met := fun heard => by rw [heard.memory]
  report := fun heard event => ⟨heard.memory, heard.source, heard.pool, heard.fired, by
    change sink.record _ event = (_ ++ [event]).foldl sink.record trace
    rw [heard.told, List.foldl_append]
    rfl⟩
  choose := fun {first second} heard {ready position entry next} chosen => by
    rw [heard.source] at chosen
    refine ⟨next, chosen, fun iteration size => ⟨?_, rfl, ?_, ?_, ?_⟩⟩
    · rw [Progress.choose_memory, Progress.choose_memory, heard.memory]
    · rw [Progress.choose_pool, Progress.choose_pool, heard.pool]
    · rw [Progress.choose_fired, Progress.choose_fired, heard.fired]
    · rw [Progress.choose_told, Progress.choose_told, Sink.foldl_collect, heard.told]
      change _ =
        (first.trace ++ [Event.conflictSet size] ++ entry.2.account).foldl sink.record trace
      rw [List.foldl_append, List.foldl_append]
      rfl

/-- A run with some sink is the one that keeps the events, and tells the sink all of them. -/
theorem run_heard (sink : Sink σ) (memory : Memory) (source : ρ) (trace : σ) :
    let kept := engine.run Sink.collect goals memory source []
    engine.run sink goals memory source trace =
      ⟨kept.run, kept.memory, kept.source, kept.trace.foldl sink.record trace⟩ := by
  intro kept
  have silent : Progress.Heard sink trace ⟨memory, source, [], engine.pool, []⟩
      ⟨memory, source, trace, engine.pool, []⟩ := ⟨rfl, rfl, rfl, rfl, rfl⟩
  obtain ⟨last, beyond, halt, iterations, heard, one, two⟩ :=
    run_parallel (engine.parallel_heard goals sink trace) silent
  have kept_eq : kept = last.halt halt iterations := one
  rw [two, kept_eq, Progress.halt, Progress.halt, heard.memory, heard.source, heard.fired,
    heard.told]

theorem Course.trace_ne_nil {engine : Engine ρ} {goals : List String} {left iteration : Nat}
    {progress : Progress ρ (List Event)} {outcome : Outcome ρ (List Event)}
    (course : engine.Course Sink.collect goals left iteration progress outcome) :
    outcome.trace ≠ [] := by
  induction course with
  | capped => exact List.concat_ne_nil _ _
  | stuck => exact List.concat_ne_nil _ _
  | reached => exact List.concat_ne_nil _ _
  | again ready pass later ih => exact ih

theorem run_trace_ne_nil (memory : Memory) (source : ρ) (events : List Event) :
    (engine.run Sink.collect goals memory source events).trace ≠ [] :=
  (engine.run_course Sink.collect goals memory source events).trace_ne_nil

end Engine

end Forward

end Chaining
