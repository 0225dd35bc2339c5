import Chaining.Log
import Chaining.Proofs.Backward.Observer
import Chaining.Proofs.Forward.Observer

set_option autoImplicit false

namespace Chaining

variable {ρ σ : Type}

/-- A run with the sink is the run that nobody hears, and the sink has been told all its events. -/
structure Forward.Engine.IsObserved (engine : Engine ρ) (goals : List String) (facts : Memory)
    (seed : ρ) (sink : Sink σ) (trace : σ) : Prop where
  run : (engine.run sink goals facts seed trace).run =
    (engine.run Sink.ignore goals facts seed ()).run
  memory : (engine.run sink goals facts seed trace).memory =
    (engine.run Sink.ignore goals facts seed ()).memory
  source : (engine.run sink goals facts seed trace).source =
    (engine.run Sink.ignore goals facts seed ()).source
  told : (engine.run sink goals facts seed trace).trace =
    (engine.run Sink.collect goals facts seed []).trace.foldl sink.record trace

theorem Forward.Engine.isObserved (engine : Engine ρ) (goals : List String) (memory : Memory)
    (source : ρ) (sink : Sink σ) (trace : σ) :
    engine.IsObserved goals memory source sink trace := by
  have heard := engine.run_heard goals sink memory source trace
  have unheard := engine.run_heard goals Sink.ignore memory source ()
  constructor
  · rw [heard, unheard]
  · rw [heard, unheard]
  · rw [heard, unheard]
  · rw [heard]

/-- A proof with the sink is the proof that nobody hears, and the sink has been told all its
events. -/
structure Backward.IsObserved (rules : List Rule) (facts : Memory) (goal : String) (sink : Sink σ)
    (trace : σ) : Prop where
  proved : (prove rules sink facts goal trace).proved =
    (prove rules Sink.ignore facts goal ()).proved
  memory : (prove rules sink facts goal trace).memory =
    (prove rules Sink.ignore facts goal ()).memory
  visited : (prove rules sink facts goal trace).visited =
    (prove rules Sink.ignore facts goal ()).visited
  told : (prove rules sink facts goal trace).trace =
    (prove rules Sink.collect facts goal []).trace.foldl sink.record trace

theorem Backward.isObserved (rules : List Rule) (memory : Memory) (goal : String) (sink : Sink σ)
    (trace : σ) : IsObserved rules memory goal sink trace := by
  have heard := prove_heard rules sink memory goal trace
  have unheard := prove_heard rules Sink.ignore memory goal ()
  constructor
  · rw [heard, unheard]
  · rw [heard, unheard]
  · rw [heard, unheard]
  · rw [heard]

namespace Log

theorem foldl_sink (events : List Event) (records : List Record) :
    events.foldl sink.record records = records ++ events.map ofEvent := by
  induction events generalizing records with
  | nil => exact (List.append_nil records).symm
  | cons event rest ih => exact (ih (records ++ [ofEvent event])).trans (List.append_assoc _ _ _)

def Record.IsFinal (record : Record) : Prop :=
  record.message = some "forward chaining finished" ∨
    record.message = some "backward chaining finished"

theorem not_isFinal_ofEvent (event : Event) : ¬ (ofEvent event).IsFinal := by
  cases event <;> simp [ofEvent, Record.IsFinal]

/-- Records tell of some events, one of each, and then that the engine has finished, as the last of
them says. -/
def Tells (records : List Record) (events : List Event) (last : Record) : Prop :=
  records = events.map ofEvent ++ [last] ∧ last.IsFinal ∧
    ∀ record ∈ events.map ofEvent, ¬ record.IsFinal

theorem tells_append {events : List Event} {last : Record} (final : last.IsFinal) :
    Tells (events.foldl sink.record [] ++ [last]) events last := by
  rw [foldl_sink, List.nil_append]
  refine ⟨rfl, final, fun record member => ?_⟩
  obtain ⟨event, _, rfl⟩ := List.mem_map.mp member
  exact not_isFinal_ofEvent event

/-- Engines do the same for every sink, and every sink is told the same events, of which a log keeps
one record each. What it adds at the end is right about the run or the proof that nobody hears. -/
theorem sinks_observe (engine : Forward.Engine ρ) (goals : List String) (source : ρ)
    (rules : List Rule) (goal : String) (memory : Memory) (sink : Sink σ) (trace : σ) :
    engine.IsObserved goals memory source sink trace ∧
      Backward.IsObserved rules memory goal sink trace ∧
      (let unheard := engine.run Sink.ignore goals memory source ()
        let logged := forward engine goals memory source
        logged.run = unheard.run ∧ logged.memory = unheard.memory ∧
          logged.source = unheard.source ∧
          ∃ last : Record, last.fields.lookup "halt" = some (.text unheard.run.halt.text) ∧
            last.fields.lookup "iterations" = some (.ofNat unheard.run.iterations) ∧
            last.fields.lookup "fired" = some (.ofNat unheard.run.fired.length) ∧
            Tells logged.trace (engine.run Sink.collect goals memory source []).trace last) ∧
      let unheard := Backward.prove rules Sink.ignore memory goal ()
      let logged := backward rules memory goal
      logged.proved = unheard.proved ∧ logged.memory = unheard.memory ∧
        ∃ last : Record, last.fields.lookup "goal" = some (.text goal) ∧
          last.fields.lookup "proved" = some (.boolean unheard.proved) ∧
          Tells logged.trace (Backward.prove rules Sink.collect memory goal []).trace last := by
  refine ⟨engine.isObserved goals memory source sink trace,
    Backward.isObserved rules memory goal sink trace, ?_, ?_⟩
  · intro unheard logged
    have observed := engine.isObserved goals memory source Log.sink []
    refine ⟨observed.run, observed.memory, observed.source,
      forwardFinished unheard.run engine.strategy, rfl, rfl, rfl, ?_⟩
    have added : logged.trace = (engine.run Log.sink goals memory source []).trace ++
        [forwardFinished (engine.run Log.sink goals memory source []).run engine.strategy] := rfl
    rw [added, observed.told, observed.run]
    exact tells_append (Or.inl rfl)
  · intro unheard logged
    have observed := Backward.isObserved rules memory goal Log.sink []
    refine ⟨observed.proved, observed.memory,
      backwardFinished goal unheard.proved unheard.visited, rfl, rfl, ?_⟩
    have added : logged.trace = (Backward.prove rules Log.sink memory goal []).trace ++
        [backwardFinished goal (Backward.prove rules Log.sink memory goal []).proved
          (Backward.prove rules Log.sink memory goal []).visited] := rfl
    rw [added, observed.told, observed.proved, observed.visited]
    exact tells_append (Or.inr rfl)

end Log

end Chaining
