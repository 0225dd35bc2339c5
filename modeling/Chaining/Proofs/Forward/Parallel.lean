import Chaining.Proofs.Forward.Simulation

set_option autoImplicit false

namespace Chaining.Forward

variable {ρ σ τ : Type}

namespace Engine

/-- A relation between runs that no pass leaves. -/
structure Parallel (engine : Engine ρ) (sink : Sink σ) (other : Sink τ) (goals : List String)
    (Related : Progress ρ σ → Progress ρ τ → Prop) : Prop where
  ready : ∀ {first second}, Related first second → first.ready = second.ready
  met : ∀ {first second}, Related first second →
    first.memory.satisfies goals = second.memory.satisfies goals
  report : ∀ {first second}, Related first second → ∀ event,
    Related (first.report sink event) (second.report other event)
  choose : ∀ {first second}, Related first second → ∀ {ready position entry next},
    engine.Chooses ready first.source position entry next →
    ∃ later, engine.Chooses ready second.source position entry later ∧ ∀ iteration size,
      Related (first.choose sink iteration size next entry)
        (second.choose other iteration size later entry)

/-- Runs end related when they halt alike in related progress. -/
def EndsAlike (Related : Progress ρ σ → Progress ρ τ → Prop) (outcome : Outcome ρ σ)
    (result : Outcome ρ τ) : Prop :=
  ∃ last beyond halt iterations, Related last beyond ∧ outcome = last.halt halt iterations ∧
    result = beyond.halt halt iterations

variable {engine : Engine ρ} {sink : Sink σ} {other : Sink τ} {goals : List String}
  {Related : Progress ρ σ → Progress ρ τ → Prop} {iteration left : Nat}

/-- Runs side by side are those of an engine that simulates itself, choice by choice. -/
theorem Parallel.simulates (parallel : engine.Parallel sink other goals Related) :
    engine.Simulates engine sink other goals Eq Related where
  length := congrArg List.length
  ready := parallel.ready
  met := parallel.met
  report := parallel.report
  choose := fun related _ _ same position entry _ chosen => by
    subst same
    obtain ⟨later, again, kept⟩ := parallel.choose related chosen
    exact ⟨position, entry, later, again, rfl, kept⟩

/-- Related runs take the same course and end related. -/
theorem Course.parallel {progress : Progress ρ σ} {beside : Progress ρ τ} {outcome : Outcome ρ σ}
    (course : engine.Course sink goals left iteration progress outcome)
    (parallel : engine.Parallel sink other goals Related) (related : Related progress beside) :
    ∃ result, engine.Course other goals left iteration beside result ∧
      EndsAlike Related outcome result :=
  course.simulated parallel.simulates related

theorem run_parallel (parallel : engine.Parallel sink other goals Related) {left right : Memory}
    {source start : ρ} {trace : σ} {others : τ}
    (related : Related ⟨left, source, trace, engine.pool, []⟩
      ⟨right, start, others, engine.pool, []⟩) :
    EndsAlike Related (engine.run sink goals left source trace)
      (engine.run other goals right start others) :=
  run_simulated parallel.simulates rfl related

end Engine

end Chaining.Forward
