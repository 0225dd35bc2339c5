import Chaining.Event
import Chaining.Strategy

set_option autoImplicit false

namespace Chaining.Forward

inductive Halt where
  | goalsReached
  | noApplicableRules
  | iterationCap
deriving DecidableEq

namespace Halt

def text : Halt → String
  | goalsReached => "goals reached"
  | noApplicableRules => "no applicable rules"
  | iterationCap => "iteration cap reached"

def tag : Halt → String
  | goalsReached => "goals_reached"
  | noApplicableRules => "no_applicable_rules"
  | iterationCap => "iteration_cap"

end Halt

/-- A rule that has fired: its place in the list of rules, and the pass it fired in. -/
structure Firing where
  index : Nat
  name : String
  iteration : Nat
deriving DecidableEq

structure Run where
  halt : Halt
  /-- Passes that have begun, the last one included. -/
  iterations : Nat
  /-- Firings in order. -/
  fired : List Firing
deriving DecidableEq

namespace Run

def goalsReached (run : Run) : Bool := run.halt = .goalsReached

def summary (run : Run) : String :=
  let count := toString run.iterations ++ " iteration(s)"
  match run.halt with
  | .goalsReached => "goals reached after " ++ count
  | .noApplicableRules => "goals not reached: no applicable rules after " ++ count
  | .iterationCap => "goals not reached within " ++ count

end Run

def Firing.toJson (firing : Firing) : Json :=
  .object [("index", .ofNat firing.index), ("iteration", .ofNat firing.iteration),
    ("name", .text firing.name)]

def Run.toJson (run : Run) : Json :=
  .object [("halt", .text run.halt.tag), ("iterations", .ofNat run.iterations),
    ("fired", .array (run.fired.map Firing.toJson))]

/-- What stays the same from run to run. -/
structure Engine (ρ : Type) where
  rules : List Rule
  strategy : Strategy
  chance : Random.Source ρ
  /-- How many passes there may be. -/
  cap : Nat

/-- Where a run stands. The pool holds the rules that have not fired, with their places in the list
of rules. -/
structure Progress (ρ σ : Type) where
  memory : Memory
  source : ρ
  trace : σ
  pool : List (Nat × Rule)
  fired : List Firing

structure Outcome (ρ σ : Type) where
  run : Run
  memory : Memory
  source : ρ
  trace : σ

section

variable {ρ σ : Type}

def Progress.report (progress : Progress ρ σ) (sink : Sink σ) (event : Event) : Progress ρ σ :=
  { progress with trace := sink.record progress.trace event }

/-- Fires one rule and takes it out of the pool. -/
def Progress.fire (progress : Progress ρ σ) (sink : Sink σ) (iteration index : Nat)
    (rule : Rule) : Progress ρ σ :=
  let fired := rule.fire sink progress.memory progress.trace
  { progress with
    memory := fired.1
    trace := fired.2
    pool := progress.pool.filter fun entry => entry.1 ≠ index
    fired := progress.fired ++ [⟨index, rule.name, iteration⟩] }

/-- The rules of the pool that are applicable now. -/
def Progress.ready (progress : Progress ρ σ) : List (Nat × Rule) :=
  progress.pool.filter fun entry => entry.2.isApplicable progress.memory

def Progress.halt (progress : Progress ρ σ) (halt : Halt) (iterations : Nat) : Outcome ρ σ where
  run := ⟨halt, iterations, progress.fired⟩
  memory := progress.memory
  source := progress.source
  trace := progress.trace

namespace Engine

variable (engine : Engine ρ) (sink : Sink σ) (goals : List String)

/-- Fires the rules of a pass until all have fired or the goals hold; tells whether they do. Every
step fires one of the rules, so as many steps as rules are enough. -/
def drain (iteration : Nat) : Nat → List (Nat × Rule) → Progress ρ σ → Bool × Progress ρ σ
  | 0, _, progress => (false, progress)
  | steps + 1, ready, progress =>
    if ready.isEmpty then (false, progress)
    else
      let progress := progress.report sink (.conflictSet ready.length)
      match engine.strategy.select engine.chance (ready.map (·.2)) progress.source with
      | none => (false, progress)
      | some (position, source) =>
        match ready[position]? with
        | none => (false, { progress with source })
        | some (index, rule) =>
          let progress := Progress.fire { progress with source } sink iteration index rule
          if progress.memory.satisfies goals then (true, progress)
          else drain iteration steps (ready.eraseIdx position) progress

/-- Runs the passes that are left after `iteration` of them. -/
def passes : Nat → Nat → Progress ρ σ → Outcome ρ σ
  | 0, iteration, progress =>
    (progress.report sink (.iterationCapReached iteration)).halt .iterationCap iteration
  | left + 1, iteration, progress =>
    let iteration := iteration + 1
    let progress := progress.report sink (.iterationStarted iteration)
    let ready := progress.ready
    if ready.isEmpty then
      (progress.report sink (.noApplicableRules iteration)).halt .noApplicableRules iteration
    else
      match engine.drain sink goals iteration ready.length ready progress with
      | (true, progress) =>
        (progress.report sink (.goalReached iteration)).halt .goalsReached iteration
      | (false, progress) => passes left iteration progress

/-- The rules with their places. -/
def pool : List (Nat × Rule) := engine.rules.zipIdx.map fun entry => (entry.2, entry.1)

/-- Runs from a memory, with a source of chance and what has been reported so far. Goals are looked
at only after a firing. -/
def run (memory : Memory) (source : ρ) (trace : σ) : Outcome ρ σ :=
  engine.passes sink goals engine.cap 0 ⟨memory, source, trace, engine.pool, []⟩

end Engine

end

end Chaining.Forward
