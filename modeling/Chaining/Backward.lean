import Chaining.Event

set_option autoImplicit false

namespace Chaining.Backward

/-- Where a proof stands. The last goal that was asked for comes first. -/
structure Search (σ : Type) where
  memory : Memory
  visited : List String
  trace : σ

structure Outcome (σ : Type) where
  proved : Bool
  memory : Memory
  /-- How many goals were asked for that were not bound. -/
  visited : Nat
  trace : σ

section

variable {σ : Type}

def Search.report (search : Search σ) (sink : Sink σ) (event : Event) : Search σ :=
  { search with trace := sink.record search.trace event }

def Search.fire (search : Search σ) (sink : Sink σ) (rule : Rule) : Search σ :=
  let fired := rule.fire sink search.memory search.trace
  { search with memory := fired.1, trace := fired.2 }

/-- Attempts goals in order up to the first that fails. -/
def attemptAll (attempt : String → Search σ → Bool × Search σ) :
    List String → Search σ → Bool × Search σ
  | [], search => (true, search)
  | goal :: rest, search =>
    match attempt goal search with
    | (true, search) => attemptAll attempt rest search
    | (false, search) => (false, search)

/-- Tries rules in order up to the first whose conditions can be proved, and fires it. -/
def tryRules (sink : Sink σ) (attempt : String → Search σ → Bool × Search σ) (goal : String) :
    List Rule → Search σ → Bool × Search σ
  | [], search => (false, search.report sink (.goalFailed goal))
  | rule :: rest, search =>
    match attemptAll attempt rule.tested (search.report sink (.tryingRule goal rule.name)) with
    | (true, search) => (true, search.fire sink rule)
    | (false, search) => tryRules sink attempt goal rest search

/-- Proves a goal, with goals inside goals up to a depth. A goal that has been asked for is not tried
a second time in the same proof. -/
def proveGoal (rules : List Rule) (sink : Sink σ) : Nat → String → Search σ → Bool × Search σ
  | 0, _, search => (false, search)
  | depth + 1, goal, search =>
    match search.memory.get? goal with
    | some value => (value.isAffirmative, search.report sink (.goalKnown goal value))
    | none =>
      if search.visited.contains goal then (false, search.report sink (.cycleDetected goal))
      else
        let search := { search with visited := goal :: search.visited }
        let producers := Rule.producers rules goal
        if producers.isEmpty then (false, search.report sink (.noProducingRule goal))
        else tryRules sink (proveGoal rules sink depth) goal (producers.map (·.2)) search

/-- The facts that rules set, each once. -/
def producible (rules : List Rule) : List String := (rules.flatMap Rule.written).eraseDups

/-- Goals that contain one another are different and all but the innermost can be produced, so they
are never nested deeper than this. -/
def depthBound (rules : List Rule) : Nat := (producible rules).length + 1

def prove (rules : List Rule) (sink : Sink σ) (memory : Memory) (goal : String) (trace : σ) :
    Outcome σ :=
  let result := proveGoal rules sink (depthBound rules) goal ⟨memory, [], trace⟩
  ⟨result.1, result.2.memory, result.2.visited.length, result.2.trace⟩

end

end Chaining.Backward
