import Chaining.Rule

set_option autoImplicit false

namespace Chaining

inductive Event where
  /-- A pass over the rules that are left begins. -/
  | iterationStarted (iteration : Nat)
  /-- One of `size` rules is about to be chosen. -/
  | conflictSet (size : Nat)
  | noApplicableRules (iteration : Nat)
  | goalReached (iteration : Nat)
  | iterationCapReached (iterations : Nat)
  | ruleFired (name : String)
  | factSet (name : String) (value : Value)
  /-- The goal is bound. -/
  | goalKnown (goal : String) (value : Value)
  /-- The goal has been asked for before in the same proof. -/
  | cycleDetected (goal : String)
  | noProducingRule (goal : String)
  | tryingRule (goal rule : String)
  /-- None of the rules that produce the goal could be used. -/
  | goalFailed (goal : String)

/-- A sink is a state and what an event does to it. Engines never look at the state. -/
structure Sink (σ : Type) where
  record : σ → Event → σ

namespace Sink

def collect : Sink (List Event) := ⟨fun events event => events ++ [event]⟩

def ignore : Sink Unit := ⟨fun _ _ => ()⟩

end Sink

/-- Applies the actions of a rule in order and reports each of them. -/
def Rule.fire {σ : Type} (rule : Rule) (sink : Sink σ) (memory : Memory) (trace : σ) :
    Memory × σ :=
  rule.actions.foldl
    (fun state action =>
      (action.apply state.1, sink.record state.2 (.factSet action.fact action.value)))
    (memory, sink.record trace (.ruleFired rule.name))

namespace Event

def apply (memory : Memory) : Event → Memory
  | factSet name value => memory.set name value
  | _ => memory

/-- The memory after all the facts that events set. -/
def replay (memory : Memory) (events : List Event) : Memory := events.foldl apply memory

def toJson (event : Event) : Json :=
  let tagged (tag : String) (fields : List (String × Json)) : Json :=
    .object (("event", .text tag) :: fields)
  match event with
  | iterationStarted iteration => tagged "iteration_started" [("iteration", .ofNat iteration)]
  | conflictSet size => tagged "conflict_set" [("size", .ofNat size)]
  | noApplicableRules iteration => tagged "no_applicable_rules" [("iteration", .ofNat iteration)]
  | goalReached iteration => tagged "goal_reached" [("iteration", .ofNat iteration)]
  | iterationCapReached iterations =>
    tagged "iteration_cap_reached" [("iterations", .ofNat iterations)]
  | ruleFired name => tagged "rule_fired" [("name", .text name)]
  | factSet name value => tagged "fact_set" [("name", .text name), ("value", value.toJson)]
  | goalKnown goal value => tagged "goal_known" [("goal", .text goal), ("value", value.toJson)]
  | cycleDetected goal => tagged "cycle_detected" [("goal", .text goal)]
  | noProducingRule goal => tagged "no_producing_rule" [("goal", .text goal)]
  | tryingRule goal rule => tagged "trying_rule" [("goal", .text goal), ("rule", .text rule)]
  | goalFailed goal => tagged "goal_failed" [("goal", .text goal)]

/-- The line of an event in a report. What happens within a pass is indented. -/
def line : Event → String
  | iterationStarted iteration => "iteration " ++ toString iteration
  | conflictSet size => "  conflict set: " ++ toString size ++ " rule(s)"
  | noApplicableRules _ => "  no applicable rules"
  | goalReached iteration => "  goals reached in iteration " ++ toString iteration
  | iterationCapReached iterations => "stopped after " ++ toString iterations ++ " iteration(s)"
  | ruleFired name => "  fire: " ++ name
  | factSet name value => "    set " ++ name ++ " = " ++ value.display
  | goalKnown goal value => "goal '" ++ goal ++ "' is known: " ++ value.display
  | cycleDetected goal => "cycle at '" ++ goal ++ "'"
  | noProducingRule goal => "no rule produces '" ++ goal ++ "'"
  | tryingRule goal rule => "trying '" ++ rule ++ "' for '" ++ goal ++ "'"
  | goalFailed goal => "could not prove '" ++ goal ++ "'"

end Event

end Chaining
