import Chaining.Backward
import Chaining.Forward

set_option autoImplicit false

namespace Chaining.Log

inductive Level where
  | debug
  | trace
deriving DecidableEq

def Level.name : Level → String
  | debug => "debug"
  | trace => "trace"

/-- A record has a text as its message, if it has one, and further fields. -/
structure Record where
  level : Level
  message : Option String
  fields : List (String × Json)

def Record.toJson (record : Record) : Json :=
  let message := (record.message.map fun text => ("message", Json.text text)).toList
  .object [("level", .text record.level.name), ("fields", .sorted (message ++ record.fields))]

mutual

/-- The text of a value that shows how it is built. -/
def valueText : Value → String
  | .null => "Null"
  | .boolean value => if value then "Bool(true)" else "Bool(false)"
  | .number amount => "Number(" ++ amount.text .debug ++ ")"
  | .text content => "Text(" ++ Text.quoted content ++ ")"
  | .list [] => "List([])"
  | .list (item :: rest) => "List([" ++ valueText item ++ itemsText rest

def itemsText : List Value → String
  | [] => "])"
  | item :: rest => ", " ++ valueText item ++ itemsText rest

end

def constructed (name : String) (fields : List (String × String)) : String :=
  let field (entry : String × String) : String := entry.1 ++ ": " ++ entry.2
  name ++ " \x7b " ++ ", ".intercalate (fields.map field) ++ " \x7d"

def eventText : Event → String
  | .iterationStarted iteration =>
    constructed "IterationStarted" [("iteration", toString iteration)]
  | .conflictSet size => constructed "ConflictSet" [("size", toString size)]
  | .noApplicableRules iteration =>
    constructed "NoApplicableRules" [("iteration", toString iteration)]
  | .goalReached iteration => constructed "GoalReached" [("iteration", toString iteration)]
  | .iterationCapReached iterations =>
    constructed "IterationCapReached" [("iterations", toString iterations)]
  | .ruleFired name => constructed "RuleFired" [("name", Text.quoted name)]
  | .factSet name value =>
    constructed "FactSet" [("name", Text.quoted name), ("value", valueText value)]
  | .goalKnown goal value =>
    constructed "GoalKnown" [("goal", Text.quoted goal), ("value", valueText value)]
  | .cycleDetected goal => constructed "CycleDetected" [("goal", Text.quoted goal)]
  | .noProducingRule goal => constructed "NoProducingRule" [("goal", Text.quoted goal)]
  | .tryingRule goal rule =>
    constructed "TryingRule" [("goal", Text.quoted goal), ("rule", Text.quoted rule)]
  | .goalFailed goal => constructed "GoalFailed" [("goal", Text.quoted goal)]

def ofEvent (event : Event) : Record :=
  match event with
  | .ruleFired name => ⟨.debug, some "rule fired", [("rule", .text name)]⟩
  | .goalReached iteration => ⟨.debug, some "goals reached", [("iteration", .ofNat iteration)]⟩
  | .noApplicableRules iteration =>
    ⟨.debug, some "no applicable rules", [("iteration", .ofNat iteration)]⟩
  | .iterationCapReached iterations =>
    ⟨.debug, some "iteration cap reached", [("iterations", .ofNat iterations)]⟩
  | .cycleDetected goal => ⟨.debug, some "cycle detected", [("goal", .text goal)]⟩
  | .factSet name value =>
    ⟨.trace, some "fact set", [("fact", .text name), ("value", .text value.display)]⟩
  | event => ⟨.trace, none, [("event", .text (eventText event))]⟩

def sink : Sink (List Record) := ⟨fun records event => records ++ [ofEvent event]⟩

def forwardFinished (run : Forward.Run) (strategy : Strategy) : Record :=
  ⟨.debug, some "forward chaining finished",
    [("halt", .text run.halt.text), ("iterations", .ofNat run.iterations),
      ("fired", .ofNat run.fired.length), ("strategy", .text strategy.name)]⟩

def backwardFinished (goal : String) (proved : Bool) (visited : Nat) : Record :=
  ⟨.debug, some "backward chaining finished",
    [("goal", .text goal), ("proved", .boolean proved), ("visited", .ofNat visited)]⟩

def forward {ρ : Type} (engine : Forward.Engine ρ) (goals : List String) (memory : Memory)
    (source : ρ) : Forward.Outcome ρ (List Record) :=
  let outcome := engine.run sink goals memory source []
  { outcome with trace := outcome.trace ++ [forwardFinished outcome.run engine.strategy] }

def backward (rules : List Rule) (memory : Memory) (goal : String) :
    Backward.Outcome (List Record) :=
  let outcome := Backward.prove rules sink memory goal []
  { outcome with
    trace := outcome.trace ++ [backwardFinished goal outcome.proved outcome.visited] }

end Chaining.Log
