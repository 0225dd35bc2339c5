import Chaining.Forward
import Chaining.Backward
import Chaining.Inspection

set_option autoImplicit false

namespace Chaining.Command

structure ForwardAnswer where
  base : KnowledgeBase
  goals : List String
  strategy : Strategy
  run : Forward.Run
  memory : Memory
  /-- What was traced, if it was asked for. -/
  events : List Event

structure BackwardAnswer where
  base : KnowledgeBase
  goal : String
  proved : Bool
  memory : Memory
  events : List Event

inductive Answer where
  | forward (answer : ForwardAnswer)
  | backward (answer : BackwardAnswer)
  /-- A run forward, and a proof behind it that starts without the recommendation. -/
  | walkthrough (run : ForwardAnswer) (proof : BackwardAnswer)
  | listing (base : KnowledgeBase)

def traceMember (events : List Event) : List (String × Json) :=
  if events.isEmpty then [] else [("trace", .array (events.map Event.toJson))]

def memoryLines (memory : Memory) : List String :=
  let entry (binding : String × Value) : String :=
    "  " ++ binding.1 ++ " = " ++ binding.2.display
  "working memory:" ::
    (if memory.isEmpty then ["  (empty)"] else memory.bindings.map entry)

namespace ForwardAnswer

def toJson (answer : ForwardAnswer) : Json :=
  .object ([("fired", .array (answer.run.fired.map Forward.Firing.toJson)),
    ("goals", .ofTexts answer.goals), ("goals_reached", .boolean answer.run.goalsReached),
    ("halt", .text answer.run.halt.tag), ("iterations", .ofNat answer.run.iterations),
    ("knowledge_base", .text answer.base.name), ("memory", answer.memory.toJson),
    ("strategy", .text answer.strategy.name)] ++ traceMember answer.events)

def firingLine (firing : Forward.Firing) (position : Nat) : String :=
  "  " ++ toString (position + 1) ++ ". " ++ firing.name ++ " (iteration " ++
    toString firing.iteration ++ ")"

def lines (answer : ForwardAnswer) : List String :=
  let fired := answer.run.fired.zipIdx.map fun entry => firingLine entry.1 entry.2
  ["knowledge base: " ++ answer.base.title ++ " (strategy " ++ answer.strategy.name ++ ")"] ++
    answer.events.map Event.line ++ [answer.run.summary] ++
    (if fired.isEmpty then [] else "fired:" :: fired) ++ memoryLines answer.memory

end ForwardAnswer

namespace BackwardAnswer

def toJson (answer : BackwardAnswer) : Json :=
  .object ([("goal", .text answer.goal), ("knowledge_base", .text answer.base.name),
    ("memory", answer.memory.toJson), ("proved", .boolean answer.proved)] ++
    traceMember answer.events ++
    [("value", Json.ofOption Value.toJson (answer.memory.get? answer.goal))])

def summary (answer : BackwardAnswer) : String :=
  match answer.proved, answer.memory.get? answer.goal with
  | true, some value => "proved '" ++ answer.goal ++ "' = " ++ value.display
  | true, none => "proved '" ++ answer.goal ++ "'"
  | false, _ => "could not prove '" ++ answer.goal ++ "'"

def lines (answer : BackwardAnswer) : List String :=
  answer.events.map Event.line ++ [answer.summary] ++ memoryLines answer.memory

end BackwardAnswer

namespace Answer

/-- A run that misses its goals and a proof that fails have a status of their own. -/
def exit : Answer → Nat
  | forward answer => if answer.run.goalsReached then 0 else 2
  | backward answer => if answer.proved then 0 else 2
  | walkthrough _ _ => 0
  | listing _ => 0

def toJson : Answer → Json
  | forward answer => answer.toJson
  | backward answer => answer.toJson
  | walkthrough run proof => .object [("backward", proof.toJson), ("forward", run.toJson)]
  | listing base => base.listing

def lines : Answer → List String
  | forward answer => answer.lines
  | backward answer => answer.lines
  | walkthrough run proof =>
    ["== forward chaining =="] ++ run.lines ++
      ["", "== backward check ==", "reset " ++ proof.goal ++ " to null"] ++ proof.lines
  | listing base => base.listingLines

end Answer

end Chaining.Command
