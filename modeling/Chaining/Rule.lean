import Chaining.Condition

set_option autoImplicit false

namespace Chaining

structure Action where
  fact : String
  value : Value

namespace Action

def apply (action : Action) (memory : Memory) : Memory := memory.set action.fact action.value

def display (action : Action) : String := action.fact ++ " = " ++ action.value.display

def same (left right : Action) : Bool := left.fact == right.fact && left.value.same right.value

def toJson (action : Action) : Json :=
  .object [("fact", .text action.fact), ("value", action.value.toJson)]

def record : Json.Record Action where
  name := "Action"
  fields := [⟨"fact", true⟩, ⟨"value", true⟩]
  blank := ⟨"", .null⟩
  assign := fun field depth outline partly =>
    match field with
    | "fact" => do return { partly with fact := ← outline.readText }
    | _ => do return { partly with value := ← Value.read depth outline }

end Action

structure Rule where
  name : String
  /-- The larger one is preferred. -/
  priority : Int
  conditions : List Condition
  actions : List Action

namespace Rule

def specificity (rule : Rule) : Nat := rule.conditions.length

def isApplicable (rule : Rule) (memory : Memory) : Bool :=
  rule.conditions.all fun condition => condition.holds memory

def produces (rule : Rule) (fact : String) : Bool :=
  rule.actions.any fun action => action.fact == fact

def apply (rule : Rule) (memory : Memory) : Memory :=
  rule.actions.foldl (fun memory action => action.apply memory) memory

def tested (rule : Rule) : List String := rule.conditions.map (·.fact)

def written (rule : Rule) : List String := rule.actions.map (·.fact)

def same (left right : Rule) : Bool :=
  left.name == right.name && left.priority == right.priority &&
    left.conditions.length == right.conditions.length &&
    (left.conditions.zip right.conditions).all (fun pair => pair.1.same pair.2) &&
    left.actions.length == right.actions.length &&
    (left.actions.zip right.actions).all (fun pair => pair.1.same pair.2)

def toJson (rule : Rule) : Json :=
  .object [("name", .text rule.name), ("priority", .ofInt rule.priority),
    ("when", .array (rule.conditions.map Condition.toJson)),
    ("then", .array (rule.actions.map Action.toJson))]

/-- All but the name may be left out. -/
def record : Json.Record Rule where
  name := "Rule"
  fields := [⟨"name", true⟩, ⟨"priority", false⟩, ⟨"when", false⟩, ⟨"then", false⟩]
  blank := ⟨"", 0, [], []⟩
  assign := fun field depth outline partly =>
    match field with
    | "name" => do return { partly with name := ← outline.readText }
    | "priority" => do
      return { partly with priority := ← outline.readInteger "i32" (-2147483648) 2147483647 }
    | "when" => do
      return { partly with conditions := ← outline.readSequence Condition.record.read depth }
    | _ => do return { partly with actions := ← outline.readSequence Action.record.read depth }

def producers (rules : List Rule) (fact : String) : List (Nat × Rule) :=
  (rules.zipIdx.filter fun entry => entry.1.produces fact).map fun entry => (entry.2, entry.1)

end Rule

end Chaining
