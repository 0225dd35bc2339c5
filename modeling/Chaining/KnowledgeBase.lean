import Chaining.Rule

set_option autoImplicit false

namespace Chaining

structure KnowledgeBase where
  name : String
  /-- The name of the strategy that the knowledge base asks for. -/
  strategy : Option String
  facts : Memory
  goals : List String
  rules : List Rule

namespace KnowledgeBase

def blank : KnowledgeBase := ⟨"", none, .empty, [], []⟩

def insertName (name : String) : List String → List String
  | [] => [name]
  | other :: rest =>
    if name = other then other :: rest
    else if name < other then name :: other :: rest
    else other :: insertName name rest

def referencedFacts (base : KnowledgeBase) : List String :=
  (base.rules.flatMap fun rule => rule.tested ++ rule.written).foldr insertName []

def same (left right : KnowledgeBase) : Bool :=
  left.name == right.name && left.strategy == right.strategy && left.facts.same right.facts &&
    left.goals == right.goals && left.rules.length == right.rules.length &&
    (left.rules.zip right.rules).all fun pair => pair.1.same pair.2

def toJson (base : KnowledgeBase) : Json :=
  let strategy := (base.strategy.map fun name => ("strategy", Json.text name)).toList
  .object ([("name", Json.text base.name)] ++ strategy ++
    [("facts", base.facts.toJson), ("goals", .ofTexts base.goals),
      ("rules", .array (base.rules.map Rule.toJson))])

def record : Json.Record KnowledgeBase where
  name := "KnowledgeBase"
  fields :=
    [⟨"name", false⟩, ⟨"strategy", false⟩, ⟨"facts", false⟩, ⟨"goals", false⟩, ⟨"rules", false⟩]
  blank := blank
  assign := fun field depth outline partly =>
    match field with
    | "name" => do return { partly with name := ← outline.readText }
    | "strategy" => do
      return { partly with strategy := ← outline.readOption Json.Outline.readText }
    | "facts" => do return { partly with facts := ← Memory.read depth outline }
    | "goals" => do
      return { partly with goals := ← outline.readSequence (fun _ => Json.Outline.readText) depth }
    | _ => do return { partly with rules := ← outline.readSequence Rule.record.read depth }

def ofText (text : String) : Json.Reading KnowledgeBase :=
  Json.readDocument (record.read Json.depthLimit) text

end KnowledgeBase

end Chaining
