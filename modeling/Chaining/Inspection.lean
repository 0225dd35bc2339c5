import Chaining.KnowledgeBase

set_option autoImplicit false

namespace Chaining

def Rule.actionTexts (rule : Rule) : List String :=
  rule.actions.map fun action => action.fact ++ " = " ++ action.value.display

def Rule.conditionTexts (rule : Rule) : List String := rule.conditions.map Condition.display

def Rule.listing (rule : Rule) (index : Nat) : Json :=
  .object [("index", .ofNat index), ("name", .text rule.name), ("priority", .ofInt rule.priority),
    ("specificity", .ofNat rule.specificity), ("then", .ofTexts rule.actionTexts),
    ("when", .ofTexts rule.conditionTexts)]

def Rule.listingLines (rule : Rule) (index : Nat) : List String :=
  let head := "  [" ++ toString index ++ "] " ++ rule.name ++ " (priority " ++
    toString rule.priority ++ ", specificity " ++ toString rule.specificity ++ ")"
  [head] ++ rule.conditionTexts.map ("      when " ++ ·) ++
    rule.actionTexts.map ("      then " ++ ·)

namespace KnowledgeBase

def title (base : KnowledgeBase) : String := if base.name.isEmpty then "(unnamed)" else base.name

def listing (base : KnowledgeBase) : Json :=
  .object [("facts", base.facts.toJson), ("goals", .ofTexts base.goals), ("name", .text base.name),
    ("referenced_facts", .ofTexts base.referencedFacts),
    ("rules", .array (base.rules.zipIdx.map fun entry => entry.1.listing entry.2)),
    ("strategy", Json.ofOption .text base.strategy)]

def listingLines (base : KnowledgeBase) : List String :=
  ["knowledge base: " ++ base.title] ++
    (base.strategy.map ("strategy: " ++ ·)).toList ++
    (if base.goals.isEmpty then [] else ["goals: " ++ ", ".intercalate base.goals]) ++
    [toString base.facts.size ++ " fact(s), " ++ toString base.rules.length ++ " rule(s)"] ++
    base.rules.zipIdx.flatMap fun entry => entry.1.listingLines entry.2

end KnowledgeBase

end Chaining
