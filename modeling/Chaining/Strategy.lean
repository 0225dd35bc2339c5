import Chaining.Random.Source
import Chaining.Rule
import Chaining.Text.Blank

set_option autoImplicit false

namespace Chaining

inductive Strategy where
  | firstMatch
  | highestPriority
  | mostSpecific
  | random
deriving DecidableEq

namespace Strategy

def name : Strategy → String
  | firstMatch => "FIRST_MATCH"
  | highestPriority => "HIGHEST_PRIORITY"
  | mostSpecific => "MOST_SPECIFIC"
  | random => "RANDOM"

/-- A name without white space around it, in capitals and with underscores. -/
def canonical (name : String) : String :=
  String.ofList ((Text.trimmed name.toList).map fun character =>
    if character = '-' then '_' else character.toUpper)

def ofName? (name : String) : Option Strategy :=
  match canonical name with
  | "FIRST_MATCH" => some firstMatch
  | "HIGHEST_PRIORITY" => some highestPriority
  | "MOST_SPECIFIC" => some mostSpecific
  | "RANDOM" => some random
  | _ => none

/-- A name that is not known stands for the first match. -/
def ofName (name : String) : Strategy := (ofName? name).getD firstMatch

/-- Where the largest key stands: `best` with its key, or one of the rules from `position` on that
has a larger one. -/
def largest (key : Rule → Int) (best : Nat) (bestKey : Int) (position : Nat) : List Rule → Nat
  | [] => best
  | rule :: rest =>
    if bestKey < key rule then largest key position (key rule) (position + 1) rest
    else largest key best bestKey (position + 1) rest

def earliestLargest (key : Rule → Int) : List Rule → Nat
  | [] => 0
  | rule :: rest => largest key 0 (key rule) 1 rest

/-- The position of the chosen rule, and the source of chance behind the choice. There is nothing
to choose among no rules. -/
def select {ρ : Type} (strategy : Strategy) (chance : Random.Source ρ) (rules : List Rule)
    (source : ρ) : Option (Nat × ρ) :=
  if rules.isEmpty then none
  else
    match strategy with
    | firstMatch => some (0, source)
    | highestPriority => some (earliestLargest Rule.priority rules, source)
    | mostSpecific => some (earliestLargest (fun rule => rule.specificity) rules, source)
    | random => some (chance.choose rules.length source)

end Strategy

end Chaining
