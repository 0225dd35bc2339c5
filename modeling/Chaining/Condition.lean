import Chaining.Memory
import Chaining.Pattern.Compiled

set_option autoImplicit false

namespace Chaining

inductive Operator where
  | equal
  | notEqual
  | greater
  | less
  | atLeast
  | atMost
  | among
  | contains
  | startsWith
  | endsWith
  | pattern
  | present
  | absent
  /-- A symbol without a meaning; it is kept, and no condition with it holds. -/
  | unknown (symbol : String)
deriving DecidableEq

namespace Operator

def symbol : Operator → String
  | equal => "="
  | notEqual => "!="
  | greater => ">"
  | less => "<"
  | atLeast => ">="
  | atMost => "<="
  | among => "in"
  | contains => "contains"
  | startsWith => "startsWith"
  | endsWith => "endsWith"
  | pattern => "matches"
  | present => "exists"
  | absent => "not_exists"
  | unknown symbol => symbol

def ofSymbol (symbol : String) : Operator :=
  match symbol with
  | "=" => equal
  | "!=" => notEqual
  | ">" => greater
  | "<" => less
  | ">=" => atLeast
  | "<=" => atMost
  | "in" => among
  | "contains" => contains
  | "startsWith" => startsWith
  | "endsWith" => endsWith
  | "matches" => pattern
  | "exists" => present
  | "not_exists" => absent
  | symbol => unknown symbol

theorem symbol_ofSymbol (symbol : String) : (ofSymbol symbol).symbol = symbol := by
  unfold ofSymbol
  split <;> rfl

def isKnown : Operator → Bool
  | unknown _ => false
  | _ => true

def occursIn (part : List Char) : List Char → Bool
  | [] => part.isEmpty
  | first :: rest => part.isPrefixOf (first :: rest) || occursIn part rest

/-- The test of a value that is not null. Order looks at numbers alone and finds anything else
equal; the tests of texts hold between texts alone. -/
def test (operator : Operator) (actual expected : Value) : Bool :=
  match operator with
  | equal => actual.same expected
  | notEqual => !actual.same expected
  | greater => actual.compareNumbers expected == .gt
  | less => actual.compareNumbers expected == .lt
  | atLeast => actual.compareNumbers expected != .lt
  | atMost => actual.compareNumbers expected != .gt
  | among => expected.items?.any fun items => actual.isAmong items
  | contains =>
    match actual, expected with
    | .text whole, .text part => occursIn part.toList whole.toList
    | .list items, expected => expected.isAmong items
    | _, _ => false
  | startsWith =>
    match actual, expected with
    | .text whole, .text part => part.toList.isPrefixOf whole.toList
    | _, _ => false
  | endsWith =>
    match actual, expected with
    | .text whole, .text part => part.toList.isSuffixOf whole.toList
    | _, _ => false
  | pattern =>
    match actual, expected with
    | .text whole, .text wanted => Pattern.holdsFor wanted whole
    | _, _ => false
  | present => true
  | absent => false
  | unknown _ => false

end Operator

structure Condition where
  fact : String
  operator : Operator
  expected : Value

namespace Condition

def holds (condition : Condition) (memory : Memory) : Bool :=
  match memory.get? condition.fact with
  | none => false
  | some .null => false
  | some actual => condition.operator.test actual condition.expected

def display (condition : Condition) : String :=
  condition.fact ++ " " ++ condition.operator.symbol ++ " " ++ condition.expected.display

def same (left right : Condition) : Bool :=
  left.fact == right.fact && left.operator == right.operator && left.expected.same right.expected

def toJson (condition : Condition) : Json :=
  .object [("fact", .text condition.fact), ("op", .text condition.operator.symbol),
    ("value", condition.expected.toJson)]

/-- The expected value is null where it is left out. -/
def record : Json.Record Condition where
  name := "Condition"
  fields := [⟨"fact", true⟩, ⟨"op", true⟩, ⟨"value", false⟩]
  blank := ⟨"", .unknown "", .null⟩
  assign := fun field depth outline partly =>
    match field with
    | "fact" => do return { partly with fact := ← outline.readText }
    | "op" => do return { partly with operator := .ofSymbol (← outline.readText) }
    | _ => do return { partly with expected := ← Value.read depth outline }

end Condition

end Chaining
