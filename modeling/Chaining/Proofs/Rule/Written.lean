import Chaining.Rule
import Chaining.Proofs.Value.Written

set_option autoImplicit false

namespace Chaining

open Json (Outline)

def Operator.IsNamed (operator : Operator) : Prop := ofSymbol operator.symbol = operator

theorem Operator.isNamed_ofSymbol (symbol : String) : (ofSymbol symbol).IsNamed := by
  rw [IsNamed, symbol_ofSymbol]

namespace Condition

/-- A condition that JSON text can hold, its value inside it nested at most `depth` deep. -/
structure Writable (depth : Nat) (condition : Condition) : Prop where
  named : condition.operator.IsNamed
  expected : condition.expected.Writable depth

theorem writable_of_read {depth : Nat} {outline : Outline} {condition : Condition}
    (accepted : record.read (depth + 1) outline = .ok condition) : condition.Writable depth := by
  have blank : Writable depth record.blank :=
    ⟨Operator.isNamed_ofSymbol "", Value.writable_null depth⟩
  refine Json.Record.read_keeps (Writable depth) blank
    (fun field outline partly next kept assigned => ?_) accepted
  unfold record at assigned
  dsimp only at assigned
  split at assigned
  · obtain ⟨fact, _, assigned⟩ := bind_eq_ok.mp assigned
    cases assigned
    exact ⟨kept.named, kept.expected⟩
  · obtain ⟨symbol, _, assigned⟩ := bind_eq_ok.mp assigned
    cases assigned
    exact ⟨Operator.isNamed_ofSymbol symbol, kept.expected⟩
  · obtain ⟨expected, found, assigned⟩ := bind_eq_ok.mp assigned
    cases assigned
    exact ⟨kept.named, Value.writable_of_read found⟩

theorem read_toJson {condition : Condition} {depth : Nat} (writable : condition.Writable depth)
    (preserved : ∀ number ∈ condition.expected.numbers, number.IsPreserved) :
    ∃ again, record.read (depth + 1) (.ofJson condition.toJson) = .ok again ∧
      again.same condition = true := by
  obtain ⟨expected, found, alike⟩ := Value.read_toJson writable.expected.nesting preserved
  refine ⟨⟨condition.fact, .ofSymbol condition.operator.symbol, expected⟩, ?_, ?_⟩
  · refine Json.Record.read_object (by simp [record]) (by simp) (by simp [record]) ?_
    simp [Json.Record.assignAll, record, found]
  · rw [same, writable.named, alike]
    simp

theorem legible_toJson {condition : Condition}
    (preserved : ∀ number ∈ condition.expected.numbers, number.IsPreserved) :
    condition.toJson.Legible := by
  simp [toJson, Value.legible_toJson _ preserved]

end Condition

namespace Action

theorem writable_of_read {depth : Nat} {outline : Outline} {action : Action}
    (accepted : record.read (depth + 1) outline = .ok action) : action.value.Writable depth := by
  have blank : record.blank.value.Writable depth := Value.writable_null depth
  refine Json.Record.read_keeps (fun action => action.value.Writable depth) blank
    (fun field outline partly next kept assigned => ?_) accepted
  unfold record at assigned
  dsimp only at assigned
  split at assigned
  · obtain ⟨fact, _, assigned⟩ := bind_eq_ok.mp assigned
    cases assigned
    exact kept
  · obtain ⟨value, found, assigned⟩ := bind_eq_ok.mp assigned
    cases assigned
    exact Value.writable_of_read found

theorem read_toJson {action : Action} {depth : Nat} (nested : action.value.nesting ≤ depth)
    (preserved : ∀ number ∈ action.value.numbers, number.IsPreserved) :
    ∃ again, record.read (depth + 1) (.ofJson action.toJson) = .ok again ∧
      again.same action = true := by
  obtain ⟨value, found, alike⟩ := Value.read_toJson nested preserved
  refine ⟨⟨action.fact, value⟩, ?_, ?_⟩
  · refine Json.Record.read_object (by simp [record]) (by simp) (by simp [record]) ?_
    simp [Json.Record.assignAll, record, found]
  · rw [same, alike]
    simp

theorem legible_toJson {action : Action}
    (preserved : ∀ number ∈ action.value.numbers, number.IsPreserved) :
    action.toJson.Legible := by
  simp [toJson, Value.legible_toJson _ preserved]

end Action

theorem all_zip_of_forall₂ {α : Type} {alike : α → α → Bool} {left right : List α}
    (each : List.Forall₂ (fun left right => alike left right = true) left right) :
    left.length = right.length ∧
      ((left.zip right).all fun pair => alike pair.1 pair.2) = true := by
  induction each with
  | nil => exact ⟨rfl, rfl⟩
  | cons like _ ih =>
    refine ⟨congrArg (· + 1) ih.1, ?_⟩
    rw [List.zip_cons_cons, List.all_cons, like, ih.2]
    rfl

namespace Rule

def numbers (rule : Rule) : List Number :=
  rule.conditions.flatMap (fun condition => condition.expected.numbers) ++
    rule.actions.flatMap fun action => action.value.numbers

/-- A rule that JSON text can hold, with a priority of 32 bits and the values inside it nested at
most `depth` deep. -/
structure Writable (depth : Nat) (rule : Rule) : Prop where
  priority : -2147483648 ≤ rule.priority ∧ rule.priority ≤ 2147483647
  conditions : ∀ condition ∈ rule.conditions, condition.Writable depth
  actions : ∀ action ∈ rule.actions, action.value.Writable depth

theorem writable_of_read {depth : Nat} {outline : Outline} {rule : Rule}
    (accepted : record.read (depth + 3) outline = .ok rule) : rule.Writable depth := by
  have blank : Writable depth record.blank := ⟨by decide, by simp [record], by simp [record]⟩
  refine Json.Record.read_keeps (Writable depth) blank
    (fun field outline partly next kept assigned => ?_) accepted
  unfold record at assigned
  dsimp only at assigned
  split at assigned
  · obtain ⟨name, _, assigned⟩ := bind_eq_ok.mp assigned
    cases assigned
    exact ⟨kept.priority, kept.conditions, kept.actions⟩
  · obtain ⟨priority, found, assigned⟩ := bind_eq_ok.mp assigned
    cases assigned
    have bounds := Outline.readInteger_bounds (by decide) (by decide) found
    exact ⟨bounds, kept.conditions, kept.actions⟩
  · obtain ⟨conditions, found, assigned⟩ := bind_eq_ok.mp assigned
    cases assigned
    refine ⟨kept.priority, fun condition listed => ?_, kept.actions⟩
    obtain ⟨item, read⟩ := Outline.mem_readSequence found condition listed
    exact Condition.writable_of_read read
  · obtain ⟨actions, found, assigned⟩ := bind_eq_ok.mp assigned
    cases assigned
    refine ⟨kept.priority, kept.conditions, fun action listed => ?_⟩
    obtain ⟨item, read⟩ := Outline.mem_readSequence found action listed
    exact Action.writable_of_read read

variable {rule : Rule}

theorem preserved_condition (preserved : ∀ number ∈ rule.numbers, number.IsPreserved) :
    ∀ condition ∈ rule.conditions, ∀ number ∈ condition.expected.numbers, number.IsPreserved :=
  fun condition listed number inside => preserved number
    (List.mem_append_left _ (List.mem_flatMap.mpr ⟨condition, listed, inside⟩))

theorem preserved_action (preserved : ∀ number ∈ rule.numbers, number.IsPreserved) :
    ∀ action ∈ rule.actions, ∀ number ∈ action.value.numbers, number.IsPreserved :=
  fun action listed number inside => preserved number
    (List.mem_append_right _ (List.mem_flatMap.mpr ⟨action, listed, inside⟩))

theorem read_toJson {depth : Nat} (writable : rule.Writable depth)
    (preserved : ∀ number ∈ rule.numbers, number.IsPreserved) :
    ∃ again, record.read (depth + 3) (.ofJson rule.toJson) = .ok again ∧
      again.same rule = true := by
  have eachCondition : ∀ condition ∈ rule.conditions, ∃ again,
      Condition.record.read (depth + 1) (.ofJson condition.toJson) = .ok again ∧
        again.same condition = true := fun condition listed =>
    Condition.read_toJson (writable.conditions condition listed)
      (preserved_condition preserved condition listed)
  have eachAction : ∀ action ∈ rule.actions, ∃ again,
      Action.record.read (depth + 1) (.ofJson action.toJson) = .ok again ∧
        again.same action = true := fun action listed =>
    Action.read_toJson (writable.actions action listed).nesting
      (preserved_action preserved action listed)
  obtain ⟨conditions, foundConditions, alikeConditions⟩ :=
    Outline.readSequence_map Condition.record.read Condition.toJson
      (fun again condition => again.same condition = true) eachCondition
  obtain ⟨actions, foundActions, alikeActions⟩ :=
    Outline.readSequence_map Action.record.read Action.toJson
      (fun again action => again.same action = true) eachAction
  have small : rule.priority.natAbs ≤ Nat.pow 2 63 := by
    have bounds := writable.priority
    rw [Nat.pow_eq]
    omega
  have priority := Outline.readInteger_ofInt "i32" small writable.priority
  refine ⟨⟨rule.name, rule.priority, conditions, actions⟩, ?_, ?_⟩
  · refine Json.Record.read_object (by simp [record]) (by simp) (by simp [record]) ?_
    simp [Json.Record.assignAll, record, priority, foundConditions, foundActions]
  · obtain ⟨conditionCount, conditionsAlike⟩ := all_zip_of_forall₂ alikeConditions
    obtain ⟨actionCount, actionsAlike⟩ := all_zip_of_forall₂ alikeActions
    simp [same, conditionCount, conditionsAlike, actionCount, actionsAlike]

theorem legible_toJson (preserved : ∀ number ∈ rule.numbers, number.IsPreserved) :
    rule.toJson.Legible := by
  have conditions : ∀ condition ∈ rule.conditions, condition.toJson.Legible :=
    fun condition listed =>
      Condition.legible_toJson (preserved_condition preserved condition listed)
  have actions : ∀ action ∈ rule.actions, action.toJson.Legible := fun action listed =>
    Action.legible_toJson (preserved_action preserved action listed)
  have priority : (Json.ofInt rule.priority).Legible :=
    Json.legible_number.mpr (Numeral.ofInt_isWritten rule.priority)
  simpa [toJson, priority] using ⟨conditions, actions⟩

end Rule

end Chaining
