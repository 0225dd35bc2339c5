import Chaining.KnowledgeBase
import Chaining.Proofs.Memory.Written
import Chaining.Proofs.Rule.Written

set_option autoImplicit false

namespace Chaining.KnowledgeBase

open Json (Outline)

def numbers (base : KnowledgeBase) : List Number :=
  base.facts.numbers ++ base.rules.flatMap Rule.numbers

/-- A knowledge base that JSON text can hold: values in its rules are nested at most `depth` deep,
and facts have three brackets less around them. -/
structure Writable (depth : Nat) (base : KnowledgeBase) : Prop where
  facts : ∀ binding ∈ base.facts.bindings, binding.2.Writable (depth + 3)
  rules : ∀ rule ∈ base.rules, rule.Writable depth

theorem writable_of_read {depth : Nat} {outline : Outline} {base : KnowledgeBase}
    (accepted : record.read (depth + 5) outline = .ok base) : base.Writable depth := by
  have blank : Writable depth record.blank := by
    refine ⟨fun binding bound => ?_, fun rule listed => ?_⟩
    · cases bound
    · cases listed
  refine Json.Record.read_keeps (Writable depth) blank
    (fun field outline partly next kept assigned => ?_) accepted
  unfold record at assigned
  dsimp only at assigned
  split at assigned
  · obtain ⟨name, _, assigned⟩ := bind_eq_ok.mp assigned
    cases assigned
    exact ⟨kept.facts, kept.rules⟩
  · obtain ⟨strategy, _, assigned⟩ := bind_eq_ok.mp assigned
    cases assigned
    exact ⟨kept.facts, kept.rules⟩
  · obtain ⟨facts, found, assigned⟩ := bind_eq_ok.mp assigned
    cases assigned
    exact ⟨Memory.writable_of_read found, kept.rules⟩
  · obtain ⟨goals, _, assigned⟩ := bind_eq_ok.mp assigned
    cases assigned
    exact ⟨kept.facts, kept.rules⟩
  · obtain ⟨rules, found, assigned⟩ := bind_eq_ok.mp assigned
    cases assigned
    refine ⟨kept.facts, fun rule listed => ?_⟩
    obtain ⟨item, read⟩ := Outline.mem_readSequence found rule listed
    exact Rule.writable_of_read read

theorem writable_of_ofText {text : String} {base : KnowledgeBase}
    (accepted : ofText text = .ok base) : base.Writable 122 :=
  writable_of_read (Json.readDocument_eq_ok.mp accepted).1

variable {base : KnowledgeBase}

theorem Writable.finite {depth : Nat} (writable : base.Writable depth) :
    ∀ number ∈ base.numbers, number.isFinite = true := by
  intro number member
  rcases List.mem_append.mp member with inFacts | inRules
  · obtain ⟨binding, bound, inside⟩ := List.mem_flatMap.mp inFacts
    exact (writable.facts binding bound).finite number inside
  · obtain ⟨rule, listed, member⟩ := List.mem_flatMap.mp inRules
    have rule := writable.rules rule listed
    rcases List.mem_append.mp member with inConditions | inActions
    · obtain ⟨condition, listed, inside⟩ := List.mem_flatMap.mp inConditions
      exact (rule.conditions condition listed).expected.finite number inside
    · obtain ⟨action, listed, inside⟩ := List.mem_flatMap.mp inActions
      exact (rule.actions action listed).finite number inside

theorem preserved_facts (preserved : ∀ number ∈ base.numbers, number.IsPreserved) :
    ∀ number ∈ base.facts.numbers, number.IsPreserved :=
  fun number inside => preserved number (List.mem_append_left _ inside)

theorem preserved_rule (preserved : ∀ number ∈ base.numbers, number.IsPreserved) :
    ∀ rule ∈ base.rules, ∀ number ∈ rule.numbers, number.IsPreserved :=
  fun rule listed number inside => preserved number
    (List.mem_append_right _ (List.mem_flatMap.mpr ⟨rule, listed, inside⟩))

theorem readGoals (goals : List String) (depth : Nat) :
    Outline.readSequence (fun _ => Outline.readText) (depth + 1) (.ofJson (.ofTexts goals)) =
      .ok goals := by
  have each : ∀ goal ∈ goals, ∃ again,
      Outline.readText (.ofJson (.text goal)) = .ok again ∧ again = goal :=
    fun goal _ => ⟨goal, Outline.readText_ofJson goal, rfl⟩
  obtain ⟨again, found, alike⟩ :=
    @Outline.readSequence_map _ (fun _ => Outline.readText) Json.text Eq depth goals each
  rw [List.forall₂_eq_eq_eq] at alike
  exact alike ▸ found

theorem read_toJson {depth : Nat} (writable : base.Writable depth)
    (preserved : ∀ number ∈ base.numbers, number.IsPreserved) :
    ∃ again, record.read (depth + 5) (.ofJson base.toJson) = .ok again ∧
      again.same base = true := by
  have nested : ∀ binding ∈ base.facts.bindings, binding.2.nesting ≤ depth + 3 :=
    fun binding bound => (writable.facts binding bound).nesting
  obtain ⟨facts, foundFacts, alikeFacts⟩ :=
    Memory.read_toJson nested (preserved_facts preserved)
  have each : ∀ rule ∈ base.rules, ∃ again,
      Rule.record.read (depth + 3) (.ofJson rule.toJson) = .ok again ∧ again.same rule = true :=
    fun rule listed =>
      Rule.read_toJson (writable.rules rule listed) (preserved_rule preserved rule listed)
  obtain ⟨rules, foundRules, alikeRules⟩ :=
    Outline.readSequence_map Rule.record.read Rule.toJson
      (fun again rule => again.same rule = true) each
  have foundGoals := readGoals base.goals (depth + 3)
  refine ⟨⟨base.name, base.strategy, facts, base.goals, rules⟩, ?_, ?_⟩
  · unfold toJson
    -- Only a strategy that is there is written.
    cases base.strategy with
    | none =>
      refine Json.Record.read_object (by simp [record]) (by simp) (by simp [record]) ?_
      simp [Json.Record.assignAll, record, blank, foundFacts, foundGoals, foundRules]
    | some strategy =>
      have foundStrategy : Outline.readOption Outline.readText (.ofJson (.text strategy)) =
          .ok (some strategy) := by
        rw [Outline.ofJson]
        rfl
      refine Json.Record.read_object (by simp [record]) (by simp) (by simp [record]) ?_
      simp [Json.Record.assignAll, record, blank, foundStrategy, foundFacts, foundGoals,
        foundRules]
  · obtain ⟨count, rulesAlike⟩ := all_zip_of_forall₂ alikeRules
    simp [same, alikeFacts, count, rulesAlike]

theorem legible_toJson (preserved : ∀ number ∈ base.numbers, number.IsPreserved) :
    base.toJson.Legible := by
  have facts := Memory.legible_toJson (preserved_facts preserved)
  have rules : ∀ rule ∈ base.rules, rule.toJson.Legible := fun rule listed =>
    Rule.legible_toJson (preserved_rule preserved rule listed)
  unfold toJson
  cases base.strategy <;> simpa [Json.ofTexts, facts] using rules

/-- The text of a knowledge base that was read is read as the same knowledge base: with its name,
its strategy or none, its facts and goals, and its rules in order, symbols without a meaning and
nested lists included. All that this takes is that numbers of the knowledge base that are finite
are read back as they are written. -/
theorem ofText_toJson {text : String} {base : KnowledgeBase} (accepted : ofText text = .ok base)
    (faithful : ∀ number ∈ base.numbers, number.isFinite = true → number.readsBack = true) :
    ∀ written ∈ [base.toJson.compact, base.toJson.pretty], ∃ again,
      ofText written = .ok again ∧ again.same base = true := by
  have writable := writable_of_ofText accepted
  have preserved : ∀ number ∈ base.numbers, number.IsPreserved := fun number member =>
    have finite := writable.finite number member
    ⟨finite, faithful number member finite⟩
  have legible := legible_toJson preserved
  obtain ⟨again, found, alike⟩ := read_toJson writable preserved
  intro written listed
  have outlined : Outline.read written = ⟨.ofJson base.toJson, false⟩ := by
    rcases List.mem_pair.mp listed with rfl | rfl
    · exact Outline.read_compact legible
    · exact Outline.read_pretty legible
  refine ⟨again, Json.readDocument_eq_ok.mpr ?_, alike⟩
  rw [outlined]
  exact ⟨found, rfl⟩

/-- A knowledge base with its members out of order, one that means nothing, and a rule written as an
array with an operator that is not known. -/
def patioText : String :=
  "\x7b\"rules\":[[\"dry\",2,[[\"soil\",\"~\",[0.25,null]]]]],\"note\":0,\"name\":\"patio\"," ++
    "\"facts\":\x7b\"soil\":[1.5,[null]]\x7d\x7d"

theorem ofText_toJson_patio : ∃ base, ofText patioText = .ok base ∧
    (∀ number ∈ base.numbers, number.isFinite = true → number.readsBack = true) ∧
    ∀ written ∈ [base.toJson.compact, base.toJson.pretty], ∃ again,
      ofText written = .ok again ∧ again.same base = true := by
  have read : (ofText patioText).toOption.map numbers =
      some [⟨0x3FF8000000000000⟩, ⟨0x3FD0000000000000⟩] := by decide +kernel
  obtain ⟨base, found, numbers⟩ := Option.map_eq_some_iff.mp read
  have accepted : ofText patioText = .ok base := by
    cases result : ofText patioText with
    | error problem =>
      rw [result] at found
      cases found
    | ok other =>
      rw [result] at found
      exact congrArg Except.ok (Option.some.inj found)
  have faithful : ∀ number ∈ base.numbers, number.isFinite = true → number.readsBack = true := by
    rw [numbers]
    decide +kernel
  exact ⟨base, accepted, faithful, ofText_toJson accepted faithful⟩

end Chaining.KnowledgeBase
