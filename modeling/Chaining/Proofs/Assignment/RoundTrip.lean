import Chaining.Assignment
import Chaining.Proofs.Json.Trimming
import Chaining.Proofs.KnowledgeBase.Facts

set_option autoImplicit false

namespace Chaining

open Json (Gap Member Outline Spells)

namespace Assignment

/-- White space around the name and around the value. -/
structure Spacing where
  beforeName : Text.Padding
  afterName : Text.Padding
  beforeValue : Text.Padding
  afterValue : Text.Padding

def Spacing.argument (spacing : Spacing) (name : String) (word : List Char) : String :=
  String.ofList
    (spacing.beforeName.characters ++ (name.toList ++ spacing.afterName.characters) ++
      '=' :: (spacing.beforeValue.characters ++ (word ++ spacing.afterValue.characters)))

theorem equals_not_mem_padding (padding : Text.Padding) : '=' ∉ padding.characters :=
  fun inside => absurd (padding.blank '=' inside) (by decide)

/-- An assignment is split at its first equals sign. What is written behind it is a value, or else a
bare word. -/
theorem read_split {front written : List Char} (plain : '=' ∉ front)
    (named : Text.trimmed front ≠ []) :
    Assignment.read (String.ofList (front ++ '=' :: written)) =
      match Value.ofText (String.ofList (Text.trimmed written)) with
      | .ok value => .ok (String.ofList (Text.trimmed front), value)
      | .error error =>
        if isBareWord (Text.trimmed written) then
          .ok (String.ofList (Text.trimmed front), .text (String.ofList (Text.trimmed written)))
        else .error (.badValue (String.ofList (Text.trimmed front)) error) := by
  have unequal : ∀ character ∈ front, decide (character ≠ '=') = true :=
    fun character inside => decide_eq_true fun equal => plain (equal ▸ inside)
  have nonempty : (String.ofList (Text.trimmed front)).isEmpty = false := by
    rw [String.isEmpty_eq_false_iff]
    exact fun empty => named (by rw [← String.toList_ofList (l := Text.trimmed front), empty]; rfl)
  have before : (front ++ '=' :: written).takeWhile (· ≠ '=') = front := by
    rw [List.takeWhile_append_of_pos unequal]
    simp
  have behind : (front ++ '=' :: written).dropWhile (· ≠ '=') = '=' :: written := by
    rw [List.dropWhile_append_of_pos unequal]
    simp
  cases found : Value.ofText (String.ofList (Text.trimmed written)) with
  | ok value
  | error problem =>
    simp only [Assignment.read, String.toList_ofList, before, behind, nonempty, found,
      Bool.false_eq_true, ↓reduceIte]

/-- What is around name and value is trimmed away. -/
theorem read_argument {name : String} {word : List Char} {value : Value}
    (named : Text.Solid name.toList) (plain : '=' ∉ name.toList) (solid : Text.Solid word)
    (spacing : Spacing) (read : Value.ofText (String.ofList word) = .ok value) :
    Assignment.read (spacing.argument name word) = .ok (name, value) := by
  have unequal : '=' ∉ spacing.beforeName.characters ++ (name.toList ++
      spacing.afterName.characters) := by
    simp only [List.mem_append, not_or]
    exact ⟨equals_not_mem_padding _, plain, equals_not_mem_padding _⟩
  have trimmed := Text.trimmed_padded named spacing.beforeName spacing.afterName
  have nonempty : Text.trimmed (spacing.beforeName.characters ++ (name.toList ++
      spacing.afterName.characters)) ≠ [] := by
    rw [trimmed]
    exact named.nonempty
  rw [Spacing.argument, read_split unequal nonempty, trimmed, Text.trimmed_padded solid,
    String.ofList_toList, read]

/-- The text of a value is read in an assignment as it is anywhere else. -/
theorem read_spelled {name : String} (named : Text.Solid name.toList) (plain : '=' ∉ name.toList)
    {word : List Char} {outline : Outline} (spells : Spells word outline) {value : Value}
    (accepted : Value.read Json.depthLimit outline = .ok value) (spacing : Spacing) :
    Assignment.read (spacing.argument name word) = .ok (name, value) := by
  refine read_argument named plain spells.solid spacing (Json.readDocument_eq_ok.mpr ?_)
  rw [Outline.read_alone spells]
  exact ⟨accepted, rfl⟩

/-- Assignments undo writing. The name being solid and without an equals sign, the JSON of a value
is assigned as that value, where the numbers of the value are read back as they are written; and
the text of a fact that is named once in a knowledge base is assigned as the value that it has
there. -/
theorem read_written {name : String} (named : Text.Solid name.toList) (plain : '=' ∉ name.toList) :
    (∀ value : Value, value.Writable Json.depthLimit →
      (∀ number ∈ value.numbers, number.isFinite = true → number.readsBack = true) →
      ∀ written ∈ [value.toJson.compact, value.toJson.pretty], ∀ spacing : Spacing,
        Assignment.read (spacing.argument name written.toList) = .ok (name, value)) ∧
      ∀ (facts : List Member) (text : List Char), KnowledgeBase.HasFacts facts text →
        ∀ (before after : Gap) (base : KnowledgeBase), KnowledgeBase.ofText
          (String.ofList (before.characters ++ (text ++ after.characters))) = .ok base →
        ∀ fact ∈ facts, fact.name.content = some name →
          (∀ other ∈ facts, other.name.content = some name → other = fact) →
          ∃ value, base.facts.get? name = some value ∧ ∀ spacing : Spacing,
            Assignment.read (spacing.argument name fact.value.text) = .ok (name, value) := by
  constructor
  · intro value writable faithful written listed spacing
    have preserved : ∀ number ∈ value.numbers, number.IsPreserved := fun number member =>
      have finite := writable.finite number member
      ⟨finite, faithful number member finite⟩
    have accepted : Value.read Json.depthLimit (.ofJson value.toJson) = .ok value :=
      Value.read_eq_ok.mpr (Value.readContent_toJson value writable.nesting preserved)
    have legible := Value.legible_toJson value preserved
    rcases List.mem_pair.mp listed with rfl | rfl
    · rw [Json.compact, String.toList_ofList]
      exact read_spelled named plain (Json.compact_style.spells _ 0 legible) accepted spacing
    · rw [Json.pretty, String.toList_ofList]
      exact read_spelled named plain (Json.pretty_style.spells _ 0 legible) accepted spacing
  · intro facts text has before after base accepted fact inside same only
    obtain ⟨value, bound, read⟩ := KnowledgeBase.get?_of_ofText has accepted inside same only
    refine ⟨value, bound, fun spacing => ?_⟩
    exact read_spelled named plain (has.each fact inside) (Value.read_deeper (by decide) read)
      spacing

def looseSpacing : Spacing where
  beforeName := ⟨['\u3000'], List.forall_mem_singleton.mpr rfl⟩
  afterName := ⟨[' '], List.forall_mem_singleton.mpr rfl⟩
  beforeValue := ⟨['\t'], List.forall_mem_singleton.mpr rfl⟩
  afterValue := ⟨['\n'], List.forall_mem_singleton.mpr rfl⟩

def rateFact : Member :=
  ⟨.none, .ofText "rate", .none,
    ⟨.none, (Json.Literal.ofText "a=[b ").characters, .none, .text (some "a=[b ")⟩⟩

def rateMember : Member :=
  ⟨.none, .ofText "facts", .none,
    ⟨.none, Json.objectText [rateFact] .none, .none, .object [rateFact.outline] .closed⟩⟩

def rateText : List Char := Json.objectText [rateMember] .none

theorem rateText_hasFacts : KnowledgeBase.HasFacts [rateFact] rateText := by
  have spelled : Spells rateFact.value.text rateFact.value.outline := by
    have spells := Spells.text (.ofText "a=[b ")
    rwa [Json.Literal.content_ofText] at spells
  have each : ∀ fact ∈ [rateFact], Spells fact.value.text fact.value.outline :=
    List.forall_mem_singleton.mpr spelled
  have outer : ∀ member ∈ [rateMember], Spells member.value.text member.value.outline :=
    List.forall_mem_singleton.mpr (Spells.object [rateFact] .none each)
  have isFacts : KnowledgeBase.IsFacts rateMember.value [rateFact] := ⟨⟨.none, rfl⟩, each⟩
  exact .member .none outer List.mem_cons_self (Json.Literal.content_ofText "facts") isFacts

theorem read_written_rate :
    Assignment.read (looseSpacing.argument "rate"
        (Value.list [.text "=", .number ⟨0x3FF8000000000000⟩]).toJson.compact.toList) =
          .ok ("rate", .list [.text "=", .number ⟨0x3FF8000000000000⟩]) ∧
      ∃ base value, KnowledgeBase.ofText (String.ofList rateText) = .ok base ∧
        base.facts.get? "rate" = some value ∧
        Assignment.read (looseSpacing.argument "rate" rateFact.value.text) =
          .ok ("rate", value) := by
  have named : Text.Solid "rate".toList := .between rfl rfl ['a', 't']
  have plain : '=' ∉ "rate".toList := by decide
  obtain ⟨written, loaded⟩ := read_written named plain
  have writable : (Value.list [.text "=", .number ⟨0x3FF8000000000000⟩]).Writable
      Json.depthLimit := ⟨by decide, by decide⟩
  have faithful : ∀ number ∈ (Value.list [.text "=", .number ⟨0x3FF8000000000000⟩]).numbers,
      number.isFinite = true → number.readsBack = true := by decide +kernel
  have loads : (KnowledgeBase.ofText (String.ofList rateText)).toOption.isSome = true := by
    decide +kernel
  refine ⟨written _ writable faithful _ List.mem_cons_self looseSpacing, ?_⟩
  cases found : KnowledgeBase.ofText (String.ofList rateText) with
  | error problem =>
    rw [found] at loads
    cases loads
  | ok base =>
    have accepted : KnowledgeBase.ofText (String.ofList (Gap.none.characters ++
        (rateText ++ Gap.none.characters))) = .ok base := by
      rwa [Gap.none, List.nil_append, List.append_nil]
    obtain ⟨value, bound, read⟩ := loaded [rateFact] rateText rateText_hasFacts .none .none base
      accepted rateFact (by simp) (Json.Literal.content_ofText "rate") (by simp)
    exact ⟨base, value, rfl, bound, read looseSpacing⟩

end Assignment

end Chaining
