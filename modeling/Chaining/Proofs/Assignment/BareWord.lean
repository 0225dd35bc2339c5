import Chaining.Proofs.Assignment.RoundTrip
import Chaining.Proofs.Value.Denotation

set_option autoImplicit false

namespace Chaining

open Json (Outline Spells)

/-- A number that is too large for any value. -/
def Json.Outline.IsOutOfRange (outline : Outline) : Prop :=
  ∃ numeral, outline = .number numeral ∧ numeral.quantity? = none

namespace Assignment

theorem isBareWord_numeral {numeral : Numeral} (digital : numeral.IsDigital)
    (begun : numeral.whole ≠ []) (rest : List Char) : isBareWord (numeral.text ++ rest) = true := by
  rw [Numeral.text_eq, Numeral.unsigned]
  cases numeral.negative with
  | true => rfl
  | false =>
    obtain ⟨digit, digits, whole⟩ := List.exists_cons_of_ne_nil begun
    have isDigit := digital.whole digit (whole ▸ List.mem_cons_self)
    have other (mark : Char) (solid : mark.isDigit = false) : digit ≠ mark := by
      rintro rfl
      rw [solid] at isDigit
      cases isDigit
    simp [whole, isBareWord, other '"' rfl, other '[' rfl, other '\x7b' rfl]

theorem isBareWord_bracketed {opening : Char} (mark : opening = '[' ∨ opening = '\x7b')
    (last : Json.Gap) (closing : Char) (pieces : List (List Char)) :
    isBareWord (Json.bracketed opening last closing pieces) = false := by
  cases pieces <;> rcases mark with rfl | rfl <;> rfl

theorem isOutOfRange_of_refused {numeral : Numeral} (refused : ∀ value,
    (Outline.number numeral).Denotes value → ¬ value.nesting ≤ Json.depthLimit) :
    (Outline.number numeral).IsOutOfRange := by
  refine ⟨numeral, rfl, Option.eq_none_iff_forall_ne_some.mpr fun quantity within => ?_⟩
  exact refused _ (.number within) (Nat.zero_le _)

/-- JSON that is refused all the same is taken for a bare word exactly when it is a number out of
range. -/
theorem isBareWord_iff_isOutOfRange {text : List Char} {outline : Outline}
    (spells : Spells text outline)
    (refused : ∀ value, outline.Denotes value → ¬ value.nesting ≤ Json.depthLimit) :
    isBareWord text = true ↔ outline.IsOutOfRange := by
  cases spells with
  | null => exact absurd (Nat.zero_le _) (refused _ .null)
  | true => exact absurd (Nat.zero_le _) (refused _ (.boolean true))
  | false => exact absurd (Nat.zero_le _) (refused _ (.boolean false))
  | number written =>
    have bare := isBareWord_numeral written.toIsDigital written.begun []
    rw [List.append_nil] at bare
    exact iff_of_true bare (isOutOfRange_of_refused refused)
  | @capital numeral sign digits written =>
    have mantissa : { numeral with exponent := none }.IsDigital :=
      ⟨written.whole, written.fraction, by simp⟩
    have bare := isBareWord_numeral mantissa written.begun
      ('E' :: (Numeral.signText sign ++ digits))
    exact iff_of_true bare (isOutOfRange_of_refused refused)
  | text literal =>
    have marked : isBareWord literal.characters = false := rfl
    exact iff_of_false (Bool.eq_false_iff.mp marked) (by simp [Outline.IsOutOfRange])
  | array items last =>
    have marked := isBareWord_bracketed (.inl rfl) last ']' (items.map Json.Item.characters)
    exact iff_of_false (Bool.eq_false_iff.mp marked) (by simp [Outline.IsOutOfRange])
  | object members last =>
    have marked := isBareWord_bracketed (.inr rfl) last '\x7d' (members.map Json.Member.characters)
    exact iff_of_false (Bool.eq_false_iff.mp marked) (by simp [Outline.IsOutOfRange])

/-- The text of a value is accepted as what it stands for, unless that is nested too deep. -/
theorem ofText_eq_ok_iff_denotes {text : List Char} {outline : Outline}
    (spells : Spells text outline) {value : Value} :
    Value.ofText (String.ofList text) = .ok value ↔
      outline.Denotes value ∧ value.nesting ≤ Json.depthLimit := by
  rw [Value.ofText, Json.readDocument_eq_ok, Outline.read_alone spells,
    Value.read_eq_ok_iff_denotes, and_iff_left rfl]

theorem not_denotes_of_isOutOfRange {outline : Outline} (beyond : outline.IsOutOfRange)
    (value : Value) : ¬ outline.Denotes value := by
  obtain ⟨numeral, rfl, nothing⟩ := beyond
  intro denotes
  cases denotes with
  | number within =>
    rw [within] at nothing
    cases nothing

section

variable {front written : List Char} {outline : Outline}

theorem read_eq_ok_iff (plain : '=' ∉ front) (named : Text.trimmed front ≠ [])
    (spells : Spells (Text.trimmed written) outline) {name : String} {value : Value} :
    Assignment.read (String.ofList (front ++ '=' :: written)) = .ok (name, value) ↔
      name = String.ofList (Text.trimmed front) ∧
        (outline.Denotes value ∧ value.nesting ≤ Json.depthLimit ∨
          outline.IsOutOfRange ∧ value = .text (String.ofList (Text.trimmed written))) := by
  have accepted := @ofText_eq_ok_iff_denotes _ _ spells
  rw [read_split plain named]
  cases found : Value.ofText (String.ofList (Text.trimmed written)) with
  | ok content =>
    have within : ¬ outline.IsOutOfRange := fun beyond =>
      not_denotes_of_isOutOfRange beyond content (accepted.mp found).1
    rw [← accepted, found]
    simp [within, eq_comm]
  | error problem =>
    have refused : ∀ value, outline.Denotes value → ¬ value.nesting ≤ Json.depthLimit := by
      intro value denotes nested
      have otherwise := accepted.mpr ⟨denotes, nested⟩
      rw [found] at otherwise
      cases otherwise
    have bare := isBareWord_iff_isOutOfRange spells refused
    rw [← accepted, found]
    by_cases beyond : outline.IsOutOfRange
    · simp [bare.mpr beyond, beyond, eq_comm]
    · simp [mt bare.mp beyond, beyond]

/-- JSON is assigned as what it stands for or refused, with one exception: a number out of range is
assigned as a text. -/
theorem read_denotes (plain : '=' ∉ front) (named : Text.trimmed front ≠ [])
    (spells : Spells (Text.trimmed written) outline) :
    (∀ name value, Assignment.read (String.ofList (front ++ '=' :: written)) = .ok (name, value) ↔
      name = String.ofList (Text.trimmed front) ∧
        (outline.Denotes value ∧ value.nesting ≤ Json.depthLimit ∨
          outline.IsOutOfRange ∧ value = .text (String.ofList (Text.trimmed written)))) ∧
      ((∀ name value, Assignment.read (String.ofList (front ++ '=' :: written)) =
          .ok (name, value) → outline.Denotes value) ↔ ¬ outline.IsOutOfRange) := by
  refine ⟨fun name value => read_eq_ok_iff plain named spells, ?_⟩
  constructor
  · intro faithful beyond
    have taken := (read_eq_ok_iff plain named spells).mpr ⟨rfl, .inr ⟨beyond, rfl⟩⟩
    exact not_denotes_of_isOutOfRange beyond _ (faithful _ _ taken)
  · intro within name value taken
    rcases ((read_eq_ok_iff plain named spells).mp taken).2 with ⟨denotes, _⟩ | ⟨beyond, _⟩
    · exact denotes
    · exact absurd beyond within

end

def farNumeral : Numeral := ⟨false, ['1'], [], some (.none, ['4', '0', '0'])⟩

theorem farNumeral_isWritten : farNumeral.IsWritten where
  whole := List.forall_mem_singleton.mpr rfl
  fraction := by simp [farNumeral]
  exponent := by
    rintro sign digits ⟨⟩
    simp only [List.forall_mem_cons]
    exact ⟨rfl, rfl, rfl, by simp⟩
  begun := List.cons_ne_nil _ _
  leading := by simp [farNumeral]
  power := by simp [farNumeral]

theorem farNumeral_isOutOfRange : (Outline.number farNumeral).IsOutOfRange :=
  ⟨farNumeral, rfl, by decide +kernel⟩

theorem read_denotes_far :
    '=' ∉ ['f', 'a', 'r', ' '] ∧ Text.trimmed ['f', 'a', 'r', ' '] ≠ [] ∧
      Spells (Text.trimmed ('\t' :: farNumeral.text)) (.number farNumeral) ∧
      Assignment.read (String.ofList (['f', 'a', 'r', ' '] ++ '=' :: '\t' :: farNumeral.text)) =
        .ok ("far", .text "1e400") := by
  have plain : '=' ∉ ['f', 'a', 'r', ' '] := by decide
  have named : Text.trimmed ['f', 'a', 'r', ' '] ≠ [] := by decide
  have spells : Spells (Text.trimmed ('\t' :: farNumeral.text)) (.number farNumeral) :=
    .number farNumeral_isWritten
  obtain ⟨assigned, -⟩ := read_denotes plain named spells
  exact ⟨plain, named, spells, (assigned _ _).mpr ⟨rfl, .inr ⟨farNumeral_isOutOfRange, rfl⟩⟩⟩

/-- The text of a number is taken for a word although it is JSON, and the word is not what the
number stands for. -/
theorem read_far : ∃ outline, Spells "1e400".toList outline ∧
    Assignment.read "x=1e400" = .ok ("x", .text "1e400") ∧
    ¬ outline.Denotes (.text "1e400") := by
  have spells : Spells (Text.trimmed farNumeral.text) (.number farNumeral) :=
    .number farNumeral_isWritten
  have plain : '=' ∉ ['x'] := by decide
  have named : Text.trimmed ['x'] ≠ [] := by decide
  refine ⟨.number farNumeral, .number farNumeral_isWritten, ?_,
    not_denotes_of_isOutOfRange farNumeral_isOutOfRange _⟩
  exact (read_eq_ok_iff plain named spells).mpr ⟨rfl, .inr ⟨farNumeral_isOutOfRange, rfl⟩⟩

end Assignment

end Chaining
