import Chaining.Proofs.Json.Grammar
import Chaining.Proofs.Text.Trimming

set_option autoImplicit false

namespace Chaining.Json

open Text (Solid)

theorem isBlank_of_isDigit {character : Char} (isDigit : character.isDigit = true) :
    Text.isBlank character = false := by
  simp only [Char.isDigit, Bool.and_eq_true, decide_eq_true_eq] at isDigit
  have low : 48 ≤ character.toNat := isDigit.1
  have high : character.toNat ≤ 57 := isDigit.2
  simp only [Text.isBlank, Bool.or_eq_false_iff, Bool.and_eq_false_iff, decide_eq_false_iff_not]
  omega

theorem isBlank_exponent (sign : ExponentSign) {digits : List Char}
    (all : ∀ digit ∈ digits, digit.isDigit = true) :
    ∀ character ∈ Numeral.signText sign ++ digits, Text.isBlank character = false := by
  refine List.forall_mem_append.mpr ⟨?_, fun digit member => isBlank_of_isDigit (all digit member)⟩
  cases sign <;> simp [Numeral.signText] <;> decide

theorem isBlank_numeral {numeral : Numeral} (digital : numeral.IsDigital) :
    ∀ character ∈ numeral.text, Text.isBlank character = false := by
  have sign : ∀ character ∈ (if numeral.negative then ['-'] else []),
      Text.isBlank character = false := by
    split
    · exact List.forall_mem_singleton.mpr rfl
    · simp
  have fraction : ∀ character ∈ Numeral.fractionText numeral.fraction,
      Text.isBlank character = false := by
    unfold Numeral.fractionText
    split
    · simp
    · exact List.forall_mem_cons.mpr
        ⟨rfl, fun digit member => isBlank_of_isDigit (digital.fraction digit member)⟩
  have exponent : ∀ character ∈ Numeral.exponentText numeral.exponent,
      Text.isBlank character = false := by
    cases has : numeral.exponent with
    | none => simp [Numeral.exponentText]
    | some pair =>
      exact List.forall_mem_cons.mpr
        ⟨rfl, isBlank_exponent pair.1 (digital.exponent pair.1 pair.2 has)⟩
  rw [Numeral.text_eq, Numeral.unsigned, List.forall_mem_append, List.forall_mem_append,
    List.forall_mem_append]
  exact ⟨sign, fun digit member => isBlank_of_isDigit (digital.whole digit member), fraction,
    exponent⟩

theorem exists_followed (last : Gap) (closing : Char) (pieces : List (List Char)) :
    ∃ inside, followed last closing pieces = inside ++ [closing] := by
  induction pieces with
  | nil => exact ⟨last.characters, rfl⟩
  | cons piece pieces ih =>
    obtain ⟨inside, ends⟩ := ih
    exact ⟨',' :: (piece ++ inside), by simp [followed, ends]⟩

theorem solid_bracketed {opening closing : Char} (left : Text.isBlank opening = false)
    (right : Text.isBlank closing = false) (last : Gap) (pieces : List (List Char)) :
    Solid (bracketed opening last closing pieces) := by
  cases pieces with
  | nil => exact .between left right last.characters
  | cons piece pieces =>
    obtain ⟨inside, ends⟩ := exists_followed last closing pieces
    rw [bracketed, ends, ← List.append_assoc]
    exact .between left right (piece ++ inside)

/-- The text of a value begins and ends with something else than white space. -/
theorem Spells.solid {text : List Char} {outline : Outline} (spells : Spells text outline) :
    Solid text := by
  cases spells with
  | null => exact .between rfl rfl ['u', 'l']
  | true => exact .between rfl rfl ['r', 'u']
  | false => exact .between rfl rfl ['a', 'l', 's']
  | @number numeral written =>
    refine .of_all ?_ (isBlank_numeral written.toIsDigital)
    simp [Numeral.text_eq, Numeral.unsigned, written.begun]
  | @capital numeral sign digits written exponent =>
    have mantissa : { numeral with exponent := none }.IsDigital :=
      ⟨written.whole, written.fraction, by simp⟩
    refine .of_all (by simp) (List.forall_mem_append.mpr ⟨isBlank_numeral mantissa, ?_⟩)
    exact List.forall_mem_cons.mpr
      ⟨rfl, isBlank_exponent sign (written.exponent sign digits exponent)⟩
  | text literal => exact .between rfl rfl literal.letters
  | array items last => exact solid_bracketed rfl rfl last _
  | object members last => exact solid_bracketed rfl rfl last _

end Chaining.Json
