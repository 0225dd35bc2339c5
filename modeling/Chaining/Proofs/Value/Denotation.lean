import Chaining.Proofs.Value.Written
import Mathlib.Data.List.Forall2

set_option autoImplicit false

namespace Chaining

open Json (Outline descend_eq_ok)

/-- An outline stands for a value. Nothing is the value of an object, of a number out of range, of a
surrogate without its partner or of a text that breaks off. -/
inductive Json.Outline.Denotes : Outline → Value → Prop
  | null : Denotes .null .null
  | boolean (value : Bool) : Denotes (.boolean value) (.boolean value)
  | number {numeral : Numeral} {quantity : Quantity}
      (within : numeral.quantity? = some quantity) :
      Denotes (.number numeral) (.number quantity.number)
  | text (content : String) : Denotes (.text (some content)) (.text content)
  | array {items : List Outline} {values : List Value} (each : List.Forall₂ Denotes items values) :
      Denotes (.array items .closed) (.list values)

namespace Value

theorem nesting_list_le {values : List Value} {depth : Nat} :
    (list values).nesting ≤ depth ↔ ∃ inner, depth = inner + 1 ∧ itemNesting values ≤ inner := by
  rw [nesting]
  constructor
  · intro nested
    obtain ⟨inner, rfl⟩ := Nat.exists_eq_add_one_of_ne_zero (Nat.ne_zero_of_lt nested)
    exact ⟨inner, rfl, Nat.le_of_succ_le_succ nested⟩
  · rintro ⟨inner, rfl, nested⟩
    exact Nat.succ_le_succ nested

mutual

theorem denotes_of_readContent {depth : Nat} {outline : Outline} {value : Value}
    (read : readContent depth outline = .ok (some value)) : outline.Denotes value := by
  match outline with
  | .null =>
    cases read
    exact .null
  | .boolean content =>
    cases read
    exact .boolean content
  | .number numeral =>
    obtain ⟨quantity, found, read⟩ := bind_eq_ok.mp read
    cases read
    exact .number (Outline.quantity_eq_ok.mp found)
  | .text content =>
    obtain ⟨text, found, read⟩ := bind_eq_ok.mp read
    cases read
    obtain rfl := Outline.textOf_eq_ok.mp found
    exact .text text
  | .array items ending =>
    obtain ⟨inner, rfl, read⟩ := descend_eq_ok.mp read
    obtain ⟨contents, found, read⟩ := bind_eq_ok.mp read
    obtain ⟨_, closed, read⟩ := bind_eq_ok.mp read
    obtain rfl := Json.Ending.check_eq_ok.mp closed
    cases contents with
    | none => cases read
    | some values =>
      cases read
      exact .array (denotes_of_readContents found)
  | .object _ _ =>
    obtain ⟨inner, rfl, read⟩ := descend_eq_ok.mp read
    obtain ⟨_, _, read⟩ := bind_eq_ok.mp read
    obtain ⟨_, _, read⟩ := bind_eq_ok.mp read
    cases read
  | .broken _ _ => cases read

theorem denotes_of_readContents {depth : Nat} {items : List Outline} {values : List Value}
    (read : readContents depth items = .ok (some values)) :
    List.Forall₂ Outline.Denotes items values := by
  match items with
  | [] =>
    cases read
    exact .nil
  | item :: rest =>
    obtain ⟨content, found, read⟩ := bind_eq_ok.mp read
    obtain ⟨contents, later, read⟩ := bind_eq_ok.mp read
    cases content with
    | none => cases read
    | some value =>
      cases contents with
      | none => cases read
      | some others =>
        cases read
        exact .cons (denotes_of_readContent found) (denotes_of_readContents later)

end

mutual

theorem readContent_of_denotes {depth : Nat} {outline : Outline} {value : Value}
    (denotes : outline.Denotes value) (nested : value.nesting ≤ depth) :
    readContent depth outline = .ok (some value) := by
  match outline with
  | .null
  | .boolean _
  | .text _ =>
    cases denotes
    rfl
  | .number numeral =>
    cases denotes with
    | number within =>
      rw [readContent, Outline.quantity_eq_ok.mpr within]
      rfl
  | .array items ending =>
    cases denotes with
    | array each =>
      obtain ⟨inner, rfl, inside⟩ := nesting_list_le.mp nested
      rw [readContent, Json.descend, readContents_of_denotes each inside]
      rfl
  | .object _ _
  | .broken _ _ => cases denotes

theorem readContents_of_denotes {depth : Nat} {items : List Outline} {values : List Value}
    (each : List.Forall₂ Outline.Denotes items values) (nested : itemNesting values ≤ depth) :
    readContents depth items = .ok (some values) := by
  match items with
  | [] =>
    cases each
    rfl
  | item :: rest =>
    cases each with
    | cons first others =>
      rw [itemNesting, Nat.max_le] at nested
      rw [readContents, readContent_of_denotes first nested.1, ok_bind,
        readContents_of_denotes others nested.2]
      rfl

end

/-- What is read is what the outline stands for, and nothing else is refused but depth. -/
theorem read_eq_ok_iff_denotes {depth : Nat} {outline : Outline} {value : Value} :
    read depth outline = .ok value ↔ outline.Denotes value ∧ value.nesting ≤ depth := by
  rw [read_eq_ok]
  constructor
  · exact fun read => ⟨denotes_of_readContent read, (writable_of_readContent read).nesting⟩
  · exact fun ⟨denotes, nested⟩ => readContent_of_denotes denotes nested

end Value

end Chaining
