import Chaining.Value
import Chaining.Proofs.Json.Written
import Chaining.Proofs.Number.Finiteness
import Chaining.Proofs.Number.ReadBack

set_option autoImplicit false

namespace Chaining.Value

open Json (Outline descend_eq_ok)

mutual

def nesting : Value → Nat
  | list items => itemNesting items + 1
  | _ => 0

def itemNesting : List Value → Nat
  | [] => 0
  | item :: rest => max (nesting item) (itemNesting rest)

end

mutual

def numbers : Value → List Number
  | number amount => [amount]
  | list items => itemNumbers items
  | _ => []

def itemNumbers : List Value → List Number
  | [] => []
  | item :: rest => numbers item ++ itemNumbers rest

end

/-- A value that JSON text can hold: it is nested at most `depth` deep, and its numbers are
finite. -/
structure Writable (depth : Nat) (value : Value) : Prop where
  nesting : value.nesting ≤ depth
  finite : ∀ number ∈ value.numbers, number.isFinite = true

theorem writable_null (depth : Nat) : null.Writable depth where
  nesting := Nat.zero_le depth
  finite := by simp [numbers]

mutual

theorem writable_of_readContent {depth : Nat} {outline : Outline} {value : Value}
    (read : readContent depth outline = .ok (some value)) : value.Writable depth := by
  match outline with
  | .null =>
    cases read
    exact writable_null depth
  | .boolean _ =>
    cases read
    exact ⟨Nat.zero_le depth, by simp [numbers]⟩
  | .number numeral =>
    obtain ⟨quantity, found, read⟩ := bind_eq_ok.mp read
    cases read
    refine ⟨Nat.zero_le depth, fun amount member => ?_⟩
    obtain rfl := List.mem_singleton.mp member
    exact Numeral.quantity?_isFinite (Outline.quantity_eq_ok.mp found)
  | .text _ =>
    obtain ⟨content, _, read⟩ := bind_eq_ok.mp read
    cases read
    exact ⟨Nat.zero_le depth, by simp [numbers]⟩
  | .array items _ =>
    obtain ⟨inner, rfl, read⟩ := descend_eq_ok.mp read
    obtain ⟨contents, found, read⟩ := bind_eq_ok.mp read
    obtain ⟨_, _, read⟩ := bind_eq_ok.mp read
    cases contents with
    | none => cases read
    | some values =>
      cases read
      obtain ⟨nested, finite⟩ := writable_of_readContents found
      exact ⟨Nat.succ_le_succ nested, finite⟩
  | .object _ _ =>
    obtain ⟨inner, rfl, read⟩ := descend_eq_ok.mp read
    obtain ⟨_, _, read⟩ := bind_eq_ok.mp read
    obtain ⟨_, _, read⟩ := bind_eq_ok.mp read
    cases read
  | .broken _ _ => cases read

theorem writable_of_readContents {depth : Nat} {items : List Outline} {values : List Value}
    (read : readContents depth items = .ok (some values)) :
    itemNesting values ≤ depth ∧ ∀ number ∈ itemNumbers values, number.isFinite = true := by
  match items with
  | [] =>
    cases read
    exact ⟨Nat.zero_le depth, by simp [itemNumbers]⟩
  | item :: rest =>
    obtain ⟨content, found, read⟩ := bind_eq_ok.mp read
    obtain ⟨contents, later, read⟩ := bind_eq_ok.mp read
    cases content with
    | none => cases read
    | some value =>
      cases contents with
      | none => cases read
      | some others =>
        cases read
        have first := writable_of_readContent found
        obtain ⟨nested, finite⟩ := writable_of_readContents later
        rw [itemNesting, itemNumbers, List.forall_mem_append]
        exact ⟨Nat.max_le.mpr ⟨first.nesting, nested⟩, first.finite, finite⟩

end

theorem read_eq_ok {depth : Nat} {outline : Outline} {value : Value} :
    read depth outline = .ok value ↔ readContent depth outline = .ok (some value) := by
  unfold read
  cases readContent depth outline with
  | error problem => simp [bind, Except.bind]
  | ok content => cases content <;> simp [Json.fail, pure, Except.pure]

theorem writable_of_read {depth : Nat} {outline : Outline} {value : Value}
    (accepted : read depth outline = .ok value) : value.Writable depth :=
  writable_of_readContent (read_eq_ok.mp accepted)

mutual

/-- What is read is read just so where brackets may be nested deeper. -/
theorem readContent_deeper {depth deeper : Nat} (more : depth ≤ deeper) {outline : Outline}
    {content : Option Value} (read : readContent depth outline = .ok content) :
    readContent deeper outline = .ok content := by
  match outline with
  | .null
  | .boolean _
  | .number _
  | .text _
  | .broken _ _ => exact read
  | .array items ending =>
    obtain ⟨inner, rfl, read⟩ := descend_eq_ok.mp read
    obtain ⟨further, rfl⟩ := Nat.exists_eq_add_one_of_ne_zero (Nat.ne_zero_of_lt more)
    obtain ⟨contents, found, read⟩ := bind_eq_ok.mp read
    have again := readContents_deeper (Nat.le_of_succ_le_succ more) found
    rw [readContent, Json.descend, again]
    exact read
  | .object members ending =>
    obtain ⟨inner, rfl, read⟩ := descend_eq_ok.mp read
    obtain ⟨further, rfl⟩ := Nat.exists_eq_add_one_of_ne_zero (Nat.ne_zero_of_lt more)
    obtain ⟨_, found, read⟩ := bind_eq_ok.mp read
    have again := readMembers_deeper (Nat.le_of_succ_le_succ more) found
    rw [readContent, Json.descend, again]
    exact read

theorem readContents_deeper {depth deeper : Nat} (more : depth ≤ deeper) {items : List Outline}
    {contents : Option (List Value)} (read : readContents depth items = .ok contents) :
    readContents deeper items = .ok contents := by
  match items with
  | [] => exact read
  | item :: rest =>
    obtain ⟨first, found, read⟩ := bind_eq_ok.mp read
    obtain ⟨others, later, read⟩ := bind_eq_ok.mp read
    rw [readContents, readContent_deeper more found, ok_bind, readContents_deeper more later]
    exact read

theorem readMembers_deeper {depth deeper : Nat} (more : depth ≤ deeper)
    {members : List (Option String × Outline)} (read : readMembers depth members = .ok ()) :
    readMembers deeper members = .ok () := by
  match members with
  | [] => exact read
  | (name, value) :: rest =>
    obtain ⟨_, named, read⟩ := bind_eq_ok.mp read
    obtain ⟨_, found, read⟩ := bind_eq_ok.mp read
    rw [readMembers, named, ok_bind, readContent_deeper more found, ok_bind]
    exact readMembers_deeper more read

end

theorem read_deeper {depth deeper : Nat} (more : depth ≤ deeper) {outline : Outline} {value : Value}
    (accepted : read depth outline = .ok value) : read deeper outline = .ok value :=
  read_eq_ok.mpr (readContent_deeper more (read_eq_ok.mp accepted))

mutual

/-- The JSON of a value is read as the value, where text preserves its numbers. -/
theorem readContent_toJson (value : Value) {depth : Nat} (nested : value.nesting ≤ depth)
    (preserved : ∀ number ∈ value.numbers, number.IsPreserved) :
    readContent depth (.ofJson value.toJson) = .ok (some value) := by
  match value with
  | null
  | boolean content
  | text content => rfl
  | number amount =>
    have kept := preserved amount (by simp [numbers])
    obtain ⟨-, quantity, found, rfl⟩ := kept.quantity?
    rw [toJson, if_pos kept.finite, Outline.ofJson, readContent,
      Outline.quantity_eq_ok.mpr found, ok_bind]
    rfl
  | list items =>
    obtain ⟨inner, rfl⟩ := Nat.exists_eq_add_one_of_ne_zero (Nat.ne_zero_of_lt nested)
    have found := readContents_toJson items (Nat.le_of_succ_le_succ nested) preserved
    rw [toJson, Outline.ofJson, readContent, Json.descend, found]
    rfl

theorem readContents_toJson (values : List Value) {depth : Nat}
    (nested : itemNesting values ≤ depth)
    (preserved : ∀ number ∈ itemNumbers values, number.IsPreserved) :
    readContents depth (Outline.ofItems (toJsonItems values)) = .ok (some values) := by
  match values with
  | [] => rfl
  | value :: rest =>
    rw [itemNesting, Nat.max_le] at nested
    rw [itemNumbers, List.forall_mem_append] at preserved
    rw [toJsonItems, Outline.ofItems, readContents, readContent_toJson value nested.1 preserved.1,
      ok_bind, readContents_toJson rest nested.2 preserved.2, ok_bind]
    rfl

end

mutual

theorem same_self (value : Value) (finite : ∀ number ∈ value.numbers, number.isFinite = true) :
    value.same value = true := by
  match value with
  | null => rfl
  | boolean _
  | text _ => simp [same]
  | number amount => exact Number.same_self (finite amount (by simp [numbers]))
  | list items => exact sameItems_self items finite

theorem sameItems_self (values : List Value)
    (finite : ∀ number ∈ itemNumbers values, number.isFinite = true) :
    sameItems values values = true := by
  match values with
  | [] => rfl
  | value :: rest =>
    rw [itemNumbers, List.forall_mem_append] at finite
    rw [sameItems, same_self value finite.1, sameItems_self rest finite.2]
    rfl

end

theorem read_toJson {value : Value} {depth : Nat} (nested : value.nesting ≤ depth)
    (preserved : ∀ number ∈ value.numbers, number.IsPreserved) :
    ∃ again, read depth (.ofJson value.toJson) = .ok again ∧ again.same value = true :=
  ⟨value, read_eq_ok.mpr (readContent_toJson value nested preserved),
    same_self value fun number member => (preserved number member).finite⟩

mutual

theorem legible_toJson (value : Value)
    (preserved : ∀ number ∈ value.numbers, number.IsPreserved) : value.toJson.Legible := by
  match value with
  | null
  | boolean _
  | text _ => simp [toJson]
  | number amount =>
    have kept := preserved amount (by simp [numbers])
    rw [toJson, if_pos kept.finite]
    exact Json.legible_number.mpr kept.quantity?.1
  | list items =>
    rw [toJson]
    exact Json.legible_array.mpr (legible_toJsonItems items preserved)

theorem legible_toJsonItems (values : List Value)
    (preserved : ∀ number ∈ itemNumbers values, number.IsPreserved) :
    ∀ item ∈ toJsonItems values, item.Legible := by
  match values with
  | [] => simp [toJsonItems]
  | value :: rest =>
    rw [itemNumbers, List.forall_mem_append] at preserved
    rw [toJsonItems, List.forall_mem_cons]
    exact ⟨legible_toJson value preserved.1, legible_toJsonItems rest preserved.2⟩

end

end Chaining.Value
