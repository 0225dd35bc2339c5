import Chaining.Memory

set_option autoImplicit false

namespace Chaining.Memory

/-- Nothing is known about a name: it is not bound, or it is bound to null. -/
def Blank (memory : Memory) (name : String) : Prop :=
  memory.get? name = none ∨ memory.get? name = some .null

theorem lookup_place_self (name : String) (value : Value) (bindings : List (String × Value)) :
    (place name value bindings).2.lookup name = some value := by
  induction bindings with
  | nil => simp [place]
  | cons head rest ih =>
    obtain ⟨other, old⟩ := head
    unfold place
    split
    · exact List.lookup_cons_self
    · rename_i different
      split
      · exact List.lookup_cons_self
      · rw [List.lookup_cons, beq_false_of_ne different]
        exact ih

theorem lookup_place_of_ne {name asked : String} (different : asked ≠ name) (value : Value)
    (bindings : List (String × Value)) :
    (place name value bindings).2.lookup asked = bindings.lookup asked := by
  have passed : (asked == name) = false := beq_false_of_ne different
  induction bindings with
  | nil => simp [place, List.lookup_cons, passed]
  | cons head rest ih =>
    obtain ⟨other, old⟩ := head
    unfold place
    split
    · rename_i equal
      rw [List.lookup_cons, List.lookup_cons, ← equal, passed]
    · split
      · rw [List.lookup_cons, passed]
      · rw [List.lookup_cons, List.lookup_cons]
        split
        · rfl
        · exact ih

@[simp] theorem get?_set_self (memory : Memory) (name : String) (value : Value) :
    (memory.set name value).get? name = some value :=
  lookup_place_self name value memory.bindings

theorem get?_set_of_ne (memory : Memory) {name asked : String} (different : asked ≠ name)
    (value : Value) : (memory.set name value).get? asked = memory.get? asked :=
  lookup_place_of_ne different value memory.bindings

/-- Of bindings that are set one after another, the last one of a name counts. -/
theorem get?_extend (memory : Memory) (bindings : List (String × Value)) (name : String) :
    (memory.extend bindings).get? name =
      (bindings.reverse.lookup name).or (memory.get? name) := by
  induction bindings generalizing memory with
  | nil => rfl
  | cons first rest ih =>
    have later : memory.extend (first :: rest) = (memory.set first.1 first.2).extend rest := rfl
    rw [later, ih, List.reverse_cons, List.lookup_append, Option.or_assoc]
    by_cases same : name = first.1
    · rw [same, get?_set_self, List.lookup_cons_self, Option.some_or]
    · rw [get?_set_of_ne memory same, List.lookup_cons, beq_false_of_ne same, List.lookup_nil,
        Option.none_or]

theorem get?_extend_of_unique {name : String} {value : Value} {bindings : List (String × Value)}
    (unique : ∀ binding ∈ bindings, binding.1 = name → binding.2 = value) {memory : Memory}
    (there : (name, value) ∈ bindings ∨ memory.get? name = some value) :
    (memory.extend bindings).get? name = some value := by
  rw [get?_extend]
  cases last : bindings.reverse.lookup name with
  | none =>
    rw [List.lookup_eq_none_iff] at last
    refine there.resolve_left fun inside => ?_
    simpa using last (name, value) (List.mem_reverse.mpr inside)
  | some found =>
    obtain ⟨front, back, split, _⟩ := List.lookup_eq_some_iff.mp last
    have inside : (name, found) ∈ bindings := List.mem_reverse.mp (by simp [split])
    have same : found = value := unique (name, found) inside rfl
    rw [same, Option.some_or]

theorem lookup_eq_none_of_lt {name : String} {bindings : List (String × Value)}
    (above : ∀ binding ∈ bindings, name < binding.1) : bindings.lookup name = none := by
  rw [List.lookup_eq_none_iff]
  intro binding inside
  exact bne_iff_ne.mpr fun equal => String.lt_irrefl name (equal ▸ above binding inside)

/-- What a binding replaces is what was bound before. -/
theorem place_fst (name : String) (value : Value) {bindings : List (String × Value)}
    (ascending : Ascending bindings) : (place name value bindings).1 = bindings.lookup name := by
  induction bindings with
  | nil => rfl
  | cons head rest ih =>
    obtain ⟨other, old⟩ := head
    obtain ⟨above, later⟩ := List.pairwise_cons.mp ascending
    unfold place
    split
    · rename_i equal
      rw [equal, List.lookup_cons_self]
    · rename_i different
      rw [List.lookup_cons, beq_false_of_ne different]
      split
      · rename_i less
        exact (lookup_eq_none_of_lt fun binding inside =>
          String.lt_trans less (above binding inside)).symm
      · exact ih later

theorem replace_fst (memory : Memory) (name : String) (value : Value) :
    (memory.replace name value).1 = memory.get? name :=
  place_fst name value memory.ascending

theorem not_lt_of_lookup {name first : String} {value old : Value}
    {rest : List (String × Value)} (ascending : Ascending ((first, old) :: rest))
    (found : ((first, old) :: rest).lookup name = some value) : ¬ name < first := by
  intro less
  have above : ∀ binding ∈ (first, old) :: rest, name < binding.1 :=
    List.forall_mem_cons.mpr ⟨less, fun binding inside =>
      String.lt_trans less ((List.pairwise_cons.mp ascending).1 binding inside)⟩
  rw [lookup_eq_none_of_lt above] at found
  cases found

theorem eq_of_lookup {left right : List (String × Value)} (ascending : Ascending left)
    (ascends : Ascending right) (same : ∀ name, left.lookup name = right.lookup name) :
    left = right := by
  induction left generalizing right with
  | nil =>
    cases right with
    | nil => rfl
    | cons head rest =>
      have bound := same head.1
      rw [List.lookup_cons_self] at bound
      cases bound
  | cons head rest ih =>
    obtain ⟨name, value⟩ := head
    have bound : right.lookup name = some value := by rw [← same, List.lookup_cons_self]
    cases right with
    | nil => cases bound
    | cons first others =>
      obtain ⟨other, old⟩ := first
      have answered : ((name, value) :: rest).lookup other = some old := by
        rw [same, List.lookup_cons_self]
      obtain rfl : name = other := String.le_antisymm
        (String.not_lt.mp (not_lt_of_lookup ascending answered))
        (String.not_lt.mp (not_lt_of_lookup ascends bound))
      obtain rfl : old = value := by
        rw [List.lookup_cons_self] at bound
        exact Option.some.inj bound
      obtain ⟨above, later⟩ := List.pairwise_cons.mp ascending
      obtain ⟨beyond, last⟩ := List.pairwise_cons.mp ascends
      rw [ih later last fun asked => ?_]
      by_cases equal : asked = name
      · rw [equal, lookup_eq_none_of_lt above, lookup_eq_none_of_lt beyond]
      · have passed : (asked == name) = false := beq_false_of_ne equal
        have agreed := same asked
        rw [List.lookup_cons, List.lookup_cons, passed] at agreed
        exact agreed

theorem ext_get? {left right : Memory} (same : ∀ name, left.get? name = right.get? name) :
    left = right := by
  obtain ⟨bindings, ascending⟩ := left
  obtain ⟨others, ascends⟩ := right
  obtain rfl : bindings = others := eq_of_lookup ascending ascends same
  rfl

theorem has_iff {memory : Memory} {name : String} :
    memory.has name = true ↔ ∃ value, memory.get? name = some value :=
  Option.isSome_iff_exists

theorem not_has_iff {memory : Memory} {name : String} :
    ¬ memory.has name = true ↔ memory.get? name = none :=
  Option.not_isSome_iff_eq_none

end Chaining.Memory
