import Chaining.Memory
import Chaining.Proofs.Value.Written

set_option autoImplicit false

namespace Chaining.Memory

open Json (Outline)

def numbers (memory : Memory) : List Number :=
  memory.bindings.flatMap fun binding => binding.2.numbers

theorem mem_extend {memory : Memory} {bindings : List (String × Value)}
    {binding : String × Value} (inside : binding ∈ (memory.extend bindings).bindings) :
    binding ∈ bindings ∨ binding ∈ memory.bindings := by
  induction bindings generalizing memory with
  | nil => exact .inr inside
  | cons first rest ih =>
    rcases ih inside with later | set
    · exact .inl (List.mem_cons_of_mem _ later)
    · rcases mem_place set with rfl | before
      · exact .inl List.mem_cons_self
      · exact .inr before

theorem writable_of_read {depth : Nat} {outline : Outline} {memory : Memory}
    (accepted : read (depth + 1) outline = .ok memory) :
    ∀ binding ∈ memory.bindings, binding.2.Writable depth := by
  obtain ⟨bindings, found, accepted⟩ := bind_eq_ok.mp accepted
  obtain rfl := pure_eq_ok.mp accepted
  intro binding inside
  rcases mem_extend inside with listed | unbound
  · obtain ⟨outline, value⟩ := Outline.mem_readMap found binding listed
    exact Value.writable_of_read value
  · cases unbound

theorem place_above {name : String} {value : Value} {bindings : List (String × Value)}
    (above : ∀ binding ∈ bindings, binding.1 < name) :
    (place name value bindings).2 = bindings ++ [(name, value)] := by
  induction bindings with
  | nil => rfl
  | cons head rest ih =>
    obtain ⟨other, old⟩ := head
    obtain ⟨less, above⟩ := List.forall_mem_cons.mp above
    have different : name ≠ other := fun equal => String.lt_irrefl name (equal ▸ less)
    have least : ¬ name < other := fun more => String.lt_irrefl name (String.lt_trans more less)
    rw [place, if_neg different, if_neg least, ih above]
    rfl

theorem extend_ascending {memory : Memory} {bindings : List (String × Value)}
    (ascending : Ascending (memory.bindings ++ bindings)) :
    (memory.extend bindings).bindings = memory.bindings ++ bindings := by
  induction bindings generalizing memory with
  | nil => exact (List.append_nil _).symm
  | cons first rest ih =>
    have above : ∀ binding ∈ memory.bindings, binding.1 < first.1 := fun binding inside =>
      (List.pairwise_append.mp ascending).2.2 binding inside first List.mem_cons_self
    have placed : (memory.set first.1 first.2).bindings = memory.bindings ++ [first] :=
      place_above above
    have further : Ascending ((memory.set first.1 first.2).bindings ++ rest) := by
      rw [placed, List.append_assoc]
      exact ascending
    have extended := ih further
    rw [placed, List.append_assoc] at extended
    exact extended

theorem ofList_bindings (memory : Memory) : ofList memory.bindings = memory :=
  (Memory.mk.injEq _ _ _ _).mpr (extend_ascending memory.ascending)

/-- A memory with finite numbers is the same as itself. -/
theorem same_self {memory : Memory}
    (finite : ∀ number ∈ memory.numbers, number.isFinite = true) : memory.same memory = true := by
  have each : ∀ binding ∈ memory.bindings, binding.2.same binding.2 = true := fun binding inside =>
    Value.same_self _ fun number member =>
      finite number (List.mem_flatMap.mpr ⟨binding, inside, member⟩)
  have alike {bindings : List (String × Value)}
      (each : ∀ binding ∈ bindings, binding.2.same binding.2 = true) :
      same.sameBindings bindings bindings = true := by
    induction bindings with
    | nil => rfl
    | cons binding rest ih =>
      obtain ⟨first, each⟩ := List.forall_mem_cons.mp each
      rw [same.sameBindings, first, ih each, beq_self_eq_true]
      rfl
  exact alike each

theorem numbers_of_mem {memory : Memory} {binding : String × Value}
    (inside : binding ∈ memory.bindings) {kept : Number → Prop}
    (all : ∀ number ∈ memory.numbers, kept number) : ∀ number ∈ binding.2.numbers, kept number :=
  fun number member => all number (List.mem_flatMap.mpr ⟨binding, inside, member⟩)

/-- A memory is what is read from its own JSON. -/
theorem read_back {memory : Memory} {depth : Nat}
    (nested : ∀ binding ∈ memory.bindings, binding.2.nesting ≤ depth)
    (preserved : ∀ number ∈ memory.numbers, number.IsPreserved) :
    read (depth + 1) (.ofJson memory.toJson) = .ok memory := by
  have each : ∀ binding ∈ memory.bindings, ∃ again,
      Value.read depth (.ofJson binding.2.toJson) = .ok again ∧ again = binding.2 :=
    fun binding inside => ⟨binding.2, Value.read_eq_ok.mpr (Value.readContent_toJson _
      (nested binding inside) (numbers_of_mem inside preserved)), rfl⟩
  obtain ⟨bindings, found, alike⟩ := Outline.readMap_map Value.read Value.toJson Eq each
  have same : bindings = memory.bindings :=
    List.forall₂_eq_eq_eq ▸ alike.imp fun _ _ like => Prod.ext like.1 like.2
  rw [read, toJson, found, ok_bind, same, ofList_bindings]
  rfl

theorem read_toJson {memory : Memory} {depth : Nat}
    (nested : ∀ binding ∈ memory.bindings, binding.2.nesting ≤ depth)
    (preserved : ∀ number ∈ memory.numbers, number.IsPreserved) :
    ∃ again, read (depth + 1) (.ofJson memory.toJson) = .ok again ∧
      again.same memory = true :=
  ⟨memory, read_back nested preserved,
    same_self fun number member => (preserved number member).finite⟩

theorem legible_toJson {memory : Memory}
    (preserved : ∀ number ∈ memory.numbers, number.IsPreserved) : memory.toJson.Legible := by
  rw [toJson, Json.legible_object, List.forall_mem_map]
  exact fun binding inside => Value.legible_toJson _ (numbers_of_mem inside preserved)

end Chaining.Memory
