import Chaining.Value

set_option autoImplicit false

namespace Chaining

/-- Names ascend strictly, in the order of their code points. -/
def Ascending {α : Type} (bindings : List (String × α)) : Prop :=
  bindings.Pairwise fun earlier later => earlier.1 < later.1

structure Memory where
  bindings : List (String × Value)
  ascending : Ascending bindings

namespace Memory

/-- Binds a name at its place and gives back the value it was bound to. -/
def place (name : String) (value : Value) :
    List (String × Value) → Option Value × List (String × Value)
  | [] => (none, [(name, value)])
  | (other, old) :: rest =>
    if name = other then (some old, (name, value) :: rest)
    else if name < other then (none, (name, value) :: (other, old) :: rest)
    else ((place name value rest).1, (other, old) :: (place name value rest).2)

theorem mem_place {name : String} {value : Value} {bindings : List (String × Value)}
    {binding : String × Value} (inside : binding ∈ (place name value bindings).2) :
    binding = (name, value) ∨ binding ∈ bindings := by
  induction bindings with
  | nil => simpa [place] using inside
  | cons head rest ih =>
    obtain ⟨other, old⟩ := head
    unfold place at inside
    split at inside
    · exact (List.mem_cons.mp inside).imp_right (List.mem_cons_of_mem _)
    · split at inside
      · exact List.mem_cons.mp inside
      · rcases List.mem_cons.mp inside with first | later
        · exact Or.inr (first ▸ List.mem_cons_self)
        · exact (ih later).imp_right (List.mem_cons_of_mem _)

theorem place_ascending (name : String) (value : Value) {bindings : List (String × Value)}
    (ascending : Ascending bindings) : Ascending (place name value bindings).2 := by
  induction bindings with
  | nil => simp [place, Ascending]
  | cons head rest ih =>
    obtain ⟨other, old⟩ := head
    obtain ⟨above, later⟩ := List.pairwise_cons.mp ascending
    unfold place
    split
    · rename_i equal
      exact List.pairwise_cons.mpr ⟨fun binding inside => equal ▸ above binding inside, later⟩
    · rename_i different
      split
      · rename_i less
        refine List.pairwise_cons.mpr ⟨fun binding inside => ?_, ascending⟩
        rcases List.mem_cons.mp inside with first | inside
        · exact first ▸ less
        · exact String.lt_trans less (above binding inside)
      · rename_i notLess
        refine List.pairwise_cons.mpr ⟨fun binding inside => ?_, ih later⟩
        rcases mem_place inside with first | inside
        · have least : other ≤ name := String.not_lt.mp notLess
          rw [first]
          exact Decidable.byContradiction fun notMore =>
            different (String.le_antisymm (String.not_lt.mp notMore) least)
        · exact above binding inside

def empty : Memory := ⟨[], .nil⟩

/-- Binds a name and gives back the value it was bound to. -/
def replace (memory : Memory) (name : String) (value : Value) : Option Value × Memory :=
  let placed := place name value memory.bindings
  (placed.1, ⟨placed.2, place_ascending name value memory.ascending⟩)

def set (memory : Memory) (name : String) (value : Value) : Memory := (memory.replace name value).2

def get? (memory : Memory) (name : String) : Option Value := memory.bindings.lookup name

/-- Whether a name is bound, be it to null. -/
def has (memory : Memory) (name : String) : Bool := (memory.get? name).isSome

def size (memory : Memory) : Nat := memory.bindings.length

def isEmpty (memory : Memory) : Bool := memory.bindings.isEmpty

def extend (memory : Memory) (bindings : List (String × Value)) : Memory :=
  bindings.foldl (fun memory binding => memory.set binding.1 binding.2) memory

def ofList (bindings : List (String × Value)) : Memory := empty.extend bindings

def same (left right : Memory) : Bool :=
  sameBindings left.bindings right.bindings
where
  sameBindings : List (String × Value) → List (String × Value) → Bool
    | [], [] => true
    | left :: lefts, right :: rights =>
      left.1 == right.1 && left.2.same right.2 && sameBindings lefts rights
    | _, _ => false

def satisfies (memory : Memory) (goals : List String) : Bool :=
  goals.all fun goal => (memory.get? goal).any Value.isAffirmative

def toJson (memory : Memory) : Json :=
  .object (memory.bindings.map fun binding => (binding.1, binding.2.toJson))

/-- Reads a memory from an object of values. The last value of a repeated name is taken. -/
def read (depth : Nat) (outline : Json.Outline) : Json.Reading Memory := do
  let bindings ← outline.readMap Value.read depth
  return ofList bindings

end Memory

end Chaining
