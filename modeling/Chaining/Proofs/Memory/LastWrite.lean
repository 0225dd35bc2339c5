import Chaining.Rule
import Chaining.Proofs.Memory.Lookup
import Chaining.Proofs.Text.ByteOrder
import Mathlib.Data.List.Dedup

set_option autoImplicit false

namespace Chaining.Memory

inductive Write where
  | set (name : String) (value : Value)
  | extend (bindings : List (String × Value))
  | apply (action : Action)

def Write.perform (memory : Memory) : Write → Memory
  | set name value => (memory.replace name value).2
  | extend bindings => memory.extend bindings
  | apply action => action.apply memory

def Write.bindings : Write → List (String × Value)
  | set name value => [(name, value)]
  | extend bindings => bindings
  | apply action => [(action.fact, action.value)]

def after (memory : Memory) (writes : List Write) : Memory := writes.foldl Write.perform memory

/-- What a name is bound to by the last step that binds it. -/
def lastWritten? (writes : List Write) (name : String) : Option Value :=
  (writes.flatMap Write.bindings).reverse.lookup name

theorem Write.perform_eq_extend (memory : Memory) (write : Write) :
    write.perform memory = memory.extend write.bindings := by
  cases write <;> rfl

/-- Steps are nothing but their bindings, set one after another. -/
theorem after_eq_extend (memory : Memory) (writes : List Write) :
    memory.after writes = memory.extend (writes.flatMap Write.bindings) := by
  induction writes generalizing memory with
  | nil => rfl
  | cons write rest ih =>
    rw [after, List.foldl_cons, ← after, ih, write.perform_eq_extend, extend, extend, extend,
      List.flatMap_cons, List.foldl_append]

theorem get?_after (memory : Memory) (writes : List Write) (name : String) :
    (memory.after writes).get? name = (lastWritten? writes name).or (memory.get? name) := by
  rw [after_eq_extend, get?_extend, lastWritten?]

theorem mem_map_fst_iff {bindings : List (String × Value)} {name : String} :
    name ∈ bindings.map (·.1) ↔ bindings.lookup name ≠ none := by
  rw [ne_eq, List.lookup_eq_none_iff, List.mem_map]
  constructor
  · rintro ⟨binding, inside, rfl⟩ unbound
    simpa using unbound binding inside
  · intro bound
    by_contra unlisted
    exact bound fun binding inside => bne_iff_ne.mpr fun same =>
      unlisted ⟨binding, inside, same.symm⟩

theorem nodup_names (memory : Memory) : (memory.bindings.map (·.1)).Nodup :=
  List.pairwise_map.mpr (memory.ascending.imp String.ne_of_lt)

/-- Setting bindings binds their names and keeps all others bound. -/
theorem mem_names_extend {memory : Memory} {bindings : List (String × Value)} {name : String} :
    name ∈ (memory.extend bindings).bindings.map (·.1) ↔
      name ∈ (memory.bindings ++ bindings).map (·.1) := by
  rw [mem_map_fst_iff, List.map_append, List.mem_append, or_comm, ← List.mem_reverse,
    ← List.map_reverse, mem_map_fst_iff, mem_map_fst_iff, ← not_and_or, ← Option.or_eq_none_iff]
  exact not_congr (by rw [← get?, get?_extend, get?])

theorem size_extend (memory : Memory) (bindings : List (String × Value)) :
    (memory.extend bindings).size = ((memory.bindings ++ bindings).map (·.1)).dedup.length := by
  have reordered : ((memory.extend bindings).bindings.map (·.1)).Perm
      ((memory.bindings ++ bindings).map (·.1)).dedup :=
    (List.perm_ext_iff_of_nodup (nodup_names _) (List.nodup_dedup _)).mpr fun name => by
      rw [mem_names_extend, List.mem_dedup]
  rw [← reordered.length_eq, List.length_map, size]

/-- After any steps, the names of a memory come in the order of their bytes. A name is bound to what
was written last, else to what it was bound to at the start, else not at all. Setting a name gives
back what the name was bound to. There are as many bindings as different names that were bound at
the start or by a step. Steps that write the same values last lead to the same memory. -/
theorem after_last_writes (start : Memory) (writes : List Write) :
    ((start.after writes).bindings.map fun binding => Text.bytes binding.1).Pairwise (· < ·) ∧
      (∀ name, (start.after writes).get? name =
        (lastWritten? writes name).or (start.get? name)) ∧
      (∀ name value, ((start.after writes).replace name value).1 =
        (start.after writes).get? name) ∧
      (start.after writes).size =
        ((start.bindings ++ writes.flatMap Write.bindings).map (·.1)).dedup.length ∧
      ∀ others, (∀ name, lastWritten? others name = lastWritten? writes name) →
        start.after others = start.after writes := by
  refine ⟨?_, get?_after start writes, replace_fst _, ?_, fun others same => ?_⟩
  · exact List.pairwise_map.mpr ((start.after writes).ascending.imp Text.bytes_lt)
  · rw [after_eq_extend, size_extend]
  · refine ext_get? fun name => ?_
    rw [get?_after, get?_after, same]

/-- A pot, and a name that comes after most others. -/
def stoveMemory : Memory := ofList [("～", .null), ("pot", .text "cold")]

def slowWrites : List Write :=
  [.set "stove" (.boolean true), .extend [("pot", .text "warm"), ("pot", .text "hot")],
    .apply ⟨"stove", .null⟩, .set "🍲" (.boolean true)]

def quickWrites : List Write :=
  [.extend [("🍲", .boolean true), ("stove", .null)], .apply ⟨"pot", .text "hot"⟩]

/-- However the pot got hot, it is hot, and four names are bound. -/
theorem after_last_writes_stove :
    (∀ name, lastWritten? quickWrites name = lastWritten? slowWrites name) ∧
      stoveMemory.after quickWrites = stoveMemory.after slowWrites ∧
      (stoveMemory.after slowWrites).get? "pot" = some (.text "hot") ∧
      ((stoveMemory.after slowWrites).replace "stove" (.boolean true)).1 = some .null ∧
      (stoveMemory.after slowWrites).size = 4 ∧
      (stoveMemory.after slowWrites).bindings.map (·.1) = ["pot", "stove", "～", "🍲"] := by
  have same : ∀ name, lastWritten? quickWrites name = lastWritten? slowWrites name := by
    intro name
    by_cases pot : name = "pot"
    · subst pot
      rfl
    · by_cases stove : name = "stove"
      · subst stove
        rfl
      · by_cases stew : name = "🍲"
        · subst stew
          rfl
        · simp [lastWritten?, quickWrites, slowWrites, Write.bindings, List.lookup_cons,
            beq_false_of_ne, pot, stove, stew]
  obtain ⟨-, answers, replaced, size, alike⟩ := after_last_writes stoveMemory slowWrites
  exact ⟨same, alike quickWrites same, answers "pot", (replaced "stove" (.boolean true)).trans
    (answers "stove"), size, rfl⟩

end Chaining.Memory
