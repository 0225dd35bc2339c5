import Chaining.Proofs.Rule.Effect

set_option autoImplicit false

namespace Chaining.Rule

def placed (rules : List Rule) : List (Nat × Rule) :=
  rules.zipIdx.map fun entry => (entry.2, entry.1)

theorem mem_placed {rules : List Rule} {entry : Nat × Rule} :
    entry ∈ placed rules ↔ rules[entry.1]? = some entry.2 := by
  rw [placed, List.mem_map]
  constructor
  · rintro ⟨place, member, rfl⟩
    exact List.mem_zipIdx_iff_getElem?.mp member
  · intro found
    exact ⟨(entry.2, entry.1), List.mem_zipIdx_iff_getElem?.mpr found, rfl⟩

theorem placed_ascending (rules : List Rule) :
    (placed rules).Pairwise fun earlier later => earlier.1 < later.1 := by
  rw [← List.pairwise_map (f := Prod.fst) (R := (· < ·))]
  have places : (placed rules).map Prod.fst = List.range' 0 rules.length := by
    rw [← List.zipIdx_map_snd, placed, List.map_map]
    rfl
  rw [places]
  exact List.pairwise_lt_range'

theorem producers_eq (rules : List Rule) (fact : String) :
    producers rules fact = (placed rules).filter fun entry => entry.2.produces fact := by
  rw [placed, List.filter_map]
  rfl

theorem mem_producers {rules : List Rule} {fact : String} {entry : Nat × Rule} :
    entry ∈ producers rules fact ↔ rules[entry.1]? = some entry.2 ∧ fact ∈ entry.2.written := by
  rw [producers_eq, List.mem_filter, mem_placed, produces_iff]

theorem producers_ascending (rules : List Rule) (fact : String) :
    (producers rules fact).Pairwise fun earlier later => earlier.1 < later.1 := by
  rw [producers_eq]
  exact (placed_ascending rules).filter _

end Chaining.Rule
