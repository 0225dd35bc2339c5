import Chaining.Proofs.Strategy.Selection
import Chaining.Proofs.Rule.Places
import Mathlib.Data.List.Perm.Basic

set_option autoImplicit false

namespace Chaining.Strategy

/-- Rules by descending key. Rules with the same key keep their order. -/
def arranged (key : Rule → Int) (entries : List (Nat × Rule)) : List (Nat × Rule) :=
  entries.mergeSort fun first second => key second.2 ≤ key first.2

section

variable {key : Rule → Int} {entries : List (Nat × Rule)}

theorem arranged_perm : (arranged key entries).Perm entries :=
  List.mergeSort_perm entries _

theorem key_le_trans (first second third : Nat × Rule)
    (one : decide (key second.2 ≤ key first.2) = true)
    (two : decide (key third.2 ≤ key second.2) = true) :
    decide (key third.2 ≤ key first.2) = true :=
  decide_eq_true (Int.le_trans (of_decide_eq_true two) (of_decide_eq_true one))

theorem key_le_total (first second : Nat × Rule) :
    (decide (key second.2 ≤ key first.2) || decide (key first.2 ≤ key second.2)) = true := by
  simpa using Int.le_total (key second.2) (key first.2)

theorem arranged_descending :
    (arranged key entries).Pairwise fun first second => key second.2 ≤ key first.2 :=
  (List.pairwise_mergeSort key_le_trans key_le_total entries).imp of_decide_eq_true

/-- Sorting leaves the rules with one key as they are. -/
theorem arranged_filter (value : Int) :
    (arranged key entries).filter (fun entry => key entry.2 = value) =
      entries.filter fun entry => key entry.2 = value := by
  have level : (entries.filter fun entry => key entry.2 = value).Pairwise fun first second =>
      decide (key second.2 ≤ key first.2) = true := by
    rw [List.pairwise_iff_forall_sublist]
    intro first second within
    have one := List.of_mem_filter (within.subset List.mem_cons_self)
    have two := List.of_mem_filter (within.subset (List.mem_cons_of_mem first List.mem_cons_self))
    rw [of_decide_eq_true one, of_decide_eq_true two]
    exact decide_eq_true (Int.le_refl value)
  have kept := (List.sublist_mergeSort key_le_trans key_le_total level
    List.filter_sublist).filter fun entry => key entry.2 = value
  rw [List.filter_filter] at kept
  simp only [Bool.and_self] at kept
  exact (kept.eq_of_length (arranged_perm.filter _).length_eq.symm).symm

/-- One entry goes before another: its key is larger, or they tie and it stands at the earlier
place. -/
def Outranks (key : Rule → Int) (first second : Nat × Rule) : Prop :=
  key second.2 < key first.2 ∨ (key second.2 = key first.2 ∧ first.1 < second.1)

theorem Outranks.asymm {first second : Nat × Rule} (one : Outranks key first second) :
    ¬ Outranks key second first := by
  rintro (larger | ⟨_, earlier⟩) <;> rcases one with more | ⟨tie, before⟩ <;> omega

theorem arranged_outranks
    (ascending : entries.Pairwise fun earlier later => earlier.1 < later.1) :
    (arranged key entries).Pairwise (Outranks key) := by
  rw [List.pairwise_iff_forall_sublist]
  intro first second within
  have descending : key second.2 ≤ key first.2 :=
    List.pairwise_iff_forall_sublist.mp arranged_descending within
  rcases Int.lt_or_eq_of_le descending with larger | tie
  · exact Or.inl larger
  · -- Rules that tie have not been moved past one another.
    have tied := within.filter fun entry => key entry.2 = key first.2
    rw [arranged_filter] at tied
    simp only [tie, decide_true, List.filter_cons_of_pos, List.filter_nil] at tied
    have unmoved := tied.trans List.filter_sublist
    exact Or.inr ⟨tie, List.pairwise_iff_forall_sublist.mp ascending unmoved⟩

/-- Two arrangements of the same entries, each of them in rank order, are one. -/
theorem eq_of_outranks {first second : List (Nat × Rule)} (reordered : first.Perm second)
    (one : first.Pairwise (Outranks key)) (two : second.Pairwise (Outranks key)) :
    first = second :=
  List.Perm.eq_of_pairwise (fun _ _ _ _ before after => absurd after before.asymm) one two reordered

/-- What is chosen comes first in the arrangement, and the arrangement of the others follows. -/
theorem arranged_eq_cons {position : Nat} {entry : Nat × Rule}
    (ascending : entries.Pairwise fun earlier later => earlier.1 < later.1)
    (found : entries[position]? = some entry)
    (chosen : IsEarliestLargest key (entries.map (·.2)) position) :
    arranged key entries = entry :: arranged key (entries.eraseIdx position) := by
  obtain ⟨inside, rfl⟩ := List.getElem?_eq_some_iff.mp found
  obtain ⟨best, stands, greatest, first⟩ := chosen
  obtain rfl : entries[position].2 = best := by
    rw [List.getElem?_map, found] at stands
    exact Option.some.inj stands
  refine eq_of_outranks ?_ (arranged_outranks ascending) (List.pairwise_cons.mpr ⟨?_, ?_⟩)
  · exact (arranged_perm.trans (List.getElem_cons_eraseIdx_perm inside).symm).trans
      (arranged_perm.symm.cons _)
  · intro other member
    obtain ⟨place, apart, there⟩ :=
      List.mem_eraseIdx_iff_getElem?.mp (arranged_perm.subset member)
    obtain ⟨within, rfl⟩ := List.getElem?_eq_some_iff.mp there
    rcases Nat.lt_or_gt_of_ne apart with before | behind
    · have taken : entries[place].2 ∈ (entries.map (·.2)).take position := by
        rw [List.mem_take_iff_getElem]
        exact ⟨place, by simpa using Nat.lt_min.mpr ⟨before, within⟩, by simp⟩
      exact Or.inl (first _ taken)
    · have bounded := greatest _ (List.mem_map_of_mem (List.getElem_mem within))
      have later := List.pairwise_iff_getElem.mp ascending position place inside within behind
      exact (Int.lt_or_eq_of_le bounded).imp_right fun tie => ⟨tie, later⟩
  · exact arranged_outranks (ascending.sublist (List.eraseIdx_sublist _ _))

end

end Chaining.Strategy
