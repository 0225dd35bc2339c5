import Chaining.Strategy

set_option autoImplicit false

namespace Chaining

def Random.Source.first {ρ : Type} : Random.Source ρ :=
  ⟨fun _ state => (0, state), fun _ _ positive => positive⟩

namespace Strategy

theorem largest_lt (key : Rule → Int) (rules : List Rule) {best position : Nat}
    (before : best < position) (bestKey : Int) :
    largest key best bestKey position rules < position + rules.length := by
  induction rules generalizing best bestKey position with
  | nil => exact before
  | cons rule rest ih =>
    rw [List.length_cons, Nat.add_comm rest.length, ← Nat.add_assoc]
    unfold largest
    split
    · exact ih (Nat.lt_succ_self position) (key rule)
    · exact ih (Nat.lt_succ_of_lt before) bestKey

theorem earliestLargest_lt (key : Rule → Int) {rules : List Rule} (nonempty : rules ≠ []) :
    earliestLargest key rules < rules.length := by
  cases rules with
  | nil => exact absurd rfl nonempty
  | cons rule rest =>
    rw [List.length_cons, Nat.add_comm]
    exact largest_lt key rest Nat.zero_lt_one (key rule)

theorem select_some {ρ : Type} (strategy : Strategy) (chance : Random.Source ρ)
    {rules : List Rule} (nonempty : rules ≠ []) (source : ρ) :
    ∃ position next, strategy.select chance rules source = some (position, next) ∧
      position < rules.length := by
  have length : 0 < rules.length := List.length_pos_iff.mpr nonempty
  have some : rules.isEmpty = false := List.isEmpty_eq_false_iff.mpr nonempty
  simp only [select, some, Bool.false_eq_true, ↓reduceIte]
  cases strategy with
  | firstMatch => exact ⟨0, source, rfl, length⟩
  | highestPriority => exact ⟨_, source, rfl, earliestLargest_lt _ nonempty⟩
  | mostSpecific => exact ⟨_, source, rfl, earliestLargest_lt _ nonempty⟩
  | random => exact ⟨_, _, rfl, chance.choose_lt rules.length source length⟩

/-- A rule stands at the position, no rule has a larger key, and all rules before it have smaller
ones. -/
def IsEarliestLargest (key : Rule → Int) (rules : List Rule) (position : Nat) : Prop :=
  ∃ best, rules[position]? = some best ∧ (∀ rule ∈ rules, key rule ≤ key best) ∧
    ∀ rule ∈ rules.take position, key rule < key best

/-- The scan keeps what it knows about the rules that it has passed. -/
theorem largest_isEarliestLargest {key : Rule → Int} {scanned : List Rule} {best : Nat}
    {rule : Rule} (found : scanned[best]? = some rule)
    (greatest : ∀ other ∈ scanned, key other ≤ key rule)
    (first : ∀ other ∈ scanned.take best, key other < key rule) (rest : List Rule) :
    IsEarliestLargest key (scanned ++ rest)
      (largest key best (key rule) scanned.length rest) := by
  induction rest generalizing scanned best rule with
  | nil => exact ⟨rule, by simpa [largest] using found, by simpa using greatest,
      by simpa [largest] using first⟩
  | cons next rest ih =>
    have passed : (scanned ++ [next]).length = scanned.length + 1 := by simp
    unfold largest
    rw [← passed, List.append_cons]
    split
    · rename_i larger
      apply ih
      · simp
      · have beaten : ∀ other ∈ scanned, key other ≤ key next := fun other before =>
          Int.le_of_lt (Int.lt_of_le_of_lt (greatest other before) larger)
        exact List.forall_mem_append.mpr ⟨beaten, by simp⟩
      · rw [List.take_left]
        exact fun other member => Int.lt_of_le_of_lt (greatest other member) larger
    · rename_i notLarger
      have inside : best < scanned.length := (List.getElem?_eq_some_iff.mp found).1
      apply ih
      · rw [List.getElem?_append_left inside, found]
      · exact List.forall_mem_append.mpr ⟨greatest, by simpa using notLarger⟩
      · rw [List.take_append_of_le_length (Nat.le_of_lt inside)]
        exact first

theorem earliestLargest_isEarliestLargest (key : Rule → Int) {rules : List Rule}
    (nonempty : rules ≠ []) : IsEarliestLargest key rules (earliestLargest key rules) := by
  cases rules with
  | nil => exact absurd rfl nonempty
  | cons rule rest =>
    have found : [rule][0]? = some rule := rfl
    exact largest_isEarliestLargest found (by simp) (by simp) rest

/-- The key of which a strategy wants the largest. The first match finds all rules equally good, and
a random choice looks at no key. -/
def key? : Strategy → Option (Rule → Int)
  | firstMatch => some fun _ => 0
  | highestPriority => some Rule.priority
  | mostSpecific => some fun rule => rule.specificity
  | random => none

/-- A strategy with a key leaves the source of chance alone. -/
theorem select_isEarliestLargest {ρ : Type} {strategy : Strategy} {key : Rule → Int}
    (ranked : strategy.key? = some key) (chance : Random.Source ρ) {rules : List Rule}
    {source next : ρ} {position : Nat}
    (selected : strategy.select chance rules source = some (position, next)) :
    IsEarliestLargest key rules position ∧ next = source := by
  have nonempty : rules ≠ [] := by
    rintro rfl
    cases selected
  have some : rules.isEmpty = false := List.isEmpty_eq_false_iff.mpr nonempty
  simp only [select, some, Bool.false_eq_true, ↓reduceIte] at selected
  cases strategy with
  | firstMatch =>
    obtain ⟨rule, rest, rfl⟩ := List.exists_cons_of_ne_nil nonempty
    cases ranked
    cases selected
    exact ⟨⟨rule, rfl, by simp, by simp⟩, rfl⟩
  | highestPriority =>
    cases ranked
    cases selected
    exact ⟨earliestLargest_isEarliestLargest _ nonempty, rfl⟩
  | mostSpecific =>
    cases ranked
    cases selected
    exact ⟨earliestLargest_isEarliestLargest _ nonempty, rfl⟩
  | random => cases ranked

/-- By priority, a rule is chosen that no other one exceeds in priority and that all before it fall
short of. By specificity, the same holds of the number of conditions. -/
theorem select_earliest {ρ : Type} (chance : Random.Source ρ) {rules : List Rule}
    (nonempty : rules ≠ []) (source : ρ) :
    (∃ position, highestPriority.select chance rules source = some (position, source) ∧
      position < rules.length ∧ IsEarliestLargest Rule.priority rules position) ∧
    ∃ position, mostSpecific.select chance rules source = some (position, source) ∧
      position < rules.length ∧
      IsEarliestLargest (fun rule => rule.specificity) rules position := by
  have best {strategy : Strategy} {key : Rule → Int} (ranked : strategy.key? = some key) :
      ∃ position, strategy.select chance rules source = some (position, source) ∧
        position < rules.length ∧ IsEarliestLargest key rules position := by
    obtain ⟨position, next, selected, inside⟩ := strategy.select_some chance nonempty source
    obtain ⟨largest, rfl⟩ := select_isEarliestLargest ranked chance selected
    exact ⟨position, selected, inside, largest⟩
  exact ⟨best rfl, best rfl⟩

/-- What there is to do in a kitchen, with priorities from the least to the largest. Wiping comes up
twice. -/
def kitchenRules : List Rule :=
  [⟨"sweep", -2147483648, [⟨"floor", .equal, .text "dirty"⟩], []⟩,
    ⟨"wipe", 2147483647, [], []⟩,
    ⟨"bake", -1, [⟨"oven", .equal, .boolean true⟩, ⟨"flour", .present, .null⟩], []⟩,
    ⟨"wipe", 2147483647, [], []⟩,
    ⟨"brew", 0, [⟨"kettle", .equal, .boolean true⟩, ⟨"tea", .present, .null⟩], []⟩]

/-- Of the two that tie, the earlier one is chosen, by either key. -/
theorem select_earliest_kitchen :
    kitchenRules ≠ [] ∧
      highestPriority.select Random.Source.first kitchenRules () = some (1, ()) ∧
      IsEarliestLargest Rule.priority kitchenRules 1 ∧
      mostSpecific.select Random.Source.first kitchenRules () = some (2, ()) ∧
      IsEarliestLargest (fun rule => rule.specificity) kitchenRules 2 := by
  have nonempty : kitchenRules ≠ [] := List.cons_ne_nil _ _
  have urgent : highestPriority.select Random.Source.first kitchenRules () = some (1, ()) := rfl
  have narrow : mostSpecific.select Random.Source.first kitchenRules () = some (2, ()) := rfl
  obtain ⟨⟨_, chosen, _, best⟩, _, taken, _, most⟩ :=
    select_earliest Random.Source.first nonempty ()
  cases urgent.symm.trans chosen
  cases narrow.symm.trans taken
  exact ⟨nonempty, urgent, best, narrow, most⟩

end Strategy

end Chaining
