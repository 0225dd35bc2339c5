import Chaining.Proofs.Forward.Permutation

set_option autoImplicit false

namespace Chaining

/-- The operators that hold of no value. -/
def Operator.IsDead (operator : Operator) : Prop := operator.isKnown = false ∨ operator = .absent

theorem Operator.IsDead.test {operator : Operator} (dead : operator.IsDead)
    (actual expected : Value) : operator.test actual expected = false := by
  obtain unknown | rfl := dead
  · cases operator with
    | unknown symbol => rfl
    | _ => contradiction
  · rfl

theorem Operator.IsDead.holds {condition : Condition} (dead : condition.operator.IsDead)
    (memory : Memory) : condition.holds memory = false := by
  unfold Condition.holds
  split
  · rfl
  · rfl
  · exact dead.test _ _

namespace Rule

/-- One condition that never holds keeps a rule from firing. -/
def IsDead (rule : Rule) : Prop := ∃ condition ∈ rule.conditions, condition.operator.IsDead

theorem IsDead.isApplicable {rule : Rule} (dead : rule.IsDead) (memory : Memory) :
    rule.isApplicable memory = false := by
  obtain ⟨condition, member, dead⟩ := dead
  exact List.all_eq_false.mpr ⟨condition, member, Bool.eq_false_iff.mp (dead.holds memory)⟩

end Rule

namespace Forward

variable {ρ σ : Type}

/-- Where a place goes when one more rule is put in at another place. -/
def shifted (place index : Nat) : Nat := if index < place then index else index + 1

theorem shifted_injective (place : Nat) : Function.Injective (shifted place) := by
  intro one two same
  unfold shifted at same
  split at same <;> split at same <;> omega

theorem shifted_ne (place index : Nat) : shifted place index ≠ place := by
  unfold shifted
  split <;> omega

theorem exists_shifted {place other : Nat} (apart : other ≠ place) :
    ∃ index, shifted place index = other := by
  rcases Nat.lt_or_gt_of_ne apart with before | behind
  · exact ⟨other, if_pos before⟩
  · refine ⟨other - 1, ?_⟩
    rw [shifted, if_neg (by omega)]
    omega

theorem shifted_lt {place earlier later : Nat} (before : earlier < later) :
    shifted place earlier < shifted place later := by
  unfold shifted
  split <;> split <;> omega

/-- The rules that were there before are where the shift sends them. -/
theorem getElem?_insertIdx_shifted (rules : List Rule) (rule : Rule) (place index : Nat) :
    (rules.insertIdx place rule)[shifted place index]? = rules[index]? := by
  unfold shifted
  split
  · rename_i before
    exact List.getElem?_insertIdx_of_lt before
  · rw [List.getElem?_insertIdx_of_gt (by omega), Nat.add_sub_cancel]

/-- Beside the new rule, the rules with their places are the old ones with their places shifted. -/
theorem placed_insertIdx (rules : List Rule) (rule : Rule) (place : Nat) :
    (Rule.placed (rules.insertIdx place rule)).filter (fun entry => entry.1 ≠ place) =
      (Rule.placed rules).map (moveEntry (shifted place)) := by
  have ascending := Rule.placed_ascending (rules.insertIdx place rule)
  have shifted_ascending : ((Rule.placed rules).map (moveEntry (shifted place))).Pairwise
      fun earlier later => earlier.1 < later.1 :=
    (Rule.placed_ascending rules).map _ fun _ _ => shifted_lt
  refine List.Perm.eq_of_pairwise ?_ (ascending.filter _) shifted_ascending ?_
  · exact fun one two _ _ before behind => absurd behind (Nat.lt_asymm before)
  · have apart {one two : Nat × Rule} (before : one.1 < two.1) : one ≠ two :=
      fun same => absurd (congrArg Prod.fst same) (Nat.ne_of_lt before)
    refine (List.perm_ext_iff_of_nodup ((ascending.filter _).imp apart)
      (shifted_ascending.imp apart)).mpr fun entry => ?_
    simp only [List.mem_filter, Rule.mem_placed, List.mem_map, decide_eq_true_eq]
    constructor
    · rintro ⟨stands, other⟩
      obtain ⟨index, moved⟩ := exists_shifted other
      rw [← moved, getElem?_insertIdx_shifted] at stands
      exact ⟨(index, entry.2), stands, Prod.ext moved rfl⟩
    · rintro ⟨old, stands, rfl⟩
      exact ⟨(getElem?_insertIdx_shifted rules rule place old.1).trans stands, shifted_ne place _⟩

structure Progress.Widened (place : Nat) (first second : Progress ρ σ) : Prop where
  memory : first.memory = second.memory
  source : first.source = second.source
  trace : first.trace = second.trace
  pool : second.pool.filter (fun entry => entry.1 ≠ place) =
    first.pool.map (moveEntry (shifted place))
  dead : ∀ entry ∈ second.pool, entry.1 = place → entry.2.IsDead
  fired : second.fired = first.fired.map (Firing.moved (shifted place))

theorem Progress.Widened.ready {place : Nat} {first second : Progress ρ σ}
    (widened : first.Widened place second) :
    second.ready = first.ready.map (moveEntry (shifted place)) := by
  have others : second.ready =
      (second.pool.filter fun entry => entry.1 ≠ place).filter fun entry =>
        entry.2.isApplicable second.memory := by
    rw [Progress.ready, List.filter_filter]
    refine List.filter_congr fun entry member => ?_
    by_cases new : entry.1 = place
    · simp [new, (widened.dead entry member new).isApplicable]
    · simp [new]
  rw [others, widened.pool, List.filter_map, Progress.ready, widened.memory]
  rfl

namespace Engine

variable {engine other : Engine ρ}

def withRule (engine : Engine ρ) (place : Nat) (rule : Rule) : Engine ρ :=
  { engine with rules := engine.rules.insertIdx place rule }

/-- The same rules in the same order are chosen from alike, whatever their places. -/
theorem Chooses.moved {move : Nat → Nat} {ready : List (Nat × Rule)} {source next : ρ}
    {position : Nat} {entry : Nat × Rule}
    (chosen : engine.Chooses ready source position entry next)
    (strategy : other.strategy = engine.strategy) (chance : other.chance = engine.chance) :
    other.Chooses (ready.map (moveEntry move)) source position (moveEntry move entry) next := by
  refine ⟨?_, ?_⟩
  · rw [strategy, chance, List.map_map]
    exact chosen.1
  · rw [List.getElem?_map, chosen.2]
    rfl

theorem simulates_withRule (place : Nat) (rule : Rule) (sink : Sink σ) (goals : List String) :
    engine.Simulates (engine.withRule place rule) sink sink goals
      (fun one two => two = one.map (moveEntry (shifted place))) (Progress.Widened place) where
  length := fun beside => by rw [beside, List.length_map]
  ready := fun widened => widened.ready
  met := fun widened => by rw [widened.memory]
  report := fun widened event => ⟨widened.memory, widened.source,
    congrArg (sink.record · event) widened.trace, widened.pool, widened.dead, widened.fired⟩
  choose := fun {progress wider} widened {one two} beside {position entry next} chosen => by
    subst beside
    have again : (engine.withRule place rule).Chooses (one.map (moveEntry (shifted place)))
        progress.source position (moveEntry (shifted place) entry) next := chosen.moved rfl rfl
    rw [widened.source] at again
    refine ⟨position, moveEntry (shifted place) entry, next, again, List.eraseIdx_map _ _ _,
      fun iteration size => ⟨?_, rfl, ?_, ?_, ?_, ?_⟩⟩
    · rw [Progress.choose_memory, Progress.choose_memory, widened.memory]
      rfl
    · rw [Progress.choose_told, Progress.choose_told, widened.trace]
      rfl
    · have aside : (fun old : Nat × Rule =>
          decide ((moveEntry (shifted place) old).1 ≠ shifted place entry.1)) =
          fun old => decide (old.1 ≠ entry.1) := by
        funext old
        simp [moveEntry, (shifted_injective place).eq_iff]
      rw [Progress.choose_pool, Progress.choose_pool, List.filter_comm, widened.pool,
        List.filter_map]
      exact congrArg (fun wanted => (progress.pool.filter wanted).map _) aside
    · exact fun old member => widened.dead old (List.mem_of_mem_filter member)
    · rw [Progress.choose_fired, Progress.choose_fired, widened.fired, List.map_append]
      rfl

/-- Dead rules are inert: whatever the strategy, the run with one more rule that is dead halts alike
after as many passes, tells the same events, leaves the same memory and the same source of chance,
and the same rules fire. The rule may be put in anywhere, and the places behind it are shifted. -/
theorem run_withRule (engine : Engine ρ) {rule : Rule} (dead : rule.IsDead) {place : Nat}
    (inside : place ≤ engine.rules.length) (sink : Sink σ) (goals : List String)
    (memory : Memory) (source : ρ) (trace : σ) :
    (engine.withRule place rule).run sink goals memory source trace =
      (engine.run sink goals memory source trace).moved (shifted place) := by
  have begun : Progress.Widened place ⟨memory, source, trace, engine.pool, []⟩
      ⟨memory, source, trace, (engine.withRule place rule).pool, []⟩ := by
    refine ⟨rfl, rfl, rfl, placed_insertIdx engine.rules rule place, ?_, rfl⟩
    intro entry member here
    have stands := Rule.mem_placed.mp member
    rw [here, withRule, List.getElem?_insertIdx_self, if_pos inside] at stands
    exact Option.some.inj stands ▸ dead
  obtain ⟨last, beyond, halt, iterations, widened, ended, again⟩ :=
    run_simulated (simulates_withRule place rule sink goals) rfl begun
  rw [ended, again, Progress.halt, Progress.halt, widened.fired, widened.memory, widened.source,
    widened.trace]
  rfl

/-- Two guests who may be let in first, as numbers in turn decide. -/
def doorEngine : Engine Nat where
  rules := [⟨"ada", 0, [], [⟨"hall", .text "ada"⟩]⟩, ⟨"bea", 0, [], [⟨"hall", .text "bea"⟩]⟩]
  strategy := .random
  chance := ⟨fun size number => (number % size, number + 1), fun _ _ => Nat.mod_lt _⟩
  cap := 3

/-- A guest who comes only when the hall is empty, and at no hour that there is. -/
def shyRule : Rule :=
  ⟨"cora", 9, [⟨"hall", .absent, .null⟩, ⟨"hour", .unknown "~", .null⟩],
    [⟨"hall", .text "cora"⟩]⟩

theorem run_withRule_door :
    let outcome := (doorEngine.withRule 1 shyRule).run Sink.collect ["cellar"] .empty 7 []
    shyRule.IsDead ∧ 1 ≤ doorEngine.rules.length ∧ outcome.run.fired.map (·.index) = [2, 0] ∧
      outcome = (doorEngine.run Sink.collect ["cellar"] .empty 7 []).moved (shifted 1) := by
  intro outcome
  have dead : shyRule.IsDead := ⟨⟨"hall", .absent, .null⟩, List.mem_cons_self, Or.inr rfl⟩
  have inside : 1 ≤ doorEngine.rules.length := by decide
  exact ⟨dead, inside, by decide +kernel,
    run_withRule doorEngine dead inside Sink.collect ["cellar"] .empty 7 []⟩

end Engine

end Forward

end Chaining
