import Chaining.Proofs.Forward.Course

set_option autoImplicit false

namespace Chaining.Forward

variable {ρ σ : Type}

def Firing.ofEntry (iteration : Nat) (entry : Nat × Rule) : Firing :=
  ⟨entry.1, entry.2.name, iteration⟩

theorem iteration_of_mem_map {iteration : Nat} {batch : List (Nat × Rule)} {firing : Firing}
    (member : firing ∈ batch.map (Firing.ofEntry iteration)) : firing.iteration = iteration := by
  obtain ⟨entry, _, rfl⟩ := List.mem_map.mp member
  rfl

def replay (rules : List Rule) (start : Memory) (firings : List Firing) : Memory :=
  firings.foldl (fun memory firing => rules[firing.index]?.elim memory (·.apply memory)) start

theorem replay_cons (rules : List Rule) (start : Memory) (first : Firing) (later : List Firing) :
    replay rules start (first :: later) =
      replay rules (rules[first.index]?.elim start (·.apply start)) later := rfl

theorem replay_append (rules : List Rule) (start : Memory) (first second : List Firing) :
    replay rules start (first ++ second) = replay rules (replay rules start first) second :=
  List.foldl_append

theorem replay_singleton {rules : List Rule} {entry : Nat × Rule} (start : Memory)
    (iteration : Nat) (found : rules[entry.1]? = some entry.2) :
    replay rules start [Firing.ofEntry iteration entry] = entry.2.apply start := by
  simp only [replay, List.foldl_cons, List.foldl_nil, Firing.ofEntry, found, Option.elim_some]

namespace Run

def firedIn (run : Run) (iteration : Nat) : List Nat :=
  (run.fired.filter fun firing => firing.iteration = iteration).map (·.index)

/-- The firings of all passes before one. -/
def firedBefore (run : Run) (iteration : Nat) : List Firing :=
  run.fired.filter fun firing => firing.iteration < iteration

def memoryBefore (run : Run) (rules : List Rule) (start : Memory) (iteration : Nat) : Memory :=
  replay rules start (run.firedBefore iteration)

def memoryAfter (run : Run) (rules : List Rule) (start : Memory) (count : Nat) : Memory :=
  replay rules start (run.fired.take count)

/-- The rule at a place was not fired in an earlier pass and is applicable when the pass begins. -/
def Eligible (run : Run) (rules : List Rule) (start : Memory) (iteration index : Nat) : Prop :=
  (∀ earlier < iteration, index ∉ run.firedIn earlier) ∧
    ∃ rule, rules[index]? = some rule ∧
      rule.isApplicable (run.memoryBefore rules start iteration) = true

theorem not_firedIn_iff (run : Run) (iteration index : Nat) :
    (∀ earlier < iteration, index ∉ run.firedIn earlier) ↔
      index ∉ (run.firedBefore iteration).map (·.index) := by
  constructor
  · intro unfired member
    obtain ⟨firing, before, equal⟩ := List.mem_map.mp member
    obtain ⟨inside, earlier⟩ := List.mem_filter.mp before
    apply unfired firing.iteration (of_decide_eq_true earlier)
    exact List.mem_map.mpr ⟨firing, List.mem_filter.mpr ⟨inside, decide_eq_true rfl⟩, equal⟩
  · intro absent earlier less member
    obtain ⟨firing, within, equal⟩ := List.mem_map.mp member
    obtain ⟨inside, same⟩ := List.mem_filter.mp within
    have before : firing.iteration < iteration := of_decide_eq_true same ▸ less
    exact absent (List.mem_map.mpr
      ⟨firing, List.mem_filter.mpr ⟨inside, decide_eq_true before⟩, equal⟩)

end Run

/-- What ties the progress of a run to its firings once the pass `iteration` has begun. -/
structure Progress.Ledger (rules : List Rule) (start : Memory) (iteration : Nat)
    (progress : Progress ρ σ) : Prop where
  memory : progress.memory = replay rules start progress.fired
  pool : progress.pool =
    (Rule.placed rules).filter fun entry => entry.1 ∉ progress.fired.map (·.index)
  once : (progress.fired.map (·.index)).Nodup
  named : ∀ firing ∈ progress.fired, rules[firing.index]?.map (·.name) = some firing.name
  ordered : progress.fired.Pairwise fun earlier later => earlier.iteration ≤ later.iteration
  counted : ∀ firing ∈ progress.fired, 1 ≤ firing.iteration ∧ firing.iteration ≤ iteration

namespace Progress.Ledger

variable {rules : List Rule} {start : Memory} {iteration : Nat} {progress : Progress ρ σ}

theorem initial (rules : List Rule) (start : Memory) (source : ρ) (trace : σ) :
    Ledger rules start 0 ⟨start, source, trace, Rule.placed rules, []⟩ where
  memory := rfl
  pool := (List.filter_eq_self.mpr fun _ _ => by simp).symm
  once := List.nodup_nil
  named := by simp
  ordered := .nil
  counted := by simp

theorem report (ledger : progress.Ledger rules start iteration) (sink : Sink σ) (event : Event) :
    (progress.report sink event).Ledger rules start iteration :=
  ⟨ledger.memory, ledger.pool, ledger.once, ledger.named, ledger.ordered, ledger.counted⟩

theorem mono (ledger : progress.Ledger rules start iteration) {next : Nat}
    (le : iteration ≤ next) : progress.Ledger rules start next where
  memory := ledger.memory
  pool := ledger.pool
  once := ledger.once
  named := ledger.named
  ordered := ledger.ordered
  counted := fun firing member =>
    ⟨(ledger.counted firing member).1, Nat.le_trans (ledger.counted firing member).2 le⟩

theorem mem_pool (ledger : progress.Ledger rules start iteration) {entry : Nat × Rule} :
    entry ∈ progress.pool ↔
      rules[entry.1]? = some entry.2 ∧ entry.1 ∉ progress.fired.map (·.index) := by
  rw [ledger.pool, List.mem_filter, Rule.mem_placed, decide_eq_true_iff]

theorem mem_ready (ledger : progress.Ledger rules start iteration) {entry : Nat × Rule} :
    entry ∈ progress.ready ↔ rules[entry.1]? = some entry.2 ∧
      entry.1 ∉ progress.fired.map (·.index) ∧
      entry.2.isApplicable progress.memory = true := by
  rw [Progress.ready, List.mem_filter, ledger.mem_pool, and_assoc]

theorem pool_ascending (ledger : progress.Ledger rules start iteration) :
    progress.pool.Pairwise fun earlier later => earlier.1 < later.1 := by
  rw [ledger.pool]
  exact (Rule.placed_ascending rules).filter _

theorem choose (ledger : progress.Ledger rules start iteration) (begun : 1 ≤ iteration)
    {entry : Nat × Rule} (member : entry ∈ progress.pool) (sink : Sink σ) (size : Nat)
    (source : ρ) :
    (progress.choose sink iteration size source entry).Ledger rules start iteration := by
  obtain ⟨found, unfired⟩ := ledger.mem_pool.mp member
  refine ⟨?_, ?_, ?_, ?_, ?_, ?_⟩
  · rw [choose_memory, choose_fired, replay_append, ← ledger.memory]
    exact (replay_singleton progress.memory iteration found).symm
  · rw [choose_pool, choose_fired, ledger.pool, List.filter_filter]
    apply List.filter_congr
    intro other _
    simp only [List.map_append, List.map_cons, List.map_nil, List.mem_append,
      List.mem_singleton, not_or, Bool.decide_and, ne_eq]
    exact Bool.and_comm _ _
  · rw [choose_fired, List.map_append]
    exact List.nodup_append.mpr ⟨ledger.once, by simp, by
      intro index inside other equal same
      rw [same, List.mem_singleton.mp equal] at inside
      exact unfired inside⟩
  · intro firing inside
    rw [choose_fired] at inside
    rcases List.mem_append.mp inside with old | fresh
    · exact ledger.named firing old
    · rw [List.mem_singleton.mp fresh, found]
      rfl
  · rw [choose_fired]
    refine List.pairwise_append.mpr ⟨ledger.ordered, List.pairwise_singleton _ _, ?_⟩
    intro earlier old later fresh
    rw [List.mem_singleton.mp fresh]
    exact (ledger.counted earlier old).2
  · intro firing inside
    rw [choose_fired] at inside
    rcases List.mem_append.mp inside with old | fresh
    · exact ledger.counted firing old
    · rw [List.mem_singleton.mp fresh]
      exact ⟨begun, Nat.le_refl _⟩

end Progress.Ledger

end Chaining.Forward
