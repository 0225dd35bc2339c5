import Chaining.Proofs.Forward.Simulation
import Mathlib.Data.List.Nodup
import Mathlib.Data.List.OfFn
import Mathlib.Data.List.Perm.Basic
import Mathlib.Logic.Equiv.Fin.Rotate

set_option autoImplicit false

namespace Chaining.Forward

variable {ρ σ : Type}

def moveEntry (move : Nat → Nat) (entry : Nat × Rule) : Nat × Rule := (move entry.1, entry.2)

theorem moveEntry_injective {move : Nat → Nat} (apart : Function.Injective move) :
    Function.Injective (moveEntry move) := fun _ _ same =>
  Prod.ext (apart (Prod.mk.inj same).1) (Prod.mk.inj same).2

def Firing.moved (move : Nat → Nat) (firing : Firing) : Firing :=
  { firing with index := move firing.index }

def Outcome.moved (move : Nat → Nat) (outcome : Outcome ρ σ) : Outcome ρ σ :=
  { outcome with
    run := { outcome.run with fired := outcome.run.fired.map (Firing.moved move) } }

/-- Entries stand at their new places, in whatever order, and no two of them tie. -/
structure Reordered (key : Rule → Int) (move : Nat → Nat) (first second : List (Nat × Rule)) :
    Prop where
  perm : (first.map (moveEntry move)).Perm second
  untied : (first.map fun entry => key entry.2).Nodup

namespace Reordered

variable {key : Rule → Int} {move : Nat → Nat} {first second : List (Nat × Rule)}

theorem filter (reordered : Reordered key move first second) (chosen : Nat × Rule → Bool)
    (wanted : Nat × Rule → Bool) (same : ∀ entry, wanted (moveEntry move entry) = chosen entry) :
    Reordered key move (first.filter chosen) (second.filter wanted) := by
  refine ⟨?_, reordered.untied.sublist (List.filter_sublist.map _)⟩
  have perm := reordered.perm.filter wanted
  have aside : wanted ∘ moveEntry move = chosen := funext same
  rwa [List.filter_map, aside] at perm

theorem eraseIdx (reordered : Reordered key move first second) {position place : Nat}
    {entry : Nat × Rule} (found : first[position]? = some entry)
    (answered : second[place]? = some (moveEntry move entry)) :
    Reordered key move (first.eraseIdx position) (second.eraseIdx place) := by
  obtain ⟨inside, rfl⟩ := List.getElem?_eq_some_iff.mp found
  obtain ⟨within, there⟩ := List.getElem?_eq_some_iff.mp answered
  refine ⟨?_, reordered.untied.sublist ((List.eraseIdx_sublist _ _).map _)⟩
  have one := (List.getElem_cons_eraseIdx_perm inside).map (moveEntry move)
  have two := List.getElem_cons_eraseIdx_perm within
  rw [there] at two
  exact ((one.trans reordered.perm).trans two.symm).cons_inv

end Reordered

namespace Engine

variable {engine : Engine ρ} {key : Rule → Int}

theorem Chooses.greatest {ready : List (Nat × Rule)} {source next : ρ} {position : Nat}
    {entry : Nat × Rule} (chosen : engine.Chooses ready source position entry next)
    (ranked : engine.strategy.key? = some key) :
    ∀ other ∈ ready, key other.2 ≤ key entry.2 := by
  obtain ⟨⟨best, stands, greatest, _⟩, _⟩ :=
    Strategy.select_isEarliestLargest ranked engine.chance chosen.1
  obtain rfl : entry.2 = best := by
    rw [List.getElem?_map, chosen.2] at stands
    exact Option.some.inj stands
  exact fun other member => greatest other.2 (List.mem_map_of_mem member)

/-- Without ties the same rule is chosen at its new place. -/
theorem Chooses.reordered {other : Engine ρ} {move : Nat → Nat} {one two : List (Nat × Rule)}
    {source next : ρ} {position : Nat} {entry : Nat × Rule}
    (chosen : engine.Chooses one source position entry next)
    (ranked : engine.strategy.key? = some key) (again : other.strategy.key? = some key)
    (reordered : Reordered key move one two) :
    ∃ place, other.Chooses two next place (moveEntry move entry) next ∧ next = source := by
  have member := List.mem_of_getElem? chosen.2
  have nonempty : two ≠ [] :=
    List.ne_nil_of_mem (reordered.perm.subset (List.mem_map_of_mem member))
  obtain ⟨place, answer, later, answered⟩ := other.chooses_some nonempty next
  obtain ⟨rival, listed, rfl⟩ :=
    List.mem_map.mp (reordered.perm.symm.subset (List.mem_of_getElem? answered.2))
  -- Each of the two is the largest where it was chosen, and both stand on either side.
  have tie : key rival.2 = key entry.2 := by
    apply Int.le_antisymm (chosen.greatest ranked _ listed)
    exact answered.greatest again (moveEntry move entry)
      (reordered.perm.subset (List.mem_map_of_mem member))
  obtain rfl := List.inj_on_of_nodup_map reordered.untied listed member tie
  obtain rfl := (Strategy.select_isEarliestLargest again other.chance answered.1).2
  exact ⟨place, answered, (Strategy.select_isEarliestLargest ranked engine.chance chosen.1).2⟩

end Engine

structure Progress.Reordered (key : Rule → Int) (move : Nat → Nat) (first second : Progress ρ σ) :
    Prop where
  memory : first.memory = second.memory
  source : first.source = second.source
  trace : first.trace = second.trace
  pool : Forward.Reordered key move first.pool second.pool
  fired : second.fired = first.fired.map (Firing.moved move)

namespace Engine

variable {engine other : Engine ρ} {key : Rule → Int} {move : Nat → Nat}

theorem simulates_reordered (ranked : engine.strategy.key? = some key)
    (again : other.strategy.key? = some key) (apart : Function.Injective move) (sink : Sink σ)
    (goals : List String) :
    engine.Simulates other sink sink goals (Reordered key move)
      (Progress.Reordered key move) where
  length := fun reordered => by rw [← reordered.perm.length_eq, List.length_map]
  ready := fun related => related.pool.filter _ _ fun entry => by rw [related.memory]; rfl
  met := fun related => by rw [related.memory]
  report := fun related event => ⟨related.memory, related.source,
    congrArg (sink.record · event) related.trace, related.pool, related.fired⟩
  choose := fun {_ beside} related {_ _} reordered {_ entry next} chosen => by
    obtain ⟨place, answered, stays⟩ := chosen.reordered ranked again reordered
    rw [related.source] at stays
    obtain rfl := stays
    refine ⟨place, moveEntry move entry, beside.source, answered,
      reordered.eraseIdx chosen.2 answered.2, fun iteration size => ⟨?_, rfl, ?_, ?_, ?_⟩⟩
    · rw [Progress.choose_memory, Progress.choose_memory, related.memory]
      rfl
    · rw [Progress.choose_told, Progress.choose_told, related.trace]
      rfl
    · exact related.pool.filter _ _ fun other => by simp [moveEntry, apart.eq_iff]
    · rw [Progress.choose_fired, Progress.choose_fired, related.fired, List.map_append]
      rfl

end Engine

/-- Where a place goes when as many things are put into another order. Places behind them stay. -/
def moved {count : Nat} (order : Equiv.Perm (Fin count)) (place : Nat) : Nat :=
  if inside : place < count then order ⟨place, inside⟩ else place

theorem moved_injective {count : Nat} (order : Equiv.Perm (Fin count)) :
    Function.Injective (moved order) := by
  intro one two same
  unfold moved at same
  split at same <;> split at same
  · exact congrArg Fin.val (order.injective (Fin.ext same))
  · exact absurd (same ▸ (order _).isLt) ‹_›
  · exact absurd (same ▸ (order _).isLt) ‹_›
  · exact same

namespace Engine

/-- The engine with its rules in another order: each rule goes where the order sends its place. -/
def reordered (engine : Engine ρ) (order : Equiv.Perm (Fin engine.rules.length)) : Engine ρ :=
  { engine with rules := List.ofFn fun place => engine.rules[order.symm place] }

variable (engine : Engine ρ) (order : Equiv.Perm (Fin engine.rules.length))

theorem getElem?_reordered {place : Nat} {rule : Rule} (found : engine.rules[place]? = some rule) :
    (engine.reordered order).rules[moved order place]? = some rule := by
  obtain ⟨inside, rfl⟩ := List.getElem?_eq_some_iff.mp found
  simp [reordered, moved, inside]

theorem pool_reordered :
    (engine.pool.map (moveEntry (moved order))).Perm (engine.reordered order).pool := by
  have places : (engine.pool.map (moveEntry (moved order))).Nodup := by
    have ascending := Rule.placed_ascending engine.rules
    refine List.Nodup.map (moveEntry_injective (moved_injective order)) (ascending.imp ?_)
    exact fun before same => absurd (congrArg Prod.fst same) (Nat.ne_of_lt before)
  refine (List.subperm_of_subset places ?_).perm_of_length_le ?_
  · intro entry member
    obtain ⟨old, stands, rfl⟩ := List.mem_map.mp member
    exact Rule.mem_placed.mpr (engine.getElem?_reordered order (Rule.mem_placed.mp stands))
  · simp [pool, reordered]

theorem map_key_pool (key : Rule → Int) :
    (engine.pool.map fun entry => key entry.2) = engine.rules.map key := by
  rw [pool, List.map_map, ← List.zipIdx_map_fst 0 engine.rules, List.map_map]
  simp

/-- Where no two rules tie, their order does not matter: the run with the rules in another order
halts alike after as many passes, tells the same events and leaves the same memory, and the same
rules fire, at their new places. -/
theorem run_reordered {key : Rule → Int} (ranked : engine.strategy.key? = some key)
    (untied : (engine.rules.map key).Nodup) (sink : Sink σ) (goals : List String)
    (memory : Memory) (source : ρ) (trace : σ) :
    (engine.reordered order).run sink goals memory source trace =
      (engine.run sink goals memory source trace).moved (moved order) := by
  have begun : Progress.Reordered key (moved order) ⟨memory, source, trace, engine.pool, []⟩
      ⟨memory, source, trace, (engine.reordered order).pool, []⟩ := by
    refine ⟨rfl, rfl, rfl, ⟨engine.pool_reordered order, ?_⟩, rfl⟩
    rwa [map_key_pool]
  have still : (engine.reordered order).strategy.key? = some key := ranked
  obtain ⟨last, beyond, halt, iterations, related, ended, again⟩ := run_simulated
    (simulates_reordered ranked still (moved_injective order) sink goals) rfl begun
  rw [ended, again, Progress.halt, Progress.halt, related.fired, related.memory, related.source,
    related.trace]
  rfl

/-- Errands, each more urgent than the ones before. The bank has to wait for a letter. -/
def errandEngine : Engine Unit where
  rules := [⟨"post", 1, [], [⟨"letter", .boolean true⟩]⟩,
    ⟨"bank", 2, [⟨"letter", .present, .null⟩], []⟩, ⟨"baker", 3, [], [⟨"bread", .boolean true⟩]⟩]
  strategy := .highestPriority
  chance := .first
  cap := 4

theorem run_reordered_errands :
    let order : Equiv.Perm (Fin errandEngine.rules.length) := finRotate 3
    let outcome := (errandEngine.reordered order).run Sink.collect ["tea"] .empty () []
    errandEngine.strategy.key? = some Rule.priority ∧
      (errandEngine.rules.map Rule.priority).Nodup ∧
      outcome.run.fired.map (·.index) = [0, 1, 2] ∧
      outcome = (errandEngine.run Sink.collect ["tea"] .empty () []).moved (moved order) := by
  intro order outcome
  have untied : (errandEngine.rules.map Rule.priority).Nodup := by decide
  exact ⟨rfl, untied, by decide +kernel, run_reordered errandEngine order rfl untied _ _ _ _ _⟩

end Engine

end Chaining.Forward
