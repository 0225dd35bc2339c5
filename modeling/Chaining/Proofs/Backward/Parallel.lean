import Chaining.Proofs.Backward.Course

set_option autoImplicit false

namespace Chaining.Backward

variable {σ τ : Type}

/-- A relation between searches that no search over the rules leaves, as long as it asks only for
some names. -/
structure Parallel (rules : List Rule) (asked : String → Prop) (sink : Sink σ) (other : Sink τ)
    (Related : Search σ → Search τ → Prop) : Prop where
  tested : ∀ rule ∈ rules, ∀ fact ∈ rule.tested, asked fact
  known : ∀ {first second}, Related first second → ∀ name, asked name →
    first.memory.get? name = second.memory.get? name
  visited : ∀ {first second}, Related first second → first.visited = second.visited
  report : ∀ {first second}, Related first second → ∀ event,
    Related (first.report sink event) (second.report other event)
  visit : ∀ {first second}, Related first second → ∀ goal,
    Related (first.visit goal) (second.visit goal)
  fire : ∀ {first second}, Related first second → ∀ rule,
    Related (first.fire sink rule) (second.fire other rule)

/-- All names that a task asks for by itself. The producers of a goal only test facts. -/
def Task.Asks (asked : String → Prop) : Task → Prop
  | goal name => asked name
  | producers _ _ => True
  | facts names => ∀ name ∈ names, asked name

variable {rules : List Rule} {asked : String → Prop} {sink : Sink σ} {other : Sink τ}
  {Related : Search σ → Search τ → Prop}

theorem Parallel.asks_tested (parallel : Parallel rules asked sink other Related) {goal : String}
    {entry : Nat × Rule} (producer : entry ∈ Rule.producers rules goal) :
    (Task.facts entry.2.tested).Asks asked :=
  parallel.tested entry.2 (List.mem_of_getElem? (Rule.mem_producers.mp producer).1)

/-- Related searches take the same course and end related. -/
theorem Course.parallel {task : Task} {search after : Search σ} {beside : Search τ}
    {fired : List (Nat × Rule)} {proved : Bool}
    (course : Course rules sink task search fired proved after)
    (parallel : Parallel rules asked sink other Related) (asks : task.Asks asked)
    (related : Related search beside) :
    ∃ beyond, Course rules other task beside fired proved beyond ∧ Related after beyond := by
  induction course generalizing beside with
  | known bound =>
    rw [parallel.known related _ asks] at bound
    exact ⟨_, .known bound, parallel.report related _⟩
  | cycle unbound visited =>
    rw [parallel.known related _ asks] at unbound
    rw [parallel.visited related] at visited
    exact ⟨_, .cycle unbound visited, parallel.report related _⟩
  | @orphan goal _ unbound fresh none =>
    rw [parallel.known related _ asks] at unbound
    rw [parallel.visited related] at fresh
    exact ⟨_, .orphan unbound fresh none, parallel.report (parallel.visit related goal) _⟩
  | @searched goal _ _ _ _ unbound fresh some attempts ih =>
    rw [parallel.known related _ asks] at unbound
    rw [parallel.visited related] at fresh
    obtain ⟨beyond, course, ended⟩ := ih trivial (parallel.visit related goal)
    exact ⟨beyond, .searched unbound fresh some course, ended⟩
  | exhausted => exact ⟨_, .exhausted, parallel.report related _⟩
  | established producer premises ih =>
    obtain ⟨beyond, course, ended⟩ :=
      ih (parallel.asks_tested producer) (parallel.report related _)
    exact ⟨_, .established producer course, parallel.fire ended _⟩
  | refused producer premises later first second =>
    obtain ⟨between, course, reached⟩ :=
      first (parallel.asks_tested producer) (parallel.report related _)
    obtain ⟨beyond, onward, ended⟩ := second trivial reached
    exact ⟨beyond, .refused producer course onward, ended⟩
  | met => exact ⟨beside, .met, related⟩
  | failed first ih =>
    obtain ⟨beyond, course, ended⟩ := ih (asks _ List.mem_cons_self) related
    exact ⟨beyond, .failed course, ended⟩
  | further first later one two =>
    obtain ⟨between, course, reached⟩ := one (asks _ List.mem_cons_self) related
    obtain ⟨beyond, onward, ended⟩ :=
      two (fun name member => asks name (List.mem_cons_of_mem _ member)) reached
    exact ⟨beyond, .further course onward, ended⟩

/-- Proofs that begin related fire the same rules, and end related with the same answer. -/
theorem prove_parallel (parallel : Parallel rules asked sink other Related) {left right : Memory}
    (goal : String) {trace : σ} {others : τ} (asks : asked goal)
    (related : Related ⟨left, [], trace⟩ ⟨right, [], others⟩) :
    ∃ fired proved last beyond,
      Course rules sink (.goal goal) ⟨left, [], trace⟩ fired proved last ∧
        Course rules other (.goal goal) ⟨right, [], others⟩ fired proved beyond ∧
        Related last beyond := by
  obtain ⟨fired, ⟨last, course, _⟩, _⟩ := fires_unique rules sink left goal trace
  obtain ⟨beyond, again, ended⟩ := course.parallel parallel asks related
  exact ⟨fired, _, last, beyond, course, again, ended⟩

end Chaining.Backward
