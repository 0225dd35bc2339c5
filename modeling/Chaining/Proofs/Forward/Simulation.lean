import Chaining.Proofs.Forward.Course

set_option autoImplicit false

namespace Chaining.Forward

variable {ρ π σ τ : Type}

namespace Engine

/-- A relation between the progress of two engines that no pass leaves. `Beside` relates what is
still ready in a pass. -/
structure Simulates (first : Engine ρ) (second : Engine π) (sink : Sink σ) (other : Sink τ)
    (goals : List String) (Beside : List (Nat × Rule) → List (Nat × Rule) → Prop)
    (Related : Progress ρ σ → Progress π τ → Prop) : Prop where
  length : ∀ {one two}, Beside one two → one.length = two.length
  ready : ∀ {progress beside}, Related progress beside → Beside progress.ready beside.ready
  met : ∀ {progress beside}, Related progress beside →
    progress.memory.satisfies goals = beside.memory.satisfies goals
  report : ∀ {progress beside}, Related progress beside → ∀ event,
    Related (progress.report sink event) (beside.report other event)
  choose : ∀ {progress beside}, Related progress beside → ∀ {one two}, Beside one two →
    ∀ {position entry next}, first.Chooses one progress.source position entry next →
    ∃ place answer later, second.Chooses two beside.source place answer later ∧
      Beside (one.eraseIdx position) (two.eraseIdx place) ∧ ∀ iteration size,
        Related (progress.choose sink iteration size next entry)
          (beside.choose other iteration size later answer)

section

variable {first : Engine ρ} {second : Engine π} {sink : Sink σ} {other : Sink τ}
  {goals : List String} {Beside : List (Nat × Rule) → List (Nat × Rule) → Prop}
  {Related : Progress ρ σ → Progress π τ → Prop} {iteration left : Nat}

theorem Simulates.nil_iff (simulates : first.Simulates second sink other goals Beside Related)
    {one two : List (Nat × Rule)} (beside : Beside one two) : one = [] ↔ two = [] := by
  rw [← List.length_eq_zero_iff, ← List.length_eq_zero_iff, simulates.length beside]

theorem Pass.simulated {one two batch : List (Nat × Rule)} {progress after : Progress ρ σ}
    {beside : Progress π τ} {done : Bool}
    (pass : first.Pass sink goals iteration one progress batch done after)
    (simulates : first.Simulates second sink other goals Beside Related)
    (level : Beside one two) (related : Related progress beside) :
    ∃ answers beyond, second.Pass other goals iteration two beside answers done beyond ∧
      Related after beyond := by
  induction pass generalizing two beside with
  | emptied =>
    obtain rfl := (simulates.nil_iff level).mp rfl
    exact ⟨[], beside, .emptied, related⟩
  | @reached one _ _ _ _ chosen satisfied =>
    obtain ⟨place, answer, later, answered, _, kept⟩ := simulates.choose related level chosen
    replace kept := kept iteration one.length
    have met := simulates.met kept
    rw [Progress.choose_memory, Progress.choose_memory, satisfied] at met
    rw [simulates.length level] at kept ⊢
    exact ⟨_, _, .reached answered met.symm, kept⟩
  | @further one _ _ _ _ _ _ _ chosen unsatisfied _ ih =>
    obtain ⟨place, answer, later, answered, still, kept⟩ := simulates.choose related level chosen
    replace kept := kept iteration one.length
    have met := simulates.met kept
    rw [Progress.choose_memory, Progress.choose_memory, unsatisfied] at met
    obtain ⟨answers, beyond, onward, ended⟩ := ih still kept
    rw [simulates.length level] at onward
    exact ⟨_, beyond, .further answered met.symm onward, ended⟩

/-- Related progress is followed by courses of the same shape, which end in related progress. -/
theorem Course.simulated {progress : Progress ρ σ} {beside : Progress π τ} {outcome : Outcome ρ σ}
    (course : first.Course sink goals left iteration progress outcome)
    (simulates : first.Simulates second sink other goals Beside Related)
    (related : Related progress beside) :
    ∃ result, second.Course other goals left iteration beside result ∧
      ∃ last beyond halt iterations, Related last beyond ∧ outcome = last.halt halt iterations ∧
        result = beyond.halt halt iterations := by
  induction course generalizing beside with
  | capped => exact ⟨_, .capped, _, _, _, _, simulates.report related _, rfl, rfl⟩
  | stuck unready =>
    have level := simulates.ready related
    exact ⟨_, .stuck ((simulates.nil_iff level).mp unready), _, _, _, _,
      simulates.report (simulates.report related _) _, rfl, rfl⟩
  | reached pass =>
    obtain ⟨answers, beyond, again, ended⟩ :=
      pass.simulated simulates (simulates.ready related) (simulates.report related _)
    exact ⟨_, .reached again, _, _, _, _, simulates.report ended _, rfl, rfl⟩
  | again ready pass later ih =>
    have level := simulates.ready related
    obtain ⟨answers, beyond, again, ended⟩ :=
      pass.simulated simulates level (simulates.report related _)
    obtain ⟨result, onward, alike⟩ := ih ended
    exact ⟨result, .again (mt (simulates.nil_iff level).mpr ready) again onward, alike⟩

/-- Engines with the same cap that begin related end related. -/
theorem run_simulated (simulates : first.Simulates second sink other goals Beside Related)
    (cap : second.cap = first.cap) {left right : Memory} {source : ρ} {start : π} {trace : σ}
    {others : τ}
    (related : Related ⟨left, source, trace, first.pool, []⟩
      ⟨right, start, others, second.pool, []⟩) :
    ∃ last beyond halt iterations, Related last beyond ∧
      first.run sink goals left source trace = last.halt halt iterations ∧
      second.run other goals right start others = beyond.halt halt iterations := by
  obtain ⟨result, course, alike⟩ :=
    (first.run_course sink goals left source trace).simulated simulates related
  rw [course.eq_passes, ← cap] at alike
  exact alike

end

end Engine

end Chaining.Forward
