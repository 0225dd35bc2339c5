import Chaining.Command.Report
import Chaining.Proofs.Backward.Observer
import Chaining.Proofs.Command.Arguments
import Chaining.Proofs.Forward.Observer

set_option autoImplicit false

namespace Chaining.Command

/-! ### What is loaded -/

def basePath? : Command → Option String
  | .forward path _ _ _ _ _ => some path
  | .backward path _ _ _ => some path
  | .demo _ _ => none
  | .inspect path => some path

def settingsPath? : Command → Option String
  | .forward _ _ _ _ _ settingsPath => settingsPath
  | _ => none

def assignments : Command → List String
  | .forward _ _ _ assignments _ _ => assignments
  | .backward _ _ assignments _ => assignments
  | _ => []

/-- The knowledge base or the settings of a command cannot be loaded, or one of its assignments is
malformed. -/
def Fails (surroundings : Surroundings) (command : Command) : Prop :=
  (∃ path ∈ command.basePath?, ∀ base, loadBase surroundings path ≠ .ok base) ∨
    (∃ path ∈ command.settingsPath?, ∀ layer, loadSettings surroundings (some path) ≠ .ok layer) ∨
    ∃ argument ∈ command.assignments, ∀ binding, Assignment.read argument ≠ .ok binding

theorem not_fails_iff {surroundings : Surroundings} {command : Command} :
    ¬ command.Fails surroundings ↔
      (∀ path ∈ command.basePath?, ∃ base, loadBase surroundings path = .ok base) ∧
        (∀ path ∈ command.settingsPath?,
          ∃ layer, loadSettings surroundings (some path) = .ok layer) ∧
        ∀ argument ∈ command.assignments, ∃ binding, Assignment.read argument = .ok binding := by
  simp only [Fails, not_or, not_exists, not_and, Classical.not_forall, ne_eq, Classical.not_not]

/-- Assignments can be made, whatever the memory, when each of them is well formed. -/
theorem assignAll_eq_ok (arguments : List String) (memory : Memory) :
    (∃ result, assignAll arguments memory = .ok result) ↔
      ∀ argument ∈ arguments, ∃ binding, Assignment.read argument = .ok binding := by
  induction arguments generalizing memory with
  | nil => simp [assignAll]
  | cons argument rest ih =>
    rw [List.forall_mem_cons]
    unfold assignAll
    cases read : Assignment.read argument with
    | error failure => simp
    | ok binding => simpa using ih (memory.set binding.1 binding.2)

theorem loadSettings_eq_ok (surroundings : Surroundings) (settingsPath : Option String) :
    (∃ layer, loadSettings surroundings settingsPath = .ok layer) ↔
      ∀ path ∈ settingsPath, ∃ layer, loadSettings surroundings (some path) = .ok layer := by
  cases settingsPath with
  | none => simp [loadSettings]
  | some path => simp

section

variable {surroundings : Surroundings} {path : String} {arguments : List String} {answer : Answer}

theorem answer_forward_eq_ok {goals : List String} {settings : SettingsLayer} {traced : Bool}
    {settingsPath : Option String} :
    Command.answer surroundings (.forward path goals settings arguments traced settingsPath) =
        .ok answer ↔
      ∃ base, loadBase surroundings path = .ok base ∧
        ∃ layer, loadSettings surroundings settingsPath = .ok layer ∧
          ∃ memory, assignAll arguments base.facts = .ok memory ∧
            .forward (runForward surroundings base memory
              (if goals.isEmpty then base.goals else goals)
              ((settings.or layer).resolve (askedStrategy base)) traced) = answer := by
  simp only [Command.answer, bind_eq_ok, pure_eq_ok]

theorem answer_backward_eq_ok {goal : String} {traced : Bool} :
    Command.answer surroundings (.backward path goal arguments traced) = .ok answer ↔
      ∃ base, loadBase surroundings path = .ok base ∧
        ∃ memory, assignAll arguments base.facts = .ok memory ∧
          .backward (runBackward base memory goal traced) = answer := by
  simp only [Command.answer, bind_eq_ok, pure_eq_ok]

theorem answer_inspect_eq_ok :
    Command.answer surroundings (.inspect path) = .ok answer ↔
      ∃ base, loadBase surroundings path = .ok base ∧ .listing base = answer := by
  simp only [Command.answer, bind_eq_ok, pure_eq_ok]

end

/-- A command has an answer when everything that it names can be loaded and assigned. -/
theorem answer_eq_ok (surroundings : Surroundings) (command : Command) :
    (∃ answer, command.answer surroundings = .ok answer) ↔ ¬ command.Fails surroundings := by
  rw [not_fails_iff]
  cases command with
  | forward path goals settings arguments traced settingsPath =>
    constructor
    · rintro ⟨answer, answered⟩
      obtain ⟨base, loaded, layer, layered, memory, assigned, _⟩ := answer_forward_eq_ok.mp answered
      refine ⟨by simp [basePath?, loaded], ?_, ?_⟩
      · exact (loadSettings_eq_ok surroundings settingsPath).mp ⟨layer, layered⟩
      · exact (assignAll_eq_ok arguments base.facts).mp ⟨memory, assigned⟩
    · intro ⟨bases, layers, bindings⟩
      obtain ⟨base, loaded⟩ := bases path rfl
      obtain ⟨layer, layered⟩ := (loadSettings_eq_ok surroundings settingsPath).mpr layers
      obtain ⟨memory, assigned⟩ := (assignAll_eq_ok arguments base.facts).mpr bindings
      exact ⟨_, answer_forward_eq_ok.mpr ⟨base, loaded, layer, layered, memory, assigned, rfl⟩⟩
  | backward path goal arguments traced =>
    constructor
    · rintro ⟨answer, answered⟩
      obtain ⟨base, loaded, memory, assigned, _⟩ := answer_backward_eq_ok.mp answered
      refine ⟨by simp [basePath?, loaded], by simp [settingsPath?], ?_⟩
      exact (assignAll_eq_ok arguments base.facts).mp ⟨memory, assigned⟩
    · intro ⟨bases, _, bindings⟩
      obtain ⟨base, loaded⟩ := bases path rfl
      obtain ⟨memory, assigned⟩ := (assignAll_eq_ok arguments base.facts).mpr bindings
      exact ⟨_, answer_backward_eq_ok.mpr ⟨base, loaded, memory, assigned, rfl⟩⟩
  | demo direction traced =>
    have answered : ∃ answer,
        Command.answer surroundings (.demo direction traced) = .ok answer := by
      rcases direction with _ | _ | _ <;> exact ⟨_, rfl⟩
    simp [answered, basePath?, settingsPath?, assignments]
  | inspect path =>
    constructor
    · rintro ⟨answer, answered⟩
      obtain ⟨base, loaded, _⟩ := answer_inspect_eq_ok.mp answered
      simp [basePath?, settingsPath?, assignments, loaded]
    · intro ⟨bases, _⟩
      obtain ⟨base, loaded⟩ := bases path rfl
      exact ⟨_, answer_inspect_eq_ok.mpr ⟨base, loaded, rfl⟩⟩

/-! ### What is run -/

/-- A run forward that nobody listens to. -/
def unheardRun (surroundings : Surroundings) (base : KnowledgeBase) (memory : Memory)
    (goals : List String) (settings : Settings) : Forward.Outcome Random.Stream Unit :=
  (settings.engine base.rules).run Sink.ignore goals memory (settings.stream surroundings.entropy)
    ()

/-- A proof that nobody listens to. -/
def unheardProof (base : KnowledgeBase) (memory : Memory) (goal : String) : Backward.Outcome Unit :=
  Backward.prove base.rules Sink.ignore memory goal ()

/-- The run of a command does not reach its goals, or its proof fails. What is loaded counts as it
is read; the walkthrough and a listing have nothing to miss. -/
def Misses (surroundings : Surroundings) : Command → Prop
  | .forward path goals settings arguments _ settingsPath =>
    ∃ base, loadBase surroundings path = .ok base ∧
      ∃ layer, loadSettings surroundings settingsPath = .ok layer ∧
        ∃ memory, assignAll arguments base.facts = .ok memory ∧
          (unheardRun surroundings base memory (if goals.isEmpty then base.goals else goals)
            ((settings.or layer).resolve (askedStrategy base))).run.goalsReached = false
  | .backward path goal arguments _ =>
    ∃ base, loadBase surroundings path = .ok base ∧
      ∃ memory, assignAll arguments base.facts = .ok memory ∧
        (unheardProof base memory goal).proved = false
  | .demo (some .forward) _ =>
    let base := Advisor.knowledgeBase
    (unheardRun surroundings base base.facts base.goals
      (SettingsLayer.blank.resolve (askedStrategy base))).run.goalsReached = false
  | .demo (some .backward) _ =>
    let base := Advisor.knowledgeBase
    (unheardProof base base.facts Advisor.recommendation).proved = false
  | .demo none _ => False
  | .inspect _ => False

theorem runForward_unheard (surroundings : Surroundings) (base : KnowledgeBase) (memory : Memory)
    (goals : List String) (settings : Settings) (traced : Bool) :
    (runForward surroundings base memory goals settings traced).run =
        (unheardRun surroundings base memory goals settings).run ∧
      (runForward surroundings base memory goals settings traced).memory =
        (unheardRun surroundings base memory goals settings).memory := by
  have level {σ : Type} (sink : Sink σ) (trace : σ) :=
    (settings.engine base.rules).run_level sink Sink.ignore goals memory
      (fun _ => rfl : _ → settings.stream surroundings.entropy = _) trace ()
  cases traced with
  | true => exact level Sink.collect []
  | false => exact level Log.sink []

theorem runBackward_unheard (base : KnowledgeBase) (memory : Memory) (goal : String)
    (traced : Bool) :
    (runBackward base memory goal traced).proved = (unheardProof base memory goal).proved ∧
      (runBackward base memory goal traced).memory = (unheardProof base memory goal).memory := by
  cases traced with
  | true => exact Backward.prove_level base.rules Sink.collect Sink.ignore memory goal [] ()
  | false => exact Backward.prove_level base.rules Log.sink Sink.ignore memory goal [] ()

theorem ForwardAnswer.exit_iff (answer : ForwardAnswer) :
    ((Answer.forward answer).exit = 2 ↔ answer.run.goalsReached = false) ∧
      ((Answer.forward answer).exit = 0 ↔ answer.run.goalsReached ≠ false) := by
  rw [Answer.exit]
  cases answer.run.goalsReached <;> simp

theorem BackwardAnswer.exit_iff (answer : BackwardAnswer) :
    ((Answer.backward answer).exit = 2 ↔ answer.proved = false) ∧
      ((Answer.backward answer).exit = 0 ↔ answer.proved ≠ false) := by
  rw [Answer.exit]
  cases answer.proved <;> simp

/-- The status of an answer tells whether the command misses what it is for. -/
theorem answer_exit {surroundings : Surroundings} {command : Command} {answer : Answer}
    (answered : command.answer surroundings = .ok answer) :
    (answer.exit = 2 ↔ command.Misses surroundings) ∧
      (answer.exit = 0 ↔ ¬ command.Misses surroundings) := by
  cases command with
  | forward path goals settings arguments traced settingsPath =>
    obtain ⟨base, loaded, layer, layered, memory, assigned, rfl⟩ :=
      answer_forward_eq_ok.mp answered
    have status := ForwardAnswer.exit_iff (runForward surroundings base memory
      (if goals.isEmpty then base.goals else goals)
      ((settings.or layer).resolve (askedStrategy base)) traced)
    rw [(runForward_unheard _ _ _ _ _ traced).1] at status
    simpa [Misses, loaded, layered, assigned] using status
  | backward path goal arguments traced =>
    obtain ⟨base, loaded, memory, assigned, rfl⟩ := answer_backward_eq_ok.mp answered
    have status := BackwardAnswer.exit_iff (runBackward base memory goal traced)
    rw [(runBackward_unheard _ _ _ traced).1] at status
    simpa [Misses, loaded, assigned] using status
  | demo direction traced =>
    rcases direction with _ | _ | _
    · cases answered
      simp [Answer.exit, demoWalkthrough, Misses]
    · cases answered
      have status := ForwardAnswer.exit_iff (demoForward surroundings traced)
      rw [demoForward, (runForward_unheard _ _ _ _ _ traced).1] at status
      exact status
    · cases answered
      have status := BackwardAnswer.exit_iff (runBackward Advisor.knowledgeBase
        Advisor.knowledgeBase.facts Advisor.recommendation traced)
      rw [(runBackward_unheard _ _ _ traced).1] at status
      exact status
  | inspect path =>
    obtain ⟨base, _, rfl⟩ := answer_inspect_eq_ok.mp answered
    simp [Answer.exit, Misses]

end Chaining.Command
