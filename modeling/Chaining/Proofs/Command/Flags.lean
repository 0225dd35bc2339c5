import Chaining.Proofs.Command.Outcome

set_option autoImplicit false

namespace Chaining

namespace Json

def at? : List String → Json → Option Json
  | [], json => some json
  | name :: path, .object members => (members.lookup name).bind (at? path)
  | _ :: _, _ => none

/-- Takes the members of a name out of the object at a path. -/
def eraseAt (name : String) : List String → Json → Json
  | [], .object members => .object (members.filter fun member => member.1 ≠ name)
  | key :: path, .object members =>
    .object (members.map fun member =>
      if member.1 = key then (key, eraseAt name path member.2) else member)
  | _, json => json

end Json

namespace Command

/-! ### Answers without their events -/

def tracing (traced : Bool) : Command → Command
  | .forward path goals settings arguments _ settingsPath =>
    .forward path goals settings arguments traced settingsPath
  | .backward path goal arguments _ => .backward path goal arguments traced
  | .demo direction _ => .demo direction traced
  | .inspect path => .inspect path

def ForwardAnswer.untraced (answer : ForwardAnswer) : ForwardAnswer := { answer with events := [] }

def BackwardAnswer.untraced (answer : BackwardAnswer) : BackwardAnswer :=
  { answer with events := [] }

def Answer.untraced : Answer → Answer
  | forward answer => forward answer.untraced
  | backward answer => backward answer.untraced
  | walkthrough run proof => walkthrough run.untraced proof.untraced
  | listing base => listing base

@[simp] theorem Answer.exit_untraced (answer : Answer) : answer.untraced.exit = answer.exit := by
  cases answer <;> rfl

/-- A random strategy comes with a seed. -/
def Repeatable (surroundings : Surroundings) : Command → Prop
  | .forward path _ settings _ _ settingsPath =>
    ∀ base layer, loadBase surroundings path = .ok base →
      loadSettings surroundings settingsPath = .ok layer →
        ((settings.or layer).resolve (askedStrategy base)).strategy = .random →
          ((settings.or layer).resolve (askedStrategy base)).seed ≠ none
  | _ => True

theorem stream_eq {settings : Settings} (seeded : settings.seed ≠ none) (entropy other : UInt64) :
    settings.stream entropy = settings.stream other := by
  obtain ⟨seed, found⟩ := Option.ne_none_iff_exists'.mp seeded
  rw [Settings.stream, Settings.stream, found]
  rfl

/-- Where nothing is left to chance, or chance has a seed, it does not matter what else there is to
begin with. -/
theorem unheardRun_entropy {settings : Settings}
    (repeatable : settings.strategy = .random → settings.seed ≠ none)
    (surroundings : Surroundings) (entropy : UInt64) (base : KnowledgeBase) (memory : Memory)
    (goals : List String) :
    (unheardRun { surroundings with entropy } base memory goals settings).run =
        (unheardRun surroundings base memory goals settings).run ∧
      (unheardRun { surroundings with entropy } base memory goals settings).memory =
        (unheardRun surroundings base memory goals settings).memory := by
  have same : (settings.engine base.rules).strategy = .random →
      settings.stream entropy = settings.stream surroundings.entropy :=
    fun random => stream_eq (repeatable random) _ _
  exact (settings.engine base.rules).run_level Sink.ignore Sink.ignore goals memory same () ()

theorem runForward_untraced {settings : Settings}
    (repeatable : settings.strategy = .random → settings.seed ≠ none)
    (surroundings : Surroundings) (entropy : UInt64) (base : KnowledgeBase) (memory : Memory)
    (goals : List String) (traced other : Bool) :
    (runForward { surroundings with entropy } base memory goals settings other).untraced =
      (runForward surroundings base memory goals settings traced).untraced := by
  obtain ⟨run, left⟩ := runForward_unheard surroundings base memory goals settings traced
  obtain ⟨runOther, leftOther⟩ :=
    runForward_unheard { surroundings with entropy } base memory goals settings other
  obtain ⟨same, leftSame⟩ := unheardRun_entropy repeatable surroundings entropy base memory goals
  have rest {listener : Surroundings} (flag : Bool) :
      (runForward listener base memory goals settings flag).untraced =
        ⟨base, goals, settings.strategy,
          (runForward listener base memory goals settings flag).run,
          (runForward listener base memory goals settings flag).memory, []⟩ := by
    cases flag <;> rfl
  rw [rest, rest, run, left, runOther, leftOther, same, leftSame]

theorem runBackward_untraced (base : KnowledgeBase) (memory : Memory) (goal : String)
    (traced other : Bool) :
    (runBackward base memory goal other).untraced =
      (runBackward base memory goal traced).untraced := by
  obtain ⟨proved, left⟩ := runBackward_unheard base memory goal traced
  obtain ⟨provedOther, leftOther⟩ := runBackward_unheard base memory goal other
  have rest (flag : Bool) : (runBackward base memory goal flag).untraced =
      ⟨base, goal, (runBackward base memory goal flag).proved,
        (runBackward base memory goal flag).memory, []⟩ := by
    cases flag <;> rfl
  rw [rest, rest, proved, left, provedOther, leftOther]

theorem advisor_repeatable :
    (SettingsLayer.blank.resolve (askedStrategy Advisor.knowledgeBase)).strategy = .random →
      (SettingsLayer.blank.resolve (askedStrategy Advisor.knowledgeBase)).seed ≠ none := by
  have ranked : (SettingsLayer.blank.resolve (askedStrategy Advisor.knowledgeBase)).strategy ≠
      .random := by decide
  exact fun random => absurd random ranked

theorem demoForward_untraced (surroundings : Surroundings) (entropy : UInt64)
    (traced other : Bool) :
    (demoForward { surroundings with entropy } other).untraced =
      (demoForward surroundings traced).untraced :=
  runForward_untraced advisor_repeatable surroundings entropy _ _ _ traced other

theorem demoWalkthrough_untraced (surroundings : Surroundings) (entropy : UInt64)
    (traced other : Bool) :
    (demoWalkthrough { surroundings with entropy } other).untraced =
      (demoWalkthrough surroundings traced).untraced := by
  have run := demoForward_untraced surroundings entropy traced other
  have left : (demoForward { surroundings with entropy } other).memory =
      (demoForward surroundings traced).memory := by
    have same := congrArg ForwardAnswer.memory run
    exact same
  have proof := runBackward_untraced Advisor.knowledgeBase
    ((demoForward surroundings traced).memory.set Advisor.recommendation .null)
    Advisor.recommendation traced other
  rw [demoWalkthrough, demoWalkthrough, left, Answer.untraced, Answer.untraced, run, proof]

theorem map_bind_congr {ε α β γ : Type} {step : Except ε α} {next other : α → Except ε β}
    {change : β → γ}
    (same : ∀ value, step = .ok value → (next value).map change = (other value).map change) :
    (step >>= next).map change = (step >>= other).map change := by
  cases step with
  | error problem => rfl
  | ok value => exact same value rfl

/-- Commands that differ in tracing alone fail alike, and their answers differ in events alone. -/
theorem answer_untraced {first second : Command}
    (alike : first.tracing false = second.tracing false)
    {surroundings : Surroundings} (repeatable : first.Repeatable surroundings) (entropy : UInt64) :
    (second.answer { surroundings with entropy }).map Answer.untraced =
      (first.answer surroundings).map Answer.untraced := by
  cases first with
  | forward path goals settings arguments traced settingsPath =>
    cases second with
    | forward _ _ _ _ other _ =>
      cases alike
      refine map_bind_congr fun base loaded => map_bind_congr fun layer layered =>
        map_bind_congr fun memory assigned => congrArg (Except.ok ∘ Answer.forward) ?_
      exact runForward_untraced (repeatable base layer loaded layered) surroundings entropy base
        memory _ traced other
    | backward | demo | inspect => cases alike
  | backward path goal arguments traced =>
    cases second with
    | backward _ _ _ other =>
      cases alike
      refine map_bind_congr fun base loaded => map_bind_congr fun memory assigned =>
        congrArg (Except.ok ∘ Answer.backward) ?_
      exact runBackward_untraced base memory goal traced other
    | forward | demo | inspect => cases alike
  | demo direction traced =>
    cases second with
    | demo _ other =>
      cases alike
      rcases direction with _ | _ | _
      · exact congrArg Except.ok (demoWalkthrough_untraced surroundings entropy traced other)
      · exact congrArg (Except.ok ∘ Answer.forward)
          (demoForward_untraced surroundings entropy traced other)
      · exact congrArg (Except.ok ∘ Answer.backward) (runBackward_untraced _ _ _ traced other)
    | forward | backward | inspect => cases alike
  | inspect path =>
    cases second with
    | inspect =>
      cases alike
      rfl
    | forward | backward | demo => cases alike

/-! ### Documents and their traces -/

/-- The paths of the objects of runs in the document that shows the answer of a command. -/
def runPaths : Command → List (List String)
  | .demo none _ => [["forward"], ["backward"]]
  | .inspect _ => []
  | _ => [[]]

def withoutTraces (command : Command) (document : Json) : Json :=
  command.runPaths.foldl (fun document path => document.eraseAt "trace" path) document

/-- An object that has a trace or none. -/
def TracedObject (traced : Prop) (document : Json) : Prop :=
  ∃ members, document = .object members ∧ ((∃ trace, ("trace", trace) ∈ members) ↔ traced)

/-- Every run of a command has an object in a document, and either all of them have a trace or none
of them. -/
def Traced (command : Command) (traced : Prop) (document : Json) : Prop :=
  ∀ path ∈ command.runPaths, ∃ run, document.at? path = some run ∧ TracedObject traced run

theorem ForwardAnswer.traced_toJson (answer : ForwardAnswer) :
    TracedObject (answer.events ≠ []) answer.toJson := by
  refine ⟨_, rfl, ?_⟩
  cases events : answer.events <;> simp [traceMember]

theorem BackwardAnswer.traced_toJson (answer : BackwardAnswer) :
    TracedObject (answer.events ≠ []) answer.toJson := by
  refine ⟨_, rfl, ?_⟩
  cases events : answer.events <;> simp [traceMember]

theorem runForward_traced (surroundings : Surroundings) (base : KnowledgeBase) (memory : Memory)
    (goals : List String) (settings : Settings) (traced : Bool) :
    TracedObject (traced = true)
      (runForward surroundings base memory goals settings traced).toJson := by
  have told : (runForward surroundings base memory goals settings traced).events ≠ [] ↔
      traced = true := by
    cases traced with
    | true =>
      exact iff_of_true ((settings.engine base.rules).run_trace_ne_nil goals memory _ []) rfl
    | false => simp [runForward]
  rw [← told]
  exact ForwardAnswer.traced_toJson _

theorem runBackward_traced (base : KnowledgeBase) (memory : Memory) (goal : String)
    (traced : Bool) :
    TracedObject (traced = true) (runBackward base memory goal traced).toJson := by
  have told : (runBackward base memory goal traced).events ≠ [] ↔ traced = true := by
    cases traced with
    | true => exact iff_of_true (Backward.prove_trace_ne_nil base.rules memory goal []) rfl
    | false => simp [runBackward]
  rw [← told]
  exact BackwardAnswer.traced_toJson _

theorem ForwardAnswer.toJson_untraced (answer : ForwardAnswer) :
    answer.untraced.toJson = answer.toJson.eraseAt "trace" [] := by
  cases events : answer.events <;>
    simp [toJson, untraced, traceMember, events, Json.eraseAt]

theorem BackwardAnswer.toJson_untraced (answer : BackwardAnswer) :
    answer.untraced.toJson = answer.toJson.eraseAt "trace" [] := by
  cases events : answer.events <;>
    simp [toJson, untraced, traceMember, events, Json.eraseAt]

theorem traced_of_whole {command : Command} (whole : command.runPaths = [[]]) {traced : Prop}
    {document : Json} (object : TracedObject traced document) :
    command.Traced traced document := by
  intro path member
  rw [whole] at member
  obtain rfl := List.mem_singleton.mp member
  exact ⟨document, rfl, object⟩

theorem answer_traced {surroundings : Surroundings} {command : Command} {answer : Answer}
    (answered : command.answer surroundings = .ok answer) :
    command.Traced (command.isTraced = true) answer.toJson := by
  cases command with
  | forward path goals settings arguments traced settingsPath =>
    obtain ⟨base, _, layer, _, memory, _, rfl⟩ := answer_forward_eq_ok.mp answered
    exact traced_of_whole rfl (runForward_traced surroundings base memory _ _ traced)
  | backward path goal arguments traced =>
    obtain ⟨base, _, memory, _, rfl⟩ := answer_backward_eq_ok.mp answered
    exact traced_of_whole rfl (runBackward_traced base memory goal traced)
  | demo direction traced =>
    rcases direction with _ | _ | _
    · cases answered
      have run : TracedObject (traced = true) (demoForward surroundings traced).toJson :=
        runForward_traced surroundings _ _ _ _ traced
      intro path member
      rcases List.mem_cons.mp member with rfl | member
      · exact ⟨_, rfl, run⟩
      · obtain rfl := List.mem_singleton.mp member
        exact ⟨_, rfl, runBackward_traced Advisor.knowledgeBase _ _ traced⟩
    · cases answered
      exact traced_of_whole rfl (runForward_traced surroundings _ _ _ _ traced)
    · cases answered
      exact traced_of_whole rfl (runBackward_traced _ _ _ traced)
  | inspect path => exact fun path member => absurd member List.not_mem_nil

/-- Without traces, the document of an answer is that of the answer without events. -/
theorem answer_withoutTraces {surroundings : Surroundings} {command : Command} {answer : Answer}
    (answered : command.answer surroundings = .ok answer) :
    command.withoutTraces answer.toJson = answer.untraced.toJson := by
  cases command with
  | forward path goals settings arguments traced settingsPath =>
    obtain ⟨base, _, layer, _, memory, _, rfl⟩ := answer_forward_eq_ok.mp answered
    exact (ForwardAnswer.toJson_untraced _).symm
  | backward path goal arguments traced =>
    obtain ⟨base, _, memory, _, rfl⟩ := answer_backward_eq_ok.mp answered
    exact (BackwardAnswer.toJson_untraced _).symm
  | demo direction traced =>
    rcases direction with _ | _ | _
    · cases answered
      simp [demoWalkthrough, Answer.untraced, Answer.toJson, withoutTraces, runPaths, Json.eraseAt,
        ForwardAnswer.toJson_untraced, BackwardAnswer.toJson_untraced]
    · cases answered
      exact (ForwardAnswer.toJson_untraced _).symm
    · cases answered
      exact (BackwardAnswer.toJson_untraced _).symm
  | inspect path =>
    obtain ⟨base, _, rfl⟩ := answer_inspect_eq_ok.mp answered
    rfl

/-! ### Reports -/

/-- What an invocation leaves, whatever the files hold. The status is 1 when the command fails, 2
when it misses what it is for, and 0 otherwise; there is no output from a command that fails, nor
where silence is asked for. -/
structure Invocation.Reports (invocation : Invocation) (arguments : List String)
    (surroundings : Surroundings) : Prop where
  failed : (invocation.run surroundings).exit = 1 ↔ invocation.command.Fails surroundings
  missed : (invocation.run surroundings).exit = 2 ↔
    ¬ invocation.command.Fails surroundings ∧ invocation.command.Misses surroundings
  met : (invocation.run surroundings).exit = 0 ↔
    ¬ invocation.command.Fails surroundings ∧ ¬ invocation.command.Misses surroundings
  silent : (invocation.run surroundings).exit = 1 ∨ "--quiet" ∈ optionsOf arguments →
    (invocation.run surroundings).output = ""

/-- Invocations print documents that are the same but for the traces of their runs, which each has
as its own arguments ask for them. -/
def Invocation.PrintAlike (first second : Invocation) (arguments others : List String)
    (report another : Report) : Prop :=
  ∃ document copy : Json,
    report.output = document.pretty ++ "\n" ∧ another.output = copy.pretty ++ "\n" ∧
      first.command.Traced ("--trace" ∈ optionsOf arguments) document ∧
      second.command.Traced ("--trace" ∈ optionsOf others) copy ∧
      second.command.withoutTraces copy = first.command.withoutTraces document

namespace Invocation

variable {invocation : Invocation} {surroundings : Surroundings}

theorem run_of_error {failure : Failure}
    (failed : invocation.command.answer surroundings = .error failure) :
    (invocation.run surroundings).exit = 1 ∧ (invocation.run surroundings).output = "" := by
  rw [run, failed]
  exact ⟨rfl, rfl⟩

theorem run_of_ok {answer : Answer}
    (answered : invocation.command.answer surroundings = .ok answer) :
    (invocation.run surroundings).exit = answer.exit ∧
      (invocation.run surroundings).output =
        if invocation.isQuiet then "" else invocation.format.showAnswer answer := by
  rw [run, answered]
  exact ⟨rfl, rfl⟩

theorem fails_of_error {command : Command} {failure : Failure}
    (failed : command.answer surroundings = .error failure) : command.Fails surroundings := by
  have unanswered : ¬ ∃ answer, command.answer surroundings = .ok answer := by simp [failed]
  rwa [answer_eq_ok, Classical.not_not] at unanswered

theorem run_reports {arguments : List String}
    (accepted : Invocation.ofArguments arguments = .ok invocation) :
    invocation.Reports arguments surroundings := by
  have quiet := (Invocation.ofArguments_flags accepted).1
  cases result : invocation.command.answer surroundings with
  | error failure =>
    obtain ⟨exit, output⟩ := run_of_error result
    have fails := fails_of_error result
    constructor
    · simp [exit, fails]
    · simp [exit, fails]
    · simp [exit, fails]
    · exact fun _ => output
  | ok answer =>
    obtain ⟨exit, output⟩ := run_of_ok result
    obtain ⟨missed, met⟩ := answer_exit result
    have fine := (answer_eq_ok surroundings invocation.command).mp ⟨answer, result⟩
    -- An answer has no other status than the two.
    have status : answer.exit ≠ 1 := by
      by_cases misses : invocation.command.Misses surroundings
      · rw [missed.mpr misses]
        decide
      · rw [met.mpr misses]
        decide
    constructor
    · simp [exit, status, fine]
    · simp [exit, missed, fine]
    · simp [exit, met, fine]
    · rintro (one | silent)
      · exact absurd (exit.symm.trans one) status
      · rw [output, if_pos (quiet.mpr silent)]

/-- Command lines that differ in format, silence and tracing alone leave the same status, and
documents that are the same but for their traces. -/
theorem run_flags {arguments others : List String} {other : Invocation}
    (accepted : Invocation.ofArguments arguments = .ok invocation)
    (acceptedToo : Invocation.ofArguments others = .ok other)
    (alike : invocation.command.tracing false = other.command.tracing false)
    (repeatable : invocation.command.Repeatable surroundings) (entropy : UInt64) :
    invocation.Reports arguments surroundings ∧
      (other.run { surroundings with entropy }).exit = (invocation.run surroundings).exit ∧
      (invocation.format = .json → other.format = .json →
        "--quiet" ∉ optionsOf arguments → "--quiet" ∉ optionsOf others →
          (invocation.run surroundings).exit ≠ 1 →
            invocation.PrintAlike other arguments others (invocation.run surroundings)
              (other.run { surroundings with entropy })) := by
  have same := answer_untraced alike repeatable entropy
  refine ⟨run_reports accepted, ?_⟩
  cases result : invocation.command.answer surroundings with
  | error failure =>
    obtain ⟨exit, _⟩ := run_of_error result
    cases resultToo : other.command.answer { surroundings with entropy } with
    | error failureToo =>
      obtain ⟨exitToo, _⟩ := run_of_error resultToo
      exact ⟨exitToo.trans exit.symm, fun _ _ _ _ status => absurd exit status⟩
    | ok answer =>
      rw [result, resultToo] at same
      cases same
  | ok answer =>
    obtain ⟨exit, output⟩ := run_of_ok result
    cases resultToo : other.command.answer { surroundings with entropy } with
    | error failure =>
      rw [result, resultToo] at same
      cases same
    | ok answerToo =>
      obtain ⟨exitToo, outputToo⟩ := run_of_ok resultToo
      rw [result, resultToo] at same
      have untraced : answerToo.untraced = answer.untraced := Except.ok.inj same
      refine ⟨?_, fun json jsonToo heard heardToo _ => ?_⟩
      · rw [exitToo, exit, ← Answer.exit_untraced answerToo, untraced, Answer.exit_untraced]
      · obtain ⟨quiet, traced⟩ := Invocation.ofArguments_flags accepted
        obtain ⟨quietToo, tracedToo⟩ := Invocation.ofArguments_flags acceptedToo
        refine ⟨answer.toJson, answerToo.toJson, ?_, ?_, ?_, ?_, ?_⟩
        · rw [output, if_neg (mt quiet.mp heard), json]
          rfl
        · rw [outputToo, if_neg (mt quietToo.mp heardToo), jsonToo]
          rfl
        · rw [← traced]
          exact answer_traced result
        · rw [← tracedToo]
          exact answer_traced resultToo
        · rw [answer_withoutTraces result, answer_withoutTraces resultToo, untraced]

def lampFile : Surroundings where
  readFile _ := .ok ("\x7b\"goals\":[\"lit\"],\"rules\":[\x7b\"name\":\"light\"," ++
    "\"then\":[\x7b\"fact\":\"lit\",\"value\":true\x7d]\x7d]\x7d")
  entropy := 3

def tracedLine : List String :=
  ["--output", "json", "forward", "lamp", "--strategy", "random", "--seed", "7", "--trace"]

def plainLine : List String :=
  ["forward", "--output=json", "--seed=+7", "--strategy", "RANDOM", "--", "lamp"]

def lampCommand (traced : Bool) : Command :=
  .forward "lamp" [] ⟨some .random, none, some 7⟩ [] traced none

theorem run_flags_lamp :
    Invocation.ofArguments tracedLine = .ok ⟨.json, false, lampCommand true⟩ ∧
      Invocation.ofArguments plainLine = .ok ⟨.json, false, lampCommand false⟩ ∧
      (lampCommand true).Repeatable lampFile ∧
      (run ⟨.json, false, lampCommand true⟩ lampFile).exit = 0 ∧
      PrintAlike ⟨.json, false, lampCommand true⟩ ⟨.json, false, lampCommand false⟩ tracedLine
        plainLine (run ⟨.json, false, lampCommand true⟩ lampFile)
        (run ⟨.json, false, lampCommand false⟩ { lampFile with entropy := 5 }) := by
  have accepted : Invocation.ofArguments tracedLine = .ok ⟨.json, false, lampCommand true⟩ := rfl
  have acceptedToo : Invocation.ofArguments plainLine = .ok ⟨.json, false, lampCommand false⟩ :=
    rfl
  have repeatable : (lampCommand true).Repeatable lampFile := by
    intro base layer _ _ _ seedless
    cases seedless
  have exit : (run ⟨.json, false, lampCommand true⟩ lampFile).exit = 0 := by decide +kernel
  refine ⟨accepted, acceptedToo, repeatable, exit, ?_⟩
  refine (run_flags accepted acceptedToo rfl repeatable 5).2.2 rfl rfl ?_ ?_ ?_
  · decide
  · decide
  · rw [exit]
    decide

end Invocation

end Command

end Chaining
