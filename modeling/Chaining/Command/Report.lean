import Chaining.Advisor
import Chaining.Assignment
import Chaining.Command.Answer
import Chaining.Command.Invocation
import Chaining.Log
import Chaining.SettingsFile

set_option autoImplicit false

namespace Chaining.Command

inductive Failure where
  | noBase (path reason : String)
  | badBase (error : Json.ReadError)
  | noSettings (path reason : String)
  | badSettings (path : String)
  | badAssignment (failure : Assignment.Failure)

def Failure.message : Failure → String
  | noBase path reason => "cannot read knowledge base " ++ path ++ ": " ++ reason
  | badBase error => "invalid knowledge base: " ++ error.message
  | noSettings path reason => "could not read '" ++ path ++ "': " ++ reason
  | badSettings path => "could not parse '" ++ path ++ "': not a settings file"
  | badAssignment failure => failure.message

/-- What a command may look at besides its arguments. -/
structure Surroundings where
  /-- The text of a file, or why it cannot be read. -/
  readFile : String → Except String String
  /-- Where random choices begin that no seed fixes. -/
  entropy : UInt64

def loadBase (surroundings : Surroundings) (path : String) : Except Failure KnowledgeBase :=
  match surroundings.readFile path with
  | .error reason => .error (.noBase path reason)
  | .ok text =>
    match KnowledgeBase.ofText text with
    | .error error => .error (.badBase error)
    | .ok base => .ok base

/-- The settings of a file; without a file all of them are left open. -/
def loadSettings (surroundings : Surroundings) : Option String → Except Failure SettingsLayer
  | none => .ok .blank
  | some path =>
    match surroundings.readFile path with
    | .error reason => .error (.noSettings path reason)
    | .ok text =>
      match SettingsLayer.ofText text with
      | none => .error (.badSettings path)
      | some layer => .ok layer

def assignAll : List String → Memory → Except Failure Memory
  | [], memory => .ok memory
  | argument :: rest, memory =>
    match Assignment.read argument with
    | .error failure => .error (.badAssignment failure)
    | .ok (name, value) => assignAll rest (memory.set name value)

def askedStrategy (base : KnowledgeBase) : Option Strategy :=
  base.strategy.map Strategy.ofName

/-- Runs forward. Events are kept for the answer if they are to be traced, and logged otherwise. -/
def runForward (surroundings : Surroundings) (base : KnowledgeBase) (memory : Memory)
    (goals : List String) (settings : Settings) (traced : Bool) : ForwardAnswer :=
  let engine := settings.engine base.rules
  let source := settings.stream surroundings.entropy
  if traced then
    let outcome := engine.run Sink.collect goals memory source []
    ⟨base, goals, settings.strategy, outcome.run, outcome.memory, outcome.trace⟩
  else
    let outcome := Log.forward engine goals memory source
    ⟨base, goals, settings.strategy, outcome.run, outcome.memory, []⟩

def runBackward (base : KnowledgeBase) (memory : Memory) (goal : String) (traced : Bool) :
    BackwardAnswer :=
  if traced then
    let outcome := Backward.prove base.rules Sink.collect memory goal []
    ⟨base, goal, outcome.proved, outcome.memory, outcome.trace⟩
  else
    let outcome := Log.backward base.rules memory goal
    ⟨base, goal, outcome.proved, outcome.memory, []⟩

def demoForward (surroundings : Surroundings) (traced : Bool) : ForwardAnswer :=
  let base := Advisor.knowledgeBase
  runForward surroundings base base.facts base.goals
    (SettingsLayer.blank.resolve (askedStrategy base)) traced

/-- Runs forward, takes the recommendation back, and asks for it backward. -/
def demoWalkthrough (surroundings : Surroundings) (traced : Bool) : Answer :=
  let run := demoForward surroundings traced
  let memory := run.memory.set Advisor.recommendation .null
  .walkthrough run (runBackward Advisor.knowledgeBase memory Advisor.recommendation traced)

def paths : Command → List String
  | .forward path _ _ _ _ settingsPath => path :: settingsPath.toList
  | .backward path _ _ _ => [path]
  | .demo _ _ => []
  | .inspect path => [path]

def answer (surroundings : Surroundings) : Command → Except Failure Answer
  | .forward path goals settings assignments traced settingsPath => do
    let base ← loadBase surroundings path
    let layer ← loadSettings surroundings settingsPath
    let settings := (settings.or layer).resolve (askedStrategy base)
    let memory ← assignAll assignments base.facts
    let goals := if goals.isEmpty then base.goals else goals
    return .forward (runForward surroundings base memory goals settings traced)
  | .backward path goal assignments traced => do
    let base ← loadBase surroundings path
    let memory ← assignAll assignments base.facts
    return .backward (runBackward base memory goal traced)
  | .demo none traced => return demoWalkthrough surroundings traced
  | .demo (some .forward) traced => return .forward (demoForward surroundings traced)
  | .demo (some .backward) traced =>
    let base := Advisor.knowledgeBase
    return .backward (runBackward base base.facts Advisor.recommendation traced)
  | .inspect path => do return .listing (← loadBase surroundings path)

/-- What a command leaves: its exit status, its output, and what it says about a failure. -/
structure Report where
  exit : Nat
  output : String
  errors : String

def unlines (lines : List String) : String := String.join (lines.map (· ++ "\n"))

namespace Format

def showAnswer (format : Format) (answer : Answer) : String :=
  match format with
  | text => unlines answer.lines
  | json => answer.toJson.pretty ++ "\n"

def showFailure (format : Format) (failure : Failure) : String :=
  let message := "error: " ++ failure.message
  match format with
  | text => message ++ "\n"
  | json => (Json.object [("error", .text message)]).compact ++ "\n"

end Format

def Invocation.run (invocation : Invocation) (surroundings : Surroundings) : Report :=
  match invocation.command.answer surroundings with
  | .error failure =>
    ⟨1, "", if invocation.isQuiet then "" else invocation.format.showFailure failure⟩
  | .ok answer =>
    ⟨answer.exit, if invocation.isQuiet then "" else invocation.format.showAnswer answer, ""⟩

end Chaining.Command
