import Chaining.Command.Argument
import Chaining.Settings

set_option autoImplicit false

namespace Chaining.Command

inductive Format where
  | text
  | json
deriving DecidableEq

inductive Direction where
  | forward
  | backward
deriving DecidableEq

end Command

/-- What to do. Knowledge bases and settings files are given by their paths. -/
inductive Command where
  /-- Chains forward, to the goals of the knowledge base if there are no others. -/
  | forward (path : String) (goals : List String) (settings : SettingsLayer)
      (assignments : List String) (traced : Bool) (settingsPath : Option String)
  | backward (path : String) (goal : String) (assignments : List String) (traced : Bool)
  /-- Runs the bundled knowledge base, in one direction or in both. -/
  | demo (direction : Option Command.Direction) (traced : Bool)
  | inspect (path : String)

namespace Command

structure Invocation where
  format : Format
  isQuiet : Bool
  command : Command

/-- What options and words say, whatever the command. -/
structure Draft where
  format : Option Format
  isQuiet : Bool
  path : Option String
  goal : Option String
  direction : Option Direction
  goals : List String
  settings : SettingsLayer
  assignments : List String
  traced : Bool
  settingsPath : Option String

def Draft.blank : Draft := ⟨none, false, none, none, none, [], .blank, [], false, none⟩

/-! ### Values -/

/-- A natural number of 64 bits, which may have a plus sign. -/
def readNatural (text : String) : Except Refusal Nat :=
  let digits :=
    match text.toList with
    | '+' :: digits => digits
    | digits => digits
  let number := Nat.ofDigitChars 10 digits 0
  if !digits.isEmpty && digits.all Char.isDigit && number < Nat.pow 2 64 then .ok number
  else .error .malformedValue

/-- A path has at least one character. -/
def readPath (text : String) : Except Refusal String :=
  if text.isEmpty then .error .invalidValue else .ok text

def readFormat : String → Except Refusal Format
  | "text" => .ok .text
  | "json" => .ok .json
  | _ => .error .invalidValue

def readDirection : String → Except Refusal Direction
  | "forward" => .ok .forward
  | "backward" => .ok .backward
  | _ => .error .invalidValue

/-! ### Parameters -/

namespace Parameter

def option (name : String) (accept : String → Draft → Except Refusal Draft) : Parameter Draft :=
  ⟨name, true, false, accept⟩

def manyTimes (name : String) (accept : String → Draft → Draft) : Parameter Draft :=
  ⟨name, true, true, fun value draft => .ok (accept value draft)⟩

def flag (name : String) (accept : Draft → Draft) : Parameter Draft :=
  ⟨name, false, false, fun _ draft => .ok (accept draft)⟩

def shared : List (Parameter Draft) :=
  [option "output" fun value draft => do return { draft with format := some (← readFormat value) },
    flag "quiet" fun draft => { draft with isQuiet := true }]

def assignments : Parameter Draft :=
  manyTimes "set" fun value draft => { draft with assignments := draft.assignments ++ [value] }

def trace : Parameter Draft := flag "trace" fun draft => { draft with traced := true }

def goals : Parameter Draft :=
  manyTimes "goal" fun value draft => { draft with goals := draft.goals ++ [value] }

def strategy : Parameter Draft :=
  option "strategy" fun value draft =>
    .ok { draft with settings := { draft.settings with strategy := some (.ofName value) } }

def seed : Parameter Draft :=
  option "seed" fun value draft => do
    return { draft with settings := { draft.settings with seed := some (← readNatural value) } }

def maxIterations : Parameter Draft :=
  option "max-iterations" fun value draft => do
    let count ← readNatural value
    return { draft with settings := { draft.settings with maxIterations := some count } }

def settingsPath : Parameter Draft :=
  option "config" fun value draft => do
    return { draft with settingsPath := some (← readPath value) }

def basePath : Parameter Draft :=
  option "kb" fun value draft => do return { draft with path := some (← readPath value) }

def goal : Parameter Draft :=
  option "goal" fun value draft => .ok { draft with goal := some value }

def direction : Parameter Draft :=
  option "mode" fun value draft => do
    return { draft with direction := some (← readDirection value) }

end Parameter

/-! ### Commands by their names -/

inductive Verb where
  | forward
  | backward
  | demo
  | inspect
deriving DecidableEq

namespace Verb

def ofName? : String → Option Verb
  | "forward" => some forward
  | "backward" => some backward
  | "demo" => some demo
  | "inspect" => some inspect
  | _ => none

def options : Verb → List (Parameter Draft)
  | forward =>
    [.goals, .strategy, .seed, .maxIterations, .assignments, .trace, .settingsPath]
  | backward => [.assignments, .trace]
  | demo => [.trace]
  | inspect => []

def words : Verb → List (Parameter Draft)
  | forward => [.basePath]
  | backward => [.basePath, .goal]
  | demo => [.direction]
  | inspect => [.basePath]

def grammar (verb : Verb) : Grammar Draft := ⟨verb.options ++ Parameter.shared, verb.words, false⟩

def command? (verb : Verb) (draft : Draft) : Option Command :=
  match verb with
  | forward => do
    return .forward (← draft.path) draft.goals draft.settings draft.assignments draft.traced
      draft.settingsPath
  | backward => do
    return .backward (← draft.path) (← draft.goal) draft.assignments draft.traced
  | demo => some (.demo draft.direction draft.traced)
  | inspect => do return .inspect (← draft.path)

def read (verb : Verb) (arguments : List String) : Except Refusal (Draft × Command) := do
  match ← verb.grammar.run .blank arguments with
  | .surplus _ _ _ _ => .error .unknownArgument
  | .finished reading =>
    let draft := (← reading.settle).read
    match verb.command? draft with
    | none => .error .missingArgument
    | some command => return (draft, command)

end Verb

/-- What may stand in front of the name of a command. -/
def leadingGrammar : Grammar Draft := ⟨Parameter.shared, [], true⟩

def helpWord : String := "help"

def isNamed (word : String) : Bool := (Verb.ofName? word).isSome || word = helpWord

def helpOn : List String → Refusal
  | [] => .helpAsked
  | [word] => if isNamed word then .helpAsked else .unknownCommand
  | _ => .unknownCommand

/-- Reads a whole command line. What stands in front of the name of the command is looked at last,
as far as it is held back. -/
def Invocation.ofArguments (arguments : List String) : Except Refusal Invocation := do
  match ← leadingGrammar.run .blank arguments with
  | .finished reading =>
    let reading ← reading.settle
    .error (if reading.seen.isEmpty then .nothingGiven else .noCommand)
  | .surplus reading escaped word rest =>
    if escaped then .error (if isNamed word then .unknownArgument else .unknownCommand)
    else if word = helpWord then .error (helpOn rest)
    else
      match Verb.ofName? word with
      | none => .error .unknownCommand
      | some verb =>
        let (draft, command) ← verb.read rest
        let leading := (← reading.settle).read
        return ⟨(draft.format.or leading.format).getD .text, draft.isQuiet || leading.isQuiet,
          command⟩

end Command

end Chaining
