set_option autoImplicit false

namespace Chaining.Command

inductive Refusal where
  | helpAsked
  | versionAsked
  | nothingGiven
  | noCommand
  | unknownCommand
  | unknownArgument
  /-- The value is missing, or not one of those that are possible. -/
  | invalidValue
  /-- The value is not a number within range. -/
  | malformedValue
  /-- An option that may be given once is given again. -/
  | repeatedOption
  /-- A value for an option that takes none. -/
  | unwantedValue
  | missingArgument
deriving DecidableEq

def Refusal.exit : Refusal → Nat
  | helpAsked => 0
  | versionAsked => 0
  | _ => 2

/-- A parameter and what its values do to what has been read. -/
structure Parameter (α : Type) where
  name : String
  takesValue : Bool
  mayRepeat : Bool
  accept : String → α → Except Refusal α

structure Grammar (α : Type) where
  options : List (Parameter α)
  words : List (Parameter α)
  hasVersion : Bool

structure Reading (α : Type) where
  read : α
  /-- The names of the options that have been read. -/
  seen : List String
  /-- The parameter met last, with its value if there is one by now. -/
  held : Option (Parameter α × Option String)
  /-- The parameters that still wait for a word. -/
  words : List (Parameter α)

inductive Shape where
  /-- Two dashes: all arguments behind them are words. -/
  | escape
  | long (name : String) (value : Option String)
  | short (letter : Char)
  | word

def Shape.of (argument : String) : Shape :=
  match argument.toList with
  | ['-', '-'] => .escape
  | '-' :: '-' :: rest =>
    let name := String.ofList (rest.takeWhile (· ≠ '='))
    match rest.dropWhile (· ≠ '=') with
    | [] => .long name none
    | _ :: value => .long name (some (.ofList value))
  | '-' :: letter :: _ => .short letter
  | _ => .word

/-- Where reading stops: at the end, or at a word that no parameter waits for. -/
inductive Stop (α : Type) where
  | finished (reading : Reading α)
  | surplus (reading : Reading α) (escaped : Bool) (word : String) (rest : List String)

section

variable {α : Type}

namespace Reading

def take (reading : Reading α) (parameter : Parameter α) (value : String) :
    Except Refusal (Reading α) :=
  if !parameter.mayRepeat && reading.seen.contains parameter.name then .error .repeatedOption
  else do
    let read ← parameter.accept value reading.read
    return { reading with read, seen := parameter.name :: reading.seen }

def settle (reading : Reading α) : Except Refusal (Reading α) :=
  match reading.held with
  | none => .ok reading
  | some (_, none) => .error .invalidValue
  | some (parameter, some value) => { reading with held := none }.take parameter value

def supply (reading : Reading α) (word : String) : Option (Reading α) :=
  match reading.held with
  | some (parameter, none) => some { reading with held := some (parameter, some word) }
  | _ => none

def takeLong (grammar : Grammar α) (reading : Reading α) (name : String) (value : Option String) :
    Except Refusal (Reading α) :=
  match grammar.options.find? (·.name = name), value with
  | some parameter, value =>
    if parameter.takesValue then do
      let reading ← reading.settle
      match value with
      | none => return { reading with held := some (parameter, none) }
      | some value => reading.take parameter value
    else if value.isSome then .error .unwantedValue
    else do (← reading.settle).take parameter ""
  | none, value =>
    if name = "help" || (name = "version" && grammar.hasVersion) then
      if value.isSome then .error .unwantedValue
      else do
        let _ ← reading.settle
        .error (if name = "help" then .helpAsked else .versionAsked)
    else .error .unknownArgument

def takeShort (grammar : Grammar α) (reading : Reading α) (letter : Char) :
    Except Refusal (Reading α) :=
  if letter = 'h' then do
    let _ ← reading.settle
    .error .helpAsked
  else if letter = 'V' && grammar.hasVersion then do
    let _ ← reading.settle
    .error .versionAsked
  else .error .unknownArgument

/-- Holds a word back for the next parameter that waits for one, if there is one. -/
def takeWord (reading : Reading α) (word : String) : Option (Except Refusal (Reading α)) :=
  match reading.words with
  | [] => none
  | parameter :: words =>
    some do
      let reading ← reading.settle
      return { reading with held := some (parameter, some word), words }

/-- Reads arguments; once `escaped`, all of them are words. -/
def run (grammar : Grammar α) : Bool → List String → Reading α → Except Refusal (Stop α)
  | _, [], reading => .ok (.finished reading)
  | escaped, argument :: rest, reading =>
    match if escaped then .word else Shape.of argument with
    | .escape => run grammar true rest reading
    | .long name value => do run grammar false rest (← takeLong grammar reading name value)
    | .short letter => do run grammar false rest (← takeShort grammar reading letter)
    | .word =>
      match if escaped then none else reading.supply argument with
      | some reading => run grammar escaped rest reading
      | none =>
        match reading.takeWord argument with
        | none => .ok (.surplus reading escaped argument rest)
        | some next => do run grammar escaped rest (← next)

end Reading

def Grammar.run (grammar : Grammar α) (start : α) (arguments : List String) :
    Except Refusal (Stop α) :=
  Reading.run grammar false arguments ⟨start, [], none, grammar.words⟩

end

end Chaining.Command
