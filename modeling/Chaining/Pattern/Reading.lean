import Chaining.Pattern.Tree
import Chaining.Text.Blank
import Chaining.Text.Hexadecimal

set_option autoImplicit false

namespace Chaining.Pattern

open Text (isBlank isHexDigit hexNumber character?)

def dropBlanks (inComment : Bool) : List Char → List Char
  | [] => []
  | first :: rest =>
    if inComment then dropBlanks (first ≠ '\n') rest
    else if first = '#' then dropBlanks true rest
    else if isBlank first then dropBlanks false rest
    else first :: rest

/-- Blanks are white space and comments up to the end of the line. They stand for nothing while
`extended` holds. -/
def skip (extended : Bool) (input : List Char) : List Char :=
  if extended then dropBlanks false input else input

/-- Takes accepted characters, passing over blanks between them if they are passed over. -/
def takeWhileSkipping (accepts : Char → Bool) (extended inComment : Bool) :
    List Char → List Char × List Char
  | [] => ([], [])
  | first :: rest =>
    if inComment then takeWhileSkipping accepts extended (first ≠ '\n') rest
    else if accepts first then
      let (taken, left) := takeWhileSkipping accepts extended false rest
      (first :: taken, left)
    else if extended && first = '#' then takeWhileSkipping accepts extended true rest
    else if extended && isBlank first then takeWhileSkipping accepts extended false rest
    else ([], first :: rest)

/-! ### Escapes -/

def metaCharacters : List Char :=
  ['\\', '.', '+', '*', '?', '(', ')', '|', '[', ']', '\x7b', '\x7d', '^', '$', '#', '&', '-', '~']

/-- Characters that may stand behind a backslash for themselves: all of ASCII but letters, digits
and angle brackets. -/
def isEscapable (character : Char) : Bool :=
  metaCharacters.contains character ||
    (character.toNat < 128 && !character.isAlphanum && character ≠ '<' && character ≠ '>')

def readFixedHex (extended : Bool) : Nat → List Char → Option (List Char × List Char)
  | 0, input => some ([], input)
  | 1, first :: rest => if isHexDigit first then some ([first], skip extended rest) else none
  | count + 1, first :: rest =>
    if isHexDigit first then do
      let (digits, left) ← readFixedHex extended count (skip extended rest)
      return (first :: digits, left)
    else none
  | _ + 1, [] => none

/-- A character by its number: `count` digits, or any number of them in braces. -/
def readHex (extended : Bool) (count : Nat) (input : List Char) : Option (Literal × List Char) :=
  match skip extended input with
  | '\x7b' :: rest =>
    match takeWhileSkipping isHexDigit extended false rest with
    | (digits, '\x7d' :: left) =>
      if digits.isEmpty then none
      else do
        let character ← character? (hexNumber digits)
        return (⟨character, false⟩, skip extended left)
    | _ => none
  | input => do
    let (digits, left) ← readFixedHex extended count input
    let character ← character? (hexNumber digits)
    return (⟨character, count = 2⟩, left)

/-- Cuts a list in front of the first place where `separator` stands, and drops the separator. -/
def splitAt? (separator : List Char) : List Char → Option (List Char × List Char)
  | [] => none
  | first :: rest =>
    if separator.isPrefixOf (first :: rest) then
      some ([], (first :: rest).drop separator.length)
    else (splitAt? separator rest).map fun (before, after) => (first :: before, after)

/-- The query in the braces of a property. What stands between the property and its value makes no
difference: `!=` asks for the same code points as `=`. -/
def propertyQuery (content : List Char) : Unicode.Query :=
  match ((splitAt? ['!', '='] content).or (splitAt? [':'] content)).or (splitAt? ['='] content) with
  | some (property, value) => .valued property value
  | none => .named content

def readProperty (extended negated : Bool) (input : List Char) : Option (Tree × List Char) :=
  match skip extended input with
  | '\x7b' :: rest =>
    let inside (character : Char) : Bool :=
      character ≠ '\x7d' && !(extended && (character = '#' || isBlank character))
    match takeWhileSkipping inside extended false rest with
    | (content, '\x7d' :: left) => some (.set (.property (propertyQuery content) negated), left)
    | _ => none
  | '\\' :: _ => none
  | first :: rest => some (.set (.property (.named [first]) negated), skip extended rest)
  | [] => none

def isBoundaryLetter (character : Char) : Bool := character.isAlpha || character = '-'

/-- The name in braces that may follow `\b`. Braces that do not start with a letter belong to a
repetition. -/
def readBoundary (extended : Bool) (input : List Char) : Option (Assertion × List Char) :=
  match input with
  | '\x7b' :: rest =>
    match skip extended rest with
    | [] => none
    | first :: rest =>
      if isBoundaryLetter first then
        match takeWhileSkipping isBoundaryLetter extended false (first :: rest) with
        | (name, '\x7d' :: left) =>
          match String.ofList name with
          | "start" => some (.wordStart, left)
          | "end" => some (.wordEnd, left)
          | "start-half" => some (.wordStartHalf, left)
          | "end-half" => some (.wordEndHalf, left)
          | _ => none
        | _ => none
      else some (.boundary, input)
  | input => some (.boundary, input)

def literal (character : Char) : Tree := .literal ⟨character, false⟩

def shorthand (shorthand : Shorthand) (negated : Bool) : Tree := .set (.shorthand shorthand negated)

def readEscape (extended : Bool) : List Char → Option (Tree × List Char)
  | [] => none
  | letter :: rest =>
    if isEscapable letter then some (literal letter, rest)
    else
      match letter with
      | 'x' => (readHex extended 2 rest).map fun (read, left) => (.literal read, left)
      | 'u' => (readHex extended 4 rest).map fun (read, left) => (.literal read, left)
      | 'U' => (readHex extended 8 rest).map fun (read, left) => (.literal read, left)
      | 'p' => readProperty extended false rest
      | 'P' => readProperty extended true rest
      | 'd' => some (shorthand .digit false, rest)
      | 's' => some (shorthand .space false, rest)
      | 'w' => some (shorthand .word false, rest)
      | 'D' => some (shorthand .digit true, rest)
      | 'S' => some (shorthand .space true, rest)
      | 'W' => some (shorthand .word true, rest)
      | 'a' => some (literal '\x07', rest)
      | 'f' => some (literal '\x0c', rest)
      | 't' => some (literal '\t', rest)
      | 'n' => some (literal '\n', rest)
      | 'r' => some (literal '\r', rest)
      | 'v' => some (literal '\x0b', rest)
      | 'A' => some (.assertion .textStart, rest)
      | 'z' => some (.assertion .textEnd, rest)
      | 'b' => (readBoundary extended rest).map fun (read, left) => (.assertion read, left)
      | 'B' => some (.assertion .notBoundary, rest)
      | '<' => some (.assertion .wordStart, rest)
      | '>' => some (.assertion .wordEnd, rest)
      | _ => none

/-! ### Classes in brackets -/

/-- What is around the items that are being read: a bracket with the items in front of it, the last
first, or the left side of an operation. -/
inductive ClassFrame where
  | bracket (negated : Bool) (before : List ClassTree)
  | operand (operation : Operation) (left : ClassTree)

/-- Items read one after another, the last first. -/
def joinItems : List ClassTree → ClassTree
  | [] => .empty
  | [item] => item
  | items => .union items.reverse

def closeOperation (right : ClassTree) : List ClassFrame → ClassTree × List ClassFrame
  | .operand operation left :: frames => (.operation operation left right, frames)
  | frames => (right, frames)

def single (character : Char) : ClassTree := .range ⟨character, false⟩ ⟨character, false⟩

/-- Reads what follows an opening bracket: a circumflex, hyphens, and a closing bracket that comes
first and stands for itself. -/
def openBracket (extended : Bool) (input : List Char) : Bool × List ClassTree × List Char :=
  let (negated, input) :=
    match skip extended input with
    | '^' :: rest => (true, skip extended rest)
    | input => (false, input)
  match takeWhileSkipping (· = '-') extended false input with
  | ([], ']' :: rest) => (negated, [single ']'], skip extended rest)
  | (hyphens, rest) => (negated, hyphens.map single, rest)

def named? (name : List Char) : Option Named :=
  match String.ofList name with
  | "alnum" => some .alnum
  | "alpha" => some .alpha
  | "ascii" => some .ascii
  | "blank" => some .blank
  | "cntrl" => some .cntrl
  | "digit" => some .digit
  | "graph" => some .graph
  | "lower" => some .lower
  | "print" => some .print
  | "punct" => some .punct
  | "space" => some .space
  | "upper" => some .upper
  | "word" => some .word
  | "xdigit" => some .xdigit
  | _ => none

/-- A class by its name between `[:` and `:]`, behind its opening bracket. -/
def readNamed? (input : List Char) : Option (ClassTree × List Char) :=
  match input with
  | ':' :: rest =>
    let (negated, rest) :=
      match rest with
      | '^' :: rest => (true, rest)
      | rest => (false, rest)
    let name := rest.takeWhile (· ≠ ':')
    match rest.dropWhile (· ≠ ':') with
    | ':' :: ']' :: left => (named? name).map fun name => (.named name negated, left)
    | _ => none
  | _ => none

def readClassPart (extended : Bool) : List Char → Option (Tree × List Char)
  | [] => none
  | '\\' :: rest => readEscape extended rest
  | first :: rest => some (literal first, rest)

def literal? : Tree → Option Literal
  | .literal literal => some literal
  | _ => none

def classItem? : Tree → Option ClassTree
  | .literal literal => some (.range literal literal)
  | .set content => some content
  | _ => none

/-- The character that decides whether a hyphen makes a range; a `#` in front of it is passed over
with the blanks. -/
def behindHyphen (extended : Bool) (rest : List Char) : Option Char :=
  if extended then
    match rest.dropWhile isBlank with
    | '#' :: rest => (rest.dropWhile isBlank).head?
    | rest => rest.head?
  else rest.head?

def readRange (extended : Bool) (input : List Char) : Option (ClassTree × List Char) := do
  let (first, rest) ← readClassPart extended input
  match skip extended rest with
  | [] => none
  | '-' :: rest =>
    let next := behindHyphen extended rest
    if next = some ']' || next = some '-' then
      let item ← classItem? first
      return (item, '-' :: rest)
    else
      let (last, left) ← readClassPart extended (skip extended rest)
      let first ← literal? first
      let last ← literal? last
      if first.character ≤ last.character then return (.range first last, left) else none
  | rest =>
    let item ← classItem? first
    return (item, rest)

/-- Reads items up to the bracket that closes the outermost one. Every step takes a character, so
as many steps as characters are enough. -/
def readItems (extended : Bool) :
    Nat → List ClassFrame → List ClassTree → List Char → Option (ClassTree × List Char)
  | 0, _, _, _ => none
  | steps + 1, frames, items, input =>
    let operate (operation : Operation) (rest : List Char) : Option (ClassTree × List Char) :=
      let (left, frames) := closeOperation (joinItems items) frames
      readItems extended steps (.operand operation left :: frames) [] rest
    match skip extended input with
    | [] => none
    | '[' :: rest =>
      match readNamed? rest with
      | some (item, left) => readItems extended steps frames (item :: items) left
      | none =>
        let (negated, inner, left) := openBracket extended rest
        readItems extended steps (.bracket negated items :: frames) inner left
    | ']' :: rest =>
      match closeOperation (joinItems items) frames with
      | (content, [.bracket negated _]) => some (.bracketed negated content, rest)
      | (content, .bracket negated before :: frames) =>
        readItems extended steps frames (.bracketed negated content :: before) rest
      | _ => none
    | '&' :: '&' :: rest => operate .intersection rest
    | '-' :: '-' :: rest => operate .difference rest
    | '~' :: '~' :: rest => operate .symmetricDifference rest
    | input => do
      let (item, left) ← readRange extended input
      readItems extended steps frames (item :: items) left

def readClass (extended : Bool) (input : List Char) : Option (Tree × List Char) := do
  let (negated, items, rest) := openBracket extended input
  let (content, left) ← readItems extended (rest.length + 1) [.bracket negated []] items rest
  return (.set content, left)

/-! ### Repetitions -/

def countLimit : Nat := Nat.pow 2 32

/-- A count below `countLimit`, with white space around it. -/
def readCount (extended : Bool) (input : List Char) : Option (Nat × List Char) :=
  let (digits, left) := takeWhileSkipping Char.isDigit extended false (input.dropWhile isBlank)
  let count := Nat.ofDigitChars 10 digits 0
  if digits.isEmpty || countLimit ≤ count then none else some (count, left.dropWhile isBlank)

def readCounts (extended : Bool) (input : List Char) :
    Option ((Nat × Option Nat) × List Char) := do
  let (least, rest) ← readCount extended (skip extended input)
  match rest with
  | '\x7d' :: left => return ((least, some least), left)
  | ',' :: rest =>
    match skip extended rest with
    | '\x7d' :: left => return ((least, none), left)
    | rest =>
      match ← readCount extended rest with
      | (most, '\x7d' :: left) => if least ≤ most then return ((least, some most), left) else none
      | _ => none
  | _ => none

/-- Repeats the last of the parts. Flags and nothing cannot be repeated. -/
def repeatLast (least : Nat) (most : Option Nat) (greedy : Bool) : List Tree → Option (List Tree)
  | [] => none
  | .empty :: _ => none
  | .flags _ :: _ => none
  | part :: parts => some (.repetition part least most greedy :: parts)

/-! ### Groups -/

def flag? : Char → Option Flag
  | 'i' => some .caseless
  | 'm' => some .multiLine
  | 's' => some .dotAll
  | 'U' => some .swapsGreed
  | 'u' => some .unicode
  | 'R' => some .crlf
  | 'x' => some .extended
  | _ => none

/-- Reads flags up to a colon or a closing parenthesis. No flag comes twice, and there is one minus
at most, with a flag behind it. -/
def readFlags (negated : Bool) (seen : FlagChanges) (afterMinus : Bool) :
    List Char → Option ((FlagChanges × Bool) × List Char)
  | [] => none
  | ':' :: rest => if afterMinus then none else some ((seen.reverse, true), rest)
  | ')' :: rest =>
    if afterMinus || seen.isEmpty then none else some ((seen.reverse, false), rest)
  | '-' :: rest => if negated then none else readFlags true seen true rest
  | first :: rest => do
    let flag ← flag? first
    if (seen.state? flag).isSome then none
    else readFlags negated ((flag, !negated) :: seen) false rest

def isLetter (character : Char) : Bool := Unicode.alphabetic.contains character.toNat

def isNumeric (character : Char) : Bool :=
  (Unicode.categories ["nd", "nl", "no"]).contains character.toNat

def startsName (character : Char) : Bool := character = '_' || isLetter character

def continuesName (character : Char) : Bool :=
  character = '_' || character = '.' || character = '[' || character = ']' ||
    isLetter character || isNumeric character

def readGroupName (input : List Char) : Option (List Char × List Char) :=
  match input.takeWhile (· ≠ '>'), input.dropWhile (· ≠ '>') with
  | first :: others, '>' :: left =>
    if startsName first && others.all continuesName then some (first :: others, left) else none
  | _, _ => none

inductive Opening where
  | group (grouping : Grouping) (name : Option (List Char))
  | flags (changes : FlagChanges)

/-- Reads what follows an opening parenthesis. There are no assertions about what is around. -/
def readOpening (extended : Bool) (input : List Char) : Option (Opening × List Char) :=
  match skip extended input with
  | '?' :: '=' :: _ => none
  | '?' :: '!' :: _ => none
  | '?' :: '<' :: '=' :: _ => none
  | '?' :: '<' :: '!' :: _ => none
  | '?' :: 'P' :: '<' :: rest => named rest
  | '?' :: '<' :: rest => named rest
  | '?' :: rest => do
    let ((changes, isGroup), left) ← readFlags false [] false rest
    return (if isGroup then .group (.flagged changes) none else .flags changes, left)
  | rest => some (.group .capturing none, rest)
where
  named (rest : List Char) : Option (Opening × List Char) := do
    let (name, left) ← readGroupName rest
    return (.group .capturing (some name), left)

/-! ### Whole patterns -/

/-- A group around the parts that are being read, with what came before it in its own group. -/
structure GroupFrame where
  grouping : Grouping
  extended : Bool
  branches : List Tree
  parts : List Tree

/-- Where the reading of a pattern stands. Lists have the last first. -/
structure State where
  extended : Bool
  branches : List Tree
  parts : List Tree
  frames : List GroupFrame
  names : List (List Char)

namespace State

def start : State := ⟨false, [], [], [], []⟩

def push (state : State) (part : Tree) : State := { state with parts := part :: state.parts }

def branch (state : State) : Tree :=
  match state.parts with
  | [] => .empty
  | [part] => part
  | parts => .sequence parts.reverse

def content (state : State) : Tree :=
  if state.branches.isEmpty then state.branch
  else .choice (state.branch :: state.branches).reverse

def bar (state : State) : State :=
  { state with branches := state.branch :: state.branches, parts := [] }

def openGroup (state : State) : Opening → Option State
  | .flags changes =>
    some { state.push (.flags changes) with
      extended := (changes.state? .extended).getD state.extended }
  | .group grouping name =>
    let extended :=
      match grouping with
      | .capturing => state.extended
      | .flagged changes => (changes.state? .extended).getD state.extended
    let frame : GroupFrame := ⟨grouping, state.extended, state.branches, state.parts⟩
    match name with
    | none => some ⟨extended, [], [], frame :: state.frames, state.names⟩
    | some name =>
      if state.names.contains name then none
      else some ⟨extended, [], [], frame :: state.frames, name :: state.names⟩

def closeGroup (state : State) : Option State :=
  match state.frames with
  | [] => none
  | frame :: frames =>
    some ⟨frame.extended, frame.branches, .group frame.grouping state.content :: frame.parts,
      frames, state.names⟩

/-- The pattern once nothing is left to read and no group is open. -/
def finish (state : State) : Option Tree :=
  if state.frames.isEmpty then some state.content else none

def repeated (state : State) (least : Nat) (most : Option Nat) (greedy : Bool) : Option State :=
  (repeatLast least most greedy state.parts).map fun parts => { state with parts }

end State

/-- Repeats the last part. A question mark behind the counts makes the repetition lazy. -/
def readRepeated (state : State) (least : Nat) (most : Option Nat) (input : List Char) :
    Option (State × List Char) :=
  match input with
  | '?' :: rest => (state.repeated least most false).map (·, rest)
  | rest => (state.repeated least most true).map (·, rest)

def readPart (state : State) : List Char → Option (State × List Char)
  | [] => none
  | '(' :: rest => do
    let (opening, left) ← readOpening state.extended rest
    let state ← state.openGroup opening
    return (state, left)
  | ')' :: rest => state.closeGroup.map (·, rest)
  | '|' :: rest => some (state.bar, rest)
  | '[' :: rest => (readClass state.extended rest).map fun (part, left) => (state.push part, left)
  | '?' :: rest => readRepeated state 0 (some 1) rest
  | '*' :: rest => readRepeated state 0 none rest
  | '+' :: rest => readRepeated state 1 none rest
  | '\x7b' :: rest => do
    let ((least, most), left) ← readCounts state.extended rest
    readRepeated state least most (skip state.extended left)
  | '\\' :: rest => (readEscape state.extended rest).map fun (part, left) => (state.push part, left)
  | '.' :: rest => some (state.push .dot, rest)
  | '^' :: rest => some (state.push (.assertion .lineStart), rest)
  | '$' :: rest => some (state.push (.assertion .lineEnd), rest)
  | first :: rest => some (state.push (literal first), rest)

/-- Reads part after part. Every step takes a character, so as many steps as characters are
enough. -/
def readParts : Nat → State → List Char → Option Tree
  | 0, state, input => if (skip state.extended input).isEmpty then state.finish else none
  | steps + 1, state, input =>
    match skip state.extended input with
    | [] => state.finish
    | input => do
      let (state, left) ← readPart state input
      readParts steps state left

def depthLimit : Nat := 250

def Tree.ofText? (text : List Char) : Option Tree := do
  let tree ← readParts text.length .start text
  if tree.depth ≤ depthLimit then return tree else none

end Chaining.Pattern
