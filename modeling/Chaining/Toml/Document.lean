import Chaining.Toml.Item
import Chaining.Toml.Quoted

set_option autoImplicit false

namespace Chaining.Toml

inductive Statement where
  | assign (key : Key) (item : Item)
  | header (key : Key)
  | rowHeader (key : Key)

/-- How many names a dotted key may have, and how deep arrays and inline tables may be nested. -/
def depthLimit : Nat := 79

/-! ### Keys and values -/

def isBareLetter (character : Char) : Bool :=
  character.isAlphanum || character = '_' || character = '-'

def readName : List Char → Option (String × List Char)
  | '"' :: rest => (readQuotedLine '"' rest).map fun (name, left) => (.ofList name, left)
  | '\'' :: rest => (readQuotedLine '\'' rest).map fun (name, left) => (.ofList name, left)
  | input =>
    let name := input.takeWhile isBareLetter
    if name.isEmpty then none else some (.ofList name, input.dropWhile isBareLetter)

/-- Reads the names of a key, as many as there are steps, with the spaces around them. -/
def readNames : Nat → List Char → Option (Key × List Char)
  | 0, _ => none
  | steps + 1, input => do
    let (name, left) ← readName (dropSpaces input)
    match dropSpaces left with
    | '.' :: rest => do
      let (key, left) ← readNames steps rest
      return (⟨name :: key.path, key.name⟩, left)
    | left => return (⟨[], name⟩, left)

def readKey (input : List Char) : Option (Key × List Char) := readNames depthLimit input

abbrev Reader := List Char → Option (Item × List Char)

def readPair (readItem : Reader) (input : List Char) : Option ((Key × Item) × List Char) := do
  let (key, left) ← readKey input
  let (item, left) ← readItem (dropSpaces (← readMark '=' left))
  return ((key, item), dropSpaces left)

/-- Reads the items of an array up to its closing bracket. Every step takes an item. -/
def readItems (readItem : Reader) : Nat → List Char → Option (List Item × List Char)
  | 0, _ => none
  | steps + 1, input =>
    match dropBlanks false input with
    | ']' :: rest => some ([], rest)
    | input => do
      let (item, left) ← readItem input
      match dropBlanks false left with
      | ']' :: rest => return ([item], rest)
      | ',' :: rest => do
        let (items, left) ← readItems readItem steps rest
        return (item :: items, left)
      | _ => none

/-- Reads the pairs of an inline table up to its closing brace. Every step takes a pair. -/
def readPairs (readItem : Reader) : Nat → List Char → Option (List (Key × Item) × List Char)
  | 0, _ => none
  | steps + 1, input => do
    let (pair, left) ← readPair readItem input
    match left with
    | '\x7d' :: rest => return ([pair], rest)
    | ',' :: rest => do
      let (pairs, left) ← readPairs readItem steps rest
      return (pair :: pairs, left)
    | _ => none

def readScalar (input : List Char) : Option (Item × List Char) :=
  match passMoment input with
  | some left => some (.moment (.ofList (input.take (input.length - left.length))), left)
  | none =>
    match readAmount input with
    | some (.integer value, left) => some (.integer value, left)
    | some (.real number, left) => some (.real number, left)
    | none => none

def readItem : Nat → List Char → Option (Item × List Char)
  | depth, '[' :: rest =>
    match depth with
    | 0 => none
    | depth + 1 => do
      let (items, left) ← readItems (readItem depth) (rest.length + 1) rest
      return (.array items, left)
  | depth, '\x7b' :: rest =>
    match depth, dropSpaces rest with
    | 0, _ => none
    | _, '\x7d' :: left => some (.table .inline [], left)
    | depth + 1, input => do
      let (pairs, left) ← readPairs (readItem depth) (input.length + 1) input
      return (← inlineTable pairs, left)
  | _, 't' :: 'r' :: 'u' :: 'e' :: rest => some (.boolean true, rest)
  | _, 'f' :: 'a' :: 'l' :: 's' :: 'e' :: rest => some (.boolean false, rest)
  | _, input =>
    match readText input with
    | some (content, left) => some (.text (.ofList content), left)
    | none => readScalar input

/-! ### Statements -/

/-- Reads a line up to what may follow a statement; there may be no statement on it. -/
def readStatement (input : List Char) : Option (Option Statement × List Char) :=
  match input with
  | [] => some (none, [])
  | '#' :: _ => some (none, input)
  | '[' :: '[' :: rest => do
    let (key, left) ← readKey rest
    return (some (.rowHeader key), ← readMark ']' (← readMark ']' left))
  | '[' :: rest => do
    let (key, left) ← readKey rest
    return (some (.header key), ← readMark ']' left)
  | input =>
    if (lineEnd? input).isSome then some (none, input)
    else do
      let (pair, left) ← readPair (readItem depthLimit) input
      return (some (.assign pair.1 pair.2), left)

def passLine (input : List Char) : Option (List Char) :=
  let left :=
    match dropSpaces input with
    | '#' :: comment => comment.dropWhile isPlain
    | left => left
  if left.isEmpty then some [] else lineEnd? left

/-- Reads the statements of the lines that are left. Every step takes a line. -/
def readStatements : Nat → List Char → Option (List Statement)
  | 0, _ => none
  | steps + 1, input =>
    if input.isEmpty then some []
    else do
      let (statement, left) ← readStatement (dropSpaces input)
      let statements ← readStatements steps (← passLine left)
      return statement.toList ++ statements

/-! ### Documents -/

/-- The members read so far, and where the table of the last header is. -/
structure Progress where
  members : Members
  place : List String

/-- Where the table of a header is. -/
def Key.place (key : Key) : List String := key.path ++ [key.name]

def Progress.step (progress : Progress) : Statement → Option Progress
  | .assign key item => do
    let members ←
      Members.within false (Members.assign key item) progress.place .header progress.members
    return { progress with members }
  | .header key => do
    let members ←
      Members.within false (Members.openTable key.name) key.path .header progress.members
    return ⟨members, key.place⟩
  | .rowHeader key => do
    let members ← Members.within false (Members.openRow key.name) key.path .header progress.members
    return ⟨members, key.place⟩

def Members.ofStatements (statements : List Statement) : Option Members :=
  (statements.foldlM Progress.step ⟨[], []⟩).map Progress.members

/-- The members of a document. A byte order mark in front of it is passed over. -/
def Members.ofText (text : String) : Option Members := do
  let input :=
    match text.toList with
    | '\ufeff' :: rest => rest
    | input => input
  let statements ← readStatements (input.length + 1) input
  Members.ofStatements statements

end Chaining.Toml
