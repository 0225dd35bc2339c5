import Chaining.Pattern.Normal
import Chaining.Unicode.Encoding

set_option autoImplicit false

namespace Chaining.Pattern

open Unicode (ByteRanges CodePoints)

inductive Direction where
  | forward
  | backward
deriving DecidableEq

/-- The bytes of a state, to which come those of the transitions or branches it keeps in a list. -/
def stateSize : Nat := 32

def transitionSize : Nat := 8

def branchSize : Nat := 4

def forkSize : Nat := stateSize + 2 * branchSize

def total (sizes : List Nat) : Nat := sizes.foldr (· + ·) 0

/-! ### Sets -/

/-- Sequences with the same first range, put together without it. -/
def byFirst : List ByteRanges → List ((Nat × Nat) × List ByteRanges)
  | [] => []
  | [] :: rest => byFirst rest
  | (first :: tail) :: rest =>
    match byFirst rest with
    | (other, tails) :: groups =>
      if other = first then (first, tail :: tails) :: groups
      else (first, [tail]) :: (other, tails) :: groups
    | [] => [(first, [tail])]

/-- What is left to read in each state of a tree of sequences, for code points of at most `length`
bytes. -/
def states : Nat → List ByteRanges → List (List ByteRanges)
  | 0, _ => []
  | length + 1, sequences =>
    match byFirst sequences with
    | [] => []
    | groups => sequences :: groups.flatMap fun group => states length group.2

/-- The number of different beginnings of sequences. -/
def beginnings : Nat → List ByteRanges → Nat
  | 0, _ => 0
  | length + 1, sequences =>
    total ((byFirst sequences).map fun group => 1 + beginnings length group.2)

def utf8Length : Nat := 4

/-- ASCII ranges are transitions of one state. Other sets share states forward where the same is
left to read, backward where the same has been read. -/
def setSize (direction : Direction) (points : CodePoints) : Nat :=
  let sequences := Unicode.encoded points
  if List.all points (·.2 < 128) then 2 * stateSize + points.length * transitionSize
  else
    match direction with
    | .forward =>
      stateSize + total ((states utf8Length sequences).eraseDups.map fun left =>
        stateSize + (byFirst left).length * transitionSize)
    | .backward =>
      2 * stateSize + sequences.length * branchSize + beginnings utf8Length sequences * stateSize

/-! ### Words -/

abbrev Bytes := List UInt8

def bytes (direction : Direction) (points : List Nat) : Bytes :=
  let forward := points.flatMap fun point => String.utf8EncodeChar (Char.ofNat point)
  match direction with
  | .forward => forward
  | .backward => forward.reverse

/-- Puts a word among others that are together by their first byte. -/
def placeByte (first : UInt8) (rest : Bytes) : List (UInt8 × List Bytes) → List (UInt8 × List Bytes)
  | [] => [(first, [rest])]
  | (other, rests) :: groups =>
    if other = first then (first, rest :: rests) :: groups
    else (other, rests) :: placeByte first rest groups

def byFirstByte : List Bytes → List (UInt8 × List Bytes)
  | [] => []
  | [] :: words => byFirstByte words
  | (first :: rest) :: words => placeByte first rest (byFirstByte words)

/-- Words in runs, cut wherever one ends in the state they lead to. -/
def runs : List Bytes → List (List Bytes)
  | [] => [[]]
  | [] :: words => [] :: runs words
  | word :: words =>
    match runs words with
    | [] => [[word]]
    | run :: others => (word :: run) :: others

/-- Where no word leads on yet, the first that ends makes the others superfluous. -/
def dropRepeated : List Bytes → List Bytes
  | [] :: [] :: words => dropRepeated ([] :: words)
  | words => words

/-- The size of a tree of words of at most `length` bytes. A word does not share a state with another
when one in between ends there. -/
def treeSize : Nat → List Bytes → Nat
  | 0, _ => 0
  | length + 1, words =>
    if words.all List.isEmpty then 0
    else
      let runs := runs (dropRepeated words)
      let groups := (runs.map byFirstByte).filter fun groups => !groups.isEmpty
      stateSize + (groups.length + (runs.length - 1)) * branchSize +
        total (groups.map fun groups =>
          stateSize + (if groups.length = 1 then 0 else groups.length * transitionSize) +
            total (groups.map fun group => treeSize length group.2))

def wordsSize (words : List Bytes) : Nat :=
  stateSize + treeSize (words.foldr (fun word longest => max word.length longest) 0) words

/-! ### Normal forms -/

namespace Normal

mutual

/-- Whether every set has a point. -/
def isFilled : Normal → Bool
  | .atom (.set points _) => !points.isEmpty
  | .atom _ => true
  | .empty => true
  | .sequence parts => areFilled parts
  | .choice branches => areFilled branches
  | .repetition part _ _ _ => isFilled part
  | .capture part => isFilled part

def areFilled : List Normal → Bool
  | [] => true
  | part :: rest => isFilled part && areFilled rest

end

mutual

/-- Whether there are matches, as far as sets tell, and every one takes a character. -/
def consumes : Normal → Bool
  | .empty => false
  | .atom (.look _) => false
  | .atom (.word _) => true
  | .atom (.set points _) => !points.isEmpty
  | .sequence parts => areFilled parts && anyConsumes parts
  | .choice branches => allConsume branches
  | .repetition part least _ _ => 0 < least && consumes part
  | .capture part => consumes part

def anyConsumes : List Normal → Bool
  | [] => false
  | part :: rest => consumes part || anyConsumes rest

def allConsume : List Normal → Bool
  | [] => true
  | branch :: rest => consumes branch && allConsume rest

end

mutual

/-- Whether every match lies at the end of the text that a direction starts from. -/
def isBound (direction : Direction) : Normal → Bool
  | .empty => false
  | .atom piece =>
    match direction with
    | .forward => piece = .look .start
    | .backward => piece = .look .finish
  | .sequence parts => areBound direction parts
  | .choice branches => allBound direction branches
  | .repetition part least _ _ => 0 < least && isBound direction part
  | .capture part => isBound direction part

def areBound (direction : Direction) : List Normal → Bool
  | [] => false
  | part :: rest =>
    match direction with
    | .forward => isBound direction part || (part.isHollow Piece.isLook && areBound direction rest)
    | .backward =>
      areBound direction rest || (Form.areHollow Piece.isLook rest && isBound direction part)

def allBound (direction : Direction) : List Normal → Bool
  | [] => true
  | branch :: rest => isBound direction branch && allBound direction rest

end

def repetitionSize (consumes : Bool) (size least : Nat) : Option Nat → Nat
  | none =>
    match least with
    | 0 => size + (if consumes then forkSize else 2 * forkSize + stateSize)
    | least => least * size + forkSize
  | some most =>
    if least = most then least * size
    else if least = 0 && most = 1 then size + forkSize + stateSize
    else
      (if least = 0 then stateSize else least * size) + stateSize +
        (most - least) * (size + forkSize)

def word? : Normal → Option (List Nat)
  | .atom (.word points) => some points
  | _ => none

mutual

def size (direction : Direction) : Normal → Nat
  | .empty => stateSize
  | .atom (.look _) => stateSize
  | .atom (.word points) => (bytes direction points).length * stateSize
  | .atom (.set points _) => setSize direction points
  | .sequence parts => partsSize direction parts
  | .choice branches =>
    match branches.mapM word? with
    | some words => wordsSize (words.map (bytes direction))
    | none => 2 * stateSize + branches.length * branchSize + partsSize direction branches
  | .repetition part least most _ => repetitionSize (consumes part) (size direction part) least most
  | .capture part =>
    size direction part + (if direction = .forward then 2 * stateSize else 0)

def partsSize (direction : Direction) : List Normal → Nat
  | [] => 0
  | part :: rest => size direction part + partsSize direction rest

end

/-- The states in front of an automaton: one, or a loop over all bytes where a match may start
anywhere. -/
def leadSize (direction : Direction) (normal : Normal) : Nat :=
  if isBound direction normal then stateSize
  else forkSize + (stateSize + transitionSize) + stateSize

/-- The size of a whole automaton. The one that runs forward captures the match. -/
def totalSize (direction : Direction) (normal : Normal) : Nat :=
  leadSize direction normal + size direction (.capture normal) + stateSize

/-- As many words as this are looked for without an automaton. -/
def manyWords : Nat := 3000

def isManyWords : Normal → Bool
  | .choice branches => manyWords ≤ branches.length && branches.all fun branch => (word? branch).isSome
  | _ => false

end Normal

def sizeLimit : Nat := 10 * Nat.pow 2 20

/-- Whether the automata of an expression stay within the limit, both that there may be. -/
def Expression.fits (expression : Expression) : Bool :=
  let normal := Expression.normal expression
  Normal.isManyWords normal ||
    (Normal.totalSize .forward normal ≤ sizeLimit && Normal.totalSize .backward normal ≤ sizeLimit)

end Chaining.Pattern
