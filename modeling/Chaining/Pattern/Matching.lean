import Chaining.Pattern.Expression

set_option autoImplicit false

namespace Chaining.Pattern

open Unicode (CodePoints)

/-- Places before, between and behind the characters of a text, as the bits of a number. -/
abbrev Positions := Nat

def bit (holds : Bool) : Nat := if holds then 1 else 0

/-- The positions in front of the characters that pass a test. -/
def beforeCharacters (test : Char → Bool) : List Char → Positions
  | [] => 0
  | first :: rest => bit (test first) + 2 * beforeCharacters test rest

/-- The positions that pass a test on the characters before and after them. -/
def betweenCharacters (test : Option Char → Option Char → Bool) (previous : Option Char) :
    List Char → Positions
  | [] => bit (test previous none)
  | next :: rest =>
    bit (test previous (some next)) + 2 * betweenCharacters test (some next) rest

def allPositions (text : List Char) : Positions := Nat.pow 2 (text.length + 1) - 1

def isWordCharacter (unicode : Bool) (character : Char) : Bool :=
  if unicode then Unicode.wordCharacters.contains character.toNat
  else asciiWords.contains character.toNat

/-- Whether a condition holds between two characters, where nothing stands for an end of the
text. -/
def Look.holds (look : Look) (previous next : Option Char) : Bool :=
  let inWord (unicode : Bool) (character : Option Char) := character.any (isWordCharacter unicode)
  match look with
  | start => previous.isNone
  | finish => next.isNone
  | lineStart => previous.isNone || previous = some '\n'
  | lineEnd => next.isNone || next = some '\n'
  | lineStartCrlf =>
    previous.isNone || previous = some '\n' || (previous = some '\r' && next ≠ some '\n')
  | lineEndCrlf => next.isNone || next = some '\r' || (next = some '\n' && previous ≠ some '\r')
  | boundary unicode => inWord unicode previous != inWord unicode next
  | notBoundary unicode => inWord unicode previous == inWord unicode next
  | wordStart unicode => !inWord unicode previous && inWord unicode next
  | wordEnd unicode => inWord unicode previous && !inWord unicode next
  | wordStartHalf unicode => !inWord unicode previous
  | wordEndHalf unicode => !inWord unicode next

def repeatStep (step : Positions → Positions) : Nat → Positions → Positions
  | 0, positions => positions
  | count + 1, positions =>
    if positions = 0 then 0 else repeatStep step count (step positions)

/-- All positions that are reached in at most `count` steps. -/
def reach (step : Positions → Positions) : Nat → Positions → Positions
  | 0, positions => positions
  | count + 1, positions =>
    let reached := positions ||| step positions
    if reached = positions then positions else reach step count reached

/-- An atom in view of a text: a condition is the positions it holds at, and a set is the positions
in front of its points. -/
inductive Mark where
  | check (positions : Positions)
  | take (positions : Positions)

def Atom.mark (text : List Char) : Atom → Mark
  | look condition => .check (betweenCharacters condition.holds none text)
  | set points _ => .take (beforeCharacters (fun character => points.contains character.toNat) text)

mutual

def Form.map {α β : Type} (change : α → β) : Form α → Form β
  | empty => empty
  | atom leaf => atom (change leaf)
  | sequence parts => sequence (Form.mapAll change parts)
  | choice branches => choice (Form.mapAll change branches)
  | repetition part least most greedy => repetition (part.map change) least most greedy
  | capture part => capture (part.map change)

def Form.mapAll {α β : Type} (change : α → β) : List (Form α) → List (Form β)
  | [] => []
  | part :: rest => part.map change :: Form.mapAll change rest

end

mutual

/-- Where an expression may end when it starts at one of the given positions. A text has one
position more than characters, so no more steps than that reach anything new. -/
def Form.ends (length : Nat) : Form Mark → Positions → Positions
  | empty, starts => starts
  | atom (.check positions), starts => starts &&& positions
  | atom (.take positions), starts => (starts &&& positions) <<< 1
  | sequence parts, starts => Form.endsOfAll length parts starts
  | choice branches, starts => Form.endsOfAny length branches starts
  | repetition part least most _, starts =>
    let further := (most.map (· - least)).getD (length + 1)
    reach (part.ends length) further (repeatStep (part.ends length) least starts)
  | capture part, starts => part.ends length starts

def Form.endsOfAll (length : Nat) : List (Form Mark) → Positions → Positions
  | [], starts => starts
  | part :: rest, starts => Form.endsOfAll length rest (part.ends length starts)

def Form.endsOfAny (length : Nat) : List (Form Mark) → Positions → Positions
  | [], _ => 0
  | branch :: rest, starts => branch.ends length starts ||| Form.endsOfAny length rest starts

end

def Expression.ends (expression : Expression) (text : List Char) (starts : Positions) :
    Positions :=
  (Form.map (Atom.mark text) expression).ends text.length starts

def Expression.occursIn (expression : Expression) (text : List Char) : Bool :=
  Expression.ends expression text (allPositions text) ≠ 0

end Chaining.Pattern
