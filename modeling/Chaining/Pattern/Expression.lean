import Chaining.Pattern.Tree
import Chaining.Unicode.CaseFolding

set_option autoImplicit false

namespace Chaining.Pattern

open Unicode (CodePoints)

/-- A condition on the characters before and after a position. -/
inductive Look where
  | start
  | finish
  | lineStart
  | lineEnd
  | lineStartCrlf
  | lineEndCrlf
  /-- A boundary of words, as told by what counts as a character of a word. -/
  | boundary (unicode : Bool)
  | notBoundary (unicode : Bool)
  | wordStart (unicode : Bool)
  | wordEnd (unicode : Bool)
  | wordStartHalf (unicode : Bool)
  | wordEndHalf (unicode : Bool)
deriving DecidableEq

/-- What an expression is built from: conditions, and sets one of whose points is taken. Sets of
bytes and of characters are told apart, also where their points are the same. -/
inductive Atom where
  | look (look : Look)
  | set (points : CodePoints) (ofBytes : Bool)

inductive Form (α : Type) where
  | empty
  | atom (atom : α)
  | sequence (parts : List (Form α))
  | choice (branches : List (Form α))
  | repetition (part : Form α) (least : Nat) (most : Option Nat) (greedy : Bool)
  | capture (part : Form α)

abbrev Expression := Form Atom

abbrev Expression.look (look : Look) : Expression := .atom (.look look)

structure Flags where
  caseless : Bool
  multiLine : Bool
  dotAll : Bool
  swapsGreed : Bool
  unicode : Bool
  crlf : Bool

namespace Flags

def initial : Flags := ⟨false, false, false, false, true, false⟩

def apply (flags : Flags) (changes : FlagChanges) : Flags where
  caseless := (changes.state? .caseless).getD flags.caseless
  multiLine := (changes.state? .multiLine).getD flags.multiLine
  dotAll := (changes.state? .dotAll).getD flags.dotAll
  swapsGreed := (changes.state? .swapsGreed).getD flags.swapsGreed
  unicode := (changes.state? .unicode).getD flags.unicode
  crlf := (changes.state? .crlf).getD flags.crlf

end Flags

/-! ### Classes -/

def asciiDigits : CodePoints := [(48, 57)]

def asciiSpaces : CodePoints := [(9, 13), (32, 32)]

def asciiWords : CodePoints := [(48, 57), (65, 90), (95, 95), (97, 122)]

def Named.points : Named → CodePoints
  | alnum => [(48, 57), (65, 90), (97, 122)]
  | alpha => [(65, 90), (97, 122)]
  | ascii => [(0, 127)]
  | blank => [(9, 9), (32, 32)]
  | cntrl => [(0, 31), (127, 127)]
  | digit => asciiDigits
  | graph => [(33, 126)]
  | lower => [(97, 122)]
  | print => [(32, 126)]
  | punct => [(33, 47), (58, 64), (91, 96), (123, 126)]
  | space => asciiSpaces
  | upper => [(65, 90)]
  | word => asciiWords
  | xdigit => [(48, 57), (65, 70), (97, 102)]

def Shorthand.points (unicode : Bool) : Shorthand → CodePoints
  | digit => if unicode then Unicode.categories ["nd"] else asciiDigits
  | space => if unicode then Unicode.table "wspace" else asciiSpaces
  | word => if unicode then Unicode.wordCharacters else asciiWords

/-- The points with the ASCII letters that differ from one of them in case only. -/
def asciiCaseClosure (points : CodePoints) : CodePoints :=
  let upper := (points.intersection [(65, 90)]).map fun range => (range.1 + 32, range.2 + 32)
  let lower := (points.intersection [(97, 122)]).map fun range => (range.1 - 32, range.2 - 32)
  (points.union upper).union lower

def Flags.foldCase (flags : Flags) (points : CodePoints) : CodePoints :=
  if !flags.caseless then points
  else if flags.unicode then Unicode.caseClosure points
  else asciiCaseClosure points

/-- All other points. Without Unicode the other points are bytes, some of which are only part of a
character. -/
def Flags.negate? (flags : Flags) (negated : Bool) (points : CodePoints) : Option CodePoints :=
  if !negated then some points
  else if flags.unicode then some points.complement
  else none

/-- The point of a literal. Without Unicode a byte above 127 is part of a character. -/
def Flags.point? (flags : Flags) (literal : Literal) : Option Nat :=
  let point := literal.character.toNat
  if !flags.unicode && literal.isByte && 127 < point then none else some point

/-- The point of a literal in brackets. Without Unicode these hold ASCII alone. -/
def Flags.classPoint? (flags : Flags) (literal : Literal) : Option Nat :=
  let point := literal.character.toNat
  if !flags.unicode && 127 < point then none else some point

def Operation.apply : Operation → CodePoints → CodePoints → CodePoints
  | intersection, left, right => left.intersection right
  | difference, left, right => left.difference right
  | symmetricDifference, left, right => left.symmetricDifference right

mutual

/-- The points of a class. Cases are folded before points are negated. -/
def ClassTree.points? (flags : Flags) : ClassTree → Option CodePoints
  | empty => some []
  | range first last => do
    let first ← flags.classPoint? first
    let last ← flags.classPoint? last
    return [(first, last)]
  | named name negated => flags.negate? negated (flags.foldCase name.points)
  | shorthand letter negated => flags.negate? negated (letter.points flags.unicode)
  | property query negated => do
    if flags.unicode then
      let points ← query.points?
      flags.negate? negated (flags.foldCase points)
    else none
  | bracketed negated content => do
    let points ← content.points? flags
    flags.negate? negated (flags.foldCase points)
  | union items => ClassTree.itemsPoints? flags items
  | operation kind left right => do
    let left ← left.points? flags
    let right ← right.points? flags
    return kind.apply (flags.foldCase left) (flags.foldCase right)

def ClassTree.itemsPoints? (flags : Flags) : List ClassTree → Option CodePoints
  | [] => some []
  | item :: rest => do
    let item ← item.points? flags
    let rest ← ClassTree.itemsPoints? flags rest
    return item.union rest

end

/-! ### Patterns -/

/-- The points that a dot stands for. Without Unicode it would stand for bytes. -/
def Flags.dot? (flags : Flags) : Option CodePoints :=
  if !flags.unicode then none
  else if flags.dotAll then some CodePoints.all
  else if flags.crlf then some (CodePoints.complement [(10, 10), (13, 13)])
  else some (CodePoints.complement [(10, 10)])

def Assertion.look (flags : Flags) : Assertion → Look
  | lineStart =>
    if !flags.multiLine then .start else if flags.crlf then .lineStartCrlf else .lineStart
  | lineEnd => if !flags.multiLine then .finish else if flags.crlf then .lineEndCrlf else .lineEnd
  | textStart => .start
  | textEnd => .finish
  | boundary => .boundary flags.unicode
  | notBoundary => .notBoundary flags.unicode
  | wordStart => .wordStart flags.unicode
  | wordEnd => .wordEnd flags.unicode
  | wordStartHalf => .wordStartHalf flags.unicode
  | wordEndHalf => .wordEndHalf flags.unicode

def Flags.set (flags : Flags) (points : CodePoints) : Expression :=
  .atom (.set points (!flags.unicode))

mutual

/-- Whether a form can match nothing but the empty text. -/
def Form.isHollow {α : Type} (isLook : α → Bool) : Form α → Bool
  | empty => true
  | atom leaf => isLook leaf
  | sequence parts => Form.areHollow isLook parts
  | choice branches => Form.areHollow isLook branches
  | repetition part _ most _ => part.isHollow isLook && most.isSome
  | capture part => part.isHollow isLook

def Form.areHollow {α : Type} (isLook : α → Bool) : List (Form α) → Bool
  | [] => true
  | part :: rest => part.isHollow isLook && Form.areHollow isLook rest

end

def Atom.isLook : Atom → Bool
  | look _ => true
  | set _ _ => false

/-- A repetition in its simplest form: there is no use in repeating the empty text. -/
def Expression.repeated (part : Expression) (least : Nat) (most : Option Nat) (greedy : Bool) :
    Expression :=
  let counts :=
    if part.isHollow Atom.isLook then (min least 1, some (min (most.getD 1) 1)) else (least, most)
  match counts with
  | (0, some 0) => .empty
  | (1, some 1) => part
  | (least, most) => .repetition part least most greedy

mutual

/-- The expression of a tree, and the flags that hold behind it. -/
def Tree.translate? (flags : Flags) : Tree → Option (Expression × Flags)
  | empty => some (.empty, flags)
  | .flags changes => some (.empty, flags.apply changes)
  | literal written => do
    let point ← flags.point? written
    return (flags.set (flags.foldCase [(point, point)]), flags)
  | dot => flags.dot?.map fun points => (flags.set points, flags)
  | assertion written => some (Expression.look (written.look flags), flags)
  | set content => (content.points? flags).map fun points => (flags.set points, flags)
  | repetition part least most greedy => do
    let (part, flags) ← part.translate? flags
    return (Expression.repeated part least most (greedy != flags.swapsGreed), flags)
  | group .capturing part => do
    let (part, _) ← part.translate? flags
    return (.capture part, flags)
  | group (.flagged changes) part => do
    let (part, _) ← part.translate? (flags.apply changes)
    return (part, flags)
  | sequence parts => do
    let (parts, flags) ← Tree.translateAll? flags parts
    return (.sequence parts, flags)
  | choice branches => do
    let (branches, flags) ← Tree.translateAll? flags branches
    return (.choice branches, flags)

def Tree.translateAll? (flags : Flags) : List Tree → Option (List Expression × Flags)
  | [] => some ([], flags)
  | part :: rest => do
    let (part, flags) ← part.translate? flags
    let (rest, flags) ← Tree.translateAll? flags rest
    return (part :: rest, flags)

end

end Chaining.Pattern
