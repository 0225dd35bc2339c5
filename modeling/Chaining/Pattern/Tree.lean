import Chaining.Unicode.Query

set_option autoImplicit false

namespace Chaining.Pattern

/-- A literal written as a byte, `\x` and two digits, is told apart from a character. -/
structure Literal where
  character : Char
  isByte : Bool

inductive Assertion where
  | lineStart
  | lineEnd
  | textStart
  | textEnd
  | boundary
  | notBoundary
  | wordStart
  | wordEnd
  | wordStartHalf
  | wordEndHalf
deriving DecidableEq

inductive Shorthand where
  | digit
  | space
  | word
deriving DecidableEq

inductive Named where
  | alnum
  | alpha
  | ascii
  | blank
  | cntrl
  | digit
  | graph
  | lower
  | print
  | punct
  | space
  | upper
  | word
  | xdigit
deriving DecidableEq

inductive Operation where
  | intersection
  | difference
  | symmetricDifference
deriving DecidableEq

inductive ClassTree where
  | empty
  | range (first last : Literal)
  | named (name : Named) (negated : Bool)
  | shorthand (shorthand : Shorthand) (negated : Bool)
  | property (query : Unicode.Query) (negated : Bool)
  | bracketed (negated : Bool) (content : ClassTree)
  | union (items : List ClassTree)
  | operation (operation : Operation) (left right : ClassTree)

inductive Flag where
  | caseless
  | multiLine
  | dotAll
  | swapsGreed
  | unicode
  | crlf
  | extended
deriving DecidableEq

abbrev FlagChanges := List (Flag × Bool)

def FlagChanges.state? (changes : FlagChanges) (flag : Flag) : Option Bool := changes.lookup flag

inductive Grouping where
  | capturing
  | flagged (changes : FlagChanges)

inductive Tree where
  | empty
  | flags (changes : FlagChanges)
  | literal (literal : Literal)
  | dot
  | assertion (assertion : Assertion)
  | set (content : ClassTree)
  | repetition (part : Tree) (least : Nat) (most : Option Nat) (greedy : Bool)
  | group (grouping : Grouping) (part : Tree)
  | sequence (parts : List Tree)
  | choice (branches : List Tree)

mutual

def ClassTree.depth : ClassTree → Nat
  | bracketed _ content => content.depth + 1
  | union items => ClassTree.itemsDepth items + 1
  | operation _ left right => max left.depth right.depth + 1
  | _ => 0

def ClassTree.itemsDepth : List ClassTree → Nat
  | [] => 0
  | item :: rest => max item.depth (ClassTree.itemsDepth rest)

end

mutual

def Tree.depth : Tree → Nat
  | set content => content.depth
  | repetition part _ _ _ => part.depth + 1
  | group _ part => part.depth + 1
  | sequence parts => Tree.partsDepth parts + 1
  | choice branches => Tree.partsDepth branches + 1
  | _ => 0

def Tree.partsDepth : List Tree → Nat
  | [] => 0
  | part :: rest => max part.depth (Tree.partsDepth rest)

end

end Chaining.Pattern
