import Chaining.Pattern.Expression

set_option autoImplicit false

namespace Chaining.Pattern

open Unicode (CodePoints)

/-- What normal forms are built from. A set of one point is a word, and points that follow one
another are one word. -/
inductive Piece where
  | look (look : Look)
  | word (points : List Nat)
  | set (points : CodePoints) (ofBytes : Bool)
deriving DecidableEq

def Piece.isLook : Piece → Bool
  | look _ => true
  | _ => false

/-- An expression as an automaton is made of it. -/
abbrev Normal := Form Piece

namespace Normal

def ofSet (points : CodePoints) (ofBytes : Bool) : Normal :=
  match points with
  | [] => .atom (.set [] true)
  | [(first, last)] => .atom (if first = last then .word [first] else .set points ofBytes)
  | points => .atom (.set points ofBytes)

/-! ### Sequences -/

def parts : Normal → List Normal
  | .empty => []
  | .sequence parts => parts
  | part => [part]

/-- Puts a part in front of others, a word in front of a word together with it. -/
def prepend : Normal → List Normal → List Normal
  | .atom (.word first), .atom (.word second) :: rest => .atom (.word (first ++ second)) :: rest
  | part, rest => part :: rest

def ofParts (parts : List Normal) : Normal :=
  match (parts.flatMap Normal.parts).foldr prepend [] with
  | [] => .empty
  | [part] => part
  | parts => .sequence parts

/-! ### Choices -/

def branches : Normal → List Normal
  | .choice branches => branches
  | branch => [branch]

def point? : Normal → Option CodePoints
  | .atom (.word [point]) => some [(point, point)]
  | _ => none

def set? : Normal → Option CodePoints
  | .atom (.set points _) => some points
  | _ => none

/-- The ranges of all branches, when all of them are single points or all are sets. -/
def ranges? (branches : List Normal) : Option CodePoints :=
  ((branches.mapM point?).or (branches.mapM set?)).map List.flatten

/-- Branches side by side, whatever they start with. -/
def beside (branches : List Normal) : Normal :=
  match branches.flatMap Normal.branches with
  | [] => ofSet [] true
  | [branch] => branch
  | branches =>
    match ranges? branches with
    | some ranges => ofSet (CodePoints.ofRanges ranges) false
    | none => .choice branches

mutual

/-- Whether two parts are the same. No two groups that capture are. -/
def alike : Normal → Normal → Bool
  | .empty, .empty => true
  | .atom first, .atom second => first = second
  | .sequence first, .sequence second => allAlike first second
  | .choice first, .choice second => allAlike first second
  | .repetition part least most greedy, .repetition other least' most' greedy' =>
    least = least' && most = most' && greedy = greedy' && alike part other
  | _, _ => false

def allAlike : List Normal → List Normal → Bool
  | [], [] => true
  | part :: rest, other :: others => alike part other && allAlike rest others
  | _, _ => false

end

def inSequence : Normal → List Normal
  | .sequence parts => parts
  | _ => []

def common : List Normal → List Normal → List Normal
  | part :: rest, other :: others => if alike part other then part :: common rest others else []
  | _, _ => []

/-- The parts that all branches start with. Only sequences are looked into. -/
def front (branches : List Normal) : List Normal :=
  match branches.map inSequence with
  | [] => []
  | parts :: others => others.foldl common parts

/-- A choice. What all branches start with stands in front of it once; behind that the branches have
nothing in common to start with. -/
def ofBranches (branches : List Normal) : Normal :=
  match beside branches with
  | .choice branches =>
    match front branches with
    | [] => .choice branches
    | front =>
      ofParts (front ++
        [beside (branches.map fun branch => ofParts ((inSequence branch).drop front.length))])
  | other => other

end Normal

mutual

def Expression.normal : Expression → Normal
  | .empty => .empty
  | .atom (.look look) => .atom (.look look)
  | .atom (.set points ofBytes) => Normal.ofSet points ofBytes
  | .sequence parts => Normal.ofParts (Expression.allNormal parts)
  | .choice branches => Normal.ofBranches (Expression.allNormal branches)
  | .repetition part least most greedy =>
    .repetition (Expression.normal part) least most greedy
  | .capture part => .capture (Expression.normal part)

def Expression.allNormal : List Expression → List Normal
  | [] => []
  | part :: rest => Expression.normal part :: Expression.allNormal rest

end

end Chaining.Pattern
