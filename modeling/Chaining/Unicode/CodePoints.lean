set_option autoImplicit false

namespace Chaining.Unicode

/-- Closed ranges of code points. The operations keep them ascending and apart. -/
abbrev CodePoints := List (Nat × Nat)

namespace CodePoints

def greatest : Nat := 0x10FFFF

def all : CodePoints := [(0, greatest)]

def contains (points : CodePoints) (point : Nat) : Bool :=
  points.any fun range => range.1 ≤ point && point ≤ range.2

def joined : CodePoints → CodePoints
  | [] => []
  | [range] => [range]
  | range :: next :: rest =>
    if next.1 ≤ range.2 + 1 then joined ((range.1, max range.2 next.2) :: rest)
    else range :: joined (next :: rest)
termination_by ranges => ranges.length

def merged : CodePoints → CodePoints → CodePoints
  | [], right => right
  | left, [] => left
  | left :: lefts, right :: rights =>
    if left.1 ≤ right.1 then left :: merged lefts (right :: rights)
    else right :: merged (left :: lefts) rights

def union (left right : CodePoints) : CodePoints := joined (merged left right)

/-- The union of many sets, taken pairwise. -/
def unions (sets : List CodePoints) : CodePoints := sets.foldr union []

/-- Any ranges, brought into order. -/
def ofRanges (ranges : List (Nat × Nat)) : CodePoints :=
  joined (ranges.mergeSort fun left right => left.1 ≤ right.1)

/-- The code point behind another. Surrogates are not points of a set. -/
def following (point : Nat) : Nat := if point = 0xD7FF then 0xE000 else point + 1

def preceding (point : Nat) : Nat := if point = 0xE000 then 0xD7FF else point - 1

/-- The points from `next` on that are in no range. -/
def gaps (next : Nat) : CodePoints → CodePoints
  | [] => if next ≤ greatest then [(next, greatest)] else []
  | range :: rest =>
    if next < range.1 then (next, preceding range.1) :: gaps (following range.2) rest
    else gaps (following range.2) rest

def complement (points : CodePoints) : CodePoints := gaps 0 points

def intersection (left right : CodePoints) : CodePoints :=
  (left.complement.union right.complement).complement

def difference (left right : CodePoints) : CodePoints := left.intersection right.complement

def symmetricDifference (left right : CodePoints) : CodePoints :=
  (left.union right).difference (left.intersection right)

def numbers (text : String) : List Nat :=
  let step (state : List Nat × Nat) (character : Char) : List Nat × Nat :=
    if character = ' ' then (state.2 :: state.1, 0)
    else (state.1, state.2 * 10 + (character.toNat - 48))
  let state := text.toList.foldl step ([], 0)
  (state.2 :: state.1).reverse

/-- Pairs of numbers: the gap before a range and what its last point is beyond its first. -/
def ofGaps (next : Nat) : List Nat → CodePoints
  | gap :: extent :: rest =>
    (next + gap, next + gap + extent) :: ofGaps (next + gap + extent + 1) rest
  | _ => []

def decode (table : List String) : CodePoints := ofGaps 0 (table.flatMap numbers)

end CodePoints

end Chaining.Unicode
