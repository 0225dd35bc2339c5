import Chaining.Pattern.Matching
import Chaining.Pattern.Normal
import Mathlib.Data.Nat.Bitwise

set_option autoImplicit false

namespace Chaining

/-! ### Sets of ranges -/

namespace Unicode.CodePoints

theorem contains_cons (range : Nat × Nat) (rest : CodePoints) (point : Nat) :
    contains (range :: rest) point = true ↔
      (range.1 ≤ point ∧ point ≤ range.2) ∨ contains rest point = true := by
  simp [contains]

/-- Ranges in order of their first points may be joined with their neighbours. -/
theorem contains_joined {ranges : CodePoints} (ordered : ranges.Pairwise (·.1 ≤ ·.1))
    (point : Nat) : (joined ranges).contains point = ranges.contains point := by
  fun_induction joined ranges with
  | case1 | case2 => rfl
  | case3 range next rest near ih =>
    obtain ⟨first, ordered⟩ := List.pairwise_cons.mp ordered
    obtain ⟨second, ordered⟩ := List.pairwise_cons.mp ordered
    have before := first next List.mem_cons_self
    rw [ih (List.pairwise_cons.mpr ⟨fun other listed => first other (.tail _ listed), ordered⟩),
      Bool.eq_iff_iff, contains_cons, contains_cons, contains_cons]
    constructor
    · rintro (⟨low, high⟩ | later)
      · omega
      · exact .inr (.inr later)
    · rintro (⟨low, high⟩ | ⟨low, high⟩ | later)
      · exact .inl ⟨low, by omega⟩
      · exact .inl ⟨by omega, by omega⟩
      · exact .inr later
  | case4 range next rest apart ih =>
    rw [Bool.eq_iff_iff, contains_cons, contains_cons, ih ordered.of_cons]

theorem contains_ofRanges (ranges : List (Nat × Nat)) (point : Nat) :
    (ofRanges ranges).contains point = contains ranges point := by
  have ordered : (ranges.mergeSort fun left right => left.1 ≤ right.1).Pairwise
      fun left right => decide (left.1 ≤ right.1) = true :=
    List.pairwise_mergeSort (by simp; omega) (by simp; omega) ranges
  rw [ofRanges, contains_joined (by simpa using ordered), contains, contains, Bool.eq_iff_iff,
    List.any_eq_true, List.any_eq_true]
  simp [List.mem_mergeSort]

end Unicode.CodePoints

namespace Pattern

open Unicode (CodePoints)

/-! ### Positions -/

theorem testBit_beforeCharacters (test : Char → Bool) (text : List Char) (index : Nat) :
    (beforeCharacters test text).testBit index = text[index]?.any test := by
  induction text generalizing index with
  | nil => simp [beforeCharacters]
  | cons first rest ih =>
    have split : beforeCharacters test (first :: rest) =
        Nat.bit (test first) (beforeCharacters test rest) := by
      cases taken : test first <;> simp [beforeCharacters, bit, Nat.bit, taken, Nat.add_comm]
    cases index with
    | zero => simp [split]
    | succ index => simp [split, Nat.testBit_bit_succ, ih]

/-- Where a set of points ends: behind one of them. -/
def step (points : CodePoints) (text : List Char) (starts : Positions) : Positions :=
  (starts &&& beforeCharacters (fun character => points.contains character.toNat) text) <<< 1

theorem testBit_step (points : CodePoints) (text : List Char) (starts : Positions) (index : Nat) :
    (step points text starts).testBit index =
      (decide (1 ≤ index) && (starts.testBit (index - 1) &&
        text[index - 1]?.any fun character => points.contains character.toNat)) := by
  rw [step, Nat.testBit_shiftLeft, Nat.testBit_and, testBit_beforeCharacters]

theorem step_nil (text : List Char) (starts : Positions) : step [] text starts = 0 := by
  refine Nat.eq_of_testBit_eq fun index => ?_
  rw [testBit_step, Nat.zero_testBit]
  cases text[index - 1]? <;> simp [CodePoints.contains]

theorem step_append (points others : CodePoints) (text : List Char) (starts : Positions) :
    step (points ++ others) text starts = step points text starts ||| step others text starts := by
  refine Nat.eq_of_testBit_eq fun index => ?_
  rw [Nat.testBit_or, testBit_step, testBit_step, testBit_step]
  cases text[index - 1]? <;> simp [CodePoints.contains, Bool.and_or_distrib_left]

theorem step_ofRanges (ranges : List (Nat × Nat)) (text : List Char) (starts : Positions) :
    step (CodePoints.ofRanges ranges) text starts = step ranges text starts := by
  simp only [step, CodePoints.contains_ofRanges]

/-! ### Normal forms -/

def Piece.atoms : Piece → List Atom
  | look condition => [.look condition]
  | word points => points.map fun point => .set [(point, point)] false
  | set points ofBytes => [.set points ofBytes]

namespace Normal

mutual

/-- The expression that a normal form stands for. -/
def expression : Normal → Expression
  | .empty => .empty
  | .atom piece => .sequence (piece.atoms.map .atom)
  | .sequence parts => .sequence (expressions parts)
  | .choice branches => .choice (expressions branches)
  | .repetition part least most greedy => .repetition (expression part) least most greedy
  | .capture part => .capture (expression part)

def expressions : List Normal → List Expression
  | [] => []
  | part :: rest => expression part :: expressions rest

end

def ends (normal : Normal) (text : List Char) : Positions → Positions :=
  Expression.ends (expression normal) text

def endsAll (parts : List Normal) (text : List Char) (starts : Positions) : Positions :=
  parts.foldl (fun starts part => ends part text starts) starts

def endsAny (branches : List Normal) (text : List Char) (starts : Positions) : Positions :=
  branches.foldr (fun branch others => ends branch text starts ||| others) 0

variable (text : List Char) (starts : Positions)

theorem ends_sequence (parts : List Normal) :
    ends (.sequence parts) text starts = endsAll parts text starts := by
  change Form.endsOfAll text.length
    (Form.mapAll (Atom.mark text) (expressions parts)) starts = _
  induction parts generalizing starts with
  | nil => rfl
  | cons part rest ih => exact ih (ends part text starts)

theorem ends_choice (branches : List Normal) :
    ends (.choice branches) text starts = endsAny branches text starts := by
  change Form.endsOfAny text.length
    (Form.mapAll (Atom.mark text) (expressions branches)) starts = _
  induction branches with
  | nil => rfl
  | cons branch rest ih => exact congrArg (ends branch text starts ||| ·) ih

theorem ends_word (points : List Nat) :
    ends (.atom (.word points)) text starts =
      points.foldl (fun starts point =>
        Expression.ends (.atom (.set [(point, point)] false)) text starts) starts := by
  change Form.endsOfAll text.length (Form.mapAll (Atom.mark text)
    (((Piece.word points).atoms).map .atom)) starts = _
  induction points generalizing starts with
  | nil => rfl
  | cons point rest ih => exact ih _

theorem ends_set (points : CodePoints) (ofBytes : Bool) :
    ends (.atom (.set points ofBytes)) text starts = step points text starts :=
  rfl

/-! ### Smart constructors -/

theorem ends_ofSet (points : CodePoints) (ofBytes : Bool) :
    ends (ofSet points ofBytes) text starts = step points text starts := by
  fun_cases ofSet points ofBytes with
  | case1 => rfl
  | case2 first last =>
    split
    next same =>
      subst same
      rfl
    · rfl
  | case3 => rfl

theorem endsAll_append (parts others : List Normal) :
    endsAll (parts ++ others) text starts = endsAll others text (endsAll parts text starts) :=
  List.foldl_append

theorem endsAll_parts (part : Normal) :
    endsAll (parts part) text starts = ends part text starts := by
  fun_cases parts part with
  | case1 => rfl
  | case2 => exact (ends_sequence text starts _).symm
  | case3 => rfl

theorem endsAll_flatMap_parts (list : List Normal) :
    endsAll (list.flatMap parts) text starts = endsAll list text starts := by
  induction list generalizing starts with
  | nil => rfl
  | cons part rest ih =>
    rw [List.flatMap_cons, endsAll_append, endsAll_parts, ih]
    rfl

theorem endsAll_prepend (part : Normal) (rest : List Normal) :
    endsAll (prepend part rest) text starts = endsAll (part :: rest) text starts := by
  fun_cases prepend part rest with
  | case1 first second rest =>
    have spelled : ends (.atom (.word (first ++ second))) text starts =
        ends (.atom (.word second)) text (ends (.atom (.word first)) text starts) := by
      rw [ends_word, ends_word, ends_word, List.foldl_append]
    exact congrArg (endsAll rest text) spelled
  | case2 => rfl

theorem endsAll_foldr_prepend (list : List Normal) :
    endsAll (list.foldr prepend []) text starts = endsAll list text starts := by
  induction list generalizing starts with
  | nil => rfl
  | cons part rest ih =>
    rw [List.foldr_cons, endsAll_prepend]
    exact ih _

theorem ends_ofParts (list : List Normal) :
    ends (ofParts list) text starts = endsAll list text starts := by
  rw [← endsAll_flatMap_parts, ← endsAll_foldr_prepend, ofParts]
  split
  next empty => rw [empty]; rfl
  next part one => rw [one]; rfl
  next => exact ends_sequence text starts _

theorem endsAny_append (branches others : List Normal) :
    endsAny (branches ++ others) text starts =
      endsAny branches text starts ||| endsAny others text starts := by
  induction branches with
  | nil => simp [endsAny]
  | cons branch rest ih =>
    change ends branch text starts ||| endsAny (rest ++ others) text starts = _
    rw [ih, ← Nat.lor_assoc]
    rfl

theorem endsAny_singleton (branch : Normal) :
    endsAny [branch] text starts = ends branch text starts :=
  Nat.or_zero _

theorem endsAny_branches (branch : Normal) :
    endsAny (branches branch) text starts = ends branch text starts := by
  fun_cases branches branch with
  | case1 => exact (ends_choice text starts _).symm
  | case2 => exact endsAny_singleton text starts branch

theorem endsAny_flatMap_branches (list : List Normal) :
    endsAny (list.flatMap branches) text starts = endsAny list text starts := by
  induction list with
  | nil => rfl
  | cons branch rest ih =>
    rw [List.flatMap_cons, endsAny_append, endsAny_branches, ih]
    rfl

theorem endsAny_of_mapM {read : Normal → Option CodePoints}
    (each : ∀ {branch : Normal} {points : CodePoints}, read branch = some points →
      ends branch text starts = step points text starts)
    {branches : List Normal} {sets : List CodePoints} (found : branches.mapM read = some sets) :
    endsAny branches text starts = step sets.flatten text starts := by
  induction branches generalizing sets with
  | nil =>
    cases found
    exact (step_nil text starts).symm
  | cons branch rest ih =>
    rw [List.mapM_cons] at found
    obtain ⟨points, first, found⟩ := Option.bind_eq_some_iff.mp found
    obtain ⟨others, later, made⟩ := Option.bind_eq_some_iff.mp found
    cases made
    rw [List.flatten_cons, step_append, ← each first, ← ih later]
    rfl

theorem ends_of_point? {branch : Normal} {points : CodePoints}
    (found : point? branch = some points) : ends branch text starts = step points text starts := by
  revert found
  fun_cases point? branch with
  | case1 point =>
    rintro ⟨⟩
    rfl
  | case2 => exact nofun

theorem ends_of_set? {branch : Normal} {points : CodePoints}
    (found : set? branch = some points) : ends branch text starts = step points text starts := by
  revert found
  fun_cases set? branch with
  | case1 points ofBytes =>
    rintro ⟨⟩
    exact ends_set text starts points ofBytes
  | case2 => exact nofun

theorem endsAny_of_ranges? {branches : List Normal} {ranges : CodePoints}
    (found : ranges? branches = some ranges) :
    endsAny branches text starts = step ranges text starts := by
  obtain ⟨sets, read, rfl⟩ := Option.map_eq_some_iff.mp found
  rcases Option.or_eq_some_iff.mp read with points | ⟨_, sets⟩
  · exact endsAny_of_mapM text starts (ends_of_point? text starts) points
  · exact endsAny_of_mapM text starts (ends_of_set? text starts) sets

theorem ends_beside (branches : List Normal) :
    ends (beside branches) text starts = endsAny branches text starts := by
  rw [← endsAny_flatMap_branches, beside]
  split
  next empty => rw [empty, ends_ofSet, step_nil]; rfl
  next branch one => rw [one, endsAny_singleton]
  next =>
    split
    next ranges found => rw [ends_ofSet, step_ofRanges, endsAny_of_ranges? text starts found]
    next => exact ends_choice text starts _

mutual

theorem eq_of_alike : ∀ {part other : Normal}, alike part other = true → part = other
  | .empty, .empty, _ => rfl
  | .atom first, .atom second, same => by simpa [alike] using same
  | .sequence first, .sequence second, same => by
    rw [alike] at same
    rw [eq_of_allAlike same]
  | .choice first, .choice second, same => by
    rw [alike] at same
    rw [eq_of_allAlike same]
  | .repetition part least most greedy, .repetition other _ _ _, same => by
    simp only [alike, Bool.and_eq_true, decide_eq_true_eq] at same
    obtain ⟨⟨⟨rfl, rfl⟩, rfl⟩, same⟩ := same
    rw [eq_of_alike same]

theorem eq_of_allAlike : ∀ {parts others : List Normal}, allAlike parts others = true →
    parts = others
  | [], [], _ => rfl
  | part :: rest, other :: others, same => by
    rw [allAlike, Bool.and_eq_true] at same
    rw [eq_of_alike same.1, eq_of_allAlike same.2]

end

theorem common_isPrefix (parts others : List Normal) :
    common parts others <+: parts ∧ common parts others <+: others := by
  fun_induction common parts others with
  | case1 part rest other others same ih =>
    rw [eq_of_alike same]
    exact ⟨(List.prefix_cons_inj other).mpr ih.1, (List.prefix_cons_inj other).mpr ih.2⟩
  | case2 | case3 => exact ⟨List.nil_prefix, List.nil_prefix⟩

theorem foldl_common_isPrefix (lists : List (List Normal)) (parts : List Normal) :
    ∀ list ∈ parts :: lists, lists.foldl common parts <+: list := by
  induction lists generalizing parts with
  | nil =>
    intro list listed
    rw [List.mem_singleton.mp listed]
    exact List.prefix_refl _
  | cons first rest ih =>
    have both := common_isPrefix parts first
    have shorter := ih (common parts first) _ List.mem_cons_self
    intro list listed
    rcases List.mem_cons.mp listed with rfl | listed
    · exact shorter.trans both.1
    · rcases List.mem_cons.mp listed with rfl | listed
      · exact shorter.trans both.2
      · exact ih _ list (.tail _ listed)

theorem front_isPrefix {branches : List Normal} {branch : Normal} (listed : branch ∈ branches) :
    front branches <+: inSequence branch := by
  have mapped := List.mem_map_of_mem (f := inSequence) listed
  unfold front
  split
  next empty => simp [empty] at mapped
  next parts others found =>
    rw [found] at mapped
    exact foldl_common_isPrefix others parts _ mapped

theorem ends_behind_front {front : List Normal} {branch : Normal} (nonempty : front ≠ [])
    (leads : front <+: inSequence branch) :
    ends branch text starts =
      ends (ofParts ((inSequence branch).drop front.length)) text (endsAll front text starts) := by
  obtain ⟨rest, whole⟩ := leads
  -- Only sequences have parts to look into.
  have sequence : branch = .sequence (inSequence branch) := by
    fun_cases inSequence branch with
    | case1 => rfl
    | case2 => simp_all [inSequence]
  rw [ends_ofParts, ← whole, List.drop_left, ← endsAll_append, whole, ← ends_sequence, ← sequence]

theorem endsAny_map {change : Normal → Normal} {branches : List Normal} {others : Positions}
    (each : ∀ branch ∈ branches, ends (change branch) text others = ends branch text starts) :
    endsAny (branches.map change) text others = endsAny branches text starts := by
  induction branches with
  | nil => rfl
  | cons branch rest ih =>
    have later := ih fun other listed => each other (.tail _ listed)
    change ends (change branch) text others ||| endsAny (rest.map change) text others = _
    rw [each branch List.mem_cons_self, later]
    rfl

theorem ends_ofBranches (branches : List Normal) :
    ends (ofBranches branches) text starts = endsAny branches text starts := by
  rw [← ends_beside, ofBranches]
  split
  next branches side =>
    split
    · rw [side]
    next nonempty =>
      rw [side, ends_ofParts, endsAll_append, ends_choice]
      change ends (beside _) text _ = _
      rw [ends_beside]
      exact endsAny_map text starts fun branch listed =>
        (ends_behind_front text starts nonempty (front_isPrefix listed)).symm
  · rfl

end Normal

/-! ### Expressions -/

mutual

/-- An expression and its normal form match alike. -/
theorem Expression.ends_normal (text : List Char) : ∀ expression : Expression,
    Normal.ends (Expression.normal expression) text = Expression.ends expression text
  | .empty => rfl
  | .atom (.look _) => rfl
  | .atom (.set points ofBytes) => funext fun starts => Normal.ends_ofSet text starts points ofBytes
  | .sequence parts => funext fun starts =>
    (Normal.ends_ofParts text starts _).trans (Expression.endsAll_allNormal text parts starts)
  | .choice branches => funext fun starts =>
    (Normal.ends_ofBranches text starts _).trans (Expression.endsAny_allNormal text branches starts)
  | .repetition part least most greedy => funext fun starts => by
    have same := Expression.ends_normal text part
    change reach (Normal.ends (Expression.normal part) text) _
      (repeatStep (Normal.ends (Expression.normal part) text) least starts) = _
    rw [same]
    rfl
  | .capture part => Expression.ends_normal text part

theorem Expression.endsAll_allNormal (text : List Char) : ∀ (parts : List Expression)
    (starts : Positions), Normal.endsAll (Expression.allNormal parts) text starts =
      Expression.ends (.sequence parts) text starts
  | [], _ => rfl
  | part :: rest, starts => by
    change Normal.endsAll (Expression.allNormal rest) text
      (Normal.ends (Expression.normal part) text starts) = _
    rw [Expression.ends_normal text part, Expression.endsAll_allNormal text rest]
    rfl

theorem Expression.endsAny_allNormal (text : List Char) : ∀ (branches : List Expression)
    (starts : Positions), Normal.endsAny (Expression.allNormal branches) text starts =
      Expression.ends (.choice branches) text starts
  | [], _ => rfl
  | branch :: rest, starts => by
    change Normal.ends (Expression.normal branch) text starts |||
      Normal.endsAny (Expression.allNormal rest) text starts = _
    rw [Expression.ends_normal text branch, Expression.endsAny_allNormal text rest]
    rfl

end

end Pattern
end Chaining
