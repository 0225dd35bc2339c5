import Mathlib.Algebra.Group.Nat.Defs
import Mathlib.Tactic.SplitIfs

set_option autoImplicit false

namespace Chaining.Text

def bytes (text : String) : List UInt8 := text.toUTF8.data.toList

theorem bytes_ofList (characters : List Char) :
    bytes (String.ofList characters) = characters.flatMap String.utf8EncodeChar := by
  rw [bytes, String.toUTF8_eq_toByteArray, String.toByteArray_ofList, List.utf8Encode,
    List.toList_data_toByteArray]

/-- A number as a highest digit on a mark and `count` digits of six bits, each on the mark of a byte
that continues. -/
def sextets (mark : Nat) : Nat → Nat → List UInt8
  | 0, number => [UInt8.ofNat (mark + number)]
  | count + 1, number =>
    UInt8.ofNat (mark + number / 64 ^ (count + 1)) :: sextets 128 count (number % 64 ^ (count + 1))

theorem sextets_eq_cons (mark count number : Nat) : ∃ rest,
    sextets mark count number = UInt8.ofNat (mark + number / 64 ^ count) :: rest := by
  cases count with
  | zero => exact ⟨[], by rw [sextets, Nat.pow_zero, Nat.div_one]⟩
  | succ count => exact ⟨_, rfl⟩

theorem ofNat_lt {first second : Nat} (less : first < second) (bounded : second < 256) :
    UInt8.ofNat first < UInt8.ofNat second := by
  rw [UInt8.lt_iff_toNat_lt, UInt8.toNat_ofNat', UInt8.toNat_ofNat']
  omega

/-- A smaller first byte decides, however many bytes follow. -/
theorem sextets_lt_of_head {mark count first other more second : Nat}
    (less : mark + first / 64 ^ count < other + second / 64 ^ more)
    (bounded : other + second / 64 ^ more < 256) (rest behind : List UInt8) :
    sextets mark count first ++ rest < sextets other more second ++ behind := by
  obtain ⟨tail, head⟩ := sextets_eq_cons mark count first
  obtain ⟨back, front⟩ := sextets_eq_cons other more second
  rw [head, front]
  exact List.Lex.rel (ofNat_lt less bounded)

/-- Numbers with as many digits are ordered by them, since the highest digit in which they differ
decides. -/
theorem sextets_lt {mark count first second : Nat} (less : first < second)
    (bounded : mark + second / 64 ^ count < 256) (rest behind : List UInt8) :
    sextets mark count first ++ rest < sextets mark count second ++ behind := by
  induction count generalizing mark first second with
  | zero =>
    have smaller : first / 64 ^ 0 < second / 64 ^ 0 := by simpa using less
    exact sextets_lt_of_head (Nat.add_lt_add_left smaller mark) bounded rest behind
  | succ count ih =>
    have ordered : first / 64 ^ (count + 1) ≤ second / 64 ^ (count + 1) :=
      Nat.div_le_div_right (Nat.le_of_lt less)
    rcases Nat.lt_or_eq_of_le ordered with smaller | tie
    · exact sextets_lt_of_head (Nat.add_lt_add_left smaller mark) bounded rest behind
    · have lower : first % 64 ^ (count + 1) < second % 64 ^ (count + 1) := by
        have one := Nat.div_add_mod first (64 ^ (count + 1))
        have two := Nat.div_add_mod second (64 ^ (count + 1))
        rw [tie] at one
        omega
      have sextet : second % 64 ^ (count + 1) / 64 ^ count < 64 :=
        Nat.div_lt_of_lt_mul (Nat.mod_lt _ (Nat.pow_pos (by decide)))
      rw [sextets, sextets, tie]
      exact List.Lex.cons (ih lower (by omega))

/-- The mark in the first byte of a code point, and the number of bytes that continue it. -/
def shape (point : Nat) : Nat × Nat :=
  if point ≤ 0x7F then (0, 0)
  else if point ≤ 0x7FF then (0xC0, 1)
  else if point ≤ 0xFFFF then (0xE0, 2)
  else (0xF0, 3)

def leading (point : Nat) : Nat := (shape point).1 + point / 64 ^ (shape point).2

theorem toNat_lt (character : Char) : character.toNat < 0x110000 := by
  rcases character.valid with low | ⟨_, high⟩
  · exact Nat.lt_trans low (by decide)
  · exact high

/-- The bytes of a code point, which are cut out of it one by one, are its digits. -/
theorem utf8EncodeChar_eq (character : Char) : String.utf8EncodeChar character =
    sextets (shape character.toNat).1 (shape character.toNat).2 character.toNat := by
  have scalar := toNat_lt character
  have point : character.val.toNat = character.toNat := rfl
  simp only [String.utf8EncodeChar, shape, point]
  split_ifs <;> simp only [sextets, Nat.zero_add, Nat.reduceAdd, Nat.reducePow, List.cons.injEq,
    and_true]
  -- One case is left for each length above one, and in it an equation for each byte.
  · refine ⟨congrArg UInt8.ofNat ?_, congrArg UInt8.ofNat ?_⟩ <;> omega
  · refine ⟨congrArg UInt8.ofNat ?_, congrArg UInt8.ofNat ?_, congrArg UInt8.ofNat ?_⟩ <;> omega
  · refine ⟨congrArg UInt8.ofNat ?_, congrArg UInt8.ofNat ?_, congrArg UInt8.ofNat ?_,
      congrArg UInt8.ofNat ?_⟩ <;> omega

/-- A larger code point has the same shape or starts with a larger byte: the marks are further
apart than the highest digits behind them reach. -/
theorem leading_lt {first second : Nat} (less : first < second) (scalar : second < 0x110000) :
    shape first = shape second ∨ leading first < leading second := by
  unfold leading shape
  split_ifs <;> simp only [Nat.reducePow, Nat.pow_zero, Nat.pow_one, true_or] <;> omega

theorem leading_bounded {point : Nat} (scalar : point < 0x110000) : leading point < 256 := by
  unfold leading shape
  split_ifs <;> simp only [Nat.reducePow, Nat.pow_zero, Nat.pow_one] <;> omega

theorem utf8EncodeChar_lt {first second : Char} (less : first < second)
    (rest behind : List UInt8) :
    String.utf8EncodeChar first ++ rest < String.utf8EncodeChar second ++ behind := by
  have scalar := toNat_lt second
  have smaller : first.toNat < second.toNat := less
  rw [utf8EncodeChar_eq, utf8EncodeChar_eq]
  rcases leading_lt smaller scalar with alike | larger
  · rw [alike]
    exact sextets_lt smaller (leading_bounded scalar) rest behind
  · exact sextets_lt_of_head larger (leading_bounded scalar) rest behind

theorem flatMap_utf8EncodeChar_lt {first second : List Char} (less : first < second) :
    first.flatMap String.utf8EncodeChar < second.flatMap String.utf8EncodeChar := by
  change List.Lex (· < ·) first second at less
  induction less with
  | @nil character rest =>
    obtain ⟨byte, more, written⟩ :=
      List.exists_cons_of_ne_nil (String.utf8EncodeChar_ne_nil (c := character))
    rw [List.flatMap_nil, List.flatMap_cons, written]
    exact List.Lex.nil
  | cons later ih =>
    rw [List.flatMap_cons, List.flatMap_cons]
    exact List.append_left_lt ih
  | rel smaller =>
    rw [List.flatMap_cons, List.flatMap_cons]
    exact utf8EncodeChar_lt smaller _ _

theorem bytes_lt {first second : String} (less : first < second) : bytes first < bytes second := by
  rw [← String.ofList_toList (s := first), ← String.ofList_toList (s := second), bytes_ofList,
    bytes_ofList]
  exact flatMap_utf8EncodeChar_lt less

end Chaining.Text
