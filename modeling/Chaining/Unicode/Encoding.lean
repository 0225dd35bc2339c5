import Chaining.Unicode.CodePoints

set_option autoImplicit false

namespace Chaining.Unicode

abbrev ByteRanges := List (Nat × Nat)

/-- Sequences for the numbers from `first` to `last`, written with `count` continuation bytes of
six bits behind a byte that starts at `lead`. -/
def continued (lead : Nat) : Nat → Nat → Nat → List ByteRanges
  | 0, first, last => [[(lead + first, lead + last)]]
  | count + 1, first, last =>
    let size := Nat.pow 64 (count + 1)
    let (high, low) := (first / size, last / size)
    let every := List.replicate (count + 1) (128, 191)
    let below (start : Nat × Nat) (tails : List ByteRanges) := tails.map (start :: ·)
    let one (byte : Nat) : Nat × Nat := (lead + byte, lead + byte)
    if high = low then below (one high) (continued 128 count (first % size) (last % size))
    else
      let head :=
        if first % size = 0 then []
        else below (one high) (continued 128 count (first % size) (size - 1))
      let tail :=
        if last % size = size - 1 then []
        else below (one low) (continued 128 count 0 (last % size))
      let start := if first % size = 0 then high else high + 1
      let stop := if last % size = size - 1 then low + 1 else low
      head ++ (if start < stop then [(lead + start, lead + stop - 1) :: every] else []) ++ tail

/-- The lengths of code points in bytes: least and greatest point, first byte, continuation
bytes. Surrogates are left out. -/
def encodedLengths : List (Nat × Nat × Nat × Nat) :=
  [(0, 0x7F, 0, 0), (0x80, 0x7FF, 0xC0, 1), (0x800, 0xD7FF, 0xE0, 2), (0xE000, 0xFFFF, 0xE0, 2),
   (0x10000, 0x10FFFF, 0xF0, 3)]

def encodedRange (range : Nat × Nat) : List ByteRanges :=
  encodedLengths.flatMap fun (least, greatest, lead, count) =>
    let first := max range.1 least
    let last := min range.2 greatest
    if first ≤ last then continued lead count first last else []

def encoded (points : CodePoints) : List ByteRanges := points.flatMap encodedRange

end Chaining.Unicode
