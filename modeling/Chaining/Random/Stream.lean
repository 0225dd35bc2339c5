import Chaining.Random.Source

set_option autoImplicit false

namespace Chaining.Random

abbrev Block := Vector UInt32 16

def rotateLeft (word count : UInt32) : UInt32 := (word <<< count) ||| (word >>> (32 - count))

def quarterRound (block : Block) (a b c d : Fin 16) : Block :=
  let first := block[a] + block[b]
  let fourth := rotateLeft (block[d] ^^^ first) 16
  let third := block[c] + fourth
  let second := rotateLeft (block[b] ^^^ third) 12
  let first := first + second
  let fourth := rotateLeft (fourth ^^^ first) 8
  let third := third + fourth
  let second := rotateLeft (second ^^^ third) 7
  (((block.set a first).set b second).set c third).set d fourth

def doubleRound (block : Block) : Block :=
  let columns := [((0 : Fin 16), (4 : Fin 16), (8 : Fin 16), (12 : Fin 16)), (1, 5, 9, 13),
    (2, 6, 10, 14), (3, 7, 11, 15)]
  let diagonals := [((0 : Fin 16), (5 : Fin 16), (10 : Fin 16), (15 : Fin 16)), (1, 6, 11, 12),
    (2, 7, 8, 13), (3, 4, 9, 14)]
  (columns ++ diagonals).foldl
    (fun block (a, b, c, d) => quarterRound block a b c d) block

/-- The block with a number: constants, key, number and a stream of zero, mixed and added to
themselves. -/
def keyedBlock (key : Vector UInt32 8) (number : UInt64) : Block :=
  let start : Block :=
    #v[0x61707865, 0x3320646e, 0x79622d32, 0x6b206574, key[0], key[1], key[2], key[3], key[4],
      key[5], key[6], key[7], number.toUInt32, (number >>> 32).toUInt32, 0, 0]
  let mixed := Nat.repeat doubleRound 6 start
  mixed.zipWith (· + ·) start

/-- One word of a key, by a permuted linear congruential generator. -/
def keyWord (state : UInt64) : UInt32 × UInt64 :=
  let state := state * 6364136223846793005 + 11634580027462260723
  let word := (((state >>> 18) ^^^ state) >>> 27).toUInt32
  let count := (state >>> 59).toUInt32
  ((word >>> count) ||| (word <<< ((32 - count) % 32)), state)

def keyWords : Nat → UInt64 → List UInt32
  | 0, _ => []
  | count + 1, state => (keyWord state).1 :: keyWords count (keyWord state).2

def keyOfSeed (seed : UInt64) : Vector UInt32 8 :=
  Vector.ofFn fun place => (keyWords 8 seed)[place]?.getD 0

structure Stream where
  key : Vector UInt32 8
  drawn : Nat

namespace Stream

def ofSeed (seed : UInt64) : Stream := ⟨keyOfSeed seed, 0⟩

/-- Two neighbouring words of a block, the low one first. -/
def word (stream : Stream) : UInt64 :=
  let block := keyedBlock stream.key (UInt64.ofNat (stream.drawn / 8))
  let place := 2 * (stream.drawn % 8)
  let low := block.toList[place]?.getD 0
  let high := block.toList[place + 1]?.getD 0
  low.toUInt64 ||| (high.toUInt64 <<< 32)

def generator : Generator Stream :=
  ⟨fun stream => (stream.word, { stream with drawn := stream.drawn + 1 })⟩

end Stream

end Chaining.Random
