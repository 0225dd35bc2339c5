import Chaining.Number.Nearest

set_option autoImplicit false

namespace Chaining.Toml

def takeSign : List Char → Bool × List Char
  | '-' :: rest => (true, rest)
  | '+' :: rest => (false, rest)
  | input => (false, input)

def hasPair (letter : Char) : List Char → Bool
  | first :: second :: rest =>
    (first = letter && second = letter) || hasPair letter (second :: rest)
  | _ => false

/-- Reads digits, with single underscores between them that are left out. -/
def readDigits (accepts : Char → Bool) (input : List Char) : Option (List Char × List Char) :=
  let isPart (character : Char) : Bool := accepts character || character = '_'
  let word := input.takeWhile isPart
  if word.isEmpty || word.head? = some '_' || word.getLast? = some '_' || hasPair '_' word then none
  else some (word.filter accepts, input.dropWhile isPart)

/-! ### Integers -/

def digitValue (digit : Char) : Nat :=
  if digit.isDigit then digit.toNat - 48
  else if 'a' ≤ digit then digit.toNat - 87
  else digit.toNat - 55

def isDigitOf (base : Nat) (character : Char) : Bool :=
  character.isAlphanum && digitValue character < base

def naturalOf (base : Nat) (digits : List Char) : Nat :=
  digits.foldl (fun number digit => number * base + digitValue digit) 0

def integer? (negative : Bool) (size : Nat) : Option Int :=
  if negative then if size ≤ Nat.pow 2 63 then some (-(size : Int)) else none
  else if size < Nat.pow 2 63 then some size
  else none

def readBased (base : Nat) (input : List Char) : Option (Int × List Char) := do
  let (digits, left) ← readDigits (isDigitOf base) input
  let value ← integer? false (naturalOf base digits)
  return (value, left)

/-! ### Reals -/

/-- The number nearest to an integer times a power of ten. Powers that only lead to zero or to
infinity are not worked out. -/
def decimal (negative : Bool) (size : Nat) (power : Int) : Number :=
  let top := (Nat.toDigits 10 size).length + power
  if size = 0 ∨ top < -400 then .ofMagnitude negative 0
  else if 400 < top then .infinity negative
  else if 0 ≤ power then .nearest negative (size * Nat.pow 10 power.toNat) 1
  else .nearest negative size (Nat.pow 10 (-power).toNat)

inductive Amount where
  | integer (value : Int)
  | real (number : Number)

def readPart {α : Type} (announces : Char → Bool) (read : List Char → Option (α × List Char)) :
    List Char → Option (Option α × List Char)
  | [] => some (none, [])
  | first :: rest =>
    if announces first then (read rest).map fun part => (some part.1, part.2)
    else some (none, first :: rest)

def readExponent (input : List Char) : Option (Int × List Char) := do
  let (negative, rest) := takeSign input
  let (digits, left) ← readDigits Char.isDigit rest
  let size := naturalOf 10 digits
  return (if negative then -(size : Int) else size, left)

/-- Reads a number to the base ten. Only zero itself starts with a zero, and a real that is too
large is refused unless it is negative. -/
def readDecimal (negative : Bool) (input : List Char) : Option (Amount × List Char) := do
  let (whole, left) ← readDigits Char.isDigit input
  if whole.head? = some '0' && 1 < whole.length then none
  let (fraction, left) ← readPart (· = '.') (readDigits Char.isDigit) left
  let (exponent, left) ← readPart (fun letter => letter = 'e' || letter = 'E') readExponent left
  if fraction.isNone && exponent.isNone then
    let value ← integer? negative (naturalOf 10 whole)
    return (.integer value, left)
  else
    let fraction := fraction.getD []
    let size := naturalOf 10 (whole ++ fraction)
    let number := decimal negative size (exponent.getD 0 - fraction.length)
    if number = .infinity false then none else return (.real number, left)

def readAmount (input : List Char) : Option (Amount × List Char) :=
  match input with
  | '0' :: 'x' :: rest => (readBased 16 rest).map fun (value, left) => (.integer value, left)
  | '0' :: 'o' :: rest => (readBased 8 rest).map fun (value, left) => (.integer value, left)
  | '0' :: 'b' :: rest => (readBased 2 rest).map fun (value, left) => (.integer value, left)
  | _ =>
    match takeSign input with
    | (negative, 'i' :: 'n' :: 'f' :: rest) => some (.real (.infinity negative), rest)
    | (negative, 'n' :: 'a' :: 'n' :: rest) =>
      some (.real (if negative then Number.negate .notANumber else .notANumber), rest)
    | (negative, rest) => readDecimal negative rest

/-! ### Dates and times -/

/-- Reads as many digits as asked for, whose number must lie within bounds. -/
def readWithin (count low high : Nat) (input : List Char) : Option (Nat × List Char) :=
  let digits := input.take count
  let number := naturalOf 10 digits
  if digits.length = count && digits.all Char.isDigit && low ≤ number && number ≤ high then
    some (number, input.drop count)
  else none

def readMark (mark : Char) : List Char → Option (List Char)
  | [] => none
  | first :: rest => if first = mark then some rest else none

def isLeapYear (year : Nat) : Bool := year % 4 = 0 && (year % 100 ≠ 0 || year % 400 = 0)

def daysOf (year month : Nat) : Nat :=
  if month = 2 then if isLeapYear year then 29 else 28
  else if month = 4 ∨ month = 6 ∨ month = 9 ∨ month = 11 then 30
  else 31

def passDate (input : List Char) : Option (List Char) := do
  let (year, left) ← readWithin 4 0 9999 input
  let (month, left) ← readWithin 2 1 12 (← readMark '-' left)
  let (_, left) ← readWithin 2 1 (daysOf year month) (← readMark '-' left)
  return left

/-- What follows a time of day; a minute may have a leap second. -/
def passTime (input : List Char) : Option (List Char) := do
  let (_, left) ← readWithin 2 0 23 input
  let (_, left) ← readWithin 2 0 59 (← readMark ':' left)
  let (_, left) ← readWithin 2 0 60 (← readMark ':' left)
  match left with
  | '.' :: rest =>
    let after := rest.dropWhile Char.isDigit
    if after.length < rest.length then return after else none
  | left => return left

def passOffset : List Char → Option (List Char)
  | [] => some []
  | first :: rest =>
    if first = 'Z' || first = 'z' then some rest
    else if first = '+' || first = '-' then do
      let (_, left) ← readWithin 2 0 23 rest
      let (_, left) ← readWithin 2 0 59 (← readMark ':' left)
      return left
    else some (first :: rest)

def isDelimiter (character : Char) : Bool :=
  character = 'T' || character = 't' || character = ' '

def passMoment (input : List Char) : Option (List Char) :=
  match passDate input with
  | none => passTime input
  | some [] => some []
  | some (first :: rest) =>
    match if isDelimiter first then passTime rest else none with
    | some left => passOffset left
    | none => some (first :: rest)

end Chaining.Toml
