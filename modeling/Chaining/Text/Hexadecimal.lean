set_option autoImplicit false

namespace Chaining.Text

def hexValue? (digit : Char) : Option Nat :=
  if '0' ≤ digit ∧ digit ≤ '9' then some (digit.toNat - 48)
  else if 'a' ≤ digit ∧ digit ≤ 'f' then some (digit.toNat - 87)
  else if 'A' ≤ digit ∧ digit ≤ 'F' then some (digit.toNat - 55)
  else none

def isHexDigit (character : Char) : Bool := (hexValue? character).isSome

def hexNumber (digits : List Char) : Nat :=
  digits.foldl (fun number digit => number * 16 + (hexValue? digit).getD 0) 0

/-- The character with a number; surrogates and what is beyond the last code point have none. -/
def character? (number : Nat) : Option Char :=
  if number.isValidChar then some (Char.ofNat number) else none

end Chaining.Text
