import Chaining.Unicode.Property

set_option autoImplicit false

namespace Chaining.Text

def hexDigits (number : Nat) : List Char := Nat.toDigits 16 number

def isShown (character : Char) : Bool :=
  if 32 ≤ character.toNat && character.toNat < 127 then true
  else if character.toNat < 160 then false
  else Unicode.visible.contains character.toNat &&
    !Unicode.graphemeExtend.contains character.toNat

/-- A character without a shape of its own, or one that joins the character before it, is written by
its code point. -/
def escaped (character : Char) : List Char :=
  if character = '"' then ['\\', '"']
  else if character = '\\' then ['\\', '\\']
  else if character = '\n' then ['\\', 'n']
  else if character = '\r' then ['\\', 'r']
  else if character = '\t' then ['\\', 't']
  else if character.toNat = 0 then ['\\', '0']
  else if isShown character then [character]
  else '\\' :: 'u' :: '\x7b' :: (hexDigits character.toNat ++ ['\x7d'])

def quoted (content : String) : String :=
  String.ofList ('"' :: (content.toList.flatMap escaped ++ ['"']))

end Chaining.Text
