import Chaining.Number.Numeral

set_option autoImplicit false

namespace Chaining

inductive Json where
  | null
  | boolean (value : Bool)
  | number (numeral : Numeral)
  | text (content : String)
  | array (items : List Json)
  | object (members : List (String × Json))

namespace Json

def ofNat (count : Nat) : Json := number (.ofNat count)

def ofInt (integer : Int) : Json := number (.ofInt integer)

def ofTexts (texts : List String) : Json := array (texts.map text)

def ofOption {α : Type} (write : α → Json) : Option α → Json
  | none => null
  | some value => write value

def insertMember (name : String) (value : Json) : List (String × Json) → List (String × Json)
  | [] => [(name, value)]
  | (other, old) :: rest =>
    if name < other then (name, value) :: (other, old) :: rest
    else (other, old) :: insertMember name value rest

def sorted (members : List (String × Json)) : Json :=
  object (members.foldr (fun member rest => insertMember member.1 member.2 rest) [])

def hexDigit (digit : Nat) : Char :=
  if digit < 10 then Char.ofNat (48 + digit) else Char.ofNat (87 + digit)

/-- Quotes, backslashes and control characters are escaped, everything else stands for itself. -/
def escape (character : Char) : List Char :=
  if character = '"' then ['\\', '"']
  else if character = '\\' then ['\\', '\\']
  else if character = '\n' then ['\\', 'n']
  else if character = '\r' then ['\\', 'r']
  else if character = '\t' then ['\\', 't']
  else if character = '\x08' then ['\\', 'b']
  else if character = '\x0c' then ['\\', 'f']
  else if character.toNat < 32 then
    ['\\', 'u', '0', '0', hexDigit (character.toNat / 16), hexDigit (character.toNat % 16)]
  else [character]

def quoted (content : String) : List Char :=
  '"' :: (content.toList.flatMap escape ++ ['"'])

mutual

def compactText : Json → List Char
  | null => ['n', 'u', 'l', 'l']
  | boolean true => ['t', 'r', 'u', 'e']
  | boolean false => ['f', 'a', 'l', 's', 'e']
  | number numeral => numeral.text
  | text content => quoted content
  | array [] => ['[', ']']
  | array (item :: rest) => '[' :: (compactText item ++ compactItems rest)
  | object [] => ['{', '}']
  | object ((name, value) :: rest) =>
    '{' :: (quoted name ++ ':' :: (compactText value ++ compactMembers rest))

def compactItems : List Json → List Char
  | [] => [']']
  | item :: rest => ',' :: (compactText item ++ compactItems rest)

def compactMembers : List (String × Json) → List Char
  | [] => ['}']
  | (name, value) :: rest =>
    ',' :: (quoted name ++ ':' :: (compactText value ++ compactMembers rest))

end

def compact (json : Json) : String := String.ofList json.compactText

def newline (depth : Nat) : List Char := '\n' :: List.replicate (2 * depth) ' '

mutual

/-- The text of a value with every item and member on a line of its own; `depth` counts the
brackets around it. -/
def prettyText (depth : Nat) : Json → List Char
  | null => ['n', 'u', 'l', 'l']
  | boolean true => ['t', 'r', 'u', 'e']
  | boolean false => ['f', 'a', 'l', 's', 'e']
  | number numeral => numeral.text
  | text content => quoted content
  | array [] => ['[', ']']
  | array (item :: rest) =>
    '[' :: (newline (depth + 1) ++ prettyText (depth + 1) item ++ prettyItems depth rest)
  | object [] => ['{', '}']
  | object ((name, value) :: rest) =>
    '{' :: (newline (depth + 1) ++ quoted name ++ ':' :: ' ' ::
      (prettyText (depth + 1) value ++ prettyMembers depth rest))

def prettyItems (depth : Nat) : List Json → List Char
  | [] => newline depth ++ [']']
  | item :: rest =>
    ',' :: (newline (depth + 1) ++ prettyText (depth + 1) item ++ prettyItems depth rest)

def prettyMembers (depth : Nat) : List (String × Json) → List Char
  | [] => newline depth ++ ['}']
  | (name, value) :: rest =>
    ',' :: (newline (depth + 1) ++ quoted name ++ ':' :: ' ' ::
      (prettyText (depth + 1) value ++ prettyMembers depth rest))

end

def pretty (json : Json) : String := String.ofList (json.prettyText 0)

end Json

end Chaining
