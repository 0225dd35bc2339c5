import Chaining.Json.Reading

set_option autoImplicit false

namespace Chaining

inductive Value where
  | null
  | boolean (value : Bool)
  | number (amount : Number)
  | text (content : String)
  | list (items : List Value)
deriving Inhabited

namespace Value

def isNull : Value → Bool
  | null => true
  | _ => false

def items? : Value → Option (List Value)
  | list items => some items
  | _ => none

/-- A value that establishes its fact: neither null nor false. -/
def isAffirmative : Value → Bool
  | null => false
  | boolean value => value
  | _ => true

/-- The order of two numbers. Anything else compares as equal. -/
def compareNumbers : Value → Value → Ordering
  | number left, number right => left.order right
  | _, _ => .eq

mutual

/-- Values are the same when they are built alike from the same parts. -/
def same : Value → Value → Bool
  | null, null => true
  | boolean left, boolean right => left == right
  | number left, number right => left.same right
  | text left, text right => left == right
  | list left, list right => sameItems left right
  | _, _ => false

def sameItems : List Value → List Value → Bool
  | [], [] => true
  | left :: lefts, right :: rights => same left right && sameItems lefts rights
  | _, _ => false

end

def isAmong (value : Value) (items : List Value) : Bool := items.any fun item => item.same value

def ofInt (integer : Int) : Value := number (.ofInt integer)

def ofOption {α : Type} (value : α → Value) : Option α → Value
  | none => null
  | some content => value content

/-- Whole numbers below this magnitude are shown as integers. -/
def integerLimit : Nat := Nat.pow 10 15

def displayNumber (number : Number) : List Char :=
  match number.whole? integerLimit with
  | some integer => (toString integer).toList
  | none => (number.text .plain).toList

mutual

def displayText : Value → List Char
  | null => ['n', 'u', 'l', 'l']
  | boolean true => ['t', 'r', 'u', 'e']
  | boolean false => ['f', 'a', 'l', 's', 'e']
  | number amount => displayNumber amount
  | text content => content.toList
  | list [] => ['[', ']']
  | list (item :: rest) => '[' :: (displayText item ++ displayItems rest)

def displayItems : List Value → List Char
  | [] => [']']
  | item :: rest => ',' :: ' ' :: (displayText item ++ displayItems rest)

end

def display (value : Value) : String := String.ofList value.displayText

mutual

/-- The JSON of a value. A number that is not finite has none and is written as null. -/
def toJson : Value → Json
  | null => .null
  | boolean value => .boolean value
  | number amount => if amount.isFinite then .number (amount.numeral .json) else .null
  | text content => .text content
  | list items => .array (toJsonItems items)

def toJsonItems : List Value → List Json
  | [] => []
  | item :: rest => toJson item :: toJsonItems rest

end

open Json (Outline Reading descend)

mutual

/-- Reads all of an outline that is to be a value. An object is passed through, for it may hold a
fault, and makes the whole outline stand for no value. -/
def readContent (depth : Nat) : Outline → Reading (Option Value)
  | .null => .ok (some null)
  | .boolean value => .ok (some (boolean value))
  | .number numeral => do
    let quantity ← Outline.quantity numeral
    return some (number quantity.number)
  | .text content => do
    let content ← Outline.textOf content
    return some (text content)
  | .array items ending => descend depth fun depth => do
    let items ← readContents depth items
    ending.check
    return items.map list
  | .object members ending => descend depth fun depth => do
    readMembers depth members
    ending.check
    return none
  | .broken fault _ => Json.failText fault

def readContents (depth : Nat) : List Outline → Reading (Option (List Value))
  | [] => .ok (some [])
  | item :: rest => do
    let item ← readContent depth item
    let rest ← readContents depth rest
    return (item.bind fun item => rest.map (item :: ·))

def readMembers (depth : Nat) : List (Option String × Outline) → Reading Unit
  | [] => .ok ()
  | (name, value) :: rest => do
    let _ ← Outline.textOf name
    let _ ← readContent depth value
    readMembers depth rest

end

/-- Reads a value: all of its text first, then its shape. -/
def read (depth : Nat) (outline : Outline) : Reading Value := do
  match ← readContent depth outline with
  | some value => return value
  | none => Json.fail .notAValue

def ofText (text : String) : Reading Value := Json.readDocument (read Json.depthLimit) text

end Value

end Chaining
