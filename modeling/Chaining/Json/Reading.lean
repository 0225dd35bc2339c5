import Chaining.Json.Outline
import Chaining.Number.Layout
import Chaining.Text.Quoted

set_option autoImplicit false

namespace Chaining.Json

inductive Found where
  | null
  | boolean (value : Bool)
  | integer (value : Int)
  | real (amount : Number)
  | text (content : String)
  | sequence
  | map

inductive Misshape where
  | wrongKind (found : Found) (expected : String)
  | outOfRange (integer : Int) (expected : String)
  | missingField (name : String)
  | duplicateField (name : String)
  /-- An array that stands for a record ends before its required fields. -/
  | tooShort (length : Nat) (record : String) (fields : Nat)
  /-- An array that stands for a record goes on behind its last field. -/
  | tooLong (length : Nat)
  | notAValue

inductive ReadError where
  | fault (fault : Fault)
  | shape (misshape : Misshape)

def Found.describe : Found → String
  | null => "null"
  | boolean value => if value then "boolean \x60true\x60" else "boolean \x60false\x60"
  | integer value => "integer \x60" ++ toString value ++ "\x60"
  | real amount => "floating point \x60" ++ amount.text .json ++ "\x60"
  | text content => "string " ++ Text.quoted content
  | sequence => "sequence"
  | map => "map"

def Misshape.message : Misshape → String
  | wrongKind found expected => "invalid type: " ++ found.describe ++ ", expected " ++ expected
  | outOfRange integer expected =>
    "invalid value: integer \x60" ++ toString integer ++ "\x60, expected " ++ expected
  | missingField name => "missing field \x60" ++ name ++ "\x60"
  | duplicateField name => "duplicate field \x60" ++ name ++ "\x60"
  | tooShort length record fields =>
    "invalid length " ++ toString length ++ ", expected struct " ++ record ++ " with " ++
      toString fields ++ " elements"
  | tooLong length =>
    "invalid length " ++ toString length ++ ", expected fewer elements in array"
  | notAValue => "data did not match any variant of untagged enum Value"

def depthLimit : Nat := 127

def ReadError.message : ReadError → String
  | fault .malformed => "a character that cannot stand where it does"
  | fault .ended => "an early end"
  | shape misshape => misshape.message

abbrev Reading (α : Type) := Except ReadError α

def fail {α : Type} (misshape : Misshape) : Reading α := .error (.shape misshape)

def failText {α : Type} (fault : Fault) : Reading α := .error (.fault fault)

/-- The outline of what is inside a bracket is read one level deeper. -/
def descend {α : Type} (depth : Nat) (inside : Nat → Reading α) : Reading α :=
  match depth with
  | 0 => failText .malformed
  | depth + 1 => inside depth

def Ending.check : Ending → Reading Unit
  | .closed => .ok ()
  | .stopped fault _ _ => failText fault

namespace Outline

def quantity (numeral : Numeral) : Reading Quantity :=
  match numeral.quantity? with
  | some quantity => .ok quantity
  | none => failText .malformed

def textOf (content : Option String) : Reading String :=
  match content with
  | some content => .ok content
  | none => failText .malformed

def foundQuantity : Quantity → Found
  | .natural size => .integer size
  | .negative size => .integer (-(size : Int))
  | .real amount => .real amount

/-- A value is not of the expected kind. Faults inside a word, a number or a text come first. -/
def reject {α : Type} (expected : String) : Outline → Reading α
  | null => fail (.wrongKind .null expected)
  | boolean value => fail (.wrongKind (.boolean value) expected)
  | number numeral => do
    let quantity ← quantity numeral
    fail (.wrongKind (foundQuantity quantity) expected)
  | text content => do
    let content ← textOf content
    fail (.wrongKind (.text content) expected)
  | array _ _ => fail (.wrongKind .sequence expected)
  | object _ _ => fail (.wrongKind .map expected)
  | broken fault _ => failText fault

def readText : Outline → Reading String
  | text content => textOf content
  | outline => reject "a string" outline

/-- An integer from `low` to `high`. A number with a fraction or an exponent is none. -/
def readInteger (expected : String) (low high : Int) : Outline → Reading Int
  | number numeral => do
    match ← quantity numeral with
    | .real amount => fail (.wrongKind (.real amount) expected)
    | .natural size =>
      if (size : Int) ≤ high then .ok size else fail (.outOfRange size expected)
    | .negative size =>
      if low ≤ -(size : Int) then .ok (-(size : Int))
      else fail (.outOfRange (-(size : Int)) expected)
  | outline => reject expected outline

def readNatural (expected : String) (high : Nat) (outline : Outline) : Reading Nat := do
  let integer ← readInteger expected 0 high outline
  return integer.toNat

def readNumber : Outline → Reading Number
  | number numeral => do
    let quantity ← quantity numeral
    return quantity.number
  | outline => reject "f64" outline

def readOption {α : Type} (read : Outline → Reading α) : Outline → Reading (Option α)
  | null => .ok none
  | outline => do
    let value ← read outline
    return some value

def readItems {α : Type} (read : Outline → Reading α) : List Outline → Reading (List α)
  | [] => .ok []
  | item :: rest => do
    let item ← read item
    let rest ← readItems read rest
    return item :: rest

def readSequence {α : Type} (read : Nat → Outline → Reading α) (depth : Nat) :
    Outline → Reading (List α)
  | array items ending => descend depth fun depth => do
    let items ← readItems (read depth) items
    ending.check
    return items
  | outline => reject "a sequence" outline

def readMembers {α : Type} (read : Outline → Reading α) :
    List (Option String × Outline) → Reading (List (String × α))
  | [] => .ok []
  | (name, value) :: rest => do
    let name ← textOf name
    let value ← read value
    let rest ← readMembers read rest
    return (name, value) :: rest

/-- The members of an object in the order of the text, repeated names included. -/
def readMap {α : Type} (read : Nat → Outline → Reading α) (depth : Nat) :
    Outline → Reading (List (String × α))
  | object members ending => descend depth fun depth => do
    let members ← readMembers (read depth) members
    ending.check
    return members
  | outline => reject "a map" outline

def skip (outline : Outline) : Reading Unit :=
  match outline.skipFault? with
  | some fault => failText fault
  | none => .ok ()

end Outline

structure Field where
  name : String
  required : Bool

/-- How a record is read: from an object with its fields as members, or from an array with its
fields in order. Reading starts from `blank` and assigns one field after another. -/
structure Record (α : Type) where
  name : String
  fields : List Field
  blank : α
  assign : (field : String) → Nat → Outline → α → Reading α

namespace Record

variable {α : Type}

/-- Reads members; `seen` holds the names of the fields that are read already. -/
def readMembers (record : Record α) (depth : Nat) :
    List (Option String × Outline) → List String → α → Reading (List String × α)
  | [], seen, partly => .ok (seen, partly)
  | (name, outline) :: rest, seen, partly => do
    let name ← Outline.textOf name
    if record.fields.any (·.name == name) then
      if seen.contains name then fail (.duplicateField name)
      else
        let partly ← record.assign name depth outline partly
        record.readMembers depth rest (name :: seen) partly
    else
      outline.skip
      record.readMembers depth rest seen partly

def readItems (record : Record α) (depth : Nat) :
    List Field → List Outline → α → Reading (List Field × List Outline × α)
  | field :: fields, item :: items, partly => do
    let partly ← record.assign field.name depth item partly
    record.readItems depth fields items partly
  | fields, items, partly => .ok (fields, items, partly)

/-- An array that stands for a record has to end behind the last field. -/
def checkEnd (length : Nat) (surplus : List Outline) : Ending → Reading Unit
  | .closed => if surplus.isEmpty then .ok () else fail (.tooLong length)
  | .stopped fault _ afterComma =>
    if surplus.isEmpty && !afterComma then failText fault else failText .malformed

def read (record : Record α) (depth : Nat) : Outline → Reading α
  | .object members ending => descend depth fun depth => do
    let (seen, value) ← record.readMembers depth members [] record.blank
    ending.check
    match record.fields.find? fun field => field.required && !seen.contains field.name with
    | some field => fail (.missingField field.name)
    | none => return value
  | .array items ending => descend depth fun depth => do
    let (missing, surplus, value) ← record.readItems depth record.fields items record.blank
    if missing.isEmpty then
      checkEnd items.length surplus ending
      return value
    else
      ending.check
      if missing.any (·.required) then
        fail (.tooShort items.length record.name record.fields.length)
      else return value
  | outline => outline.reject ("struct " ++ record.name)

end Record

/-- Reads a whole text. Nothing may follow the value; what is too much in an array that stands for
a record is a fault of the text here. -/
def readDocument {α : Type} (read : Outline → Reading α) (text : String) : Reading α := do
  let document := Outline.read text
  match read document.root with
  | .ok value => if document.trailing then failText .malformed else return value
  | .error (.shape (.tooLong _)) => failText .malformed
  | .error error => .error error

end Chaining.Json
