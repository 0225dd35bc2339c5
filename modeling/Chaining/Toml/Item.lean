import Chaining.Toml.Scalar

set_option autoImplicit false

namespace Chaining.Toml

/-- How a table came about decides which statements may still add to it. -/
inductive Origin where
  /-- The whole document, a table with a header of its own, or a row. -/
  | header
  /-- Named in a header on the way to another table. -/
  | implied
  /-- Named in a dotted key on the way to a value. -/
  | dotted
  | inline
deriving DecidableEq

inductive Item where
  | text (content : String)
  | integer (value : Int)
  | real (number : Number)
  | boolean (value : Bool)
  /-- A date or a time, as it is written. -/
  | moment (written : String)
  | array (items : List Item)
  | table (origin : Origin) (members : List (String × Item))
  /-- Tables that share one name. The last row comes first. -/
  | rows (tables : List (List (String × Item)))

abbrev Members := List (String × Item)

structure Key where
  path : List String
  name : String

namespace Members

def replace (name : String) (item : Item) : Members → Members
  | [] => []
  | (other, old) :: rest =>
    if other = name then (name, item) :: rest else (other, old) :: replace name item rest

/-- Changes the table at the end of a path, making the tables that are missing on the way. A path of
a dotted key does not lead through tables that have a header, and no path leads into an inline
table. -/
def within (isDotted : Bool) (change : Origin → Members → Option Members) :
    List String → Origin → Members → Option Members
  | [], origin, members => change origin members
  | name :: path, _, members =>
    match members.lookup name with
    | none => do
      let origin := if isDotted then .dotted else .implied
      let inner ← within isDotted change path origin []
      return members ++ [(name, .table origin inner)]
    | some (.table origin inner) =>
      if origin = .inline ∨ (isDotted ∧ origin = .header) then none
      else do
        let inner ← within isDotted change path origin inner
        return replace name (.table origin inner) members
    | some (.rows (last :: before)) => do
      let last ← within isDotted change path .header last
      return replace name (.rows (last :: before)) members
    | some _ => none

/-- Adds a value under a name that is free. A dotted key adds to tables of dotted keys only, and a
plain key to all others only. -/
def put (isDotted : Bool) (name : String) (item : Item) (origin : Origin) (members : Members) :
    Option Members :=
  if isDotted ≠ (origin = .dotted : Bool) then none
  else if (members.lookup name).isSome then none
  else some (members ++ [(name, item)])

def assign (key : Key) (item : Item) (origin : Origin) (members : Members) : Option Members :=
  within true (put (!key.path.isEmpty) key.name item) key.path origin members

/-- Opens the table of a header. -/
def openTable (name : String) (_ : Origin) (members : Members) : Option Members :=
  match members.lookup name with
  | none => some (members ++ [(name, .table .header [])])
  | some (.table .implied inner) => some (replace name (.table .header inner) members)
  | some _ => none

/-- Opens a new row under the name of a header. -/
def openRow (name : String) (_ : Origin) (members : Members) : Option Members :=
  match members.lookup name with
  | none => some (members ++ [(name, .rows [[]])])
  | some (.rows tables) => some (replace name (.rows ([] :: tables)) members)
  | some _ => none

end Members

def inlineTable (pairs : List (Key × Item)) : Option Item :=
  (pairs.foldlM (fun members pair => Members.assign pair.1 pair.2 .inline members) []).map
    (.table .inline)

end Chaining.Toml
