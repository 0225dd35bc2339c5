import Chaining.Unicode.Age
import Chaining.Unicode.Break

set_option autoImplicit false

namespace Chaining.Unicode

/-- The characters of a name that count, in lower case. -/
def significant (name : List Char) : List Char :=
  (name.filter fun character =>
    character.toNat < 128 && character ≠ ' ' && character ≠ '_' && character ≠ '-').map
      Char.toLower

/-- The normal form of a name. What would be left of `isc` is not a name of its own. -/
def normalName (name : List Char) : String :=
  match name with
  | first :: second :: rest =>
    if first.toLower = 'i' && second.toLower = 's' then
      if significant rest = ['c'] then "isc" else String.ofList (significant rest)
    else String.ofList (significant name)
  | _ => String.ofList (significant name)

inductive Query where
  /-- A binary property, a general category or a script. -/
  | named (name : List Char)
  /-- A value of a property. -/
  | valued (property value : List Char)

/-- Short names of categories that are also short names of properties without code points. -/
def ambiguousNames : List String := ["cf", "sc", "lc"]

def Query.points? : Query → Option CodePoints
  | .named name =>
    let name := normalName name
    let property := if ambiguousNames.contains name then none else property? name
    (property.or (category? name)).or (script? name)
  | .valued property value =>
    let value := normalName value
    match normalName property with
    | "generalcategory" | "gc" => category? value
    | "script" | "sc" => script? value
    | "scriptextensions" | "scx" => scriptExtension? value
    | "age" => assignedBy? value
    | "graphemeclusterbreak" | "gcb" => graphemeBreak? value
    | "wordbreak" | "wb" => wordBreak? value
    | "sentencebreak" | "sb" => sentenceBreak? value
    | _ => none

end Chaining.Unicode
