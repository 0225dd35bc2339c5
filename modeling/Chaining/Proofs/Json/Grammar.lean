import Chaining.Json.Outline
import Chaining.Proofs.Json.Text

set_option autoImplicit false

namespace Chaining.Json

structure Gap where
  characters : List Char
  blank : ∀ character ∈ characters, Token.isBlank character = true

def Gap.none : Gap := ⟨[], by simp⟩

structure Item where
  before : Gap
  text : List Char
  after : Gap
  outline : Outline

def Item.characters (item : Item) : List Char :=
  item.before.characters ++ (item.text ++ item.after.characters)

structure Member where
  before : Gap
  name : Literal
  after : Gap
  value : Item

namespace Member

def characters (member : Member) : List Char :=
  member.before.characters ++ (member.name.characters ++ (member.after.characters ++
    ':' :: member.value.characters))

def outline (member : Member) : Option String × Outline :=
  (member.name.content, member.value.outline)

end Member

/-- Pieces that follow another one, up to a closing bracket. -/
def followed (last : Gap) (closing : Char) : List (List Char) → List Char
  | [] => last.characters ++ [closing]
  | piece :: rest => ',' :: (piece ++ followed last closing rest)

/-- Pieces between brackets, with commas between them. -/
def bracketed (opening : Char) (last : Gap) (closing : Char) : List (List Char) → List Char
  | [] => opening :: (last.characters ++ [closing])
  | piece :: rest => opening :: (piece ++ followed last closing rest)

def arrayText (items : List Item) (last : Gap) : List Char :=
  bracketed '[' last ']' (items.map Item.characters)

def objectText (members : List Member) (last : Gap) : List Char :=
  bracketed '\x7b' last '\x7d' (members.map Member.characters)

/-- Characters are the text of a value. -/
inductive Spells : List Char → Outline → Prop
  | null : Spells ['n', 'u', 'l', 'l'] .null
  | true : Spells ['t', 'r', 'u', 'e'] (.boolean Bool.true)
  | false : Spells ['f', 'a', 'l', 's', 'e'] (.boolean Bool.false)
  | number {numeral : Numeral} (written : numeral.IsWritten) :
      Spells numeral.text (.number numeral)
  | capital {numeral : Numeral} {sign : ExponentSign} {digits : List Char}
      (written : numeral.IsWritten) (exponent : numeral.exponent = some (sign, digits)) :
      Spells ({ numeral with exponent := none }.text ++ 'E' :: (Numeral.signText sign ++ digits))
        (.number numeral)
  | text (literal : Literal) : Spells literal.characters (.text literal.content)
  | array (items : List Item) (last : Gap) (each : ∀ item ∈ items, Spells item.text item.outline) :
      Spells (arrayText items last) (.array (items.map Item.outline) .closed)
  | object (members : List Member) (last : Gap)
      (each : ∀ member ∈ members, Spells member.value.text member.value.outline) :
      Spells (objectText members last) (.object (members.map Member.outline) .closed)

end Chaining.Json
