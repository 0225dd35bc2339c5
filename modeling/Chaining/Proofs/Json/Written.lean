import Chaining.Proofs.Json.Outline

set_option autoImplicit false

namespace Chaining.Json

mutual

def numerals : Json → List Numeral
  | number numeral => [numeral]
  | array items => itemNumerals items
  | object members => memberNumerals members
  | _ => []

def itemNumerals : List Json → List Numeral
  | [] => []
  | item :: rest => numerals item ++ itemNumerals rest

def memberNumerals : List (String × Json) → List Numeral
  | [] => []
  | (_, value) :: rest => numerals value ++ memberNumerals rest

end

/-- A value whose numerals are as JSON has them. -/
def Legible (json : Json) : Prop := ∀ numeral ∈ json.numerals, numeral.IsWritten

@[simp] theorem legible_null : null.Legible := by simp [Legible, numerals]

@[simp] theorem legible_boolean (value : Bool) : (boolean value).Legible := by
  simp [Legible, numerals]

@[simp] theorem legible_text (content : String) : (text content).Legible := by
  simp [Legible, numerals]

@[simp] theorem legible_number {numeral : Numeral} :
    (number numeral).Legible ↔ numeral.IsWritten := by
  simp [Legible, numerals]

@[simp] theorem legible_array {items : List Json} :
    (array items).Legible ↔ ∀ item ∈ items, item.Legible := by
  unfold Legible
  rw [numerals]
  induction items with
  | nil => simp [itemNumerals]
  | cons item rest ih => rw [itemNumerals, List.forall_mem_append, List.forall_mem_cons, ih]

@[simp] theorem legible_object {members : List (String × Json)} :
    (object members).Legible ↔ ∀ member ∈ members, member.2.Legible := by
  unfold Legible
  rw [numerals]
  induction members with
  | nil => simp [memberNumerals]
  | cons member rest ih => rw [memberNumerals, List.forall_mem_append, List.forall_mem_cons, ih]

open Outline (ofJson ofItems ofMembers)

/-- A way of writing values; the number counts the brackets around a value. Words, numerals and
texts look alike in all of them, and what has brackets is written from its parts. -/
structure Style (write : Nat → Json → List Char) : Prop where
  plain : ∀ depth json, (∀ items, json ≠ array items) → (∀ members, json ≠ object members) →
    write depth json = json.compactText
  array : ∀ depth items, ∃ (piece : Json → Item) (last : Gap),
    write depth (.array items) = arrayText (items.map piece) last ∧
      ∀ item, (piece item).text = write (depth + 1) item ∧ (piece item).outline = ofJson item
  object : ∀ depth members, ∃ (piece : String × Json → Member) (last : Gap),
    write depth (.object members) = objectText (members.map piece) last ∧
      ∀ member, (piece member).value.text = write (depth + 1) member.2 ∧
        (piece member).value.outline = ofJson member.2 ∧ (piece member).name.content = some member.1

theorem ofItems_eq {piece : Json → Item} (outlined : ∀ item, (piece item).outline = ofJson item)
    (items : List Json) : ofItems items = (items.map piece).map Item.outline := by
  induction items with
  | nil => rfl
  | cons item rest ih => rw [ofItems, List.map_cons, List.map_cons, outlined, ih]

theorem ofMembers_eq {piece : String × Json → Member}
    (outlined : ∀ member, (piece member).value.outline = ofJson member.2 ∧
      (piece member).name.content = some member.1) (members : List (String × Json)) :
    ofMembers members = (members.map piece).map Member.outline := by
  induction members with
  | nil => rfl
  | cons member rest ih =>
    rw [ofMembers, List.map_cons, List.map_cons, Member.outline, (outlined member).1,
      (outlined member).2, ih]

mutual

/-- Whatever the style, a value keeps to the grammar. -/
theorem Style.spells {write : Nat → Json → List Char} (style : Style write) (json : Json)
    (depth : Nat) (legible : json.Legible) : Spells (write depth json) (ofJson json) := by
  match json with
  | .null =>
    rw [style.plain depth _ (by simp) (by simp)]
    exact .null
  | .boolean true =>
    rw [style.plain depth _ (by simp) (by simp)]
    exact .true
  | .boolean false =>
    rw [style.plain depth _ (by simp) (by simp)]
    exact .false
  | .number numeral =>
    rw [style.plain depth _ (by simp) (by simp)]
    exact .number (legible_number.mp legible)
  | .text content =>
    have spells := Spells.text (.ofText content)
    rw [style.plain depth _ (by simp) (by simp)]
    rwa [Literal.content_ofText] at spells
  | .array items =>
    obtain ⟨piece, last, written, parts⟩ := style.array depth items
    rw [written, ofJson, ofItems_eq fun item => (parts item).2]
    refine .array _ last (List.forall_mem_map.mpr fun item member => ?_)
    rw [(parts item).1, (parts item).2]
    exact style.spellsItems items (depth + 1) (legible_array.mp legible) item member
  | .object members =>
    obtain ⟨piece, last, written, parts⟩ := style.object depth members
    rw [written, ofJson, ofMembers_eq fun member => (parts member).2]
    refine .object _ last (List.forall_mem_map.mpr fun member inside => ?_)
    rw [(parts member).1, (parts member).2.1]
    exact style.spellsMembers members (depth + 1) (legible_object.mp legible) member inside

theorem Style.spellsItems {write : Nat → Json → List Char} (style : Style write)
    (items : List Json) (depth : Nat) (legible : ∀ item ∈ items, item.Legible) :
    ∀ item ∈ items, Spells (write depth item) (ofJson item) := by
  match items with
  | [] => simp
  | item :: items =>
    rw [List.forall_mem_cons] at legible ⊢
    exact ⟨style.spells item depth legible.1, style.spellsItems items depth legible.2⟩

theorem Style.spellsMembers {write : Nat → Json → List Char} (style : Style write)
    (members : List (String × Json)) (depth : Nat)
    (legible : ∀ member ∈ members, member.2.Legible) :
    ∀ member ∈ members, Spells (write depth member.2) (ofJson member.2) := by
  match members with
  | [] => simp
  | (name, value) :: members =>
    rw [List.forall_mem_cons] at legible ⊢
    exact ⟨style.spells value depth legible.1, style.spellsMembers members depth legible.2⟩

end

def compactItem (json : Json) : Item := ⟨.none, json.compactText, .none, ofJson json⟩

def compactMember (member : String × Json) : Member :=
  ⟨.none, .ofText member.1, .none, compactItem member.2⟩

theorem compactItem_characters (json : Json) :
    (compactItem json).characters = json.compactText := by
  simp [compactItem, Item.characters, Gap.none]

theorem compactMember_characters (member : String × Json) :
    (compactMember member).characters = quoted member.1 ++ ':' :: member.2.compactText := by
  simp [compactMember, Member.characters, compactItem_characters, Literal.characters_ofText,
    Gap.none]

theorem compactText_array (items : List Json) :
    (array items).compactText = arrayText (items.map compactItem) .none := by
  have others (rest : List Json) : compactItems rest =
      followed .none ']' ((rest.map compactItem).map Item.characters) := by
    induction rest with
    | nil => rfl
    | cons item rest ih =>
      rw [compactItems, List.map_cons, List.map_cons, followed, compactItem_characters, ih]
  cases items with
  | nil => rfl
  | cons item rest =>
    rw [compactText, arrayText, List.map_cons, List.map_cons, bracketed, compactItem_characters,
      others]

theorem compactText_object (members : List (String × Json)) :
    (object members).compactText = objectText (members.map compactMember) .none := by
  have others (rest : List (String × Json)) : compactMembers rest =
      followed .none '\x7d' ((rest.map compactMember).map Member.characters) := by
    induction rest with
    | nil => rfl
    | cons member rest ih =>
      rw [compactMembers, List.map_cons, List.map_cons, followed, compactMember_characters, ih,
        List.append_assoc, List.cons_append]
  cases members with
  | nil => rfl
  | cons member rest =>
    rw [compactText, objectText, List.map_cons, List.map_cons, bracketed,
      compactMember_characters, others, List.append_assoc, List.cons_append]

theorem compact_style : Style fun _ => compactText where
  plain := fun _ _ _ _ => rfl
  array := fun _ items => ⟨compactItem, .none, compactText_array items, fun _ => ⟨rfl, rfl⟩⟩
  object := fun _ members => ⟨compactMember, .none, compactText_object members,
    fun member => ⟨rfl, rfl, Literal.content_ofText member.1⟩⟩

/-- A line feed, and the spaces that the next line begins with. -/
def Gap.newline (depth : Nat) : Gap where
  characters := Json.newline depth
  blank := fun blank member => by
    rcases List.mem_cons.mp member with rfl | space
    · rfl
    · rw [List.eq_of_mem_replicate space]
      rfl

def Gap.space : Gap := ⟨[' '], by simp [Token.isBlank]⟩

def prettyItem (depth : Nat) (json : Json) : Item :=
  ⟨.newline (depth + 1), json.prettyText (depth + 1), .none, ofJson json⟩

def prettyMember (depth : Nat) (member : String × Json) : Member :=
  ⟨.newline (depth + 1), .ofText member.1, .none,
    ⟨.space, member.2.prettyText (depth + 1), .none, ofJson member.2⟩⟩

theorem prettyItem_characters (depth : Nat) (json : Json) : (prettyItem depth json).characters =
    newline (depth + 1) ++ json.prettyText (depth + 1) := by
  simp [prettyItem, Item.characters, Gap.none, Gap.newline]

theorem prettyMember_characters (depth : Nat) (member : String × Json) :
    (prettyMember depth member).characters = newline (depth + 1) ++ quoted member.1 ++
      ':' :: ' ' :: member.2.prettyText (depth + 1) := by
  simp [prettyMember, Member.characters, Item.characters, Literal.characters_ofText, Gap.none,
    Gap.newline, Gap.space]

def Gap.ofParts {α : Type} (depth : Nat) : List α → Gap
  | [] => .none
  | _ :: _ => .newline depth

theorem prettyText_array (depth : Nat) (items : List Json) : (array items).prettyText depth =
    arrayText (items.map (prettyItem depth)) (.ofParts depth items) := by
  have others (rest : List Json) : prettyItems depth rest =
      followed (.newline depth) ']' ((rest.map (prettyItem depth)).map Item.characters) := by
    induction rest with
    | nil => rfl
    | cons item rest ih =>
      rw [prettyItems, List.map_cons, List.map_cons, followed, prettyItem_characters, ih]
  cases items with
  | nil => rfl
  | cons item rest =>
    rw [prettyText, arrayText, List.map_cons, List.map_cons, bracketed, prettyItem_characters,
      others]
    rfl

theorem prettyText_object (depth : Nat) (members : List (String × Json)) :
    (object members).prettyText depth =
      objectText (members.map (prettyMember depth)) (.ofParts depth members) := by
  have others (rest : List (String × Json)) : prettyMembers depth rest =
      followed (.newline depth) '\x7d' ((rest.map (prettyMember depth)).map Member.characters) := by
    induction rest with
    | nil => rfl
    | cons member rest ih =>
      rw [prettyMembers, List.map_cons, List.map_cons, followed, prettyMember_characters, ih]
      simp only [List.append_assoc, List.cons_append]
  cases members with
  | nil => rfl
  | cons member rest =>
    rw [prettyText, objectText, List.map_cons, List.map_cons, bracketed,
      prettyMember_characters, others]
    simp only [List.append_assoc, List.cons_append, Gap.ofParts]

theorem pretty_style : Style prettyText where
  plain := fun depth json bare barest => by
    match json with
    | .null | .boolean true | .boolean false | .number _ | .text _ => rfl
    | .array items => exact absurd rfl (bare items)
    | .object members => exact absurd rfl (barest members)
  array := fun depth items =>
    ⟨prettyItem depth, .ofParts depth items, prettyText_array depth items, fun _ => ⟨rfl, rfl⟩⟩
  object := fun depth members =>
    ⟨prettyMember depth, .ofParts depth members, prettyText_object depth members,
      fun member => ⟨rfl, rfl, Literal.content_ofText member.1⟩⟩

namespace Outline

theorem read_compact {json : Json} (legible : json.Legible) :
    read json.compact = ⟨ofJson json, false⟩ :=
  read_alone (compact_style.spells json 0 legible)

theorem read_pretty {json : Json} (legible : json.Legible) :
    read json.pretty = ⟨ofJson json, false⟩ :=
  read_alone (pretty_style.spells json 0 legible)

end Outline

end Chaining.Json
