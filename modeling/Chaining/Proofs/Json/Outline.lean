import Chaining.Proofs.Json.Grammar

set_option autoImplicit false

namespace Chaining.Json

namespace Token

theorem apart_of_first {first : Char} (solid : first.isDigit = false ∧ first ≠ '.' ∧ first ≠ 'e' ∧
    first ≠ 'E') (rest : List Char) : Apart (first :: rest) := by
  intro next head
  obtain rfl : first = next := Option.some.inj head
  exact solid

theorem scan_mark {mark : Char} {token : Token} (solid : isBlank mark = false)
    (alone : ∀ rest, scanToken mark rest = (token, rest)) (rest : List Char) :
    scan (mark :: rest) = token :: scan rest := by
  rw [scan_cons solid, alone]

theorem scan_comma (rest : List Char) : scan (',' :: rest) = .comma :: scan rest :=
  scan_mark rfl (fun _ => rfl) rest

theorem scan_colon (rest : List Char) : scan (':' :: rest) = .colon :: scan rest :=
  scan_mark rfl (fun _ => rfl) rest

theorem scan_openArray (rest : List Char) : scan ('[' :: rest) = .openArray :: scan rest :=
  scan_mark rfl (fun _ => rfl) rest

theorem scan_closeArray (rest : List Char) : scan (']' :: rest) = .closeArray :: scan rest :=
  scan_mark rfl (fun _ => rfl) rest

theorem scan_openObject (rest : List Char) : scan ('\x7b' :: rest) = .openObject :: scan rest :=
  scan_mark rfl (fun _ => rfl) rest

theorem scan_closeObject (rest : List Char) : scan ('\x7d' :: rest) = .closeObject :: scan rest :=
  scan_mark rfl (fun _ => rfl) rest

theorem scan_null (rest : List Char) :
    scan ('n' :: 'u' :: 'l' :: 'l' :: rest) = .null :: scan rest := by
  rw [scan_cons rfl]
  rfl

theorem scan_true (rest : List Char) :
    scan ('t' :: 'r' :: 'u' :: 'e' :: rest) = .boolean true :: scan rest := by
  rw [scan_cons rfl]
  rfl

theorem scan_false (rest : List Char) :
    scan ('f' :: 'a' :: 'l' :: 's' :: 'e' :: rest) = .boolean false :: scan rest := by
  rw [scan_cons rfl]
  rfl

theorem scan_gap (gap : Gap) (rest : List Char) : scan (gap.characters ++ rest) = scan rest := by
  obtain ⟨characters, blank⟩ := gap
  induction characters with
  | nil => rfl
  | cons first characters ih =>
    rw [List.forall_mem_cons] at blank
    rw [List.cons_append, scan, if_pos blank.1]
    exact ih blank.2

theorem apart_gap (gap : Gap) {rest : List Char} (apart : Apart rest) :
    Apart (gap.characters ++ rest) := by
  obtain ⟨characters, blank⟩ := gap
  cases characters with
  | nil => exact apart
  | cons first characters =>
    apply apart_of_first
    have isBlank := blank first List.mem_cons_self
    simp only [Token.isBlank, Bool.or_eq_true, decide_eq_true_eq] at isBlank
    rcases isBlank with ((rfl | rfl) | rfl) | rfl <;> decide

theorem apart_followed (gap last : Gap) (closing : Char)
    (solid : closing.isDigit = false ∧ closing ≠ '.' ∧ closing ≠ 'e' ∧ closing ≠ 'E')
    (pieces : List (List Char)) (rest : List Char) :
    Apart (gap.characters ++ (followed last closing pieces ++ rest)) := by
  apply apart_gap
  cases pieces with
  | nil =>
    rw [followed, List.append_assoc]
    exact apart_gap last (apart_of_first solid rest)
  | cons piece pieces => exact apart_of_first (by decide) _

end Token

open Token

namespace Outline

/-- Goes on after a step with the tokens that are left. -/
def resume : Step → List Token → Document
  | .go expected frames, rest => build frames expected rest
  | .root value, rest => ⟨value, !rest.isEmpty⟩
  | .stop value, _ => ⟨value, false⟩

theorem build_cons (frames : List Frame) (expected : Expected) (token : Token)
    (rest : List Token) :
    build frames expected (token :: rest) = resume (step frames expected token) rest := by
  rw [build]
  cases step frames expected token <;> rfl

def Expected.Opens (expected : Expected) : Prop :=
  expected = .value ∨ expected = .firstItem ∨ expected = .nextItem

/-- A value starts alike wherever it may come next; an end of the array is no value. -/
theorem step_opens {expected : Expected} (opens : expected.Opens) {token : Token}
    (starts : token ≠ .closeArray) (frames : List Frame) :
    step frames expected token = startValue frames token := by
  rcases opens with rfl | rfl | rfl
  · rfl
  · cases token <;> first | rfl | exact absurd rfl starts
  · cases token <;> first | rfl | exact absurd rfl starts

theorem build_opens {expected : Expected} (opens : expected.Opens) {token : Token}
    (starts : token ≠ .closeArray) (frames : List Frame) (rest : List Token) :
    build frames expected (token :: rest) = resume (startValue frames token) rest := by
  rw [build_cons, step_opens opens starts]

/-- The text of a value is put together to its outline, wherever a value may come next. -/
def Builds (text : List Char) (outline : Outline) : Prop :=
  ∀ {expected : Expected}, expected.Opens → ∀ (frames : List Frame) {rest : List Char},
    Apart rest → build frames expected (scan (text ++ rest)) =
      resume (finish outline frames) (scan rest)

theorem build_item {item : Item} (builds : Builds item.text item.outline) {expected : Expected}
    (opens : expected.Opens) (frames : List Frame) {rest : List Char}
    (apart : Apart (item.after.characters ++ rest)) :
    build frames expected (scan (item.characters ++ rest)) =
      resume (finish item.outline frames) (scan rest) := by
  rw [Item.characters, List.append_assoc, List.append_assoc, scan_gap, builds opens frames apart,
    scan_gap]

theorem build_items {items : List Item}
    (each : ∀ item ∈ items, Builds item.text item.outline) (last : Gap) (seen : List Outline)
    (frames : List Frame) (rest : List Char) :
    build (.array seen :: frames) .separator
        (scan (followed last ']' (items.map Item.characters) ++ rest)) =
      resume (finish (.array (seen.reverse ++ items.map Item.outline) .closed) frames)
        (scan rest) := by
  induction items generalizing seen with
  | nil =>
    rw [List.map_nil, List.map_nil, followed, List.append_assoc, scan_gap, List.append_nil]
    exact (congrArg _ (scan_closeArray rest)).trans (build_cons _ _ _ _)
  | cons item items ih =>
    obtain ⟨first, each⟩ := List.forall_mem_cons.mp each
    rw [List.map_cons, followed, List.cons_append, List.append_assoc, scan_comma, build_cons]
    have next := build_item first (.inr (.inr rfl)) (.array seen :: frames)
      (apart_followed item.after last ']' (by decide) (items.map Item.characters) rest)
    have others := ih each (item.outline :: seen)
    rw [List.reverse_cons, List.append_assoc] at others
    exact next.trans others

/-- The name of a member and the colon behind it lead to its value. -/
theorem build_name {expected : Expected}
    (named : expected = .firstName ∨ expected = .nextName) (name : Option String)
    (seen : List (Option String × Outline)) (frames : List Frame) (rest : List Token) :
    build (.object seen :: frames) expected (.text name :: .colon :: rest) =
      build (.member seen name :: frames) .value rest := by
  have colon : build (.object seen :: frames) expected (.text name :: .colon :: rest) =
      build (.object seen :: frames) (.colon name) (.colon :: rest) := by
    rcases named with rfl | rfl <;> exact build_cons _ _ _ _
  rw [colon, build_cons]
  rfl

theorem build_member {member : Member} (builds : Builds member.value.text member.value.outline)
    {expected : Expected} (named : expected = .firstName ∨ expected = .nextName)
    (seen : List (Option String × Outline)) (frames : List Frame) {rest : List Char}
    (apart : Apart (member.value.after.characters ++ rest)) :
    build (.object seen :: frames) expected (scan (member.characters ++ rest)) =
      build (.object (member.outline :: seen) :: frames) .separator (scan rest) := by
  simp only [Member.characters, List.append_assoc, List.cons_append]
  rw [scan_gap, Literal.scan, scan_gap, scan_colon, build_name named]
  exact build_item builds (.inl rfl) _ apart

theorem build_members {members : List Member}
    (each : ∀ member ∈ members, Builds member.value.text member.value.outline) (last : Gap)
    (seen : List (Option String × Outline)) (frames : List Frame) (rest : List Char) :
    build (.object seen :: frames) .separator
        (scan (followed last '\x7d' (members.map Member.characters) ++ rest)) =
      resume (finish (.object (seen.reverse ++ members.map Member.outline) .closed) frames)
        (scan rest) := by
  induction members generalizing seen with
  | nil =>
    rw [List.map_nil, List.map_nil, followed, List.append_assoc, scan_gap, List.append_nil]
    exact (congrArg _ (scan_closeObject rest)).trans (build_cons _ _ _ _)
  | cons member members ih =>
    obtain ⟨first, each⟩ := List.forall_mem_cons.mp each
    rw [List.map_cons, followed, List.cons_append, List.append_assoc, scan_comma, build_cons]
    have next := build_member first (.inr rfl) seen frames
      (apart_followed member.value.after last '\x7d' (by decide) (members.map Member.characters)
        rest)
    have others := ih each (member.outline :: seen)
    rw [List.reverse_cons, List.append_assoc] at others
    exact next.trans others

theorem builds_array {items : List Item} (each : ∀ item ∈ items, Builds item.text item.outline)
    (last : Gap) : Builds (arrayText items last) (.array (items.map Item.outline) .closed) := by
  intro expected opens frames rest _
  cases items with
  | nil =>
    simp only [arrayText, bracketed, List.map_nil, List.cons_append, List.append_assoc,
      List.nil_append]
    rw [scan_openArray, scan_gap, scan_closeArray, build_opens opens (by simp)]
    exact build_cons _ _ _ _
  | cons item items =>
    obtain ⟨first, each⟩ := List.forall_mem_cons.mp each
    rw [arrayText, List.map_cons, bracketed, List.cons_append, List.append_assoc, scan_openArray,
      build_opens opens (by simp)]
    have next := build_item first (.inr (.inl rfl)) (.array [] :: frames)
      (apart_followed item.after last ']' (by decide) (items.map Item.characters) rest)
    exact next.trans (build_items each last [item.outline] frames rest)

theorem builds_object {members : List Member}
    (each : ∀ member ∈ members, Builds member.value.text member.value.outline) (last : Gap) :
    Builds (objectText members last) (.object (members.map Member.outline) .closed) := by
  intro expected opens frames rest _
  cases members with
  | nil =>
    simp only [objectText, bracketed, List.map_nil, List.cons_append, List.append_assoc,
      List.nil_append]
    rw [scan_openObject, scan_gap, scan_closeObject, build_opens opens (by simp)]
    exact build_cons _ _ _ _
  | cons member members =>
    obtain ⟨first, each⟩ := List.forall_mem_cons.mp each
    rw [objectText, List.map_cons, bracketed, List.cons_append, List.append_assoc,
      scan_openObject, build_opens opens (by simp)]
    have next := build_member first (.inl rfl) [] frames
      (apart_followed member.value.after last '\x7d' (by decide) (members.map Member.characters)
        rest)
    exact next.trans (build_members each last [member.outline] frames rest)

/-- What the grammar makes of a text is put together from it. -/
theorem builds_of_spells {text : List Char} {outline : Outline} (spells : Spells text outline) :
    Builds text outline := by
  induction spells with
  | array items last _ ih => exact builds_array ih last
  | object members last _ ih => exact builds_object ih last
  | null =>
    intro expected opens frames rest _
    exact (congrArg _ (scan_null rest)).trans (build_opens opens (by simp) _ _)
  | true =>
    intro expected opens frames rest _
    exact (congrArg _ (scan_true rest)).trans (build_opens opens (by simp) _ _)
  | false =>
    intro expected opens frames rest _
    exact (congrArg _ (scan_false rest)).trans (build_opens opens (by simp) _ _)
  | number written =>
    intro expected opens frames rest apart
    exact (congrArg _ (scan_numeral written apart)).trans (build_opens opens (by simp) _ _)
  | capital written exponent =>
    intro expected opens frames rest apart
    exact (congrArg _ (scan_capital written exponent apart)).trans (build_opens opens (by simp) _ _)
  | text literal =>
    intro expected opens frames rest _
    exact (congrArg _ (literal.scan rest)).trans (build_opens opens (by simp) _ _)

theorem read_of_spells {text : List Char} {outline : Outline} (spells : Spells text outline)
    (before after : Gap) :
    read (String.ofList (before.characters ++ (text ++ after.characters))) = ⟨outline, false⟩ := by
  have nothing : Apart [] := by simp [Apart]
  have blank : scan after.characters = [] := by
    have scanned := scan_gap after []
    rwa [List.append_nil, scan] at scanned
  have apart : Apart after.characters := by
    have apart := apart_gap after nothing
    rwa [List.append_nil] at apart
  rw [read, String.toList_ofList, scan_gap, builds_of_spells spells (.inl rfl) [] apart, blank]
  rfl

theorem read_alone {text : List Char} {outline : Outline} (spells : Spells text outline) :
    read (String.ofList text) = ⟨outline, false⟩ := by
  have read := read_of_spells spells .none .none
  rwa [Gap.none, List.nil_append, List.append_nil] at read

theorem eq_of_spells {text : List Char} {one other : Outline} (first : Spells text one)
    (second : Spells text other) : one = other :=
  congrArg Document.root ((read_alone first).symm.trans (read_alone second))

end Outline

end Chaining.Json
