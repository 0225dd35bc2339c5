import Chaining.Json.Reading
import Chaining.Proofs.Fallible
import Mathlib.Data.List.Forall2
import Mathlib.Data.List.Nodup

set_option autoImplicit false

namespace Chaining.Json

variable {α β : Type}

theorem descend_eq_ok {depth : Nat} {inside : Nat → Reading α} {value : α} :
    descend depth inside = .ok value ↔
      ∃ inner, depth = inner + 1 ∧ inside inner = .ok value := by
  cases depth <;> simp [descend, failText]

theorem Ending.check_eq_ok {ending : Ending} {nothing : Unit} :
    ending.check = .ok nothing ↔ ending = .closed := by
  cases ending <;> simp [check, failText]

/-- A text is read when its value is and nothing follows that value. -/
theorem readDocument_eq_ok {read : Outline → Reading α} {text : String} {value : α} :
    readDocument read text = .ok value ↔
      read (Outline.read text).root = .ok value ∧ (Outline.read text).trailing = false := by
  unfold readDocument
  dsimp only
  cases found : read (Outline.read text).root with
  | ok other =>
    cases (Outline.read text).trailing <;> simp [failText, pure, Except.pure]
  | error problem =>
    simp only [reduceCtorEq, false_and, iff_false]
    split <;> simp_all [failText]

namespace Outline

@[simp] theorem readText_ofJson (content : String) :
    readText (ofJson (.text content)) = .ok content := by
  rw [ofJson, readText, textOf]

theorem textOf_eq_ok {content : Option String} {text : String} :
    textOf content = .ok text ↔ content = some text := by
  cases content <;> simp [textOf, failText]

theorem quantity_eq_ok {numeral : Numeral} {value : Quantity} :
    quantity numeral = .ok value ↔ numeral.quantity? = some value := by
  unfold quantity
  cases numeral.quantity? <;> simp [failText]

theorem reject_ne_ok {expected : String} {outline : Outline} {value : α} :
    outline.reject expected ≠ .ok value := by
  intro read
  cases outline with
  | number numeral =>
    obtain ⟨_, _, failed⟩ := bind_eq_ok.mp read
    cases failed
  | text content =>
    obtain ⟨_, _, failed⟩ := bind_eq_ok.mp read
    cases failed
  | null
  | boolean _
  | array _ _
  | object _ _
  | broken _ _ => cases read

/-- An integer that is read lies between its limits, zero being one of those it may be. -/
theorem readInteger_bounds {expected : String} {low high integer : Int} {outline : Outline}
    (below : low ≤ 0) (above : 0 ≤ high)
    (accepted : readInteger expected low high outline = .ok integer) :
    low ≤ integer ∧ integer ≤ high := by
  cases outline with
  | number numeral =>
    obtain ⟨found, _, accepted⟩ := bind_eq_ok.mp accepted
    cases found with
    | natural size =>
      dsimp only at accepted
      split at accepted
      · cases accepted
        omega
      · cases accepted
    | negative size =>
      dsimp only at accepted
      split at accepted
      · cases accepted
        omega
      · cases accepted
    | real amount => cases accepted
  | null
  | boolean _
  | text _
  | array _ _
  | object _ _
  | broken _ _ =>
    unfold readInteger at accepted
    exact (reject_ne_ok accepted).elim

theorem mem_readItems {read : Outline → Reading α} {items : List Outline} {values : List α}
    (accepted : readItems read items = .ok values) :
    ∀ value ∈ values, ∃ item, read item = .ok value := by
  induction items generalizing values with
  | nil =>
    cases accepted
    simp
  | cons item rest ih =>
    obtain ⟨first, found, accepted⟩ := bind_eq_ok.mp accepted
    obtain ⟨others, later, accepted⟩ := bind_eq_ok.mp accepted
    cases accepted
    exact List.forall_mem_cons.mpr ⟨⟨item, found⟩, ih later⟩

theorem mem_readSequence {read : Nat → Outline → Reading α} {depth : Nat} {outline : Outline}
    {values : List α} (accepted : readSequence read (depth + 1) outline = .ok values) :
    ∀ value ∈ values, ∃ item, read depth item = .ok value := by
  cases outline with
  | array items ending =>
    obtain ⟨others, found, accepted⟩ := bind_eq_ok.mp accepted
    obtain ⟨_, _, accepted⟩ := bind_eq_ok.mp accepted
    cases accepted
    exact mem_readItems found
  | null
  | boolean _
  | number _
  | text _
  | object _ _
  | broken _ _ =>
    unfold readSequence at accepted
    exact (reject_ne_ok accepted).elim

theorem mem_readMembers {read : Outline → Reading α} {members : List (Option String × Outline)}
    {bindings : List (String × α)} (accepted : readMembers read members = .ok bindings) :
    ∀ binding ∈ bindings, ∃ member ∈ members, member.1 = some binding.1 ∧
      read member.2 = .ok binding.2 := by
  induction members generalizing bindings with
  | nil =>
    cases accepted
    simp
  | cons member rest ih =>
    obtain ⟨name, named, accepted⟩ := bind_eq_ok.mp accepted
    obtain ⟨first, found, accepted⟩ := bind_eq_ok.mp accepted
    obtain ⟨others, later, accepted⟩ := bind_eq_ok.mp accepted
    cases accepted
    refine List.forall_mem_cons.mpr ⟨?_, fun binding inside => ?_⟩
    · exact ⟨member, List.mem_cons_self, textOf_eq_ok.mp named, found⟩
    · obtain ⟨other, there, alike⟩ := ih later binding inside
      exact ⟨other, List.mem_cons_of_mem member there, alike⟩

theorem readMembers_mem {read : Outline → Reading α} {members : List (Option String × Outline)}
    {bindings : List (String × α)} (accepted : readMembers read members = .ok bindings) :
    ∀ member ∈ members, ∃ binding ∈ bindings, member.1 = some binding.1 ∧
      read member.2 = .ok binding.2 := by
  induction members generalizing bindings with
  | nil => simp
  | cons member rest ih =>
    obtain ⟨name, named, accepted⟩ := bind_eq_ok.mp accepted
    obtain ⟨first, found, accepted⟩ := bind_eq_ok.mp accepted
    obtain ⟨others, later, accepted⟩ := bind_eq_ok.mp accepted
    cases accepted
    refine List.forall_mem_cons.mpr ⟨?_, fun other inside => ?_⟩
    · exact ⟨(name, first), List.mem_cons_self, textOf_eq_ok.mp named, found⟩
    · obtain ⟨binding, there, alike⟩ := ih later other inside
      exact ⟨binding, List.mem_cons_of_mem _ there, alike⟩

theorem mem_readMap {read : Nat → Outline → Reading α} {depth : Nat} {outline : Outline}
    {bindings : List (String × α)} (accepted : readMap read (depth + 1) outline = .ok bindings) :
    ∀ binding ∈ bindings, ∃ outline, read depth outline = .ok binding.2 := by
  cases outline with
  | object members ending =>
    obtain ⟨others, found, accepted⟩ := bind_eq_ok.mp accepted
    obtain ⟨_, _, accepted⟩ := bind_eq_ok.mp accepted
    cases accepted
    intro binding inside
    obtain ⟨member, _, _, read⟩ := mem_readMembers found binding inside
    exact ⟨member.2, read⟩
  | null
  | boolean _
  | number _
  | text _
  | array _ _
  | broken _ _ =>
    unfold readMap at accepted
    exact (reject_ne_ok accepted).elim

theorem readItems_map (read : Outline → Reading α) (write : α → Json) (alike : α → α → Prop)
    {values : List α}
    (each : ∀ value ∈ values, ∃ again, read (ofJson (write value)) = .ok again ∧
      alike again value) :
    ∃ again, readItems read (ofItems (values.map write)) = .ok again ∧
      List.Forall₂ alike again values := by
  induction values with
  | nil => exact ⟨[], rfl, .nil⟩
  | cons value rest ih =>
    obtain ⟨⟨first, found, like⟩, others⟩ := List.forall_mem_cons.mp each
    obtain ⟨again, later, likes⟩ := ih others
    refine ⟨first :: again, ?_, .cons like likes⟩
    rw [List.map_cons, ofItems, readItems, found, ok_bind, later, ok_bind]
    rfl

theorem readSequence_map (read : Nat → Outline → Reading α) (write : α → Json)
    (alike : α → α → Prop) {depth : Nat} {values : List α}
    (each : ∀ value ∈ values, ∃ again, read depth (ofJson (write value)) = .ok again ∧
      alike again value) :
    ∃ again, readSequence read (depth + 1) (ofJson (.array (values.map write))) = .ok again ∧
      List.Forall₂ alike again values := by
  obtain ⟨again, found, likes⟩ := readItems_map (read depth) write alike each
  refine ⟨again, ?_, likes⟩
  rw [ofJson, readSequence, descend, found]
  rfl

theorem readMap_map (read : Nat → Outline → Reading α) (write : α → Json)
    (alike : α → α → Prop) {depth : Nat} {bindings : List (String × α)}
    (each : ∀ binding ∈ bindings, ∃ again, read depth (ofJson (write binding.2)) = .ok again ∧
      alike again binding.2) :
    ∃ again, readMap read (depth + 1)
        (ofJson (.object (bindings.map fun binding => (binding.1, write binding.2)))) =
          .ok again ∧
      List.Forall₂ (fun again binding => again.1 = binding.1 ∧ alike again.2 binding.2)
        again bindings := by
  have members : ∃ again, readMembers (read depth)
      (ofMembers (bindings.map fun binding => (binding.1, write binding.2))) = .ok again ∧
      List.Forall₂ (fun again binding => again.1 = binding.1 ∧ alike again.2 binding.2)
        again bindings := by
    induction bindings with
    | nil => exact ⟨[], rfl, .nil⟩
    | cons binding rest ih =>
      obtain ⟨⟨first, found, like⟩, others⟩ := List.forall_mem_cons.mp each
      obtain ⟨again, later, likes⟩ := ih others
      refine ⟨(binding.1, first) :: again, ?_, .cons ⟨rfl, like⟩ likes⟩
      rw [List.map_cons, ofMembers, readMembers, textOf, ok_bind, found, ok_bind, later, ok_bind]
      rfl
  obtain ⟨again, found, likes⟩ := members
  refine ⟨again, ?_, likes⟩
  rw [ofJson, readMap, descend, found]
  rfl

end Outline

namespace Record

variable {record : Record α} {depth : Nat}

theorem readMembers_keeps (kept : α → Prop)
    (assign : ∀ field outline partly next, kept partly →
      record.assign field depth outline partly = .ok next → kept next)
    {members : List (Option String × Outline)} {seen : List String} {partly : α}
    {result : List String × α} (begins : kept partly)
    (read : record.readMembers depth members seen partly = .ok result) : kept result.2 := by
  induction members generalizing seen partly with
  | nil =>
    cases read
    exact begins
  | cons member rest ih =>
    obtain ⟨name, _, read⟩ := bind_eq_ok.mp read
    split at read
    · split at read
      · cases read
      · obtain ⟨next, assigned, read⟩ := bind_eq_ok.mp read
        exact ih (assign _ _ _ _ begins assigned) read
    · obtain ⟨_, _, read⟩ := bind_eq_ok.mp read
      exact ih begins read

theorem readItems_keeps (kept : α → Prop)
    (assign : ∀ field outline partly next, kept partly →
      record.assign field depth outline partly = .ok next → kept next)
    {fields : List Field} {items : List Outline} {partly : α}
    {result : List Field × List Outline × α} (begins : kept partly)
    (read : record.readItems depth fields items partly = .ok result) : kept result.2.2 := by
  induction fields generalizing items partly with
  | nil =>
    cases read
    exact begins
  | cons field fields ih =>
    cases items with
    | nil =>
      cases read
      exact begins
    | cons item items =>
      obtain ⟨next, assigned, read⟩ := bind_eq_ok.mp read
      exact ih (assign _ _ _ _ begins assigned) read

/-- What is assigned to a field stays what the field was read as, for a field is read once. -/
theorem readMembers_assigns {field : String} {outline : Outline} (kept : α → Prop)
    (known : record.fields.any (·.name == field) = true)
    (assign : ∀ partly next, record.assign field depth outline partly = .ok next → kept next)
    (spare : ∀ other value partly next, other ≠ field → kept partly →
      record.assign other depth value partly = .ok next → kept next)
    {members : List (Option String × Outline)} {seen : List String} {partly : α}
    {result : List String × α}
    (read : record.readMembers depth members seen partly = .ok result)
    (there : (some field, outline) ∈ members ∨ (field ∈ seen ∧ kept partly)) : kept result.2 := by
  induction members generalizing seen partly with
  | nil =>
    cases read
    exact (there.resolve_left (List.not_mem_nil)).2
  | cons member rest ih =>
    obtain ⟨name, named, read⟩ := bind_eq_ok.mp read
    replace named := Outline.textOf_eq_ok.mp named
    split at read
    · split at read
      · cases read
      · rename_i fresh
        obtain ⟨next, assigned, read⟩ := bind_eq_ok.mp read
        refine ih read ?_
        rcases there with inside | ⟨known, keeps⟩
        · rcases List.mem_cons.mp inside with rfl | later
          · obtain rfl := Option.some.inj named
            exact .inr ⟨List.mem_cons_self, assign _ _ assigned⟩
          · exact .inl later
        -- Once the field has been read, its name is refused.
        · have apart : name ≠ field := fun same =>
            fresh (List.contains_iff_mem.mpr (same ▸ known))
          exact .inr ⟨List.mem_cons_of_mem _ known, spare _ _ _ _ apart keeps assigned⟩
    · rename_i unknown
      obtain ⟨_, _, read⟩ := bind_eq_ok.mp read
      refine ih read (there.imp_left fun inside => ?_)
      rcases List.mem_cons.mp inside with rfl | later
      · obtain rfl := Option.some.inj named
        exact absurd known unknown
      · exact later

theorem readItems_assigns {field : Field} {outline : Outline} (kept : α → Prop)
    (assign : ∀ partly next, record.assign field.name depth outline partly = .ok next → kept next)
    (spare : ∀ other value partly next, other ≠ field.name → kept partly →
      record.assign other depth value partly = .ok next → kept next)
    {fields : List Field} (distinct : (fields.map (·.name)).Nodup) {items : List Outline}
    {partly : α} {result : List Field × List Outline × α}
    (read : record.readItems depth fields items partly = .ok result)
    (there : (∃ place : Nat, fields[place]? = some field ∧ items[place]? = some outline) ∨
      (field.name ∉ fields.map (·.name) ∧ kept partly)) : kept result.2.2 := by
  induction fields generalizing items partly with
  | nil =>
    cases read
    rcases there with ⟨_, nowhere, _⟩ | ⟨_, keeps⟩
    · cases nowhere
    · exact keeps
  | cons first fields ih =>
    obtain ⟨fresh, distinct⟩ := List.nodup_cons.mp distinct
    cases items with
    | nil =>
      cases read
      rcases there with ⟨_, _, nowhere⟩ | ⟨_, keeps⟩
      · cases nowhere
      · exact keeps
    | cons item items =>
      obtain ⟨next, assigned, read⟩ := bind_eq_ok.mp read
      refine ih distinct read ?_
      rcases there with ⟨place, stands, has⟩ | ⟨absent, keeps⟩
      · cases place with
        | zero =>
          obtain rfl := Option.some.inj stands
          obtain rfl := Option.some.inj has
          exact .inr ⟨fresh, assign _ _ assigned⟩
        | succ place => exact .inl ⟨place, stands, has⟩
      · obtain ⟨apart, absent⟩ := not_or.mp (mt List.mem_cons.mpr absent)
        exact .inr ⟨absent, spare _ _ _ _ (Ne.symm apart) keeps assigned⟩

/-- What is read of an object is what its members make of the blank record. -/
theorem readMembers_of_read {members : List (Option String × Outline)} {ending : Ending} {value : α}
    (read : record.read (depth + 1) (.object members ending) = .ok value) :
    ∃ seen, record.readMembers depth members [] record.blank = .ok (seen, value) := by
  obtain ⟨⟨seen, found⟩, inside, read⟩ := bind_eq_ok.mp read
  obtain ⟨_, _, read⟩ := bind_eq_ok.mp read
  split at read
  · cases read
  · cases read
    exact ⟨seen, inside⟩

/-- What is read of an array is what its items make of the blank record. -/
theorem readItems_of_read {items : List Outline} {ending : Ending} {value : α}
    (read : record.read (depth + 1) (.array items ending) = .ok value) :
    ∃ missing surplus, record.readItems depth record.fields items record.blank =
      .ok (missing, surplus, value) := by
  obtain ⟨⟨missing, surplus, found⟩, inside, read⟩ := bind_eq_ok.mp read
  dsimp only at read
  split at read
  · obtain ⟨_, _, read⟩ := bind_eq_ok.mp read
    cases read
    exact ⟨missing, surplus, inside⟩
  · obtain ⟨_, _, read⟩ := bind_eq_ok.mp read
    split at read
    · cases read
    · cases read
      exact ⟨missing, surplus, inside⟩

/-- An outline has a part for a field: a member of that name, or an item at the place of the
field. -/
inductive Gives (record : Record α) (field : Field) (part : Outline) : Outline → Prop
  | member {members : List (Option String × Outline)} {ending : Ending}
      (known : field ∈ record.fields) (inside : (some field.name, part) ∈ members) :
      Gives record field part (.object members ending)
  | item {items : List Outline} {ending : Ending} {place : Nat}
      (known : record.fields[place]? = some field) (inside : items[place]? = some part) :
      Gives record field part (.array items ending)

/-- What is read of a record is what is read of the part for a field, as far as only that field
matters. -/
theorem read_assigns {field : Field} {part outline : Outline} (kept : α → Prop)
    (distinct : (record.fields.map (·.name)).Nodup)
    (assign : ∀ partly next, record.assign field.name depth part partly = .ok next → kept next)
    (spare : ∀ other value partly next, other ≠ field.name → kept partly →
      record.assign other depth value partly = .ok next → kept next)
    (gives : record.Gives field part outline) {value : α}
    (read : record.read (depth + 1) outline = .ok value) : kept value := by
  cases gives with
  | member known inside =>
    obtain ⟨seen, assigned⟩ := readMembers_of_read read
    have isKnown : record.fields.any (·.name == field.name) = true :=
      List.any_eq_true.mpr ⟨field, known, beq_self_eq_true field.name⟩
    exact readMembers_assigns kept isKnown assign spare assigned (.inl inside)
  | item known inside =>
    obtain ⟨missing, surplus, assigned⟩ := readItems_of_read read
    exact readItems_assigns kept assign spare distinct assigned (.inl ⟨_, known, inside⟩)

/-- What is read has every property that the blank record has and each assignment keeps. -/
theorem read_keeps (kept : α → Prop) (blank : kept record.blank)
    (assign : ∀ field outline partly next, kept partly →
      record.assign field depth outline partly = .ok next → kept next)
    {outline : Outline} {value : α} (read : record.read (depth + 1) outline = .ok value) :
    kept value := by
  cases outline with
  | object members ending =>
    obtain ⟨seen, inside⟩ := readMembers_of_read read
    exact readMembers_keeps kept assign blank inside
  | array items ending =>
    obtain ⟨missing, surplus, inside⟩ := readItems_of_read read
    exact readItems_keeps kept assign blank inside
  | null
  | boolean _
  | number _
  | text _
  | broken _ _ =>
    unfold Record.read at read
    exact (Outline.reject_ne_ok read).elim

/-- What is assigned to a field makes no difference to members that do not name it. -/
theorem readMembers_changed {field : String} (change : α → α)
    (spare : ∀ other value partly next, other ≠ field →
      record.assign other depth value partly = .ok next →
      record.assign other depth value (change partly) = .ok (change next))
    {members : List (Option String × Outline)} (unnamed : ∀ member ∈ members, member.1 ≠ some field)
    {seen others : List String}
    (alike : ∀ name, name ≠ field → others.contains name = seen.contains name) {partly value : α}
    {last : List String} (read : record.readMembers depth members seen partly = .ok (last, value)) :
    ∃ more, record.readMembers depth members others (change partly) = .ok (more, change value) := by
  induction members generalizing seen others partly with
  | nil =>
    cases read
    exact ⟨others, rfl⟩
  | cons member rest ih =>
    obtain ⟨first, unnamed⟩ := List.forall_mem_cons.mp unnamed
    obtain ⟨name, named, read⟩ := bind_eq_ok.mp read
    have apart : name ≠ field := fun same => first (same ▸ Outline.textOf_eq_ok.mp named)
    rw [readMembers, named, ok_bind, alike name apart]
    split at read
    · split at read
      · cases read
      · rename_i known fresh
        obtain ⟨next, assigned, read⟩ := bind_eq_ok.mp read
        rw [if_pos known, if_neg fresh, spare _ _ _ _ apart assigned, ok_bind]
        refine ih unnamed (fun other different => ?_) read
        rw [List.contains_cons, List.contains_cons, alike other different]
    · rename_i unknown
      obtain ⟨_, skipped, read⟩ := bind_eq_ok.mp read
      rw [if_neg unknown, skipped, ok_bind]
      exact ih unnamed alike read

/-- A field that no member names can have one, wherever it is put. -/
theorem readMembers_insert {field : String} {part : Outline} (change : α → α)
    (known : record.fields.any (·.name == field) = true)
    (assign : ∀ partly, record.assign field depth part partly = .ok (change partly))
    (spare : ∀ other value partly next, other ≠ field →
      record.assign other depth value partly = .ok next →
      record.assign other depth value (change partly) = .ok (change next))
    {front back : List (Option String × Outline)}
    (unnamed : ∀ member ∈ front ++ back, member.1 ≠ some field) {seen : List String}
    (fresh : seen.contains field = false) {partly value : α} {last : List String}
    (read : record.readMembers depth (front ++ back) seen partly = .ok (last, value)) :
    ∃ more, record.readMembers depth (front ++ (some field, part) :: back) seen partly =
      .ok (more, change value) := by
  induction front generalizing seen partly with
  | nil =>
    rw [List.nil_append, readMembers, Outline.textOf, ok_bind, if_pos known, fresh,
      if_neg Bool.false_ne_true, assign, ok_bind]
    refine readMembers_changed change spare unnamed (fun name apart => ?_) read
    rw [List.contains_cons, beq_false_of_ne apart, Bool.false_or]
  | cons member rest ih =>
    obtain ⟨first, unnamed⟩ := List.forall_mem_cons.mp unnamed
    obtain ⟨name, named, read⟩ := bind_eq_ok.mp read
    have apart : name ≠ field := fun same => first (same ▸ Outline.textOf_eq_ok.mp named)
    rw [List.cons_append, readMembers, named, ok_bind]
    split at read
    · split at read
      · cases read
      · rename_i isKnown isFresh
        obtain ⟨next, assigned, read⟩ := bind_eq_ok.mp read
        rw [if_pos isKnown, if_neg isFresh, assigned, ok_bind]
        refine ih unnamed ?_ read
        rw [List.contains_cons, beq_false_of_ne (Ne.symm apart), fresh]
        rfl
    · rename_i unknown
      obtain ⟨_, skipped, read⟩ := bind_eq_ok.mp read
      rw [if_neg unknown, skipped, ok_bind]
      exact ih unnamed fresh read

def assignAll (record : Record α) (depth : Nat) : List (String × Json) → α → Reading α
  | [], partly => .ok partly
  | (name, json) :: rest, partly => do
    let partly ← record.assign name depth (.ofJson json) partly
    record.assignAll depth rest partly

theorem readMembers_ofMembers {members : List (String × Json)} {seen : List String}
    {partly value : α}
    (known : ∀ member ∈ members, record.fields.any (·.name == member.1) = true)
    (distinct : (members.map Prod.fst).Nodup)
    (fresh : ∀ member ∈ members, seen.contains member.1 = false)
    (assigned : record.assignAll depth members partly = .ok value) :
    record.readMembers depth (Outline.ofMembers members) seen partly =
      .ok ((members.map Prod.fst).reverse ++ seen, value) := by
  induction members generalizing seen partly with
  | nil =>
    cases assigned
    rfl
  | cons member rest ih =>
    obtain ⟨name, json⟩ := member
    obtain ⟨next, found, assigned⟩ := bind_eq_ok.mp assigned
    obtain ⟨isKnown, known⟩ := List.forall_mem_cons.mp known
    obtain ⟨isFresh, fresh⟩ := List.forall_mem_cons.mp fresh
    obtain ⟨apart, distinct⟩ := List.nodup_cons.mp distinct
    have others : ∀ member ∈ rest, (name :: seen).contains member.1 = false := by
      intro member inside
      have different : member.1 ≠ name :=
        fun equal => apart (List.mem_map.mpr ⟨member, inside, equal⟩)
      rw [List.contains_cons, fresh member inside, beq_false_of_ne different]
      rfl
    rw [Outline.ofMembers, readMembers, Outline.textOf, ok_bind, if_pos isKnown, isFresh,
      if_neg Bool.false_ne_true, found, ok_bind, ih known distinct others assigned,
      List.map_cons, List.reverse_cons, List.append_assoc]
    rfl

/-- An object whose members are distinct fields, all required ones among them, is read by assigning
its members. -/
theorem read_object {members : List (String × Json)} {value : α}
    (known : ∀ member ∈ members, record.fields.any (·.name == member.1) = true)
    (distinct : (members.map Prod.fst).Nodup)
    (complete : ∀ field ∈ record.fields, field.required = true →
      field.name ∈ members.map Prod.fst)
    (assigned : record.assignAll depth members record.blank = .ok value) :
    record.read (depth + 1) (.ofJson (.object members)) = .ok value := by
  have missing : record.fields.find? (fun field =>
      field.required && !((members.map Prod.fst).reverse ++ []).contains field.name) = none := by
    rw [List.find?_eq_none]
    intro field member
    cases required : field.required with
    | false => simp
    | true =>
      have present := complete field member required
      simp only [List.append_nil, List.contains_reverse, Bool.true_and, Bool.not_eq_true',
        Bool.not_eq_false]
      exact List.contains_iff_mem.mpr present
  have fresh : ∀ member ∈ members, ([] : List String).contains member.1 = false := by simp
  have found := readMembers_ofMembers known distinct fresh assigned
  rw [Outline.ofJson, read, descend, found, ok_bind]
  dsimp only
  rw [Ending.check, ok_bind, missing]
  rfl

end Record

end Chaining.Json
