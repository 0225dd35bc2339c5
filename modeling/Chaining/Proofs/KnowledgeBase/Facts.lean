import Chaining.KnowledgeBase
import Chaining.Proofs.Json.Outline
import Chaining.Proofs.Memory.Lookup
import Chaining.Proofs.Value.Written

set_option autoImplicit false

namespace Chaining

open Json (Gap Item Member Outline Spells)

/-- Of members that are read in order, one that shares its name with no other has its value. -/
theorem Memory.get?_of_read {depth : Nat} {members : List (Option String × Outline)}
    {ending : Json.Ending} {memory : Memory}
    (accepted : Memory.read (depth + 1) (.object members ending) = .ok memory) {name : String}
    {outline : Outline} (inside : (some name, outline) ∈ members)
    (only : ∀ member ∈ members, member.1 = some name → member.2 = outline) :
    ∃ value, memory.get? name = some value ∧ Value.read depth outline = .ok value := by
  obtain ⟨bindings, mapped, accepted⟩ := bind_eq_ok.mp accepted
  obtain rfl := pure_eq_ok.mp accepted
  obtain ⟨bindings, found, accepted⟩ := bind_eq_ok.mp mapped
  obtain ⟨_, _, accepted⟩ := bind_eq_ok.mp accepted
  obtain rfl := pure_eq_ok.mp accepted
  obtain ⟨⟨_, value⟩, bound, named, read⟩ := Outline.readMembers_mem found _ inside
  obtain rfl := Option.some.inj named
  refine ⟨value, get?_extend_of_unique (fun binding listed same => ?_) (.inl bound), read⟩
  obtain ⟨member, there, named, again⟩ := Outline.mem_readMembers found binding listed
  rw [only member there (same ▸ named), read] at again
  exact (Except.ok.inj again).symm

namespace KnowledgeBase

structure IsFacts (item : Item) (facts : List Member) : Prop where
  text : ∃ last, item.text = Json.objectText facts last
  each : ∀ fact ∈ facts, Spells fact.value.text fact.value.outline

/-- A text of a knowledge base has some facts: it is an object with a member for them, or an array
with them for its third item. -/
inductive HasFacts (facts : List Member) : List Char → Prop
  | member {members : List Member} {member : Member} (last : Gap)
      (each : ∀ member ∈ members, Spells member.value.text member.value.outline)
      (inside : member ∈ members) (named : member.name.content = some "facts")
      (isFacts : IsFacts member.value facts) : HasFacts facts (Json.objectText members last)
  | item {items : List Item} {item : Item} (last : Gap)
      (each : ∀ item ∈ items, Spells item.text item.outline) (third : items[2]? = some item)
      (isFacts : IsFacts item facts) : HasFacts facts (Json.arrayText items last)

theorem IsFacts.outline {item : Item} {facts : List Member} (isFacts : IsFacts item facts)
    (spells : Spells item.text item.outline) :
    item.outline = .object (facts.map Member.outline) .closed := by
  obtain ⟨last, text⟩ := isFacts.text
  rw [text] at spells
  exact Outline.eq_of_spells spells (.object facts last isFacts.each)

theorem HasFacts.each {facts : List Member} {text : List Char} (has : HasFacts facts text) :
    ∀ fact ∈ facts, Spells fact.value.text fact.value.outline := by
  cases has with
  | member _ _ _ _ isFacts => exact isFacts.each
  | item _ _ _ isFacts => exact isFacts.each

theorem HasFacts.gives {facts : List Member} {text : List Char} (has : HasFacts facts text) :
    ∃ outline, Spells text outline ∧
      record.Gives ⟨"facts", false⟩ (.object (facts.map Member.outline) .closed) outline := by
  cases has with
  | @member members member last each inside named isFacts =>
    refine ⟨_, .object members last each, .member (by simp [record]) ?_⟩
    rw [← isFacts.outline (each member inside), ← named]
    exact List.mem_map_of_mem inside
  | @item items item last each third isFacts =>
    have place : record.fields[2]? = some ⟨"facts", false⟩ := rfl
    refine ⟨_, .array items last each, .item place ?_⟩
    rw [← isFacts.outline (each item (List.mem_of_getElem? third)), List.getElem?_map, third]
    rfl

/-- The facts are read of the part for them. -/
theorem facts_of_read {depth : Nat} {part outline : Outline} {base : KnowledgeBase}
    (gives : record.Gives ⟨"facts", false⟩ part outline)
    (accepted : record.read (depth + 1) outline = .ok base) :
    Memory.read depth part = .ok base.facts := by
  refine Json.Record.read_assigns (fun base => Memory.read depth part = .ok base.facts)
    (by simp [record]) (fun partly next assigned => ?_)
    (fun other value partly next apart kept assigned => ?_) gives accepted
  · obtain ⟨facts, found, assigned⟩ := bind_eq_ok.mp assigned
    cases assigned
    exact found
  · unfold record at assigned
    dsimp only at assigned
    split at assigned
    case h_3 => exact absurd rfl apart
    all_goals
      obtain ⟨_, _, assigned⟩ := bind_eq_ok.mp assigned
      cases assigned
      exact kept

/-- A fact that is named once in the text of a knowledge base has the value that its own text is
read as, two brackets being around it. -/
theorem get?_of_ofText {facts : List Member} {text : List Char} (has : HasFacts facts text)
    {before after : Gap} {base : KnowledgeBase}
    (accepted : ofText (String.ofList (before.characters ++ (text ++ after.characters))) =
      .ok base) {fact : Member} (inside : fact ∈ facts) {name : String}
    (named : fact.name.content = some name)
    (only : ∀ other ∈ facts, other.name.content = some name → other = fact) :
    ∃ value, base.facts.get? name = some value ∧
      Value.read 125 fact.value.outline = .ok value := by
  obtain ⟨outline, spells, gives⟩ := has.gives
  obtain ⟨accepted, -⟩ := Json.readDocument_eq_ok.mp accepted
  rw [Outline.read_of_spells spells] at accepted
  refine Memory.get?_of_read (facts_of_read gives accepted) ?_ ?_
  · rw [← named]
    exact List.mem_map_of_mem inside
  · intro member listed same
    obtain ⟨other, there, rfl⟩ := List.mem_map.mp listed
    rw [only other there same]
    rfl

/-- Members that do not name the facts read alike, whatever the facts are. -/
theorem assign_facts_spare {field : String} {depth : Nat} {value : Outline}
    {partly next : KnowledgeBase} (apart : field ≠ "facts")
    (assigned : record.assign field depth value partly = .ok next) (facts : Memory) :
    record.assign field depth value { partly with facts := facts } =
      .ok { next with facts := facts } := by
  unfold record at assigned ⊢
  dsimp only at assigned ⊢
  split at assigned
  case h_3 => exact absurd rfl apart
  all_goals
    obtain ⟨_, read, assigned⟩ := bind_eq_ok.mp assigned
    cases assigned
    simp [read]

def objectText (members : List Member) (last before after : Gap) : String :=
  String.ofList (before.characters ++ (Json.objectText members last ++ after.characters))

/-- Where the text of a knowledge base has no facts, it can be given some: wherever they are put
among its members, they are its facts, and all else stays as it is. -/
theorem ofText_insert {front back : List Member} {given : Member} {last before after : Gap}
    {facts : Memory} {base : KnowledgeBase}
    (each : ∀ member ∈ front ++ given :: back, Spells member.value.text member.value.outline)
    (unnamed : ∀ member ∈ front ++ back, member.name.content ≠ some "facts")
    (named : given.name.content = some "facts")
    (read : Memory.read 126 given.value.outline = .ok facts)
    (accepted : ofText (objectText (front ++ back) last before after) = .ok base) :
    ofText (objectText (front ++ given :: back) last before after) =
      .ok { base with facts := facts } := by
  have others : ∀ member ∈ front ++ back, Spells member.value.text member.value.outline := by
    rw [List.forall_mem_append, List.forall_mem_cons] at each
    exact List.forall_mem_append.mpr ⟨each.1, each.2.2⟩
  have unread : ∀ member ∈ front.map Member.outline ++ back.map Member.outline,
      member.1 ≠ some "facts" := by
    rw [← List.map_append, List.forall_mem_map]
    exact unnamed
  obtain ⟨accepted, -⟩ := Json.readDocument_eq_ok.mp accepted
  rw [objectText, Outline.read_of_spells (.object _ last others), List.map_append] at accepted
  obtain ⟨seen, inside⟩ := Json.Record.readMembers_of_read accepted
  have assign (partly : KnowledgeBase) : record.assign "facts" 126 given.value.outline partly =
      .ok { partly with facts := facts } := bind_eq_ok.mpr ⟨facts, read, rfl⟩
  obtain ⟨more, inserted⟩ := Json.Record.readMembers_insert
    (fun base : KnowledgeBase => { base with facts := facts }) (by simp [record]) assign
    (fun _ _ _ _ apart assigned => assign_facts_spare apart assigned facts) unread rfl inside
  refine Json.readDocument_eq_ok.mpr ⟨?_, ?_⟩
  · rw [objectText, Outline.read_of_spells (.object _ last each), List.map_append, List.map_cons,
      Member.outline, named]
    exact bind_eq_ok.mpr ⟨_, inserted, rfl⟩
  · rw [objectText, Outline.read_of_spells (.object _ last each)]

end KnowledgeBase

end Chaining
