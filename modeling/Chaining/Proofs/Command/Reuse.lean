import Chaining.Proofs.Command.Outcome
import Chaining.Proofs.Forward.Halting
import Chaining.Proofs.KnowledgeBase.Facts
import Chaining.Proofs.KnowledgeBase.RoundTrip
import Chaining.Proofs.Memory.Finiteness

set_option autoImplicit false

namespace Chaining

open Json (Gap Member Outline Spells)

/-! ### Finite numbers -/

namespace KnowledgeBase.Writable

variable {base : KnowledgeBase} {depth : Nat}

theorem facts_isFinite (writable : base.Writable depth) : base.facts.IsFinite :=
  fun number inside => writable.finite number (List.mem_append_left _ inside)

theorem setsFinite (writable : base.Writable depth) : ∀ rule ∈ base.rules, rule.SetsFinite :=
  fun rule listed action acts => ((writable.rules rule listed).actions action acts).finite

end KnowledgeBase.Writable

theorem Memory.IsFinite.replay {start : Memory} (finite : start.IsFinite) {rules : List Rule}
    (sets : ∀ rule ∈ rules, rule.SetsFinite) (firings : List Forward.Firing) :
    (Forward.replay rules start firings).IsFinite := by
  induction firings generalizing start with
  | nil => exact finite
  | cons firing rest ih =>
    rw [Forward.replay_cons]
    refine ih ?_
    cases found : rules[firing.index]? with
    | none => exact finite
    | some rule => exact finite.apply (sets rule (List.mem_of_getElem? found))

namespace Backward

/-- The memory after some of the firings of a proof. -/
def memoryAfter (fired : List (Nat × Rule)) (start : Memory) (count : Nat) : Memory :=
  (fired.take count).foldl (fun memory entry => entry.2.apply memory) start

theorem memoryAfter_isFinite {rules : List Rule} {start : Memory} (finite : start.IsFinite)
    (sets : ∀ rule ∈ rules, rule.SetsFinite) {fired : List (Nat × Rule)}
    (listed : ∀ entry ∈ fired, rules[entry.1]? = some entry.2) (count : Nat) :
    (memoryAfter fired start count).IsFinite := by
  have fires : ∀ rule ∈ (fired.take count).map (·.2), rule.SetsFinite := by
    refine List.forall_mem_map.mpr fun entry inside => sets entry.2 ?_
    exact List.mem_of_getElem? (listed entry (List.mem_of_mem_take inside))
  have after := finite.foldl_apply fires
  rwa [List.foldl_map] at after

end Backward

namespace Command

theorem assignAll_isFinite {arguments : List String} {memory start : Memory}
    (finite : memory.IsFinite) (assigned : assignAll arguments memory = .ok start) :
    start.IsFinite := by
  induction arguments generalizing memory with
  | nil =>
    cases assigned
    exact finite
  | cons argument rest ih =>
    unfold assignAll at assigned
    split at assigned
    · cases assigned
    · rename_i name value read
      exact ih (finite.set name (Assignment.read_finite read)) assigned

theorem writable_of_loadBase {surroundings : Surroundings} {path : String} {base : KnowledgeBase}
    (loaded : loadBase surroundings path = .ok base) : base.Writable 122 := by
  unfold loadBase at loaded
  split at loaded
  · cases loaded
  · split at loaded
    · cases loaded
    · rename_i accepted
      cases loaded
      exact KnowledgeBase.writable_of_ofText accepted

end Command

/-! ### Facts of another knowledge base -/

/-- JSON is taken for a memory where a knowledge base has its facts: however it is written, and
wherever it is put among the members of a knowledge base that has no facts, it loads as them. -/
def KnowledgeBase.LoadsFacts (json : Json) (memory : Memory) : Prop :=
  ∀ (front back : List Member) (given : Member) (last before after : Gap) (base : KnowledgeBase),
    (∀ member ∈ front ++ given :: back, Spells member.value.text member.value.outline) →
    (∀ member ∈ front ++ back, member.name.content ≠ some "facts") →
    given.name.content = some "facts" → given.value.outline = .ofJson json →
    ofText (objectText (front ++ back) last before after) = .ok base →
    ofText (objectText (front ++ given :: back) last before after) =
      .ok { base with facts := memory }

theorem KnowledgeBase.loadsFacts_toJson {memory : Memory}
    (nested : ∀ binding ∈ memory.bindings, binding.2.nesting ≤ 125)
    (preserved : ∀ number ∈ memory.numbers, number.IsPreserved) :
    LoadsFacts memory.toJson memory := by
  intro front back given last before after base each unnamed named outlined accepted
  refine ofText_insert each unnamed named ?_ accepted
  rw [outlined]
  exact Memory.read_back nested preserved

namespace Command

/-- Nothing is lost of what a run leaves. The memory is finite after any number of firings, and
where its lists are nested no deeper than facts may be and its numbers are read back as they are
written, the JSON that is shown for it loads as it. -/
structure Keeps (memoryAfter : Nat → Memory) (firings : Nat) (final : Memory) (shown : Json) :
    Prop where
  last : memoryAfter firings = final
  finite : ∀ count, (memoryAfter count).IsFinite
  reusable : (∀ binding ∈ final.bindings, binding.2.nesting ≤ 125) →
    (∀ number ∈ final.numbers, number.isFinite = true → number.readsBack = true) →
    ∃ members json, shown = .object members ∧ members.lookup "memory" = some json ∧
      Spells json.compactText (.ofJson json) ∧
      (∀ depth, Spells (json.prettyText depth) (.ofJson json)) ∧
      KnowledgeBase.LoadsFacts json final

theorem Keeps.of_finite {memoryAfter : Nat → Memory} {firings : Nat} {memory : Memory}
    (last : memoryAfter firings = memory) (finite : ∀ count, (memoryAfter count).IsFinite)
    {members : List (String × Json)} (shown : members.lookup "memory" = some memory.toJson) :
    Keeps memoryAfter firings memory (.object members) where
  last := last
  finite := finite
  reusable := fun nested faithful => by
    have preserved : ∀ number ∈ memory.numbers, number.IsPreserved := fun number inside =>
      have finite := finite firings number (last ▸ inside)
      ⟨finite, faithful number inside finite⟩
    have legible := Memory.legible_toJson preserved
    exact ⟨members, memory.toJson, rfl, shown, Json.compact_style.spells _ 0 legible,
      fun depth => Json.pretty_style.spells _ depth legible,
      KnowledgeBase.loadsFacts_toJson nested preserved⟩

/-- A run loses no fact. From a knowledge base that loads and assignments that can be made, every
command that runs has an answer; its memory has finite numbers alone, at the start and after every
firing, and can be given to a knowledge base as facts. -/
theorem answer_keeps {surroundings : Surroundings} {path : String} {arguments : List String}
    {base : KnowledgeBase} {start : Memory} (loaded : loadBase surroundings path = .ok base)
    (assigned : assignAll arguments base.facts = .ok start) :
    (∀ goals settings traced settingsPath layer,
      loadSettings surroundings settingsPath = .ok layer →
      ∃ answer, Command.answer surroundings
          (.forward path goals settings arguments traced settingsPath) = .ok (.forward answer) ∧
        Keeps (answer.run.memoryAfter base.rules start) answer.run.fired.length answer.memory
          answer.toJson) ∧
      ∀ goal traced, ∃ answer fired,
        Command.answer surroundings (.backward path goal arguments traced) =
          .ok (.backward answer) ∧
        Backward.Fires base.rules Sink.ignore start goal () fired ∧
        Keeps (Backward.memoryAfter fired start) fired.length answer.memory answer.toJson := by
  have writable := writable_of_loadBase loaded
  have finite : start.IsFinite := assignAll_isFinite writable.facts_isFinite assigned
  constructor
  · intro goals settings traced settingsPath layer layered
    refine ⟨_, answer_forward_eq_ok.mpr
      ⟨base, loaded, layer, layered, start, assigned, rfl⟩, ?_⟩
    refine .of_finite ?_ (fun count => finite.replay writable.setsFinite _) rfl
    obtain ⟨run, memory⟩ := runForward_unheard surroundings base start
      (if goals.isEmpty then base.goals else goals)
      ((settings.or layer).resolve (askedStrategy base)) traced
    rw [run, memory, unheardRun, Forward.Engine.run_memory]
    rfl
  · intro goal traced
    obtain ⟨fired, fires, -⟩ := Backward.fires_unique base.rules Sink.ignore start goal ()
    refine ⟨_, fired, answer_backward_eq_ok.mpr ⟨base, loaded, start, assigned, rfl⟩, fires, ?_⟩
    have listed : ∀ entry ∈ fired, base.rules[entry.1]? = some entry.2 := by
      obtain ⟨last, course, -⟩ := fires
      exact course.mem_rules
    refine .of_finite ?_ (Backward.memoryAfter_isFinite finite writable.setsFinite listed) rfl
    rw [(runBackward_unheard base start goal traced).2, unheardProof, fires.memory_eq,
      Backward.memoryAfter, List.take_length]

/-- A kiln that burns whatever wood it is given. Among its facts is a negative zero. -/
def kilnFile : Surroundings where
  readFile _ := .ok ("\x7b\"facts\":\x7b\"heat\":[0.5,[-0.0]]\x7d," ++
    "\"rules\":[\x7b\"name\":\"burn\"," ++
    "\"when\":[\x7b\"fact\":\"wood\",\"op\":\"exists\"\x7d]," ++
    "\"then\":[\x7b\"fact\":\"glow\",\"value\":1.5\x7d]\x7d]\x7d")
  entropy := 3

def kilnCommand : Command := .forward "kiln" [] .blank ["wood=[2.5]"] false none

/-- What is checked of the answer: how many rules have fired, and the numbers and the nesting of the
memory. -/
def Answer.measure : Answer → Nat × List Number × List Nat
  | .forward answer => (answer.run.fired.length, answer.memory.numbers,
      answer.memory.bindings.map (·.2.nesting))
  | _ => (0, [], [])

theorem answer_keeps_kiln : ∃ base start,
    loadBase kilnFile "kiln" = .ok base ∧ assignAll ["wood=[2.5]"] base.facts = .ok start ∧
      ∃ answer members json, Command.answer kilnFile kilnCommand = .ok (.forward answer) ∧
        answer.run.fired.length = 1 ∧ answer.toJson = .object members ∧
        members.lookup "memory" = some json ∧ KnowledgeBase.LoadsFacts json answer.memory := by
  have measured : (Command.answer kilnFile kilnCommand).toOption.map Answer.measure =
      some (1, [⟨0x3FF8000000000000⟩, ⟨0x3FE0000000000000⟩, ⟨0x8000000000000000⟩,
        ⟨0x4004000000000000⟩], [0, 2, 1]) := by decide +kernel
  obtain ⟨answer, answered, measured⟩ := Option.map_eq_some_iff.mp measured
  replace answered := toOption_eq_some.mp answered
  obtain ⟨base, loaded, layer, layered, start, assigned, rfl⟩ := answer_forward_eq_ok.mp answered
  refine ⟨base, start, loaded, assigned, ?_⟩
  obtain ⟨answer, again, keeps⟩ :=
    (answer_keeps loaded assigned).1 [] .blank false none layer layered
  rw [Except.ok.inj (answered.symm.trans again)] at measured
  obtain ⟨fired, measured⟩ := Prod.mk.inj measured
  obtain ⟨numbers, nesting⟩ := Prod.mk.inj measured
  have nested : ∀ depth ∈ answer.memory.bindings.map (·.2.nesting), depth ≤ 125 := by
    rw [nesting]
    decide
  have faithful : ∀ number ∈ answer.memory.numbers,
      number.isFinite = true → number.readsBack = true := by
    rw [numbers]
    decide +kernel
  obtain ⟨members, json, shown, found, -, -, loads⟩ :=
    keeps.reusable (List.forall_mem_map.mp nested) faithful
  exact ⟨answer, members, json, again, fired, shown, found, loads⟩

end Command

end Chaining
