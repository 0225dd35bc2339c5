import Mathlib.Data.Nat.Basic
import Chaining.Proofs.Backward.Derivation

set_option autoImplicit false

namespace Chaining

def Memory.Affirmative (memory : Memory) : Prop :=
  ∀ name value, memory.get? name = some value → value.isAffirmative = true

/-- Rules that test only facts that rank below all they write, and write only values that establish
their facts. -/
structure Rule.Layered {κ : Type} [Preorder κ] (rank : String → κ) (rules : List Rule) : Prop where
  below : ∀ rule ∈ rules, ∀ fact ∈ rule.tested, ∀ name ∈ rule.written, rank fact < rank name
  affirming : ∀ rule ∈ rules, ∀ action ∈ rule.actions, action.value.isAffirmative = true

theorem Memory.affirmative_of_all {memory : Memory}
    (all : ∀ binding ∈ memory.bindings, binding.2.isAffirmative = true) : memory.Affirmative := by
  intro name value bound
  obtain ⟨before, after, split, _⟩ := List.lookup_eq_some_iff.mp bound
  exact all (name, value) (by simp [split])

theorem Memory.Affirmative.apply {memory : Memory} (affirmative : memory.Affirmative) {rule : Rule}
    (affirming : ∀ action ∈ rule.actions, action.value.isAffirmative = true) :
    (rule.apply memory).Affirmative := by
  intro name value bound
  by_cases written : name ∈ rule.written
  · obtain ⟨action, member, _, last⟩ := rule.get?_apply_of_mem memory written
    rw [last] at bound
    exact Option.some.inj bound ▸ affirming action member
  · rw [rule.get?_apply_of_not_mem memory written] at bound
    exact affirmative name value bound

namespace Backward

variable {σ κ : Type} [Preorder κ] {rank : String → κ} {rules : List Rule} {sink : Sink σ}
  {start : Memory} {pending : List String} {goal : String}

/-- A task asks for nothing but what ranks below the goals that are being asked for. -/
def Task.Below (rank : String → κ) (pending : List String) : Task → Prop
  | .goal name => ∀ other ∈ pending, rank name < rank other
  | .producers name _ => ∀ other ∈ pending, rank name ≤ rank other
  | .facts names => ∀ name ∈ names, ∀ other ∈ pending, rank name < rank other

/-- What a search keeps while some goals are pending. All other goals that it asked for have an
answer: they are bound, or they cannot be derived. -/
structure Search.Settled (rules : List Rule) (start : Memory) (pending : List String)
    (search : Search σ) : Prop where
  supported : Supported rules start search.memory
  affirmative : search.memory.Affirmative
  kept : ∀ name, start.has name = true → search.memory.has name = true
  answered : ∀ name ∈ search.visited, search.memory.has name = true ∨ name ∈ pending ∨
    ¬ Derivable rules start name

/-- A fact that is not bound at the start can be derived exactly by the rules that produce it. -/
theorem derivable_iff (unbound : start.get? goal = none) :
    Derivable rules start goal ↔ ∃ entry ∈ Rule.producers rules goal,
      Usable rules start entry.2 := by
  constructor
  · intro derivable
    cases derivable with
    | known bound =>
      rw [unbound] at bound
      cases bound
    | @produced _ rule member premises written =>
      obtain ⟨index, found⟩ := List.mem_iff_getElem?.mp member
      exact ⟨(index, rule), Rule.mem_producers.mpr ⟨found, written⟩, premises⟩
  · rintro ⟨entry, producer, usable⟩
    exact derivable_of_producer producer usable

/-- What a producer of a goal tests ranks below the goals that are being asked for. -/
theorem below_premises (layered : Rule.Layered rank rules) {entry : Nat × Rule}
    {entries : List (Nat × Rule)} (producer : entry ∈ Rule.producers rules goal)
    (below : (Task.producers goal entries).Below rank pending) :
    (Task.facts entry.2.tested).Below rank pending :=
  fun fact tested other waiting =>
    lt_of_lt_of_le (layered.below entry.2 (mem_of_producer producer) fact tested goal
      (Rule.mem_producers.mp producer).2) (below other waiting)

namespace Search.Settled

variable {search : Search σ}

theorem initial (rules : List Rule) (affirmative : start.Affirmative) (trace : σ) :
    Settled rules start [] ⟨start, [], trace⟩ where
  supported := supported_start rules start
  affirmative := affirmative
  kept := fun _ bound => bound
  answered := by simp

theorem report (settled : search.Settled rules start pending) (event : Event) :
    (search.report sink event).Settled rules start pending :=
  ⟨settled.supported, settled.affirmative, settled.kept, settled.answered⟩

theorem visit (settled : search.Settled rules start pending) (goal : String) :
    (search.visit goal).Settled rules start (goal :: pending) where
  supported := settled.supported
  affirmative := settled.affirmative
  kept := settled.kept
  answered := Answered.visit settled.answered goal

theorem leave (settled : search.Settled rules start (goal :: pending))
    (answer : search.memory.has goal = true ∨ ¬ Derivable rules start goal) :
    search.Settled rules start pending where
  supported := settled.supported
  affirmative := settled.affirmative
  kept := settled.kept
  answered := Answered.leave settled.answered answer

theorem fire (settled : search.Settled rules start pending) (layered : Rule.Layered rank rules)
    {rule : Rule} (member : rule ∈ rules) (usable : Usable rules start rule) :
    (search.fire sink rule).Settled rules start pending := by
  refine ⟨?_, ?_, ?_, Answered.fire settled.answered sink rule⟩ <;> rw [Search.fire_memory]
  · exact settled.supported.apply member usable
  · exact settled.affirmative.apply (layered.affirming rule member)
  · exact fun name bound => (rule.has_apply search.memory name).mpr
      (Or.inl (settled.kept name bound))

theorem unbound (settled : search.Settled rules start pending)
    (absent : search.memory.get? goal = none) : start.get? goal = none :=
  Memory.not_has_iff.mp fun bound => Memory.not_has_iff.mpr absent (settled.kept goal bound)

end Search.Settled

namespace Course

variable {task : Task} {search after : Search σ} {fired : List (Nat × Rule)} {proved : Bool}

/-- A search over layered rules keeps its goals settled and succeeds exactly in what can be done. -/
theorem settles (layered : Rule.Layered rank rules)
    (course : Course rules sink task search fired proved after) (below : task.Below rank pending)
    (settled : search.Settled rules start pending) :
    after.Settled rules start pending ∧ (proved = true ↔ task.Holds rules start) := by
  induction course generalizing pending with
  | @known goal search value bound =>
    have affirmative := settled.affirmative goal value bound
    exact ⟨settled.report _,
      iff_of_true affirmative (settled.supported goal value bound affirmative)⟩
  | @cycle goal search unbound visited =>
    -- Pending goals rank above this one, so it was given up before.
    refine ⟨settled.report _, iff_of_false Bool.false_ne_true ?_⟩
    rcases settled.answered goal visited with bound | waiting | beyond
    · exact absurd bound (Memory.not_has_iff.mpr unbound)
    · exact absurd (below goal waiting) (lt_irrefl _)
    · exact beyond
  | @orphan goal search unbound fresh none =>
    have beyond : ¬ Derivable rules start goal := by
      rw [derivable_iff (settled.unbound unbound), none]
      simp
    exact ⟨((settled.visit goal).leave (Or.inr beyond)).report _,
      iff_of_false Bool.false_ne_true beyond⟩
  | @searched goal search after fired proved unbound fresh some attempts ih =>
    -- The goal is pending while its producers are tried.
    obtain ⟨inside, agrees⟩ := ih
      (List.forall_mem_cons.mpr ⟨le_rfl, fun other waiting => le_of_lt (below other waiting)⟩)
      (settled.visit goal)
    have agrees : proved = true ↔ Derivable rules start goal :=
      agrees.trans (derivable_iff (settled.unbound unbound)).symm
    refine ⟨inside.leave ?_, agrees⟩
    by_cases succeeded : proved = true
    · exact Or.inl (attempts.bound succeeded)
    · exact Or.inr (mt agrees.mpr succeeded)
  | exhausted =>
    exact ⟨settled.report _, iff_of_false Bool.false_ne_true (by simp [Task.Holds])⟩
  | @established goal entry rest fired search after producer premises ih =>
    obtain ⟨inside, agrees⟩ := ih (below_premises layered producer below) (settled.report _)
    have usable := agrees.mp rfl
    exact ⟨inside.fire layered (mem_of_producer producer) usable,
      iff_of_true rfl ⟨entry, List.mem_cons_self, usable⟩⟩
  | @refused goal entry rest fired more search between after proved producer premises later
      first second =>
    obtain ⟨inside, refused⟩ := first (below_premises layered producer below) (settled.report _)
    obtain ⟨settled, agrees⟩ := second below inside
    have unusable : ¬ Usable rules start entry.2 := mt refused.mpr Bool.false_ne_true
    refine ⟨settled, agrees.trans ?_⟩
    simp [Task.Holds, unusable]
  | met => exact ⟨settled, iff_of_true rfl (by simp [Task.Holds])⟩
  | @failed name names fired search after first ih =>
    obtain ⟨kept, agrees⟩ := ih (below name List.mem_cons_self) settled
    refine ⟨kept, iff_of_false Bool.false_ne_true fun holds => ?_⟩
    exact Bool.false_ne_true (agrees.mpr (holds name List.mem_cons_self))
  | @further name names fired more search between after proved first later one two =>
    obtain ⟨inside, head⟩ := one (below name List.mem_cons_self) settled
    obtain ⟨kept, tail⟩ := two (fun fact member => below fact (List.mem_cons_of_mem name member))
      inside
    refine ⟨kept, tail.trans ⟨fun rest => ?_, fun all fact member => ?_⟩⟩
    · exact List.forall_mem_cons.mpr ⟨head.mp rfl, rest⟩
    · exact all fact (List.mem_cons_of_mem name member)

/-- A goal that was not bound is proved by its producers. -/
theorem attempts_of_proved (course : Course rules sink (.goal goal) search fired proved after)
    (unbound : search.memory.get? goal = none) (succeeded : proved = true) :
    Course rules sink (.producers goal (Rule.producers rules goal)) (search.visit goal) fired true
      after := by
  cases course with
  | known bound =>
    rw [unbound] at bound
    cases bound
  | cycle | orphan => cases succeeded
  | searched _ _ _ attempts => exact succeeded ▸ attempts

/-- The last rule that is fired for a goal is the first usable one of its producers. -/
theorem last_fired (layered : Rule.Layered rank rules) {entries : List (Nat × Rule)}
    (course : Course rules sink (.producers goal entries) search fired true after)
    (below : (Task.producers goal entries).Below rank pending)
    (settled : search.Settled rules start pending) :
    ∃ front unusable entry rest, fired = front ++ [entry] ∧ entries = unusable ++ entry :: rest ∧
      Usable rules start entry.2 ∧ ∀ other ∈ unusable, ¬ Usable rules start other.2 := by
  induction entries generalizing search fired with
  | nil => cases course
  | cons entry entries ih =>
    cases course with
    | @established _ _ _ front _ between producer premises =>
      have agrees := (premises.settles layered (below_premises layered producer below)
        (settled.report _)).2
      exact ⟨front, [], entry, entries, rfl, rfl, agrees.mp rfl, by simp⟩
    | @refused _ _ _ tried more _ between _ _ producer premises later =>
      obtain ⟨inside, agrees⟩ := premises.settles layered (below_premises layered producer below)
        (settled.report _)
      have refused : ¬ Usable rules start entry.2 := mt agrees.mpr Bool.false_ne_true
      obtain ⟨front, unusable, last, rest, fires, split, usable, others⟩ := ih later below inside
      refine ⟨tried ++ front, entry :: unusable, last, rest, ?_, ?_, usable, ?_⟩
      · rw [fires, List.append_assoc]
      · rw [split, List.cons_append]
      · exact List.forall_mem_cons.mpr ⟨refused, others⟩

end Course

/-- A rule is the earliest usable one that produces a goal. -/
structure IsEarliest (rules : List Rule) (memory : Memory) (goal : String) (index : Nat)
    (rule : Rule) : Prop where
  found : rules[index]? = some rule
  produces : rule.produces goal = true
  usable : Usable rules memory rule
  earliest : ∀ (earlier : Nat) (other : Rule), earlier < index → rules[earlier]? = some other →
    other.produces goal = true → ¬ Usable rules memory other

theorem isEarliest_of_split {unusable rest : List (Nat × Rule)} {entry : Nat × Rule}
    (split : Rule.producers rules goal = unusable ++ entry :: rest)
    (usable : Usable rules start entry.2)
    (others : ∀ other ∈ unusable, ¬ Usable rules start other.2) :
    IsEarliest rules start goal entry.1 entry.2 := by
  have producer : entry ∈ Rule.producers rules goal := by simp [split]
  obtain ⟨found, written⟩ := Rule.mem_producers.mp producer
  refine ⟨found, Rule.produces_iff.mpr written, usable, ?_⟩
  intro earlier other before found produces
  have member : (earlier, other) ∈ Rule.producers rules goal :=
    Rule.mem_producers.mpr ⟨found, Rule.produces_iff.mp produces⟩
  have ascending := Rule.producers_ascending rules goal
  rw [split] at member ascending
  obtain ⟨_, later, _⟩ := List.pairwise_append.mp ascending
  rcases List.mem_append.mp member with inside | inside
  · exact others (earlier, other) inside
  · -- Producers stand in the order of their places.
    rcases List.mem_cons.mp inside with rfl | inside
    · exact absurd before (Nat.lt_irrefl _)
    · exact absurd before (Nat.lt_asymm (List.rel_of_pairwise_cons later inside))

/-- Over layered rules and from a memory of affirmative values, exactly the derivable goals are
proved, each that was not bound by the earliest rule that can be used for it. -/
theorem prove_exact (rank : String → κ) (rules : List Rule) (layered : Rule.Layered rank rules)
    (memory : Memory) (affirmative : memory.Affirmative) (sink : Sink σ) (goal : String)
    (trace : σ) :
    ((prove rules sink memory goal trace).proved = true ↔ Derivable rules memory goal) ∧
      (memory.get? goal = none → (prove rules sink memory goal trace).proved = true →
        ∃ front index rule, Fires rules sink memory goal trace (front ++ [(index, rule)]) ∧
          IsEarliest rules memory goal index rule) := by
  obtain ⟨fired, fires, _⟩ := fires_unique rules sink memory goal trace
  obtain ⟨last, course, _⟩ := id fires
  have settled := Search.Settled.initial rules affirmative trace
  refine ⟨(course.settles layered (by simp [Task.Below]) settled).2, ?_⟩
  intro unbound proved
  obtain ⟨front, unusable, entry, rest, equal, split, usable, others⟩ :=
    (course.attempts_of_proved unbound proved).last_fired layered (by simp [Task.Below])
      (settled.visit goal)
  exact ⟨front, entry.1, entry.2, equal ▸ fires, isEarliest_of_split split usable others⟩

/-- A storm is told by a red sky, or by damp air, which is told by dew. -/
def stormRules : List Rule :=
  [⟨"sky", 0, [⟨"red", .present, .null⟩], [⟨"storm", .boolean true⟩]⟩,
    ⟨"air", 0, [⟨"damp", .present, .null⟩], [⟨"storm", .boolean true⟩]⟩,
    ⟨"morning", 0, [⟨"dew", .present, .null⟩], [⟨"damp", .boolean true⟩]⟩]

def dewMemory : Memory := Memory.ofList [("dew", .boolean true)]

theorem prove_exact_storm :
    Rule.Layered String.length stormRules ∧ dewMemory.Affirmative ∧
      Derivable stormRules dewMemory "storm" ∧
      ∃ front index rule,
        Fires stormRules Sink.ignore dewMemory "storm" () (front ++ [(index, rule)]) ∧
          IsEarliest stormRules dewMemory "storm" index rule := by
  have layered : Rule.Layered String.length stormRules := ⟨by decide, by decide⟩
  have affirmative : dewMemory.Affirmative := Memory.affirmative_of_all (by decide)
  have proved : (prove stormRules Sink.ignore dewMemory "storm" ()).proved = true := rfl
  obtain ⟨derivable, last⟩ :=
    prove_exact String.length stormRules layered dewMemory affirmative Sink.ignore "storm" ()
  exact ⟨layered, affirmative, derivable.mp proved, last rfl proved⟩

end Backward

end Chaining
