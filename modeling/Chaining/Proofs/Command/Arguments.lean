import Chaining.Command.Invocation
import Chaining.Proofs.Fallible

set_option autoImplicit false

namespace Chaining.Command

def optionsOf (arguments : List String) : List String := arguments.takeWhile (· ≠ "--")

theorem optionsOf_cons {argument : String} (unlike : argument ≠ "--") (rest : List String) :
    optionsOf (argument :: rest) = argument :: optionsOf rest :=
  List.takeWhile_cons_of_pos (decide_eq_true unlike)

theorem optionsOf_append {first : List String} (unescaped : "--" ∉ first) (rest : List String) :
    optionsOf (first ++ rest) = first ++ optionsOf rest :=
  List.takeWhile_append_of_pos fun _ member =>
    decide_eq_true fun equal => unescaped (equal ▸ member)

theorem optionsOf_eq_self {arguments : List String} (unescaped : "--" ∉ arguments) :
    optionsOf arguments = arguments := by
  simpa [optionsOf] using optionsOf_append unescaped []

theorem Shape.of_eq_escape {argument : String} (escape : Shape.of argument = .escape) :
    argument = "--" := by
  unfold of at escape
  split at escape
  next dashes =>
    exact String.toList_inj.mp dashes
  · dsimp only at escape
    split at escape <;> cases escape
  · cases escape
  · cases escape

theorem Shape.of_eq_long {argument name : String} (long : Shape.of argument = .long name none) :
    argument.toList = '-' :: '-' :: name.toList := by
  unfold of at long
  split at long
  · cases long
  next rest _ dashes =>
    dsimp only at long
    split at long
    next whole =>
      cases long
      have split := List.takeWhile_append_dropWhile (p := (· ≠ '=')) (l := rest)
      rw [whole, List.append_nil] at split
      rw [dashes, String.toList_ofList, split]
    · cases long
  · cases long
  · cases long

variable {α : Type}

/-- Whatever a parameter accepts, it leaves a mark as it is. -/
def Parameter.Spares (parameter : Parameter α) (mark : α → Bool) : Prop :=
  ∀ value before after, parameter.accept value before = .ok after → mark after = mark before

/-- The option of a name, if there is one, takes no value and sets a mark that all other parameters
leave as it is. -/
structure Grammar.Marks (grammar : Grammar α) (name : String) (mark : α → Bool) : Prop where
  flag : ∀ parameter ∈ grammar.options, parameter.name = name → parameter.takesValue = false ∧
    ∀ value before after, parameter.accept value before = .ok after → mark after = true
  options : ∀ parameter ∈ grammar.options, parameter.name ≠ name → parameter.Spares mark
  words : ∀ parameter ∈ grammar.words, parameter.Spares mark

structure Reading.Spares (reading : Reading α) (mark : α → Bool) : Prop where
  held : ∀ parameter value, reading.held = some (parameter, value) → parameter.Spares mark
  words : ∀ parameter ∈ reading.words, parameter.Spares mark

namespace Reading

variable {grammar : Grammar α} {name : String} {mark : α → Bool} {reading after : Reading α}

theorem take_eq_ok {parameter : Parameter α} {value : String}
    (taken : reading.take parameter value = .ok after) :
    parameter.accept value reading.read = .ok after.read ∧ after.held = reading.held ∧
      after.words = reading.words := by
  unfold take at taken
  split at taken
  · cases taken
  · obtain ⟨read, accepted, made⟩ := bind_eq_ok.mp taken
    cases pure_eq_ok.mp made
    exact ⟨accepted, rfl, rfl⟩

theorem settle_spares (settled : reading.settle = .ok after) (spares : reading.Spares mark) :
    after.Spares mark ∧ mark after.read = mark reading.read := by
  unfold settle at settled
  split at settled
  · cases settled
    exact ⟨spares, rfl⟩
  · cases settled
  next parameter value held =>
    obtain ⟨accepted, nothing, words⟩ := take_eq_ok settled
    refine ⟨⟨fun other _ still => ?_, words ▸ spares.words⟩, ?_⟩
    · rw [nothing] at still
      cases still
    · exact spares.held parameter _ held value _ _ accepted

theorem takeLong_marks (marks : grammar.Marks name mark) {long : String} {value : Option String}
    (taken : takeLong grammar reading long value = .ok after) (spares : reading.Spares mark) :
    after.Spares mark ∧
      (mark after.read = true ↔ mark reading.read = true ∨ (long = name ∧ value = none)) := by
  unfold takeLong at taken
  cases found : grammar.options.find? (·.name = long) with
  | some parameter =>
    simp only [found] at taken
    have member := List.mem_of_find?_eq_some found
    have named : parameter.name = long := by simpa using List.find?_some found
    by_cases same : long = name
    · obtain ⟨valueless, sets⟩ := marks.flag parameter member (named.trans same)
      rw [valueless] at taken
      cases value with
      | some value => cases taken
      | none =>
        obtain ⟨between, settled, taken⟩ := bind_eq_ok.mp taken
        obtain ⟨accepted, held, words⟩ := take_eq_ok taken
        obtain ⟨spared, _⟩ := settle_spares settled spares
        refine ⟨⟨held ▸ spared.held, words ▸ spared.words⟩, ?_⟩
        simp [sets _ _ _ accepted, same]
    · have others : parameter.Spares mark := marks.options parameter member (named ▸ same)
      simp only [same, false_and, or_false]
      split at taken
      · obtain ⟨between, settled, taken⟩ := bind_eq_ok.mp taken
        obtain ⟨spared, unmarked⟩ := settle_spares settled spares
        rw [← unmarked]
        split at taken
        · cases pure_eq_ok.mp taken
          refine ⟨⟨fun other _ held => ?_, spared.words⟩, Iff.rfl⟩
          cases held
          exact others
        · obtain ⟨accepted, held, words⟩ := take_eq_ok taken
          exact ⟨⟨held ▸ spared.held, words ▸ spared.words⟩, by rw [others _ _ _ accepted]⟩
      · split at taken
        · cases taken
        · obtain ⟨between, settled, taken⟩ := bind_eq_ok.mp taken
          obtain ⟨spared, unmarked⟩ := settle_spares settled spares
          obtain ⟨accepted, held, words⟩ := take_eq_ok taken
          rw [← unmarked]
          exact ⟨⟨held ▸ spared.held, words ▸ spared.words⟩, by rw [others _ _ _ accepted]⟩
  | none =>
    simp only [found] at taken
    split at taken
    · split at taken
      · cases taken
      · obtain ⟨between, settled, taken⟩ := bind_eq_ok.mp taken
        cases taken
    · cases taken

theorem takeShort_ne_ok {letter : Char} : takeShort grammar reading letter ≠ .ok after := by
  intro taken
  unfold takeShort at taken
  split at taken
  · obtain ⟨between, settled, taken⟩ := bind_eq_ok.mp taken
    cases taken
  · split at taken
    · obtain ⟨between, settled, taken⟩ := bind_eq_ok.mp taken
      cases taken
    · cases taken

theorem supply_spares {word : String} (supplied : reading.supply word = some after)
    (spares : reading.Spares mark) : after.Spares mark ∧ mark after.read = mark reading.read := by
  unfold supply at supplied
  split at supplied
  next parameter held =>
    cases supplied
    refine ⟨⟨fun other _ waiting => ?_, spares.words⟩, rfl⟩
    cases waiting
    exact spares.held parameter _ held
  · cases supplied

theorem takeWord_spares {word : String} (taken : reading.takeWord word = some (.ok after))
    (spares : reading.Spares mark) : after.Spares mark ∧ mark after.read = mark reading.read := by
  unfold takeWord at taken
  split at taken
  · cases taken
  next parameter words waiting =>
    obtain ⟨between, settled, made⟩ := bind_eq_ok.mp (Option.some.inj taken)
    obtain ⟨spared, unmarked⟩ := settle_spares settled spares
    cases pure_eq_ok.mp made
    have inside : ∀ other ∈ parameter :: words, other.Spares mark := waiting ▸ spares.words
    refine ⟨⟨fun other _ held => ?_, fun other member => ?_⟩, unmarked⟩
    · cases held
      exact inside parameter List.mem_cons_self
    · exact inside other (List.mem_cons_of_mem parameter member)

end Reading

namespace Stop

def reading : Stop α → Reading α
  | finished reading => reading
  | surplus reading _ _ _ => reading

def rest : Stop α → List String
  | finished _ => []
  | surplus _ _ word rest => word :: rest

end Stop

/-- What a run over arguments leaves behind: the mark is set by the option of the name alone, and
reading stops at a word that is not escaped only where nothing has been escaped. -/
structure Stop.Follows (stop : Stop α) (flag : String) (mark : α → Bool) (escaped : Bool)
    (reading : Reading α) (read : List String) : Prop where
  spares : stop.reading.Spares mark
  marked : mark stop.reading.read = true ↔
    mark reading.read = true ∨ (escaped = false ∧ flag ∈ optionsOf read)
  plain : ∀ last word rest, stop = .surplus last false word rest →
    escaped = false ∧ "--" ∉ read ∧ Shape.of word = .word

theorem Stop.Follows.cons {stop : Stop α} {flag argument : String} {mark : α → Bool}
    {escaped : Bool} {reading next : Reading α} {read : List String}
    (follows : stop.Follows flag mark escaped next read)
    (unlike : escaped = false → argument ≠ "--")
    (step : mark next.read = true ↔
      mark reading.read = true ∨ (escaped = false ∧ flag = argument)) :
    stop.Follows flag mark escaped reading (argument :: read) where
  spares := follows.spares
  marked := by
    rw [follows.marked, step]
    cases escaped with
    | true => simp
    | false => simp [optionsOf_cons (unlike rfl), or_assoc]
  plain last word rest stopped := by
    obtain ⟨unescaped, plain, shape⟩ := follows.plain last word rest stopped
    refine ⟨unescaped, ?_, shape⟩
    rw [List.mem_cons, not_or]
    exact ⟨(unlike unescaped).symm, plain⟩

namespace Reading

variable {grammar : Grammar α} {name flag : String} {mark : α → Bool}

theorem run_word_follows {escaped : Bool} {argument : String} {arguments : List String}
    {reading : Reading α} {stop : Stop α}
    (ran : (match if escaped then none else reading.supply argument with
      | some reading => run grammar escaped arguments reading
      | none =>
        match reading.takeWord argument with
        | none => .ok (.surplus reading escaped argument arguments)
        | some next => do run grammar escaped arguments (← next)) = .ok stop)
    (spares : reading.Spares mark)
    (word : escaped = false → Shape.of argument = .word)
    (unlike : escaped = false → flag ≠ argument)
    (later : ∀ {next : Reading α}, run grammar escaped arguments next = .ok stop →
      next.Spares mark →
        ∃ read, arguments = read ++ stop.rest ∧ stop.Follows flag mark escaped next read) :
    ∃ read, argument :: arguments = read ++ stop.rest ∧
      stop.Follows flag mark escaped reading read := by
  have undashed : escaped = false → argument ≠ "--" := by
    rintro unescaped rfl
    cases word unescaped
  have goOn : ∀ next : Reading α, run grammar escaped arguments next = .ok stop →
      next.Spares mark ∧ mark next.read = mark reading.read →
        ∃ read, argument :: arguments = read ++ stop.rest ∧
          stop.Follows flag mark escaped reading read := by
    rintro next ran ⟨spared, unmarked⟩
    obtain ⟨read, parts, follows⟩ := later ran spared
    refine ⟨argument :: read, congrArg (argument :: ·) parts, follows.cons undashed ?_⟩
    rw [unmarked]
    exact ⟨Or.inl, fun either => either.resolve_right fun both => unlike both.1 both.2⟩
  split at ran
  next next supplied =>
    split at supplied
    · cases supplied
    · exact goOn next ran (supply_spares supplied spares)
  · split at ran
    · cases ran
      refine ⟨[], rfl, spares, by simp [optionsOf, Stop.reading], ?_⟩
      rintro last other rest stopped
      cases stopped
      exact ⟨rfl, List.not_mem_nil, word rfl⟩
    next taken =>
      obtain ⟨next, rfl, ran⟩ := bind_eq_ok.mp ran
      exact goOn next ran (takeWord_spares taken spares)

/-- The mark is set by the option itself, and by nothing else that is read. -/
theorem run_follows (marks : grammar.Marks name mark) (spelled : Shape.of flag = .long name none)
    {escaped : Bool} {arguments : List String} {reading : Reading α} {stop : Stop α}
    (ran : run grammar escaped arguments reading = .ok stop) (spares : reading.Spares mark) :
    ∃ read, arguments = read ++ stop.rest ∧ stop.Follows flag mark escaped reading read := by
  induction arguments generalizing escaped reading with
  | nil =>
    cases ran
    exact ⟨[], rfl, spares, by simp [optionsOf, Stop.reading], by simp⟩
  | cons argument arguments ih =>
    unfold run at ran
    split at ran
    next shape =>
      split at shape
      · cases shape
      next unescaped =>
        obtain rfl := Shape.of_eq_escape shape
        obtain rfl := Bool.eq_false_iff.mpr unescaped
        obtain ⟨read, parts, follows⟩ := ih ran spares
        refine ⟨"--" :: read, congrArg ("--" :: ·) parts, follows.spares, ?_, ?_⟩
        · rw [follows.marked]
          simp [optionsOf]
        · intro last word rest stopped
          cases (follows.plain last word rest stopped).1
    next long value shape =>
      split at shape
      · cases shape
      next unescaped =>
        obtain rfl := Bool.eq_false_iff.mpr unescaped
        obtain ⟨next, taken, ran⟩ := bind_eq_ok.mp ran
        obtain ⟨spared, marked⟩ := takeLong_marks marks taken spares
        obtain ⟨read, parts, follows⟩ := ih ran spared
        refine ⟨argument :: read, congrArg (argument :: ·) parts, follows.cons ?_ ?_⟩
        · rintro - rfl
          cases shape
        · rw [marked]
          have same : long = name ∧ value = none ↔ flag = argument := by
            constructor
            · rintro ⟨rfl, rfl⟩
              rw [← String.toList_inj, Shape.of_eq_long spelled, Shape.of_eq_long shape]
            · rintro rfl
              rw [spelled] at shape
              cases shape
              exact ⟨rfl, rfl⟩
          simp [same]
    next shape =>
      split at shape
      · cases shape
      · obtain ⟨next, taken, _⟩ := bind_eq_ok.mp ran
        exact absurd taken takeShort_ne_ok
    next shape =>
      refine run_word_follows ran spares ?_ ?_ ih
      · rintro rfl
        exact shape
      · rintro rfl rfl
        cases spelled.symm.trans shape

end Reading

/-- A grammar without an option of some name has nothing to mark, and does not accept the name. -/
theorem Grammar.marks_of_absent {grammar : Grammar α} {name : String}
    (absent : ∀ parameter ∈ grammar.options, parameter.name ≠ name) :
    grammar.Marks name fun _ => false where
  flag parameter member named := absurd named (absent parameter member)
  options _ _ _ _ _ _ _ := rfl
  words _ _ _ _ _ _ := rfl

theorem Grammar.run_follows {grammar : Grammar α} {name flag : String} {mark : α → Bool}
    (marks : grammar.Marks name mark) (spelled : Shape.of flag = .long name none) {start : α}
    (unmarked : mark start = false) {arguments : List String} {stop : Stop α} {last : Reading α}
    (ran : grammar.run start arguments = .ok stop) (settled : stop.reading.settle = .ok last) :
    ∃ read, arguments = read ++ stop.rest ∧ (mark last.read = true ↔ flag ∈ optionsOf read) ∧
      ∀ reading word rest, stop = .surplus reading false word rest →
        "--" ∉ read ∧ Shape.of word = .word := by
  have spares : Reading.Spares ⟨start, [], none, grammar.words⟩ mark :=
    ⟨by simp, marks.words⟩
  obtain ⟨read, parts, follows⟩ := Reading.run_follows marks spelled ran spares
  have kept := (Reading.settle_spares settled follows.spares).2
  refine ⟨read, parts, ?_, fun reading word rest stopped => ?_⟩
  · rw [kept, follows.marked]
    simp [unmarked]
  · exact (follows.plain reading word rest stopped).2

section

attribute [local simp] Verb.grammar Verb.options Verb.words leadingGrammar Parameter.shared
  Parameter.goals Parameter.strategy Parameter.seed Parameter.maxIterations Parameter.assignments
  Parameter.trace Parameter.settingsPath Parameter.basePath Parameter.goal Parameter.direction
  Parameter.option Parameter.manyTimes Parameter.flag Parameter.Spares

/-- What is updated with a value that has been read is marked as before, whatever the value. -/
theorem mark_of_map {ε β : Type} {update : β → α} {result : Except ε β} {mark : α → Bool}
    {kept : Bool} (keeps : ∀ value, mark (update value) = kept) (after : α)
    (updated : update <$> result = .ok after) : mark after = kept := by
  cases result with
  | error problem => cases updated
  | ok value =>
    cases updated
    exact keeps value

theorem Verb.grammar_marks_traced (verb : Verb) :
    verb.grammar.Marks "trace" Draft.traced where
  flag := by cases verb <;> simp +contextual
  options := by
    have kept := @mark_of_map Draft Refusal
    cases verb <;> simp +contextual <;> try refine ⟨?_, ?_, ?_, ?_⟩
    all_goals exact fun _ _ => kept fun _ => rfl
  words := by
    have kept := @mark_of_map Draft Refusal
    cases verb <;> simp +contextual
    all_goals exact fun _ _ => kept fun _ => rfl

theorem Verb.grammar_marks_isQuiet (verb : Verb) :
    verb.grammar.Marks "quiet" Draft.isQuiet where
  flag := by cases verb <;> simp +contextual
  options := by
    have kept := @mark_of_map Draft Refusal
    cases verb <;> simp +contextual <;> try refine ⟨?_, ?_, ?_, ?_⟩
    all_goals exact fun _ _ => kept fun _ => rfl
  words := by
    have kept := @mark_of_map Draft Refusal
    cases verb <;> simp +contextual
    all_goals exact fun _ _ => kept fun _ => rfl

theorem leadingGrammar_marks_isQuiet : leadingGrammar.Marks "quiet" Draft.isQuiet where
  flag := by simp +contextual
  options := by
    simp +contextual
    exact fun _ _ => mark_of_map fun _ => rfl
  words := by simp

theorem leadingGrammar_marks_nothing : leadingGrammar.Marks "trace" fun _ => false :=
  Grammar.marks_of_absent (by simp)

theorem Verb.inspect_marks_nothing : Verb.inspect.grammar.Marks "trace" fun _ => false :=
  Grammar.marks_of_absent (by simp)

end

theorem Shape.of_trace : of "--trace" = .long "trace" none := rfl

theorem Shape.of_quiet : of "--quiet" = .long "quiet" none := rfl

def isTraced : Command → Bool
  | .forward _ _ _ _ traced _ => traced
  | .backward _ _ _ traced => traced
  | .demo _ traced => traced
  | .inspect _ => false

theorem Verb.read_marks {verb : Verb} {name flag : String} {mark : Draft → Bool}
    (marks : verb.grammar.Marks name mark) (spelled : Shape.of flag = .long name none)
    (unmarked : mark .blank = false) {arguments : List String} {draft : Draft} {command : Command}
    (read : verb.read arguments = .ok (draft, command)) :
    (mark draft = true ↔ flag ∈ optionsOf arguments) ∧ verb.command? draft = some command := by
  obtain ⟨stop, ran, read⟩ := bind_eq_ok.mp read
  cases stop with
  | surplus => cases read
  | finished reading =>
    obtain ⟨last, settled, read⟩ := bind_eq_ok.mp read
    dsimp only at read
    split at read
    · cases read
    next made =>
      cases pure_eq_ok.mp read
      obtain ⟨all, parts, marked, _⟩ := Grammar.run_follows marks spelled unmarked ran settled
      rw [Stop.rest, List.append_nil] at parts
      exact ⟨parts ▸ marked, made⟩

/-- The runs of a command are traced when the option says so; a command that runs nothing does not
take the option. -/
theorem Verb.read_isTraced {verb : Verb} {arguments : List String} {draft : Draft}
    {command : Command} (read : verb.read arguments = .ok (draft, command)) :
    command.isTraced = true ↔ "--trace" ∈ optionsOf arguments := by
  obtain ⟨marked, made⟩ := verb.read_marks verb.grammar_marks_traced Shape.of_trace rfl read
  cases verb with
  | forward =>
    obtain ⟨path, _, made⟩ := Option.bind_eq_some_iff.mp made
    cases made
    exact marked
  | backward =>
    obtain ⟨path, _, made⟩ := Option.bind_eq_some_iff.mp made
    obtain ⟨goal, _, made⟩ := Option.bind_eq_some_iff.mp made
    cases made
    exact marked
  | demo =>
    cases made
    exact marked
  | inspect =>
    obtain ⟨path, _, made⟩ := Option.bind_eq_some_iff.mp made
    cases made
    exact (Verb.read_marks Verb.inspect_marks_nothing Shape.of_trace rfl read).1

theorem mem_optionsOf_append {flag name word : String} (spelled : Shape.of flag = .long name none)
    {first rest : List String} (unescaped : "--" ∉ first) (shape : Shape.of word = .word) :
    flag ∈ optionsOf (first ++ word :: rest) ↔ flag ∈ optionsOf first ∨ flag ∈ optionsOf rest := by
  have undashed : word ≠ "--" := by
    rintro rfl
    cases shape
  have unlike : flag ≠ word := by
    rintro rfl
    cases shape.symm.trans spelled
  rw [optionsOf_append unescaped, optionsOf_cons undashed, optionsOf_eq_self unescaped,
    List.mem_append, List.mem_cons, or_iff_right unlike]

/-- Silence and traces are asked for by their options, in front of the two dashes. -/
theorem Invocation.ofArguments_flags {arguments : List String} {invocation : Invocation}
    (accepted : Invocation.ofArguments arguments = .ok invocation) :
    (invocation.isQuiet = true ↔ "--quiet" ∈ optionsOf arguments) ∧
      (invocation.command.isTraced = true ↔ "--trace" ∈ optionsOf arguments) := by
  obtain ⟨stop, ran, accepted⟩ := bind_eq_ok.mp accepted
  cases stop with
  | finished reading =>
    obtain ⟨last, _, refused⟩ := bind_eq_ok.mp accepted
    cases refused
  | surplus reading escaped word rest =>
    dsimp only at accepted
    cases escaped with
    | true => cases accepted
    | false =>
      rw [if_neg Bool.false_ne_true] at accepted
      split at accepted
      · cases accepted
      · split at accepted
        · cases accepted
        next verb _ =>
          obtain ⟨⟨draft, command⟩, read, accepted⟩ := bind_eq_ok.mp accepted
          obtain ⟨last, settled, made⟩ := bind_eq_ok.mp accepted
          cases pure_eq_ok.mp made
          obtain ⟨first, parts, quietFirst, plain⟩ :=
            Grammar.run_follows leadingGrammar_marks_isQuiet Shape.of_quiet rfl ran settled
          obtain ⟨unescaped, shape⟩ := plain reading word rest rfl
          have quiet :=
            (verb.read_marks verb.grammar_marks_isQuiet Shape.of_quiet rfl read).1
          have traced := Verb.read_isTraced read
          obtain ⟨others, again, untraced, _⟩ :=
            Grammar.run_follows leadingGrammar_marks_nothing Shape.of_trace rfl ran settled
          obtain rfl : others = first := List.append_cancel_right (again.symm.trans parts)
          rw [parts, Stop.rest, mem_optionsOf_append Shape.of_quiet unescaped shape, ← quietFirst,
            ← quiet, mem_optionsOf_append Shape.of_trace unescaped shape, ← untraced, ← traced]
          simp [or_comm]

end Chaining.Command
