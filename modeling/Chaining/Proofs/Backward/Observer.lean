import Chaining.Proofs.Backward.Parallel

set_option autoImplicit false

namespace Chaining.Backward

variable {σ τ : Type}

/-- A search with some sink beside the one that keeps the events: the sink has been told these. -/
structure Search.Heard (sink : Sink σ) (trace : σ) (kept : Search (List Event))
    (search : Search σ) : Prop where
  memory : kept.memory = search.memory
  visited : kept.visited = search.visited
  told : search.trace = kept.trace.foldl sink.record trace

theorem Search.Heard.parallel (rules : List Rule) (sink : Sink σ) (trace : σ) :
    Parallel rules (fun _ => True) Sink.collect sink (Heard sink trace) where
  tested := fun _ _ _ _ => trivial
  known := fun heard _ _ => by rw [heard.memory]
  visited := Heard.visited
  report := fun heard event => ⟨heard.memory, heard.visited, by
    change sink.record _ event = (_ ++ [event]).foldl sink.record trace
    rw [heard.told, List.foldl_append]
    rfl⟩
  visit := fun heard goal => ⟨heard.memory, congrArg (goal :: ·) heard.visited, heard.told⟩
  fire := fun heard rule => ⟨by rw [fire_memory, fire_memory, heard.memory], heard.visited, by
    rw [Search.fire, Search.fire, rule.fire_trace, rule.fire_collect, heard.told,
      List.foldl_append]⟩

/-- A proof with some sink is the one that keeps the events, and tells the sink all of them. -/
theorem prove_heard (rules : List Rule) (sink : Sink σ) (memory : Memory) (goal : String)
    (trace : σ) :
    let kept := prove rules Sink.collect memory goal []
    prove rules sink memory goal trace =
      ⟨kept.proved, kept.memory, kept.visited, kept.trace.foldl sink.record trace⟩ := by
  intro kept
  have silent : Search.Heard sink trace ⟨memory, [], []⟩ ⟨memory, [], trace⟩ := ⟨rfl, rfl, rfl⟩
  obtain ⟨fired, proved, last, beyond, course, again, heard⟩ :=
    prove_parallel (Search.Heard.parallel rules sink trace) goal trivial silent
  have kept_eq : kept = ⟨proved, last.memory, last.visited.length, last.trace⟩ := course.prove_eq
  rw [again.prove_eq, kept_eq, heard.memory, heard.visited, heard.told]

/-- Two proofs with different sinks differ in nothing but what is told. -/
theorem prove_level (rules : List Rule) (sink : Sink σ) (other : Sink τ) (memory : Memory)
    (goal : String) (trace : σ) (others : τ) :
    (prove rules sink memory goal trace).proved = (prove rules other memory goal others).proved ∧
      (prove rules sink memory goal trace).memory =
        (prove rules other memory goal others).memory := by
  rw [prove_heard rules sink, prove_heard rules other]
  exact ⟨rfl, rfl⟩

/-- A goal that is asked for leaves an event, and so does every rule that is tried for it. Facts
alone may leave none, since there may be none of them. -/
theorem Course.trace_ne_nil {rules : List Rule} {task : Task} {search after : Search (List Event)}
    {fired : List (Nat × Rule)} {proved : Bool}
    (course : Course rules Sink.collect task search fired proved after) :
    (∃ names, task = .facts names) ∨ after.trace ≠ [] := by
  induction course with
  | known | cycle | orphan | exhausted => exact Or.inr (List.concat_ne_nil _ _)
  | searched _ _ _ _ ih =>
    rcases ih with ⟨names, impossible⟩ | told
    · cases impossible
    · exact Or.inr told
  | @established _ entry _ _ _ after =>
    refine Or.inr ?_
    change (entry.2.fire Sink.collect after.memory after.trace).2 ≠ []
    rw [Rule.fire_collect, Rule.account]
    exact List.append_ne_nil_of_right_ne_nil _ (List.cons_ne_nil _ _)
  | refused _ _ _ _ ih =>
    rcases ih with ⟨names, impossible⟩ | told
    · cases impossible
    · exact Or.inr told
  | met | failed | further => exact Or.inl ⟨_, rfl⟩

theorem prove_trace_ne_nil (rules : List Rule) (memory : Memory) (goal : String)
    (events : List Event) : (prove rules Sink.collect memory goal events).trace ≠ [] := by
  obtain ⟨fired, ⟨last, course, _, _, told⟩, _⟩ :=
    fires_unique rules Sink.collect memory goal events
  rw [← told]
  rcases course.trace_ne_nil with ⟨names, impossible⟩ | some
  · cases impossible
  · exact some

end Chaining.Backward
