import Chaining.Text.Blank
import Mathlib.Data.List.TakeWhile

set_option autoImplicit false

namespace Chaining.Text

structure Padding where
  characters : List Char
  blank : ∀ character ∈ characters, isBlank character = true

/-- There is something, and no white space at either end of it. -/
structure Solid (characters : List Char) : Prop where
  nonempty : characters ≠ []
  first : ∀ first ∈ characters.head?, isBlank first = false
  last : ∀ last ∈ characters.getLast?, isBlank last = false

theorem Solid.of_all {characters : List Char} (nonempty : characters ≠ [])
    (all : ∀ character ∈ characters, isBlank character = false) : Solid characters where
  nonempty := nonempty
  first := fun first head => all first (List.mem_of_mem_head? head)
  last := fun last back => all last (List.mem_of_mem_getLast? back)

theorem Solid.between {opening closing : Char} (left : isBlank opening = false)
    (right : isBlank closing = false) (inside : List Char) :
    Solid (opening :: (inside ++ [closing])) where
  nonempty := List.cons_ne_nil _ _
  first := fun first head => Option.some.inj head ▸ left
  last := fun last back => by
    rw [← List.cons_append, List.getLast?_concat] at back
    exact Option.some.inj back ▸ right

theorem dropWhile_padded {characters : List Char} (solid : Solid characters)
    {blanks : List Char} (all : ∀ blank ∈ blanks, isBlank blank = true) (rest : List Char) :
    (blanks ++ (characters ++ rest)).dropWhile isBlank = characters ++ rest := by
  rw [List.dropWhile_append_of_pos all]
  obtain ⟨first, more, rfl⟩ := List.exists_cons_of_ne_nil solid.nonempty
  exact List.dropWhile_cons_of_neg (by simp [solid.first first rfl])

/-- White space around a solid text is trimmed away, and nothing else. -/
theorem trimmed_padded {characters : List Char} (solid : Solid characters)
    (before after : Padding) :
    trimmed (before.characters ++ (characters ++ after.characters)) = characters := by
  have back : Solid characters.reverse := by
    refine ⟨mt List.reverse_eq_nil_iff.mp solid.nonempty, ?_, ?_⟩
    · rw [List.head?_reverse]
      exact solid.last
    · rw [List.getLast?_reverse]
      exact solid.first
  have blank : ∀ blank ∈ after.characters.reverse, isBlank blank = true :=
    fun blank member => after.blank blank (List.mem_reverse.mp member)
  have dropped := dropWhile_padded back blank []
  rw [List.append_nil] at dropped
  rw [trimmed, dropWhile_padded solid before.blank, List.reverse_append, dropped,
    List.reverse_reverse]

end Chaining.Text
