import Chaining.Pattern.Compiled
import Mathlib.Data.List.TakeWhile

set_option autoImplicit false

namespace Chaining.Pattern

open Text (isHexDigit)

def closing : List Char := [')', '$']

/-- What is left of a pattern, and of the longer text: the closing characters stand behind it, or a
comment has taken them, and nothing is left of either. -/
def Pasted (left longer : List Char) : Prop :=
  longer = left ++ closing ∨ (left = [] ∧ longer = [])

theorem Pasted.append (left : List Char) : Pasted left (left ++ closing) := Or.inl rfl

theorem Pasted.eq_append {left longer : List Char} (pasted : Pasted left longer)
    (some : left ≠ []) : longer = left ++ closing :=
  pasted.resolve_right fun swallowed => some swallowed.1

theorem Pasted.cons {first : Char} {rest longer : List Char}
    (pasted : Pasted (first :: rest) longer) : longer = first :: (rest ++ closing) :=
  pasted.eq_append (List.cons_ne_nil _ _)

/-- Only the closing parenthesis comes first where nothing of the pattern is left. -/
theorem Pasted.of_cons {left longer : List Char} {first : Char}
    (pasted : Pasted left (first :: longer)) (other : first ≠ ')') :
    ∃ rest, left = first :: rest ∧ longer = rest ++ closing := by
  rcases pasted with whole | ⟨_, impossible⟩
  · cases left with
    | nil =>
      cases whole
      exact absurd rfl other
    | cons next rest =>
      cases whole
      exact ⟨rest, rfl, rfl⟩
  · cases impossible

theorem Pasted.unlike {left longer : List Char} {first : Char} (pasted : Pasted left longer)
    (unlike : ∀ rest, left = first :: rest → False) (other : first ≠ ')') (tail : List Char) :
    longer ≠ first :: tail := by
  rintro rfl
  obtain ⟨rest, same, _⟩ := pasted.of_cons other
  exact unlike rest same

/-- What a reader makes of a pattern, it makes of the longer text. -/
def Carries {β : Type} (read : List Char → Option (β × List Char)) : Prop :=
  ∀ {input longer left : List Char} {result : β}, Pasted input longer →
    read input = some (result, left) →
      ∃ behind, read longer = some (result, behind) ∧ Pasted left behind

theorem Carries.here {β : Type} (result : β) : Carries fun input => some (result, input) := by
  intro input longer left other pasted read
  cases read
  exact ⟨longer, rfl, pasted⟩

theorem Carries.map {β γ : Type} {read : List Char → Option (β × List Char)}
    (carries : Carries read) (change : β → γ) :
    Carries fun input => (read input).map fun found => (change found.1, found.2) := by
  intro input longer left result pasted found
  obtain ⟨⟨inner, behind⟩, readInner, made⟩ := Option.map_eq_some_iff.mp found
  cases made
  obtain ⟨after, readToo, pastedToo⟩ := carries pasted readInner
  exact ⟨after, by simp only [readToo, Option.map_some], pastedToo⟩

end Chaining.Pattern
