import Mathlib.Init

set_option autoImplicit false

namespace Chaining

variable {ε α β : Type}

theorem bind_eq_ok {first : Except ε α} {next : α → Except ε β} {value : β} :
    (first >>= next) = .ok value ↔ ∃ found, first = .ok found ∧ next found = .ok value := by
  cases first <;> simp [bind, Except.bind]

theorem pure_eq_ok {found value : α} : (pure found : Except ε α) = .ok value ↔ found = value := by
  simp [pure, Except.pure]

theorem toOption_eq_some {result : Except ε α} {value : α} :
    result.toOption = some value ↔ result = .ok value := by
  cases result <;> simp [Except.toOption]

@[simp] theorem ok_bind (found : α) (next : α → Except ε β) :
    ((.ok found : Except ε α) >>= next) = next found := rfl

end Chaining
