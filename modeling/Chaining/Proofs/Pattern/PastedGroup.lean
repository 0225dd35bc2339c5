import Chaining.Proofs.Pattern.Pasting

set_option autoImplicit false

namespace Chaining.Pattern

open Text (isBlank)

/-! ### Repetitions -/

end Chaining.Pattern
