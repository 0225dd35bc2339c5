import Chaining.Pattern.Matching
import Mathlib.Data.Nat.Bitwise

set_option autoImplicit false

namespace Chaining.Pattern

def Expression.between (expression : Expression) : Expression :=
  .sequence [Expression.look .start, expression, Expression.look .finish]

end Chaining.Pattern
