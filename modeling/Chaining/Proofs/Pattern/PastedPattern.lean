import Chaining.Proofs.Pattern.PastedClass
import Chaining.Proofs.Pattern.PastedGroup

set_option autoImplicit false

namespace Chaining.Pattern

namespace State

def within (state : State) (outer : GroupFrame) : State :=
  { state with frames := state.frames ++ [outer] }

variable {state after : State} (outer : GroupFrame)

end State

def Tree.between (tree : Tree) : Tree :=
  .sequence [.assertion .lineStart, .group (.flagged []) tree, .assertion .lineEnd]

end Chaining.Pattern
