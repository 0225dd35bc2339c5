import Chaining.Condition
import Chaining.Proofs.Pattern.Matching
import Chaining.Proofs.Pattern.PastedPattern

set_option autoImplicit false

namespace Chaining

namespace Pattern

end Pattern

end Chaining
