import Chaining.Pattern.Matching
import Chaining.Pattern.Reading
import Chaining.Pattern.Size

set_option autoImplicit false

namespace Chaining.Pattern

def compile? (text : List Char) : Option Expression := do
  let tree ← Tree.ofText? text
  let (expression, _) ← tree.translate? .initial
  if Expression.fits expression then return expression else none

/-- The text of a pattern between anchors. The text is pasted as it is, so a pattern whose
parentheses do not balance can reach beyond the group. -/
def anchored (pattern : List Char) : List Char :=
  '^' :: '(' :: '?' :: ':' :: (pattern ++ [')', '$'])

def holdsFor (pattern text : String) : Bool :=
  match compile? (anchored pattern.toList) with
  | some expression => Expression.occursIn expression text.toList
  | none => false

end Chaining.Pattern
