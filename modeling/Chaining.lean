import Chaining.Main
import Chaining.Proofs.Backward.Bounds
import Chaining.Proofs.Backward.Chronicle
import Chaining.Proofs.Backward.Frame
import Chaining.Proofs.Backward.Standing
import Chaining.Proofs.Command.Flags
import Chaining.Proofs.Command.Outcome
import Chaining.Proofs.Condition.Comparison
import Chaining.Proofs.Forward.Bounds
import Chaining.Proofs.Forward.Confluence
import Chaining.Proofs.Forward.Derivation
import Chaining.Proofs.Forward.Extension
import Chaining.Proofs.Forward.Order
import Chaining.Proofs.Forward.Relevance
import Chaining.Proofs.KnowledgeBase.RoundTrip
import Chaining.Proofs.Log.Observation
import Chaining.Proofs.Pattern.Anchored
import Chaining.Proofs.Forward.Chance
import Chaining.Proofs.Forward.Permutation
import Chaining.Proofs.Assignment.RoundTrip
import Chaining.Proofs.Random.Uniformity
import Chaining.Proofs.Forward.Inertness
import Chaining.Proofs.Assignment.BareWord
import Chaining.Proofs.Command.Reuse
import Chaining.Proofs.Memory.LastWrite
import Chaining.Proofs.Pattern.Normal
