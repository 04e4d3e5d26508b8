import RefinementTypes.Text.LowerCase
import RefinementTypes.CommandLine.Run
import RefinementTypes.Main
import RefinementTypes.Proofs.WellFormed
import RefinementTypes.Proofs.Soundness
import RefinementTypes.Proofs.Unification
import RefinementTypes.Proofs.Solving
import RefinementTypes.Proofs.Agreement
import RefinementTypes.Proofs.Parameters
import RefinementTypes.Proofs.Exactness
import RefinementTypes.Proofs.Functions
import RefinementTypes.Proofs.Paths
import RefinementTypes.Proofs.Policies
import RefinementTypes.Proofs.Borrowing
import RefinementTypes.Proofs.Rounds
import RefinementTypes.Proofs.Termination
import RefinementTypes.Proofs.Erasure
import RefinementTypes.Proofs.Interning
import RefinementTypes.Proofs.Specialization
import RefinementTypes.Proofs.Independence
import RefinementTypes.Proofs.Additions
import RefinementTypes.Proofs.Reachability
import RefinementTypes.Proofs.Safety
import RefinementTypes.Proofs.Indifference
import RefinementTypes.Proofs.Respelling
import RefinementTypes.Proofs.UnknownNames
import RefinementTypes.Proofs.Decoding
import RefinementTypes.Proofs.Subtyping
import RefinementTypes.Proofs.Fixpoints
import RefinementTypes.Proofs.Freshness
import RefinementTypes.Proofs.Reuse
import RefinementTypes.Proofs.Precedence
import RefinementTypes.Proofs.Elimination
import RefinementTypes.Proofs.Quoting
import RefinementTypes.Proofs.WrittenTypes
