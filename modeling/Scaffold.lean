import Scaffold.Main
import Scaffold.Proofs.Ordered
import Scaffold.Proofs.Entries
import Scaffold.Proofs.Resolution
import Scaffold.Proofs.Settling
import Scaffold.Proofs.Running
import Scaffold.Proofs.Changes
import Scaffold.Proofs.Landing
import Scaffold.Proofs.Keeping
import Scaffold.Proofs.Sessions
import Scaffold.Proofs.Writing
import Scaffold.Proofs.Registering
import Scaffold.Proofs.Inputs
import Scaffold.Proofs.Courses
import Scaffold.Proofs.Runs
import Scaffold.Proofs.Cuts
import Scaffold.Proofs.Histories
import Scaffold.Proofs.Names
import Scaffold.Proofs.Untouched
import Scaffold.Proofs.Confining
import Scaffold.Proofs.Accounts
import Scaffold.Proofs.Rendering
import Scaffold.Proofs.Cutting
import Scaffold.Proofs.Eligibility
import Scaffold.Proofs.References
import Scaffold.Proofs.Moving
import Scaffold.Proofs.Calls
import Scaffold.Proofs.Seating
import Scaffold.Proofs.Repeating
import Scaffold.Proofs.Reruns
import Scaffold.Proofs.Consenting
import Scaffold.Proofs.Interleaving
import Scaffold.Proofs.Enclosing
import Scaffold.Proofs.Letters
import Scaffold.Proofs.Matching
import Scaffold.Proofs.Usable
import Scaffold.Proofs.Endings
import Scaffold.Proofs.Faults
import Scaffold.Proofs.Emitting
import Scaffold.Proofs.Failing
import Scaffold.Proofs.Configuring
import Scaffold.Proofs.Exits
import Scaffold.Proofs.Loudness
import Scaffold.Proofs.Seams
import Scaffold.Proofs.Remaining
import Scaffold.Proofs.Statements
import Scaffold.Proofs.Staging
import Scaffold.Proofs.Exchanging
import Scaffold.Proofs.Segments
import Scaffold.Proofs.Harmony
import Scaffold.Proofs.Capitals
import Scaffold.Proofs.Retracing
import Scaffold.Proofs.Compounds
import Scaffold.Proofs.Joining
import Scaffold.Proofs.Lowering
import Scaffold.Proofs.Spellings
import Scaffold.Proofs.TypeNames
import Scaffold.Proofs.Checking
import Scaffold.Proofs.Assigning
import Scaffold.Proofs.Precedence
import Scaffold.Proofs.Listing
import Scaffold.Proofs.Literals
