import Concordance.Main
import Concordance.Search.Display
import Concordance.Proofs.Aborts
import Concordance.Proofs.Identity
import Concordance.Proofs.MemorySearch
import Concordance.Proofs.Verdicts
import Concordance.Proofs.Orders
import Concordance.Proofs.Dispatching
import Concordance.Proofs.Evictions
import Concordance.Proofs.Tables
import Concordance.Proofs.Windows
import Concordance.Proofs.Contents
import Concordance.Proofs.Coherence
import Concordance.Proofs.Vocabulary
import Concordance.Proofs.Remotes
import Concordance.Proofs.Subqueries
import Concordance.Proofs.Waiting
import Concordance.Proofs.Faults
import Concordance.Proofs.Lifecycle
import Concordance.Proofs.Feeding
import Concordance.Proofs.Combinations
import Concordance.Proofs.Refusals
import Concordance.Proofs.Layers
import Concordance.Proofs.Counters
import Concordance.Proofs.Readers
import Concordance.Proofs.Pages
import Concordance.Proofs.Loading
import Concordance.Proofs.Numbering
import Concordance.Proofs.Locators
