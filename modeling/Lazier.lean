import Lazier.Library.Table
import Lazier.Library.Runs
import Lazier.Library.Majority
import Lazier.Ledger.Nonces
import Lazier.Ledger.Tracking
import Lazier.Manager.CancelExclusivity
import Lazier.DVN.Attestation
import Lazier.Quorum.Conflicts
import Lazier.Ledger.RetryChains
import Lazier.Indexer.ForeignLogs
import Lazier.Workflow.WantedRetries
import Lazier.Delivery.PinnedReceipts
import Lazier.Delivery.Budget
import Lazier.Scope.Fence
import Lazier.Delivery.JobGraphs
import Lazier.Signer.ParkedBudget
import Lazier.Signer.OperatorExits
import Lazier.Signer.KMS
import Lazier.Readiness.SpentRows
import Lazier.Manager.EstimateVotes
import Lazier.Reconcile.Verdicts
import Lazier.Indexer.Assignments
import Lazier.Quorum.Health
import Lazier.Quorum.LogVotes
import Lazier.Quorum.OrderFree
import Lazier.DVN.Reinclusion
import Lazier.DVN.ConflictPauses
import Lazier.Indexer.Tombstones
import Lazier.Indexer.DVNPairing
import Lazier.Indexer.Coverage
import Lazier.Delivery.Replays
import Lazier.Manager.GasBounds
import Lazier.Indexer.Headers
import Lazier.FeeAccounting.Reconciler
import Lazier.Readiness.Drain
