import LedgerCheck.Command.Arguments
import LedgerCheck.Main
import LedgerCheck.Proofs.Command
import LedgerCheck.Proofs.Command.Progress
import LedgerCheck.Proofs.Config.Canonical
import LedgerCheck.Proofs.Config.Layers
import LedgerCheck.Proofs.Config.Strict
import LedgerCheck.Proofs.Counter.Snapshot
import LedgerCheck.Proofs.LiveStatus
import LedgerCheck.Proofs.RunResult
import LedgerCheck.Proofs.RunResult.Consistent
import LedgerCheck.Proofs.RunResult.Document
import LedgerCheck.Proofs.Config.Exchange
import LedgerCheck.Proofs.Config.Grouping
import LedgerCheck.Proofs.Stats.Answers
import LedgerCheck.Proofs.RunResult.Reads
import LedgerCheck.Proofs.TestSuite.Table
import LedgerCheck.Proofs.Config.Pointer
import LedgerCheck.Proofs.Config.Unused
import LedgerCheck.Proofs.Binary64.Order
import LedgerCheck.Proofs.Stats.AllOrNothing
import LedgerCheck.Proofs.Duration
import LedgerCheck.Proofs.SyncProgress.Bounds
import LedgerCheck.Proofs.SyncProgress.Direction
import LedgerCheck.Proofs.Remote.Replies
import LedgerCheck.Proofs.RunOutcome
import LedgerCheck.Proofs.Counter.History
import LedgerCheck.Proofs.Config.LeafOrder
