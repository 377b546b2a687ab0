import ClauseSharing.Main
import ClauseSharing.Proofs.CommandLine.Checking
import ClauseSharing.Proofs.CommandLine.Publishing
import ClauseSharing.Proofs.Connection.Discipline
import ClauseSharing.Proofs.Copies.Canonical
import ClauseSharing.Proofs.Copies.Tracking
import ClauseSharing.Proofs.Import.Balance
import ClauseSharing.Proofs.Import.Meaning
import ClauseSharing.Proofs.Import.Protocol
import ClauseSharing.Proofs.Import.Refusal
import ClauseSharing.Proofs.Import.Reordering
import ClauseSharing.Proofs.Import.Split
import ClauseSharing.Proofs.Import.TierRun
import ClauseSharing.Proofs.Literal
import ClauseSharing.Proofs.Portfolio.Delivery
import ClauseSharing.Proofs.Portfolio.Interleaving
import ClauseSharing.Proofs.Portfolio.Keys
import ClauseSharing.Proofs.Portfolio.Queue
import ClauseSharing.Proofs.Portfolio.Soundness
import ClauseSharing.Proofs.Publish.Drain
import ClauseSharing.Proofs.Publish.Exhaustion
import ClauseSharing.Proofs.Publish.Identifiers
import ClauseSharing.Proofs.Record.Grammar
import ClauseSharing.Proofs.Record.Normal
import ClauseSharing.Proofs.Redis.Agreement
import ClauseSharing.Proofs.Setting
import ClauseSharing.Proofs.Solver.Distances
import ClauseSharing.Proofs.Solver.Trail
import ClauseSharing.Proofs.Solver.Watching
