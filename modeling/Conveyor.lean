import Conveyor.Main
import Conveyor.Scenario.Delivery
import Conveyor.Scenario.Session
import Conveyor.Shutdown
import Conveyor.Proofs.Queue.Round
import Conveyor.Proofs.Queue.Ledger
import Conveyor.Proofs.Queue.Completion
import Conveyor.Proofs.Queue.Wakeup
import Conveyor.Proofs.Queue.Disposal
import Conveyor.Proofs.Queue.Events
import Conveyor.Proofs.Queue.Lifecycle
import Conveyor.Proofs.Queue.Report
import Conveyor.Proofs.Queue.Poison
import Conveyor.Proofs.Queue.Stranding
import Conveyor.Proofs.Queue.Quiescence
import Conveyor.Proofs.Queue.Containment
import Conveyor.Proofs.Queue.Joining
import Conveyor.Proofs.Notification.Delivery
import Conveyor.Proofs.Notification.Publication
import Conveyor.Proofs.Cli.Cast
import Conveyor.Proofs.Cli.Scene
import Conveyor.Proofs.Cli.Plot
import Conveyor.Proofs.Cli.Undisturbed
import Conveyor.Proofs.Queue.Deadlock
import Conveyor.Proofs.Queue.Verdict
import Conveyor.Proofs.Queue.Outcome
import Conveyor.Proofs.Production
import Conveyor.Proofs.Queue.Agreement
import Conveyor.Proofs.Queue.Dispatch
import Conveyor.Proofs.Queue.Snapshot
import Conveyor.Proofs.Queue.Subscribers
import Conveyor.Proofs.Cli.Loading
import Conveyor.Proofs.Report
import Conveyor.Proofs.Queue.Construction
import Conveyor.Proofs.Cli.Validity
import Conveyor.Proofs.Cli.Parity
import Conveyor.Proofs.Validation
import Conveyor.Proofs.Cli.Summary
import Conveyor.Proofs.Log.Line
import Conveyor.Proofs.Shutdown
