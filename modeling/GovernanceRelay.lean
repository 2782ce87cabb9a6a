import GovernanceRelay.Review
import GovernanceRelay.Dispatcher
import GovernanceRelay.Snapshot
import GovernanceRelay.Json.Batch
import GovernanceRelay.Counters
import GovernanceRelay.LogFilter
import GovernanceRelay.Disk
import GovernanceRelay.Settings.Document
import GovernanceRelay.Storage
import GovernanceRelay.Console
import GovernanceRelay.Main
import GovernanceRelay.Proofs.FirstFault
import GovernanceRelay.Proofs.Wire.Canonical
import GovernanceRelay.Proofs.Wire.Ending
import GovernanceRelay.Proofs.Wire.Cut
import GovernanceRelay.Proofs.Wire.Reader
import GovernanceRelay.Proofs.Receiver.Delivery
import GovernanceRelay.Proofs.Receiver.History
import GovernanceRelay.Proofs.Review.FirstOffence
import GovernanceRelay.Proofs.Governance.Request
import GovernanceRelay.Proofs.Receiver.AtMostOnce
import GovernanceRelay.Proofs.OrderedMap
import GovernanceRelay.Proofs.Dispatcher.Sending
import GovernanceRelay.Proofs.Dispatcher.Outbox
import GovernanceRelay.Proofs.Bridge
import GovernanceRelay.Proofs.EndToEnd
import GovernanceRelay.Proofs.Course
import GovernanceRelay.Proofs.Authority
import GovernanceRelay.Proofs.Handover.Plan
import GovernanceRelay.Proofs.Handover.Gaps
import GovernanceRelay.Proofs.AllowList
import GovernanceRelay.Proofs.AllowList.AuditLog
import GovernanceRelay.Proofs.AllowList.Updates
import GovernanceRelay.Proofs.Governance.Granted
import GovernanceRelay.Proofs.Governance.Invariant
import GovernanceRelay.Proofs.Timelock.Granted
import GovernanceRelay.Proofs.Timelock.Lifecycle
import GovernanceRelay.Proofs.Timelock.Stepwise
import GovernanceRelay.Proofs.Timelock.Admins
import GovernanceRelay.Proofs.Forwarding.Effect
import GovernanceRelay.Proofs.Forwarding.Reviewed
import GovernanceRelay.Proofs.Layout.Canonical
import GovernanceRelay.Proofs.Governance.Admins
import GovernanceRelay.Proofs.Governance.HandingOver
import GovernanceRelay.Proofs.Governance.Attained
import GovernanceRelay.Proofs.Snapshot.Form
import GovernanceRelay.Proofs.Snapshot.Restoring
import GovernanceRelay.Proofs.Snapshot.Unchecked
import GovernanceRelay.Proofs.Settings.Seed
import GovernanceRelay.Proofs.Storage
import GovernanceRelay.Proofs.Console.Actions
import GovernanceRelay.Proofs.Console.Commands
import GovernanceRelay.Proofs.Console.OneGovernance
import GovernanceRelay.Proofs.Receiver.Trust
import GovernanceRelay.Proofs.Receiver.AnyOrder
import GovernanceRelay.Executor
import GovernanceRelay.Proofs.Receiver.Restart
import GovernanceRelay.Proofs.Receiver.Attempts
import GovernanceRelay.Proofs.Review.Carried
import GovernanceRelay.Proofs.Identity
import GovernanceRelay.Proofs.Console.Review
import GovernanceRelay.Proofs.Settings.Valid
import GovernanceRelay.Proofs.Json.RoundTrip
import GovernanceRelay.Proofs.Disk
import GovernanceRelay.Proofs.Identifier.Grammar
import GovernanceRelay.Proofs.Governance.ZeroAddress
import GovernanceRelay.Proofs.Console.Tally
import GovernanceRelay.Proofs.Console.Counting
import GovernanceRelay.Proofs.Console.Export
