import Cislunar.Telemetry.InterfaceRules
import Cislunar.Proofs.Telemetry.Codec
import Cislunar.Proofs.Telemetry.Corruption
import Cislunar.Runtime.Hash
import Cislunar.Runtime.Uuid
import Cislunar.Runtime.Json
import Cislunar.Proofs.Runtime.Json
import Cislunar.Proofs.Runtime.Uuid
import Cislunar.Proofs.Runtime.Decimal
import Cislunar.Foundation.Binary64
import Cislunar.Foundation.Crc
import Cislunar.Foundation.Regex
import Cislunar.Foundation.Table
import Cislunar.Foundation.Program
import Cislunar.Foundation.Triple
import Cislunar.Foundation.Observer
import Cislunar.Foundation.Outlook
import Cislunar.Foundation.Memory
import Cislunar.Foundation.Confined
import Cislunar.Foundation.Role
import Cislunar.Foundation.Interleaving
import Cislunar.Foundation.ReadCommitted
import Cislunar.Telemetry.Records
import Cislunar.Telemetry.Sequence
import Cislunar.Telemetry.Sessions
import Cislunar.Telemetry.Storage
import Cislunar.Telemetry.IdentityMap
import Cislunar.Telemetry.Outcome
import Cislunar.Telemetry.Repository
import Cislunar.Telemetry.Isolation
import Cislunar.Proofs.Telemetry.Storage
import Cislunar.Proofs.Telemetry.Effect
import Cislunar.Proofs.Telemetry.Evidence
import Cislunar.Proofs.Telemetry.Accounting
import Cislunar.Proofs.Telemetry.Ledger
import Cislunar.Proofs.Telemetry.Columns
import Cislunar.Proofs.Telemetry.AppendOnly
import Cislunar.Proofs.Telemetry.Sessions
import Cislunar.Proofs.Telemetry.ArrivalOrder
import Cislunar.Foundation.Runs
import Cislunar.Proofs.Services.Iteration
import Cislunar.Proofs.Telemetry.PacketId
import Cislunar.Proofs.Telemetry.Acceptance
import Cislunar.Proofs.Telemetry.AcceptanceRaces
import Cislunar.Proofs.Telemetry.RequestRaces
import Cislunar.Proofs.Telemetry.Sequence
import Cislunar.Runtime.Redis
import Cislunar.Telemetry.Queue
import Cislunar.Telemetry.QueueEntries
import Cislunar.Proofs.Telemetry.QueueEntries
import Cislunar.Proofs.Telemetry.QueueRefinement
import Cislunar.Proofs.Telemetry.Queue
import Cislunar.Proofs.Telemetry.Jobs
import Cislunar.Proofs.Telemetry.JobRecord
import Cislunar.Proofs.Telemetry.Leases
import Cislunar.Proofs.Telemetry.AuditEntries
import Cislunar.Proofs.Telemetry.AuditLog
import Cislunar.Common.Packet
import Cislunar.Common.Sequence
import Cislunar.Common.Commands
import Cislunar.Proofs.Common.Packet
import Cislunar.Proofs.Common.Sequence
import Cislunar.Services.System
import Cislunar.Services.VendorSimulator
import Cislunar.Services.VendorForwarder
import Cislunar.Services.GroundApi
import Cislunar.Services.PayloadWorker
import Cislunar.Services.Schedule
import Cislunar.Proofs.Services.CrossStore
import Cislunar.Proofs.Services.Requests
import Cislunar.Proofs.Services.Processes
import Cislunar.Proofs.Services.Gateway
import Cislunar.Proofs.Services.Agreement
import Cislunar.Proofs.Telemetry.Health
import Cislunar.Proofs.Services.Results
import Cislunar.Proofs.Services.Readable
import Cislunar.Proofs.Services.Recovery
import Cislunar.Proofs.Services.Replay
import Cislunar.Proofs.Services.Queueing
import Cislunar.Proofs.Services.Workers
import Cislunar.Proofs.Services.Answers
import Cislunar.Proofs.Services.Deliveries
import Cislunar.Proofs.Services.VendorSimulator
import Cislunar.Proofs.Services.Verdicts
import Cislunar.Proofs.Services.Reports
import Cislunar.Proofs.Services.VendorFrames
import Cislunar.Proofs.Services.VendorLink
import Cislunar.Proofs.Services.Forwarding
import Cislunar.Proofs.Services.Submissions
import Cislunar.Proofs.Services.Identifiers
import Cislunar.Proofs.Services.IdentifierPatterns
import Cislunar.Proofs.Services.CanonicalUuid
import Cislunar.Proofs.Services.Credentials
import Cislunar.Services.SpacecraftSim
import Cislunar.Proofs.Services.SpacecraftSim
import Cislunar.Services.CommandPath
import Cislunar.Proofs.Services.CommandPath
import Cislunar.Common.Health
import Cislunar.Proofs.Common.Health
import Cislunar.Services.Mission
import Cislunar.Foundation.Keeps
import Cislunar.Foundation.Turns
import Cislunar.Proofs.Services.Mission
import Cislunar.Proofs.Services.Commanding
import Cislunar.Proofs.Services.Preservation
import Cislunar.Services.ReadRoutes
import Cislunar.Proofs.Services.ReadRoutes
import Cislunar.Foundation.Solo
import Cislunar.Proofs.Services.Drain
import Cislunar.Proofs.Services.Restart
import Cislunar.Services.HealthPath
import Cislunar.Proofs.Common.Limits
import Cislunar.Proofs.Services.HealthPath
import Cislunar.Proofs.Services.Alarms
import Cislunar.Services.Losses
import Cislunar.Proofs.Services.Losses
import Cislunar.Foundation.Mailbox
import Cislunar.Services.Stream
import Cislunar.Proofs.Services.Stream
