import Cislunar.Foundation.Table
import Cislunar.Telemetry.Records
import Mathlib.Data.List.Sort

/-!
The telemetry tables and the effect of one SQL statement on them.

Primary keys, unique constraints and check constraints are enforced by the statements that insert.
Rows are never deleted, and foreign keys always lead to rows the same transaction has read or added.
-/

namespace Cislunar

open Foundation

/-- `MAX_UINT32`. -/
def maxUint32 : Int := 4294967295

/-- `HALF_UINT32_RANGE`. -/
def halfUint32Range : Int := 2147483648

/-- `MAX_EVIDENCE_BODY_BYTES`. -/
def maxEvidenceBodyBytes : Nat := 1024

/-- The seven telemetry tables. -/
structure Database where
  receipts : Table TelemetryDeliveryReceipt.receiptId := .empty
  identities : Table TelemetryRequestIdentity.requestId := .empty
  packets : Table LogicalTelemetryPacket.packetId := .empty
  states : Table TelemetrySequenceState.session := .empty
  jobs : Table TelemetryProcessingJob.jobId := .empty
  processed : Table ProcessedTelemetry.packetId := .empty
  /-- In commit order. -/
  auditEvents : List TelemetryAuditEvent := []

namespace Database

/-- The schema right after its creation. -/
def empty : Database := {}

/-- Constraints of `telemetry_delivery_receipts`. -/
def AdmitsReceipt (db : Database) (row : TelemetryDeliveryReceipt) : Prop :=
  db.receipts.get? row.receiptId = none ∧ row.rawBodySize ≤ maxEvidenceBodyBytes

/-- Constraints of `telemetry_request_identities`. -/
def AdmitsIdentity (db : Database) (row : TelemetryRequestIdentity) : Prop :=
  db.identities.get? row.requestId = none ∧
    ∀ other ∈ db.identities.rows, other.firstReceiptId ≠ row.firstReceiptId

/-- Constraints of `logical_telemetry_packets`. -/
def AdmitsPacket (db : Database) (row : LogicalTelemetryPacket) : Prop :=
  db.packets.get? row.packetId = none ∧
    (∀ other ∈ db.packets.rows, other.sourceReceiptId ≠ row.sourceReceiptId) ∧
    (∀ other ∈ db.packets.rows, other.values.sourceKey ≠ row.values.sourceKey) ∧
    0 < row.values.payloadId ∧ 0 < row.values.bootId ∧
    0 ≤ row.values.sequenceNumber ∧ row.values.sequenceNumber ≤ maxUint32

/-- Constraints of `telemetry_sequence_states`. -/
def AdmitsState (db : Database) (row : TelemetrySequenceState) : Prop :=
  db.states.get? row.session = none ∧ 0 < row.payloadId ∧ 0 < row.bootId ∧
    0 ≤ row.highWaterSequence ∧ row.highWaterSequence ≤ maxUint32

/-- Constraints of `telemetry_processing_jobs`. -/
def AdmitsJob (db : Database) (row : TelemetryProcessingJob) : Prop :=
  db.jobs.get? row.jobId = none ∧ (∀ other ∈ db.jobs.rows, other.packetId ≠ row.packetId) ∧
    0 < row.maxAttempts

/-- Constraints of `processed_telemetry`. -/
def AdmitsProcessed (db : Database) (row : ProcessedTelemetry) : Prop :=
  db.processed.get? row.packetId = none ∧
    ∀ other ∈ db.processed.rows, other.processingJobId ≠ row.processingJobId

instance (db : Database) (row : TelemetryDeliveryReceipt) : Decidable (db.AdmitsReceipt row) :=
  inferInstanceAs (Decidable (_ ∧ _))

instance (db : Database) (row : TelemetryRequestIdentity) : Decidable (db.AdmitsIdentity row) :=
  inferInstanceAs (Decidable (_ ∧ _))

instance (db : Database) (row : LogicalTelemetryPacket) : Decidable (db.AdmitsPacket row) :=
  inferInstanceAs (Decidable (_ ∧ _))

instance (db : Database) (row : TelemetrySequenceState) : Decidable (db.AdmitsState row) :=
  inferInstanceAs (Decidable (_ ∧ _))

instance (db : Database) (row : TelemetryProcessingJob) : Decidable (db.AdmitsJob row) :=
  inferInstanceAs (Decidable (_ ∧ _))

instance (db : Database) (row : ProcessedTelemetry) : Decidable (db.AdmitsProcessed row) :=
  inferInstanceAs (Decidable (_ ∧ _))

/-- The packet under a source key. -/
def packetBySource (db : Database) (source : Int × Int × Int) : Option LogicalTelemetryPacket :=
  db.packets.find? fun packet => packet.values.sourceKey = source

/-- The job of a packet. -/
def jobByPacket (db : Database) (packetId : String) : Option TelemetryProcessingJob :=
  db.jobs.find? fun job => job.packetId = packetId

/-- The accepted receipts of a packet. -/
def acceptedReceipts (db : Database) (packetId : String) : List TelemetryDeliveryReceipt :=
  db.receipts.rows.filter fun receipt =>
    receipt.logicalPacketId = some packetId ∧ receipt.validationStatus = .accepted

end Database

/-- Whether an optional instant is set and not after another. -/
def isDue (instant : Option Time) (now : Time) : Bool :=
  instant.any (· ≤ now)

/-- The `where` clause of `recoverable_queue_jobs`. -/
def TelemetryProcessingJob.isRecoverable (now : Time) (job : TelemetryProcessingJob) : Bool :=
  job.state = .pendingQueue ∨ job.state = .queued ∨
    (job.state = .retryWait ∧ isDue job.nextAttemptAt now)

/-- The `where` clause of `pending_queue_jobs`. -/
def TelemetryProcessingJob.isPending (now : Time) (job : TelemetryProcessingJob) : Bool :=
  job.state = .pendingQueue ∨ (job.state = .retryWait ∧ isDue job.nextAttemptAt now)

/-- The `where` clause of `processing_queue_depth`. -/
def TelemetryProcessingJob.isOpen (job : TelemetryProcessingJob) : Bool :=
  job.state ≠ .complete ∧ job.state ≠ .failed

/-- One SQL statement of the repository. -/
inductive Stmt where
  | selectReceipt (receiptId : UUID) (forUpdate : Bool)
  /-- Always `FOR UPDATE`. -/
  | selectIdentity (requestId : UUID)
  | selectPacket (packetId : String)
  /-- Always `FOR UPDATE`. -/
  | selectPacketBySource (source : Int × Int × Int)
  /-- Always `FOR UPDATE`. -/
  | selectState (session : Int × Int)
  | selectJob (jobId : UUID) (forUpdate : Bool)
  | selectJobByPacket (packetId : String)
  | selectProcessed (packetId : String)
  | selectAcceptedReceipts (packetId : String)
  /-- The identifiers of the jobs that satisfy a condition, oldest first. -/
  | selectJobs (condition : TelemetryProcessingJob → Bool) (limit : Nat)
  /-- The number of jobs that satisfy a condition. -/
  | countJobs (condition : TelemetryProcessingJob → Bool)
  /-- The latest audit events, newest first. -/
  | selectAuditEvents (limit : Nat)
  | insertReceipt (row : TelemetryDeliveryReceipt)
  | insertIdentity (row : TelemetryRequestIdentity)
  | insertPacket (row : LogicalTelemetryPacket)
  | insertState (row : TelemetrySequenceState)
  | insertJob (row : TelemetryProcessingJob)
  | insertProcessed (row : ProcessedTelemetry)
  | insertAudit (event : TelemetryAuditEvent)
  /-- Write back a row that was read; the key selects it. -/
  | updateReceipt (row : TelemetryDeliveryReceipt)
  | updateState (row : TelemetrySequenceState)
  | updateJob (row : TelemetryProcessingJob)

namespace Stmt

/-- What a statement returns. -/
@[reducible] def Reply : Stmt → Type
  | selectReceipt _ _ => Option TelemetryDeliveryReceipt
  | selectIdentity _ => Option TelemetryRequestIdentity
  | selectPacket _ => Option LogicalTelemetryPacket
  | selectPacketBySource _ => Option LogicalTelemetryPacket
  | selectState _ => Option TelemetrySequenceState
  | selectJob _ _ => Option TelemetryProcessingJob
  | selectJobByPacket _ => Option TelemetryProcessingJob
  | selectProcessed _ => Option ProcessedTelemetry
  | selectAcceptedReceipts _ => List TelemetryDeliveryReceipt
  | selectJobs _ _ => List UUID
  | countJobs _ => Nat
  | selectAuditEvents _ => List TelemetryAuditEvent
  | insertReceipt _ | insertIdentity _ | insertPacket _ | insertState _ | insertJob _
  | insertProcessed _ | insertAudit _ | updateReceipt _ | updateState _ | updateJob _ => Unit

/-- Apply an insertion whose constraints hold; otherwise the statement fails and changes nothing. -/
def insertWhen (admitted : Prop) [Decidable admitted] (db next : Database) :
    Except StorageError Unit × Database :=
  if admitted then (.ok (), next) else (.error .integrity, db)

/-- The effect of one statement on the rows it sees. -/
def exec : (stmt : Stmt) → Database → Except StorageError stmt.Reply × Database
  | selectReceipt receiptId _, db => (.ok (db.receipts.get? receiptId), db)
  | selectIdentity requestId, db => (.ok (db.identities.get? requestId), db)
  | selectPacket packetId, db => (.ok (db.packets.get? packetId), db)
  | selectPacketBySource source, db => (.ok (db.packetBySource source), db)
  | selectState session, db => (.ok (db.states.get? session), db)
  | selectJob jobId _, db => (.ok (db.jobs.get? jobId), db)
  | selectJobByPacket packetId, db => (.ok (db.jobByPacket packetId), db)
  | selectProcessed packetId, db => (.ok (db.processed.get? packetId), db)
  | selectAcceptedReceipts packetId, db => (.ok (db.acceptedReceipts packetId), db)
  | selectJobs condition limit, db =>
    -- `ORDER BY created_at LIMIT limit`.
    let ordered := (db.jobs.rows.filter condition).insertionSort (·.createdAt ≤ ·.createdAt)
    (.ok ((ordered.take limit).map (·.jobId)), db)
  | countJobs condition, db => (.ok (db.jobs.rows.countP condition), db)
  | selectAuditEvents limit, db => (.ok (db.auditEvents.reverse.take limit), db)
  | insertReceipt row, db =>
    insertWhen (db.AdmitsReceipt row) db { db with receipts := db.receipts.insert row }
  | insertIdentity row, db =>
    insertWhen (db.AdmitsIdentity row) db { db with identities := db.identities.insert row }
  | insertPacket row, db =>
    insertWhen (db.AdmitsPacket row) db { db with packets := db.packets.insert row }
  | insertState row, db =>
    insertWhen (db.AdmitsState row) db { db with states := db.states.insert row }
  | insertJob row, db =>
    insertWhen (db.AdmitsJob row) db { db with jobs := db.jobs.insert row }
  | insertProcessed row, db =>
    insertWhen (db.AdmitsProcessed row) db { db with processed := db.processed.insert row }
  | insertAudit event, db => (.ok (), { db with auditEvents := db.auditEvents ++ [event] })
  | updateReceipt row, db => (.ok (), { db with receipts := db.receipts.set row })
  | updateState row, db => (.ok (), { db with states := db.states.set row })
  | updateJob row, db => (.ok (), { db with jobs := db.jobs.set row })

end Stmt

end Cislunar
