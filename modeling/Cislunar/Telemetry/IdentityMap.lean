import Cislunar.Foundation.Memory
import Cislunar.Telemetry.Postgres

/-!
The objects that a session still holds when it calls the repository again.

The sessions are made with `expire_on_commit=False`, and no query asks for `populate_existing`: a row
that is selected again is answered with the object that the session holds, as it was loaded. A flush
writes the columns of an object whose value differs from the loaded one.
-/

namespace Cislunar

open Foundation

/-- The rows that a session has loaded and that the caller of the repository still refers to. -/
structure Held where
  receipt : Option TelemetryDeliveryReceipt := none
  job : Option TelemetryProcessingJob := none
  deriving DecidableEq

/-- A column after a flush: the value that was set is written if it differs from the loaded one. -/
def flushColumn {α : Type} [DecidableEq α] (stored loaded changed : α) : α :=
  if changed = loaded then stored else changed

/-- The row of a receipt after the flush of an object that was loaded and changed. -/
def TelemetryDeliveryReceipt.flush (row loaded changed : TelemetryDeliveryReceipt) :
    TelemetryDeliveryReceipt where
  receiptId := row.receiptId
  presentedRequestId :=
    flushColumn row.presentedRequestId loaded.presentedRequestId changed.presentedRequestId
  canonicalRequestId :=
    flushColumn row.canonicalRequestId loaded.canonicalRequestId changed.canonicalRequestId
  peerCertificateIdentity := flushColumn row.peerCertificateIdentity
    loaded.peerCertificateIdentity changed.peerCertificateIdentity
  contentType := flushColumn row.contentType loaded.contentType changed.contentType
  vendorSentAt := flushColumn row.vendorSentAt loaded.vendorSentAt changed.vendorSentAt
  receivedAt := flushColumn row.receivedAt loaded.receivedAt changed.receivedAt
  rawBody := flushColumn row.rawBody loaded.rawBody changed.rawBody
  rawBodySize := flushColumn row.rawBodySize loaded.rawBodySize changed.rawBodySize
  bodySha256 := flushColumn row.bodySha256 loaded.bodySha256 changed.bodySha256
  validationStatus :=
    flushColumn row.validationStatus loaded.validationStatus changed.validationStatus
  rejectionReason := flushColumn row.rejectionReason loaded.rejectionReason changed.rejectionReason
  parsedIdentifiers :=
    flushColumn row.parsedIdentifiers loaded.parsedIdentifiers changed.parsedIdentifiers
  duplicateOfReceiptId :=
    flushColumn row.duplicateOfReceiptId loaded.duplicateOfReceiptId changed.duplicateOfReceiptId
  logicalPacketId := flushColumn row.logicalPacketId loaded.logicalPacketId changed.logicalPacketId
  queueStatus := flushColumn row.queueStatus loaded.queueStatus changed.queueStatus

/-- The row of a job after the flush of an object that was loaded and changed. -/
def TelemetryProcessingJob.flush (row loaded changed : TelemetryProcessingJob) :
    TelemetryProcessingJob where
  jobId := row.jobId
  packetId := flushColumn row.packetId loaded.packetId changed.packetId
  state := flushColumn row.state loaded.state changed.state
  queueMessageId := flushColumn row.queueMessageId loaded.queueMessageId changed.queueMessageId
  attemptCount := flushColumn row.attemptCount loaded.attemptCount changed.attemptCount
  maxAttempts := flushColumn row.maxAttempts loaded.maxAttempts changed.maxAttempts
  claimedBy := flushColumn row.claimedBy loaded.claimedBy changed.claimedBy
  claimedAt := flushColumn row.claimedAt loaded.claimedAt changed.claimedAt
  leaseExpiresAt := flushColumn row.leaseExpiresAt loaded.leaseExpiresAt changed.leaseExpiresAt
  nextAttemptAt := flushColumn row.nextAttemptAt loaded.nextAttemptAt changed.nextAttemptAt
  lastError := flushColumn row.lastError loaded.lastError changed.lastError
  failedAt := flushColumn row.failedAt loaded.failedAt changed.failedAt
  completedAt := flushColumn row.completedAt loaded.completedAt changed.completedAt
  createdAt := flushColumn row.createdAt loaded.createdAt changed.createdAt

namespace Held

/-- What a session sees of a receipt that a query finds. -/
def seeReceipt (held : Held) (row : TelemetryDeliveryReceipt) : TelemetryDeliveryReceipt :=
  match held.receipt with
  | some object => if object.receiptId = row.receiptId then object else row
  | none => row

/-- What a session sees of a job that a query finds. -/
def seeJob (held : Held) (row : TelemetryProcessingJob) : TelemetryProcessingJob :=
  match held.job with
  | some object => if object.jobId = row.jobId then object else row
  | none => row

/-- Write back a changed receipt: the columns that a held object has changed, or the row just read. -/
def storeReceipt (held : Held) (changed : TelemetryDeliveryReceipt) (db : Database) : Database :=
  { db with
    receipts := match db.receipts.get? changed.receiptId with
      | some row => db.receipts.set (row.flush (held.seeReceipt row) changed)
      | none => db.receipts }

/-- Write back a changed job: the columns that a held object has changed, or the row just read. -/
def storeJob (held : Held) (changed : TelemetryProcessingJob) (db : Database) : Database :=
  { db with
    jobs := match db.jobs.get? changed.jobId with
      | some row => db.jobs.set (row.flush (held.seeJob row) changed)
      | none => db.jobs }

/-- The held objects after a receipt was changed. -/
def changeReceipt (held : Held) (changed : TelemetryDeliveryReceipt) : Held :=
  { held with receipt := held.receipt.map fun object =>
      if object.receiptId = changed.receiptId then changed else object }

/-- The held objects after a job was changed. -/
def changeJob (held : Held) (changed : TelemetryProcessingJob) : Held :=
  { held with job := held.job.map fun object =>
      if object.jobId = changed.jobId then changed else object }

/-- Every held object is the current row. -/
def isCurrent (held : Held) (db : Database) : Bool :=
  (held.receipt.all fun object => db.receipts.get? object.receiptId = some object) &&
    held.job.all fun object => db.jobs.get? object.jobId = some object

end Held

namespace Stmt

/-- The effect of a statement in a session that holds some objects. -/
def execHolding : (stmt : Stmt) → Held × Database → Except StorageError stmt.Reply × Held × Database
  | selectReceipt receiptId _, (held, db) =>
    (.ok ((db.receipts.get? receiptId).map held.seeReceipt), held, db)
  | selectJob jobId _, (held, db) => (.ok ((db.jobs.get? jobId).map held.seeJob), held, db)
  | selectJobByPacket packetId, (held, db) =>
    (.ok ((db.jobByPacket packetId).map held.seeJob), held, db)
  | selectAcceptedReceipts packetId, (held, db) =>
    (.ok ((db.acceptedReceipts packetId).map held.seeReceipt), held, db)
  | updateReceipt changed, (held, db) =>
    (.ok (), held.changeReceipt changed, held.storeReceipt changed db)
  | updateJob changed, (held, db) => (.ok (), held.changeJob changed, held.storeJob changed db)
  -- The tables without held objects, and the queries that load no object.
  | stmt, (held, db) => ((stmt.exec db).1, held, (stmt.exec db).2)

end Stmt

namespace RepoCall

/-- The effect of a call by a session that holds some objects; a rollback expires them. -/
def execHolding (env : Surroundings) (call : RepoCall) (held : Held) (db : Database) :
    Except StorageError call.Reply × Database :=
  remembering Stmt.execHolding {} (call.program env) held db

end RepoCall

end Cislunar
