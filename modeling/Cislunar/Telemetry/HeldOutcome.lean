import Cislunar.Telemetry.IdentityMap
import Cislunar.Telemetry.Outcome

/-!
What the operations that decide on a held object can do, one relation per operation.

The object decides and answers; the row that the operation leaves has the columns that the operation
changed in the object, and keeps the others.
-/

namespace Cislunar

open Foundation

namespace Database

/-- A database in which one receipt keeps the columns that a held object did not change. -/
def keepReceipt (after : Database) (row object : TelemetryDeliveryReceipt) : Database :=
  { after with
    receipts := match after.receipts.get? row.receiptId with
      | some changed => after.receipts.set (row.flush object changed)
      | none => after.receipts }

/-- A database in which one job keeps the columns that a held object did not change. -/
def keepJob (after : Database) (row object : TelemetryProcessingJob) : Database :=
  { after with
    jobs := match after.jobs.get? row.jobId with
      | some changed => after.jobs.set (row.flush object changed)
      | none => after.jobs }

end Database

/-- What `reject_delivery` can do on a receipt that the session sees as an object. -/
inductive HeldRejectOutcome (db : Database) (row object : TelemetryDeliveryReceipt)
    (reason : String) (parsedIdentifiers : Option JsonObject) (actorIdentity : String) :
    Except StorageError DeliveryRecordResult × Database → Prop where
  | repeated (status : object.validationStatus = .rejected)
      (same : object.rejectionReason = some reason) :
      HeldRejectOutcome db row object reason parsedIdentifiers actorIdentity
        (.ok (deliveryResult object true false), db)
  | refused (status : object.validationStatus ≠ .pending) (message : String) :
      HeldRejectOutcome db row object reason parsedIdentifiers actorIdentity
        (.error (.invalidDeliveryState message), db)
  | rejected (status : object.validationStatus = .pending) :
      HeldRejectOutcome db row object reason parsedIdentifiers actorIdentity
        (.ok (deliveryResult (rejectedReceipt object reason parsedIdentifiers) false false),
          (db.settle (rejectedReceipt object reason parsedIdentifiers)
            (rejectedEvent object.receiptId reason parsedIdentifiers actorIdentity)).keepReceipt
              row object)

/-- What `_accept_packet_transaction` can do on a receipt that the session sees as an object. -/
inductive HeldAcceptOutcome (db : Database) (row object : TelemetryDeliveryReceipt)
    (values : DecodedTelemetryValues) (jobId : UUID) (options : AcceptanceOptions) :
    Except StorageError PacketAcceptanceResult × Database → Prop where
  | replayed
      (status : object.validationStatus = .accepted ∨ object.validationStatus = .duplicate) :
      HeldAcceptOutcome db row object values jobId options
        (.ok (replayedAcceptance object (object.logicalPacketId.bind db.packets.get?)
          (object.logicalPacketId.bind db.jobByPacket)), db)
  | refused (status : object.validationStatus = .rejected ∨ object.validationStatus = .conflict)
      (message : String) :
      HeldAcceptOutcome db row object values jobId options
        (.error (.invalidDeliveryState message), db)
  | settled (status : object.validationStatus = .pending)
      {outcome : Except StorageError PacketAcceptanceResult × Database}
      (settles : SettleOutcome db object values jobId options outcome) :
      HeldAcceptOutcome db row object values jobId options
        (outcome.1, outcome.2.keepReceipt row object)

/-- What `mark_job_queued` can do on a job that the session sees as an object. -/
inductive HeldQueueOutcome (db : Database) (row object : TelemetryProcessingJob)
    (queueMessageId actorIdentity : String) : Except StorageError Bool × Database → Prop where
  | repeated (status : object.state = .queued)
      (same : object.queueMessageId = some queueMessageId) :
      HeldQueueOutcome db row object queueMessageId actorIdentity (.ok false, db)
  | renamed (status : object.state = .queued)
      (different : object.queueMessageId ≠ some queueMessageId) (message : String) :
      HeldQueueOutcome db row object queueMessageId actorIdentity
        (.error (.invalidDeliveryState message), db)
  | refused (status : object.state ≠ .queued ∧ object.state ≠ .pendingQueue ∧
        object.state ≠ .retryWait) (message : String) :
      HeldQueueOutcome db row object queueMessageId actorIdentity
        (.error (.invalidDeliveryState message), db)
  | queued (status : object.state = .pendingQueue ∨ object.state = .retryWait) :
      HeldQueueOutcome db row object queueMessageId actorIdentity
        (.ok true, (db.queue object queueMessageId actorIdentity).keepJob row object)

end Cislunar
