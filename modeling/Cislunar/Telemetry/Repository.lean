import Cislunar.Telemetry.Storage

/-!
The repository as one interface: a call, what it takes from its surroundings, and its effect.

Each call is one atomic step on the tables; histories are finite sequences of calls.
-/

namespace Cislunar

open Foundation

/-- What a repository call takes from its surroundings. -/
structure Surroundings where
  /-- The identifiers generated by successive attempts. -/
  uuid4 : Nat → UUID
  /-- `utc_now()`. -/
  now : Time

/-- The public operations of `TelemetryRepository` with their arguments. -/
inductive RepoCall where
  | recordDelivery (delivery : Delivery) (receiptId : Option UUID)
  | rejectDelivery (receiptId : UUID) (reason : String) (parsedIdentifiers : Option JsonObject)
      (actorIdentity : String)
  | acceptPacketAndCreateJob (receiptId : UUID) (values : DecodedTelemetryValues)
      (maxAttempts : Int) (actorIdentity : String)
  | markJobQueued (jobId : UUID) (queueMessageId actorIdentity : String)
  | claimProcessingJob (jobId : UUID) (workerId : String) (leaseSeconds : Int)
  | completeProcessingJob (jobId : UUID) (result : ProcessingResultValues) (workerId : String)
      (processedAt : Option Time)
  | failProcessingAttempt (jobId : UUID) (workerId reason : String) (temporary : Bool)
      (baseBackoffSeconds : Int) (now : Option Time)
  | recordAuditEvent (event : TelemetryAuditEvent)
  | pendingQueueJobs (limit : Nat)
  | recoverableQueueJobs (limit : Nat)
  | getDelivery (receiptId : UUID)
  | getPacket (packetId : String)
  | getProcessed (packetId : String)
  | getJob (jobId : UUID)
  | getJobForPacket (packetId : String)
  | listAuditEvents (limit : Nat)
  | processingQueueDepth

namespace RepoCall

/-- What a call returns. -/
@[reducible] def Reply : RepoCall → Type
  | recordDelivery _ _ | rejectDelivery _ _ _ _ => DeliveryRecordResult
  | acceptPacketAndCreateJob _ _ _ _ => PacketAcceptanceResult
  | markJobQueued _ _ _ => Bool
  | claimProcessingJob _ _ _ => Option TelemetryWorkItem
  | completeProcessingJob _ _ _ _ => ProcessedTelemetry
  | failProcessingAttempt _ _ _ _ _ _ => ProcessingFailureResult
  | recordAuditEvent _ => TelemetryAuditEvent
  | pendingQueueJobs _ | recoverableQueueJobs _ => List UUID
  | getDelivery _ => Option TelemetryDeliveryReceipt
  | getPacket _ => Option LogicalTelemetryPacket
  | getProcessed _ => Option ProcessedTelemetry
  | getJob _ | getJobForPacket _ => Option TelemetryProcessingJob
  | listAuditEvents _ => List TelemetryAuditEvent
  | processingQueueDepth => Nat

/-- The transactions a call runs. -/
def program (env : Surroundings) : (call : RepoCall) → Repo call.Reply
  | recordDelivery delivery receiptId => Cislunar.recordDelivery delivery receiptId env.uuid4
  | rejectDelivery receiptId reason parsedIdentifiers actorIdentity =>
    Cislunar.rejectDelivery receiptId reason parsedIdentifiers actorIdentity
  | acceptPacketAndCreateJob receiptId values maxAttempts actorIdentity =>
    Cislunar.acceptPacketAndCreateJob receiptId values
      { maxAttempts := maxAttempts, actorIdentity := actorIdentity, now := env.now } env.uuid4
  | markJobQueued jobId queueMessageId actorIdentity =>
    Cislunar.markJobQueued jobId queueMessageId actorIdentity
  | claimProcessingJob jobId workerId leaseSeconds =>
    Cislunar.claimProcessingJob jobId workerId env.now leaseSeconds
  | completeProcessingJob jobId result workerId processedAt =>
    Cislunar.completeProcessingJob jobId result workerId (processedAt.getD env.now)
  | failProcessingAttempt jobId workerId reason temporary baseBackoffSeconds now =>
    Cislunar.failProcessingAttempt jobId workerId reason temporary (now.getD env.now)
      baseBackoffSeconds
  | recordAuditEvent event => Cislunar.recordAuditEvent event
  | pendingQueueJobs limit => Cislunar.pendingQueueJobs limit env.now
  | recoverableQueueJobs limit => Cislunar.recoverableQueueJobs limit env.now
  | getDelivery receiptId => Cislunar.getDelivery receiptId
  | getPacket packetId => Cislunar.getPacket packetId
  | getProcessed packetId => Cislunar.getProcessed packetId
  | getJob jobId => Cislunar.getJob jobId
  | getJobForPacket packetId => Cislunar.getJobForPacket packetId
  | listAuditEvents limit => Cislunar.listAuditEvents limit
  | processingQueueDepth => Cislunar.processingQueueDepth

/-- The effect of a call that nothing interrupts. -/
def exec (env : Surroundings) (call : RepoCall) (db : Database) :
    Except StorageError call.Reply × Database :=
  serially Stmt.exec (call.program env) db

/-- The calls that only read. -/
def isRead : RepoCall → Bool
  | pendingQueueJobs _ | recoverableQueueJobs _ | getDelivery _ | getPacket _ | getProcessed _
  | getJob _ | getJobForPacket _ | listAuditEvents _ | processingQueueDepth => true
  | _ => false

end RepoCall

/-- Databases that calls with any arguments, in any order, lead to. -/
inductive Reachable : Database → Prop where
  | empty : Reachable .empty
  | call {db : Database} (env : Surroundings) (call : RepoCall) (before : Reachable db) :
      Reachable (call.exec env db).2

/-- The database a history of calls leads to from the empty one. -/
def databaseAfter (history : List (Surroundings × RepoCall)) : Database :=
  history.foldl (fun db step => (step.2.exec step.1 db).2) .empty

/-- Every history leads to a reachable database. -/
theorem reachable_databaseAfter (history : List (Surroundings × RepoCall)) :
    Reachable (databaseAfter history) := by
  -- On the history, from any reachable tables.
  have continued : ∀ db, Reachable db →
      Reachable (history.foldl (fun db step => (step.2.exec step.1 db).2) db) := by
    induction history with
    | nil => exact fun _ before => before
    | cons step rest ih => exact fun db before => ih _ (.call step.1 step.2 before)
  exact continued .empty .empty

end Cislunar
