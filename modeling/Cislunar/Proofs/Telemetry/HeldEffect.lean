import Cislunar.Proofs.Telemetry.IdentityMap
import Cislunar.Proofs.Telemetry.LooseLedger

/-!
What a call of a session that holds objects can do to the tables, whichever call it is.

A held receipt that decides is pending, so it is the evidence of its row; the row may have been
settled since. A held job that decides is an earlier version of its row.
-/

namespace Cislunar

open Foundation

/-- A row after its evidence was loaded as a pending receipt, changed and written back. -/
def TelemetryDeliveryReceipt.resettle (row changed : TelemetryDeliveryReceipt) :
    TelemetryDeliveryReceipt :=
  row.flush row.evidence changed

/-- A row after an earlier version of it was loaded, queued and written back. -/
def TelemetryProcessingJob.requeue (row object : TelemetryProcessingJob) (queueMessageId : String) :
    TelemetryProcessingJob :=
  row.flush object (queuedJob object queueMessageId)

/-- The databases that one call of a session with held objects can leave. -/
inductive HeldEffect (db : Database) : Database → Prop where
  | unchanged : HeldEffect db db
  | audited (event : TelemetryAuditEvent) :
      HeldEffect db { db with auditEvents := db.auditEvents ++ [event] }
  | anonymous {delivery : Delivery} {receiptId : UUID}
      (unnamed : delivery.canonicalRequestId = none)
      (admitted : db.AdmitsReceipt (delivery.receipt receiptId none))
      (event : TelemetryAuditEvent) :
      HeldEffect db (db.addReceipt (delivery.receipt receiptId none) event)
  | first {delivery : Delivery} {receiptId requestId : UUID}
      (named : delivery.canonicalRequestId = some requestId)
      (admitted : db.AdmitsReceipt (delivery.receipt receiptId none))
      (unowned : db.AdmitsIdentity ⟨requestId, receiptId, sha256Hex delivery.rawBody⟩)
      (event : TelemetryAuditEvent) :
      HeldEffect db (db.addOwner (delivery.receipt receiptId none)
        ⟨requestId, receiptId, sha256Hex delivery.rawBody⟩ event)
  | reused {delivery : Delivery} {receiptId : UUID} {owner : TelemetryRequestIdentity}
      {original : TelemetryDeliveryReceipt}
      (named : delivery.canonicalRequestId = some owner.requestId) (owned : owner ∈ db.identities)
      (present : original ∈ db.receipts) (link : original.receiptId = owner.firstReceiptId)
      (different : ¬(owner.bodySha256 = sha256Hex delivery.rawBody ∧
        original.rawBody = delivery.rawBody))
      (admitted : db.AdmitsReceipt (delivery.receipt receiptId (some original)))
      (event : TelemetryAuditEvent) :
      HeldEffect db (db.addReceipt (delivery.receipt receiptId (some original)) event)
  | rejected {row : TelemetryDeliveryReceipt} (member : row ∈ db.receipts)
      (backed : ReceiptBacked db row.evidence) (reason : String)
      (parsedIdentifiers : Option JsonObject) (event : TelemetryAuditEvent) :
      HeldEffect db
        (db.settle (row.resettle (rejectedReceipt row.evidence reason parsedIdentifiers)) event)
  | duplicated {row origin : TelemetryDeliveryReceipt} {values : DecodedTelemetryValues}
      {existing : LogicalTelemetryPacket} (member : row ∈ db.receipts)
      (backed : ReceiptBacked db row.evidence) (stored : existing ∈ db.packets)
      (key : existing.values.sourceKey = values.sourceKey)
      (source : db.receipts.get? existing.sourceReceiptId = some origin)
      (digest : existing.rawSha256 = row.bodySha256) (same : origin.rawBody = row.rawBody)
      (event : TelemetryAuditEvent) :
      HeldEffect db
        (db.settle (row.resettle (duplicateReceipt row.evidence values existing)) event)
  | conflicted {row : TelemetryDeliveryReceipt} {values : DecodedTelemetryValues}
      {existing : LogicalTelemetryPacket} (member : row ∈ db.receipts)
      (backed : ReceiptBacked db row.evidence) (stored : existing ∈ db.packets)
      (key : existing.values.sourceKey = values.sourceKey)
      (different : ∀ origin, db.receipts.get? existing.sourceReceiptId = some origin →
        existing.rawSha256 = row.bodySha256 → origin.rawBody ≠ row.rawBody)
      (event : TelemetryAuditEvent) :
      HeldEffect db
        (db.settle (row.resettle (sequenceConflictReceipt row.evidence values existing)) event)
  | stateConflicted {row : TelemetryDeliveryReceipt} {values : DecodedTelemetryValues}
      {state : TelemetrySequenceState} (member : row ∈ db.receipts)
      (backed : ReceiptBacked db row.evidence)
      (range : 0 ≤ values.sequenceNumber ∧ values.sequenceNumber ≤ maxUint32)
      (unused : db.packetBySource values.sourceKey = none)
      (tracked : db.states.get? (values.payloadId, values.bootId) = some state)
      (onMark : forwardDistance values.sequenceNumber state.highWaterSequence = 0)
      (event : TelemetryAuditEvent) :
      HeldEffect db (db.settle (row.resettle (stateConflictReceipt row.evidence values)) event)
  | accepted {row : TelemetryDeliveryReceipt} {values : DecodedTelemetryValues}
      {sequenceState : Option TelemetrySequenceState} {disposition : PacketDisposition}
      {missingBefore : Int} {jobId : UUID} {options : AcceptanceOptions}
      (member : row ∈ db.receipts) (backed : ReceiptBacked db row.evidence)
      (tracked : db.states.get? (values.payloadId, values.bootId) = sequenceState)
      (position : sequencePosition values.sequenceNumber sequenceState =
        some (disposition, missingBefore))
      (packetAdmitted : db.AdmitsPacket (newPacket row.evidence values disposition missingBefore))
      (stateAdmitted : sequenceState = none → db.AdmitsState (firstState values missingBefore))
      (jobAdmitted : db.AdmitsJob (newJob jobId values.packetId options.maxAttempts options.now)) :
      HeldEffect db
        { db.addPacket row.evidence values sequenceState disposition missingBefore jobId options with
          receipts := db.receipts.set (row.resettle (acceptedReceipt row.evidence values)) }
  | queued {row object : TelemetryProcessingJob} (member : row ∈ db.jobs)
      (retains : JobRetains object row)
      (status : object.state = .pendingQueue ∨ object.state = .retryWait)
      (queueMessageId actorIdentity : String) :
      HeldEffect db { db.queue object queueMessageId actorIdentity with
        jobs := db.jobs.set (row.requeue object queueMessageId) }
  | closed {job : TelemetryProcessingJob} {processed : ProcessedTelemetry} (member : job ∈ db.jobs)
      (done : db.processed.get? job.packetId = some processed) :
      HeldEffect db (db.move (closedJob job processed) [])
  | claimed {job : TelemetryProcessingJob} (member : job ∈ db.jobs)
      (undone : db.processed.get? job.packetId = none) {now : Time}
      (free : isClaimable job now = true) (workerId : String) (leaseSeconds : Int)
      (event : TelemetryAuditEvent) :
      HeldEffect db (db.move (claimedJob job workerId leaseSeconds now) [event])
  | completed {job : TelemetryProcessingJob} {result : ProcessingResultValues} {workerId : String}
      {completionTime : Time} (member : job ∈ db.jobs) (status : job.state = .processing)
      (owned : job.claimedBy = some workerId)
      (admitted : db.AdmitsProcessed (processedRow job result completionTime)) :
      HeldEffect db (db.complete job result workerId completionTime)
  | failed {job : TelemetryProcessingJob} (member : job ∈ db.jobs)
      (status : job.state = .processing) (reason : String) (temporary : Bool)
      (baseBackoffSeconds : Int) (failureTime : Time) (event : TelemetryAuditEvent) :
      HeldEffect db
        (db.move (jobAfterFailure job reason temporary baseBackoffSeconds failureTime) [event])

section Resettle
variable {row changed : TelemetryDeliveryReceipt}

/-- Taking the evidence of evidence changes nothing. -/
@[simp] theorem evidence_evidence (receipt : TelemetryDeliveryReceipt) :
    receipt.evidence.evidence = receipt.evidence := rfl

/-- A receipt that is settled again keeps its evidence. -/
theorem resettle_evidence (same : changed.evidence = row.evidence) :
    (row.resettle changed).evidence = row.evidence := flush_evidence same

/-- A new verdict is written whatever the old one was. -/
theorem resettle_validationStatus (settled : changed.validationStatus ≠ .pending) :
    (row.resettle changed).validationStatus = changed.validationStatus :=
  flushColumn_changed settled

/-- A new reason is written whatever the old one was. -/
theorem resettle_rejectionReason (named : changed.rejectionReason ≠ none) :
    (row.resettle changed).rejectionReason = changed.rejectionReason := flushColumn_changed named

/-- A new packet is written whatever the old one was. -/
theorem resettle_logicalPacketId (named : changed.logicalPacketId ≠ none) :
    (row.resettle changed).logicalPacketId = changed.logicalPacketId := flushColumn_changed named

/-- A new original is written whatever the old one was. -/
theorem resettle_duplicateOfReceiptId (named : changed.duplicateOfReceiptId ≠ none) :
    (row.resettle changed).duplicateOfReceiptId = changed.duplicateOfReceiptId :=
  flushColumn_changed named

/-- A new queue status is written whatever the old one was. -/
theorem resettle_queueStatus (other : changed.queueStatus ≠ .notApplicable) :
    (row.resettle changed).queueStatus = changed.queueStatus := flushColumn_changed other

/-- A receipt that is settled again retains what it has. -/
theorem retains_resettle (same : changed.evidence = row.evidence)
    (settled : changed.validationStatus ≠ .pending) : ReceiptRetains row (row.resettle changed) :=
  ⟨resettle_evidence same, fun _ => resettle_validationStatus settled ▸ settled⟩

/-- A row that is still pending is its evidence, and is written as it was changed. -/
theorem resettle_pristine (pristine : row.evidence = row) (same : changed.evidence = row.evidence) :
    row.resettle changed = changed := by
  -- The row is what was loaded, so the change is written as it is.
  rw [TelemetryDeliveryReceipt.resettle, pristine]
  exact flush_loaded (congrArg (·.receiptId) same)

end Resettle

section Requeue
variable {row object : TelemetryProcessingJob}

/-- A job that is queued again is queued. -/
theorem requeue_state (status : object.state = .pendingQueue ∨ object.state = .retryWait)
    (queueMessageId : String) : (row.requeue object queueMessageId).state = .queued :=
  flushColumn_changed (by rcases status with state | state <;> simp [queuedJob, state])

/-- A job that is queued again keeps its packet. -/
@[simp] theorem requeue_packetId (queueMessageId : String) :
    (row.requeue object queueMessageId).packetId = row.packetId := flushColumn_unchanged _ _

/-- A job that is queued again has the name of a reference. -/
theorem requeue_marked (marked : object.queueMessageId ≠ none → row.queueMessageId ≠ none)
    (queueMessageId : String) : (row.requeue object queueMessageId).queueMessageId ≠ none := by
  -- The name is written unless the object has it already, and then the row has a name, too.
  have written : (row.requeue object queueMessageId).queueMessageId =
      flushColumn row.queueMessageId object.queueMessageId (some queueMessageId) := rfl
  rw [written]
  unfold flushColumn
  split_ifs with same
  · exact marked (same ▸ Option.some_ne_none _)
  · exact Option.some_ne_none _

/-- A job that is queued again retains what it has. -/
theorem retains_requeue (status : object.state = .pendingQueue ∨ object.state = .retryWait)
    (marked : object.queueMessageId ≠ none → row.queueMessageId ≠ none) (queueMessageId : String) :
    JobRetains row (row.requeue object queueMessageId) where
  jobId := rfl
  packetId := requeue_packetId queueMessageId
  maxAttempts := flushColumn_unchanged _ _
  attempts := le_of_eq (flushColumn_unchanged _ _).symm
  queued _ := by simp [requeue_state status queueMessageId]
  marked _ := requeue_marked marked queueMessageId

/-- A job that is its own earlier version is queued as a whole. -/
theorem requeue_self (job : TelemetryProcessingJob) (queueMessageId : String) :
    job.requeue job queueMessageId = queuedJob job queueMessageId := flushJob_loaded rfl

end Requeue

/-- A claim leaves its job with all it retains. -/
theorem claimedJob_retains {job : TelemetryProcessingJob} (workerId : String) (leaseSeconds : Int)
    (now : Time) : JobRetains job (claimedJob job workerId leaseSeconds now) :=
  ⟨rfl, rfl, rfl, Nat.le_succ _, by simp [claimedJob], id⟩

/-- A failure leaves its job with all it retains. -/
theorem jobAfterFailure_retains (job : TelemetryProcessingJob) (reason : String) (temporary : Bool)
    (baseBackoffSeconds : Int) (failureTime : Time) :
    JobRetains job (jobAfterFailure job reason temporary baseBackoffSeconds failureTime) := by
  -- Both outcomes keep the identity of the job and its number of attempts.
  rw [jobAfterFailure]
  split_ifs
  · exact ⟨rfl, rfl, rfl, le_rfl, by simp [failedJob], id⟩
  · exact ⟨rfl, rfl, rfl, le_rfl, by simp [retryingJob], id⟩

section
variable {db : Database}

/-- Adding a receipt retains everything. -/
theorem retains_addReceipt {row : TelemetryDeliveryReceipt} (admitted : db.AdmitsReceipt row)
    (event : TelemetryAuditEvent) : Retains db (db.addReceipt row event) where
  receipts receipt member :=
    ⟨receipt, (Table.mem_insert admitted.1).mpr (Or.inl member), .refl receipt⟩
  identities _ member := member
  packets _ member := member
  jobs job member := ⟨job, member, .refl job⟩
  processed _ member := member
  auditEvents := List.prefix_append _ _

/-- Adding a receipt with its identity retains everything. -/
theorem retains_addOwner {row : TelemetryDeliveryReceipt} {identity : TelemetryRequestIdentity}
    (admitted : db.AdmitsReceipt row) (unowned : db.AdmitsIdentity identity)
    (event : TelemetryAuditEvent) : Retains db (db.addOwner row identity event) where
  receipts receipt member :=
    ⟨receipt, (Table.mem_insert admitted.1).mpr (Or.inl member), .refl receipt⟩
  identities _ member := (Table.mem_insert unowned.1).mpr (Or.inl member)
  packets _ member := member
  jobs job member := ⟨job, member, .refl job⟩
  processed _ member := member
  auditEvents := List.prefix_append _ _

/-- Settling a receipt, for the first time or again, retains everything. -/
theorem retains_settle {row new : TelemetryDeliveryReceipt} (member : row ∈ db.receipts)
    (kept : ReceiptRetains row new) (event : TelemetryAuditEvent) :
    Retains db (db.settle new event) where
  receipts := develops_set ReceiptRetains.refl member kept.receiptId kept
  identities _ member := member
  packets _ member := member
  jobs job member := ⟨job, member, .refl job⟩
  processed _ member := member
  auditEvents := List.prefix_append _ _

/-- Moving a job retains everything. -/
theorem retains_move {job row : TelemetryProcessingJob} (member : job ∈ db.jobs)
    (kept : JobRetains job row) (events : List TelemetryAuditEvent) :
    Retains db (db.move row events) where
  receipts receipt member := ⟨receipt, member, .refl receipt⟩
  identities _ member := member
  packets _ member := member
  jobs := develops_set JobRetains.refl member kept.jobId kept
  processed _ member := member
  auditEvents := List.prefix_append _ _

/-- Completing a job retains everything. -/
theorem retains_complete {job : TelemetryProcessingJob} {result : ProcessingResultValues}
    {workerId : String} {completionTime : Time} (member : job ∈ db.jobs)
    (admitted : db.AdmitsProcessed (processedRow job result completionTime)) :
    Retains db (db.complete job result workerId completionTime) where
  receipts receipt member := ⟨receipt, member, .refl receipt⟩
  identities _ member := member
  packets _ member := member
  jobs := develops_set JobRetains.refl member rfl
    ⟨rfl, rfl, rfl, le_rfl, by simp [completedJob], id⟩
  processed _ member := (Table.mem_insert admitted.1).mpr (Or.inl member)
  auditEvents := List.prefix_append _ _

/-- Queueing a job, for the first time or again, retains everything. -/
theorem retains_queue {row object : TelemetryProcessingJob} (member : row ∈ db.jobs)
    (retains : JobRetains object row)
    (status : object.state = .pendingQueue ∨ object.state = .retryWait)
    (queueMessageId actorIdentity : String) :
    Retains db { db.queue object queueMessageId actorIdentity with
      jobs := db.jobs.set (row.requeue object queueMessageId) } where
  receipts := by
    -- The receipts are those of the job: only their queue status changes.
    intro receipt present
    refine ⟨_, (@mem_queue_receipts db object queueMessageId actorIdentity _).mpr
      ⟨receipt, present, rfl⟩, ?_⟩
    split_ifs
    · exact ⟨rfl, id⟩
    · exact .refl receipt
  identities _ member := member
  packets _ member := member
  jobs := develops_set JobRetains.refl member rfl (retains_requeue status retains.marked _)
  processed _ member := member
  auditEvents := List.prefix_append _ _

/-- No call of a session with held objects takes away what the tables retain. -/
theorem HeldEffect.retains {after : Database} (effect : HeldEffect db after) :
    Retains db after := by
  -- One case for each way in which a call can change the database.
  cases effect with
  | unchanged => exact .refl db
  | audited event => exact { Retains.refl db with auditEvents := List.prefix_append _ _ }
  | anonymous unnamed admitted event => exact retains_addReceipt admitted event
  | first named admitted unowned event => exact retains_addOwner admitted unowned event
  | reused named owned present link different admitted event =>
    exact retains_addReceipt admitted event
  | rejected member =>
    exact retains_settle member (retains_resettle (by rfl) (by simp [rejectedReceipt])) _
  | duplicated member =>
    exact retains_settle member (retains_resettle (by rfl) (by simp [duplicateReceipt])) _
  | conflicted member =>
    exact retains_settle member (retains_resettle (by rfl) (by simp [sequenceConflictReceipt])) _
  | stateConflicted member =>
    exact retains_settle member (retains_resettle (by rfl) (by simp [stateConflictReceipt])) _
  | accepted member backed tracked position packetAdmitted stateAdmitted jobAdmitted =>
    exact {
      receipts := develops_set ReceiptRetains.refl member (by rfl)
        (retains_resettle (by rfl) (by simp [acceptedReceipt]))
      identities := fun _ member => member
      packets := fun _ member => (Table.mem_insert packetAdmitted.1).mpr (Or.inl member)
      jobs := fun job member =>
        ⟨job, (Table.mem_insert jobAdmitted.1).mpr (Or.inl member), .refl job⟩
      processed := fun _ member => member
      auditEvents := List.prefix_append _ _ }
  | queued member retains status => exact retains_queue member retains status _ _
  | @closed job processed member done =>
    have kept : JobRetains job (closedJob job processed) :=
      ⟨rfl, rfl, rfl, le_rfl, by simp [closedJob], id⟩
    exact retains_move member kept _
  | claimed member => exact retains_move member (claimedJob_retains _ _ _) _
  | completed member status owned admitted => exact retains_complete member admitted
  | failed member => exact retains_move member (jobAfterFailure_retains _ _ _ _ _) _

/-- A call of a session with held objects keeps the accounts. -/
theorem HeldEffect.accounting {after : Database} (effect : HeldEffect db after)
    (accounting : Accounting db) : Accounting after := by
  cases effect with
  | @accepted row values sequenceState disposition missingBefore jobId options member backed tracked
      position packetAdmitted stateAdmitted jobAdmitted =>
    -- The accounts speak of packets and states, and these do not depend on the receipt.
    have kept : Accounting (db.addPacket row.evidence values sequenceState disposition missingBefore
        jobId options) := accounting.addPacket tracked position packetAdmitted stateAdmitted
    exact kept.congr rfl rfl
  | _ => exact accounting.congr rfl rfl

namespace LooseLedger

/-- A new receipt with a backed row keeps the ledger. -/
theorem addReceipt (ledger : LooseLedger db) {row : TelemetryDeliveryReceipt}
    {event : TelemetryAuditEvent} (admitted : db.AdmitsReceipt row)
    (unaccepted : row.validationStatus ≠ .accepted)
    (backed : ReceiptBacked (db.addReceipt row event) row) :
    LooseLedger (db.addReceipt row event) := by
  -- Only the new row has to be looked at; its status keeps it out of the queue status of any job.
  have mem : ∀ receipt, receipt ∈ (db.addReceipt row event).receipts ↔
      receipt ∈ db.receipts ∨ receipt = row := fun _ => Table.mem_insert admitted.1
  refine ledger.grow (retains_addReceipt admitted event) (fun receipt member => ?_)
    (fun _ => Or.inl) (fun _ => Or.inl) (fun _ => Or.inl) (fun _ => Or.inl) ledger.jobUnique
    ledger.sourceUnique fun receipt member accepted job among => ?_
  · rcases (mem receipt).mp member with old | rfl
    · exact Or.inl old
    · exact Or.inr backed
  · rcases (mem receipt).mp member with old | rfl
    · exact ledger.queueStatus receipt old accepted job among
    · exact absurd accepted unaccepted

/-- A new receipt that takes its request identifier keeps the ledger. -/
theorem addOwner (ledger : LooseLedger db) {delivery : Delivery} {receiptId requestId : UUID}
    (event : TelemetryAuditEvent) (named : delivery.canonicalRequestId = some requestId)
    (admitted : db.AdmitsReceipt (delivery.receipt receiptId none))
    (unowned : db.AdmitsIdentity ⟨requestId, receiptId, sha256Hex delivery.rawBody⟩) :
    LooseLedger (db.addOwner (delivery.receipt receiptId none)
      ⟨requestId, receiptId, sha256Hex delivery.rawBody⟩ event) := by
  have mem : ∀ receipt, receipt ∈ (db.addOwner (delivery.receipt receiptId none)
      ⟨requestId, receiptId, sha256Hex delivery.rawBody⟩ event).receipts ↔
      receipt ∈ db.receipts ∨ receipt = delivery.receipt receiptId none :=
    fun _ => Table.mem_insert admitted.1
  -- The two new rows answer for each other: the receipt is pending, and the identity names it.
  refine ledger.grow (retains_addOwner admitted unowned event) (fun receipt member => ?_)
    (fun _ => Or.inl) (fun _ => Or.inl) (fun identity member => ?_) (fun _ => Or.inl)
    ledger.jobUnique ledger.sourceUnique fun receipt member accepted job among => ?_
  · rcases (mem receipt).mp member with old | rfl
    · exact Or.inl old
    · refine Or.inr (.of_delivery delivery receiptId fun other named' => ?_)
      obtain rfl : requestId = other := Option.some.inj (named.symm.trans named')
      exact ⟨_, (Table.mem_insert unowned.1).mpr (Or.inr rfl), rfl, rfl⟩
  · rcases (Table.mem_insert unowned.1).mp member with old | rfl
    · exact Or.inl old
    · exact Or.inr ⟨_, (mem _).mpr (Or.inr rfl), rfl, named, rfl⟩
  · rcases (mem receipt).mp member with old | rfl
    · exact ledger.queueStatus receipt old accepted job among
    · cases accepted

/-- Settling a receipt with a backed row keeps the ledger. -/
theorem settle (ledger : LooseLedger db) {row new : TelemetryDeliveryReceipt}
    {event : TelemetryAuditEvent} (member : row ∈ db.receipts) (kept : ReceiptRetains row new)
    (unaccepted : new.validationStatus ≠ .accepted)
    (backed : ReceiptBacked (db.settle new event) new) : LooseLedger (db.settle new event) := by
  -- The settled row takes the place of the old one, and every other receipt stays.
  have mem : ∀ other, other ∈ (db.settle new event).receipts ↔
      other = new ∨ (other ∈ db.receipts ∧ other.receiptId ≠ new.receiptId) :=
    fun _ => Table.mem_set_of_mem member kept.receiptId.symm
  refine ledger.grow (retains_settle member kept event) (fun other among => ?_)
    (fun _ => Or.inl) (fun _ => Or.inl) (fun _ => Or.inl) (fun _ => Or.inl) ledger.jobUnique
    ledger.sourceUnique fun other among accepted job => ?_
  · rcases (mem other).mp among with rfl | ⟨old, -⟩
    · exact Or.inr backed
    · exact Or.inl old
  · rcases (mem other).mp among with rfl | ⟨old, -⟩
    · exact absurd accepted unaccepted
    · exact ledger.queueStatus other old accepted job

/-- Moving a job along keeps the ledger. -/
theorem move (ledger : LooseLedger db) {job row : TelemetryProcessingJob}
    (events : List TelemetryAuditEvent) (member : job ∈ db.jobs) (kept : JobRetains job row)
    (queued : job.state ≠ .pendingQueue)
    (backed : JobBacked (db.move row events) row) : LooseLedger (db.move row events) := by
  have mem : ∀ other, other ∈ (db.move row events).jobs ↔
      other = row ∨ (other ∈ db.jobs ∧ other.jobId ≠ row.jobId) :=
    fun _ => Table.mem_set_of_mem member kept.jobId.symm
  refine ledger.grow (retains_move member kept events) (fun _ => Or.inl) (fun _ => Or.inl)
    (fun other among => ?_) (fun _ => Or.inl) (fun _ => Or.inl)
    (Table.unique_set member kept.jobId.symm kept.packetId.symm ledger.jobUnique)
    ledger.sourceUnique fun receipt present accepted other among linked => ?_
  · rcases (mem other).mp among with rfl | ⟨old, -⟩
    · exact Or.inr backed
    · exact Or.inl old
  · rcases (mem other).mp among with rfl | ⟨old, -⟩
    -- The job had reached the queue before, so its accepted receipts say so.
    · rw [ledger.queueStatus receipt present accepted job member (kept.packetId ▸ linked),
        jobStateToQueueStatus, jobStateToQueueStatus, if_neg queued, if_neg (kept.queued queued)]
    · exact ledger.queueStatus receipt present accepted other old linked

/-- Completing a job with its first result keeps the ledger. -/
theorem complete (ledger : LooseLedger db) {job : TelemetryProcessingJob}
    {result : ProcessingResultValues} {workerId : String} {completionTime : Time}
    (member : job ∈ db.jobs) (status : job.state = .processing)
    (admitted : db.AdmitsProcessed (processedRow job result completionTime)) :
    LooseLedger (db.complete job result workerId completionTime) := by
  -- The result and the completed job are written together and name each other.
  have mem : ∀ other, other ∈ (db.complete job result workerId completionTime).jobs ↔
      other = completedJob job completionTime ∨ (other ∈ db.jobs ∧ other.jobId ≠ job.jobId) :=
    fun _ => Table.mem_set_of_mem member rfl
  have results : ∀ other, other ∈ (db.complete job result workerId completionTime).processed ↔
      other ∈ db.processed ∨ other = processedRow job result completionTime :=
    fun _ => Table.mem_insert admitted.1
  have retains : Retains db (db.complete job result workerId completionTime) :=
    retains_complete member admitted
  refine ledger.grow retains (fun _ => Or.inl) (fun _ => Or.inl) (fun other among => ?_)
    (fun _ => Or.inl) (fun other among => ?_)
    (Table.unique_set member rfl rfl ledger.jobUnique)
    ledger.sourceUnique fun receipt present accepted other among linked => ?_
  · rcases (mem other).mp among with rfl | ⟨old, -⟩
    · have backed := (ledger.jobs job member).grow retains
      exact Or.inr ⟨backed.packet, fun _ => ⟨_, (results _).mpr (Or.inr rfl), rfl⟩,
        fun _ => backed.marked (by simp [status]), fun other => by cases other⟩
    · exact Or.inl old
  · rcases (results other).mp among with old | rfl
    · exact Or.inl old
    · exact Or.inr ⟨_, (mem _).mpr (Or.inl rfl), rfl, by simp [completedJob]⟩
  · rcases (mem other).mp among with rfl | ⟨old, -⟩
    -- Processing and complete jobs are both shown as queued.
    · rw [ledger.queueStatus receipt present accepted job member linked, status]
      rfl
    · exact ledger.queueStatus receipt present accepted other old linked

/-- Queueing a job together with its accepted receipts keeps the ledger. -/
theorem queue (ledger : LooseLedger db) {row object : TelemetryProcessingJob}
    (member : row ∈ db.jobs) (kept : JobRetains object row)
    (status : object.state = .pendingQueue ∨ object.state = .retryWait)
    (queueMessageId actorIdentity : String) :
    LooseLedger { db.queue object queueMessageId actorIdentity with
      jobs := db.jobs.set (row.requeue object queueMessageId) } := by
  have retains := retains_queue member kept status queueMessageId actorIdentity
  have queued : (row.requeue object queueMessageId).state = .queued :=
    requeue_state status queueMessageId
  have mem : ∀ other, other ∈ db.jobs.set (row.requeue object queueMessageId) ↔
      other = row.requeue object queueMessageId ∨ (other ∈ db.jobs ∧ other.jobId ≠ row.jobId) :=
    fun _ => Table.mem_set_of_mem member rfl
  have receipts : ∀ receipt, receipt ∈ (db.queue object queueMessageId actorIdentity).receipts ↔ _ :=
    fun _ => mem_queue_receipts
  refine ledger.grow retains (fun receipt present => ?_) (fun _ => Or.inl) (fun other among => ?_)
    (fun _ => Or.inl) (fun _ => Or.inl)
    (Table.unique_set member rfl (requeue_packetId queueMessageId).symm ledger.jobUnique)
    ledger.sourceUnique fun receipt present accepted other among linked => ?_
  · -- A receipt of the packet differs from its old row in the queue status alone.
    obtain ⟨old, before, rfl⟩ := (receipts receipt).mp present
    split_ifs with ofPacket
    · have backed := (ledger.receipts old before).grow retains
      exact Or.inr (.of_accepted backed.digest ofPacket.2 (backed.accepted ofPacket.2) backed.owned)
    · exact Or.inl before
  · rcases (mem other).mp among with rfl | ⟨old, -⟩
    · have backed := (ledger.jobs row member).grow retains
      refine Or.inr ⟨(requeue_packetId queueMessageId).symm ▸ backed.packet, fun done => ?_,
        fun _ => requeue_marked kept.marked queueMessageId, fun waits => ?_⟩
      · rw [queued] at done
        cases done
      · rw [queued] at waits
        cases waits
    · exact Or.inl old
  · obtain ⟨old, before, rfl⟩ := (receipts receipt).mp present
    split_ifs at accepted linked ⊢ with ofPacket
    -- The receipts of the packet show QUEUED, and the packet has no other job.
    · rcases (mem other).mp among with rfl | ⟨stored, different⟩
      · rw [queued]
        rfl
      · have same : object.packetId = other.packetId :=
          Option.some.inj (ofPacket.1.symm.trans linked)
        have unique := ledger.jobUnique row member other stored (kept.packetId.trans same)
        exact absurd (congrArg (·.jobId) unique).symm different
    -- A receipt that was left alone belongs to another packet.
    · rcases (mem other).mp among with rfl | ⟨stored, -⟩
      · rw [requeue_packetId, kept.packetId] at linked
        exact absurd ⟨linked, accepted⟩ ofPacket
      · exact ledger.queueStatus old before accepted other stored linked

/-- Accepting a new packet together with its job keeps the ledger. -/
theorem addPacket (ledger : LooseLedger db) {row : TelemetryDeliveryReceipt}
    {values : DecodedTelemetryValues} {sequenceState : Option TelemetrySequenceState}
    {disposition : PacketDisposition} {missingBefore : Int} {jobId : UUID}
    {options : AcceptanceOptions} (member : row ∈ db.receipts)
    (backed : ReceiptBacked db row.evidence)
    (packetAdmitted : db.AdmitsPacket (newPacket row.evidence values disposition missingBefore))
    (jobAdmitted : db.AdmitsJob (newJob jobId values.packetId options.maxAttempts options.now))
    (retains : Retains db
      { db.addPacket row.evidence values sequenceState disposition missingBefore jobId options with
        receipts := db.receipts.set (row.resettle (acceptedReceipt row.evidence values)) }) :
    LooseLedger
      { db.addPacket row.evidence values sequenceState disposition missingBefore jobId options with
        receipts := db.receipts.set (row.resettle (acceptedReceipt row.evidence values)) } := by
  -- Receipt, packet and job appear together: each of the three is the witness of the others.
  have evidence : (row.resettle (acceptedReceipt row.evidence values)).evidence = row.evidence :=
    resettle_evidence (by rfl)
  have status : (row.resettle (acceptedReceipt row.evidence values)).validationStatus = .accepted :=
    resettle_validationStatus (by simp [acceptedReceipt])
  have named : (row.resettle (acceptedReceipt row.evidence values)).logicalPacketId =
      some values.packetId := resettle_logicalPacketId (by simp [acceptedReceipt])
  have unqueued : (row.resettle (acceptedReceipt row.evidence values)).queueStatus =
      .pendingQueue := resettle_queueStatus (by simp [acceptedReceipt])
  generalize row.resettle (acceptedReceipt row.evidence values) = new
    at evidence status named unqueued retains ⊢
  have key : new.receiptId = row.receiptId := congrArg (·.receiptId) evidence
  have digest : new.bodySha256 = row.bodySha256 := congrArg (·.bodySha256) evidence
  have body : new.rawBody = row.rawBody := congrArg (·.rawBody) evidence
  have receipts : ∀ other, other ∈ db.receipts.set new ↔ other = new ∨
      (other ∈ db.receipts ∧ other.receiptId ≠ new.receiptId) :=
    fun _ => Table.mem_set_of_mem member key.symm
  have packets : ∀ other, other ∈ db.packets.insert _ ↔ other ∈ db.packets ∨
      other = newPacket row.evidence values disposition missingBefore :=
    fun _ => Table.mem_insert packetAdmitted.1
  have jobs : ∀ other, other ∈ db.jobs.insert _ ↔ other ∈ db.jobs ∨
      other = newJob jobId values.packetId options.maxAttempts options.now :=
    fun _ => Table.mem_insert jobAdmitted.1
  refine ledger.grow retains (fun other among => ?_) (fun other among => ?_)
    (fun other among => ?_) (fun _ => Or.inl) (fun _ => Or.inl)
    (Table.unique_insert jobAdmitted.1 jobAdmitted.2.1 ledger.jobUnique)
    (Table.unique_insert packetAdmitted.1 packetAdmitted.2.2.1 ledger.sourceUnique)
    fun other among accepted job present linked => ?_
  · rcases (receipts other).mp among with rfl | ⟨old, -⟩
    · refine Or.inr (.of_accepted ?_ status ⟨_, (packets _).mpr (Or.inr rfl), named, key.symm⟩
        (backed.resettled rfl evidence retains))
      rw [digest, body, (ledger.receipts row member).digest]
    · exact Or.inl old
  · rcases (packets other).mp among with old | rfl
    · exact Or.inl old
    · have positive := packetAdmitted.2.2.2
      exact Or.inr ⟨rfl, ⟨positive.1, positive.2.1⟩,
        ⟨_, (receipts _).mpr (Or.inl rfl), key, by simp [status], digest⟩,
        ⟨_, (jobs _).mpr (Or.inr rfl), rfl⟩⟩
  · rcases (jobs other).mp among with old | rfl
    · exact Or.inl old
    · exact Or.inr ⟨⟨_, (packets _).mpr (Or.inr rfl), rfl⟩, fun done => (by cases done),
        fun queued => absurd rfl queued, fun waits => by cases waits⟩
  · rcases (receipts other).mp among with rfl | ⟨old, -⟩ <;>
      rcases (jobs job).mp present with stored | rfl
    · exact absurd (Option.some.inj (named.symm.trans linked)).symm (jobAdmitted.2.1 job stored)
    · rw [unqueued]
      rfl
    · exact ledger.queueStatus other old accepted job stored linked
    · -- An old receipt cannot name a packet whose identifier was free until now.
      obtain ⟨packet, kept, name, -⟩ := (ledger.receipts other old).accepted accepted
      exact absurd (Option.some.inj (name.symm.trans linked))
        (Table.get?_eq_none.mp packetAdmitted.1 packet kept)

/-- Other bytes than those of the source of a packet belong to another receipt. -/
theorem source_of_different (ledger : LooseLedger db) {row : TelemetryDeliveryReceipt}
    {existing : LogicalTelemetryPacket} (member : row ∈ db.receipts)
    (stored : existing ∈ db.packets)
    (different : ∀ origin, db.receipts.get? existing.sourceReceiptId = some origin →
      existing.rawSha256 = row.bodySha256 → origin.rawBody ≠ row.rawBody) :
    ∃ source ∈ db.receipts, source.receiptId = existing.sourceReceiptId ∧
      source.receiptId ≠ row.receiptId ∧ source.rawBody ≠ row.rawBody := by
  obtain ⟨source, among, lookup, key, digest⟩ := ledger.sourceOfPacket stored
  -- Equal bytes would have equal digests, and the receipt would be a duplicate.
  have bytes : source.rawBody ≠ row.rawBody := fun same =>
    different source lookup (by rw [digest, same, (ledger.receipts row member).digest]) same
  refine ⟨source, among, key, fun same => bytes ?_, bytes⟩
  rw [Table.eq_of_key among member same]

/-- A request identifier that is presented again with other content keeps the ledger. -/
theorem addReuse (ledger : LooseLedger db) {delivery : Delivery} {receiptId : UUID}
    {owner : TelemetryRequestIdentity} {original : TelemetryDeliveryReceipt}
    (named : delivery.canonicalRequestId = some owner.requestId) (owned : owner ∈ db.identities)
    (present : original ∈ db.receipts) (link : original.receiptId = owner.firstReceiptId)
    (different : ¬(owner.bodySha256 = sha256Hex delivery.rawBody ∧
      original.rawBody = delivery.rawBody))
    (admitted : db.AdmitsReceipt (delivery.receipt receiptId (some original)))
    (event : TelemetryAuditEvent) :
    LooseLedger (db.addReceipt (delivery.receipt receiptId (some original)) event) := by
  -- The new receipt is a conflict with the one that took the identifier.
  refine ledger.addReceipt admitted (by simp [Delivery.receipt]) (.of_conflict rfl rfl ?_
    fun _ _ => Or.inl ⟨rfl, rfl⟩)
  have kept : original ∈ (db.addReceipt (delivery.receipt receiptId (some original))
      event).receipts := (Table.mem_insert admitted.1).mpr (Or.inl present)
  refine Or.inr ⟨rfl, rfl, owner, owned, original, kept, named, rfl, link, fun same => ?_, ?_⟩
  · exact Table.get?_eq_none.mp admitted.1 original present same
  · -- Equal bytes would have equal digests, and the identifier would have been replayed.
    intro bytes
    obtain ⟨first, among, key, -, digest⟩ := ledger.identities owner owned
    have same : first = original := Table.eq_of_key among present (key.trans link.symm)
    subst same
    exact different ⟨by rw [← digest, (ledger.receipts first among).digest, bytes]; rfl, bytes⟩

section Verdicts
variable {row : TelemetryDeliveryReceipt} {values : DecodedTelemetryValues}
variable {existing : LogicalTelemetryPacket}

/-- A row that keeps its evidence keeps the digest of its bytes. -/
theorem digest_kept (ledger : LooseLedger db) {new : TelemetryDeliveryReceipt}
    (member : row ∈ db.receipts) (kept : ReceiptRetains row new) :
    new.bodySha256 = sha256Hex new.rawBody := by
  -- Bytes and digest are both part of the evidence.
  rw [kept.bodySha256, kept.rawBody, (ledger.receipts row member).digest]

/-- Rejecting a receipt keeps the ledger. -/
theorem reject (ledger : LooseLedger db) (member : row ∈ db.receipts)
    (backed : ReceiptBacked db row.evidence) (reason : String)
    (parsedIdentifiers : Option JsonObject) (event : TelemetryAuditEvent) :
    LooseLedger
      (db.settle (row.resettle (rejectedReceipt row.evidence reason parsedIdentifiers)) event) := by
  -- The verdict and its reason are written over whatever the row says.
  have kept : ReceiptRetains row
      (row.resettle (rejectedReceipt row.evidence reason parsedIdentifiers)) :=
    retains_resettle (by rfl) (by simp [rejectedReceipt])
  have status : (row.resettle (rejectedReceipt row.evidence reason
      parsedIdentifiers)).validationStatus = .rejected :=
    resettle_validationStatus (by simp [rejectedReceipt])
  have named : (row.resettle (rejectedReceipt row.evidence reason
      parsedIdentifiers)).rejectionReason = some reason :=
    resettle_rejectionReason (by simp [rejectedReceipt])
  exact ledger.settle member kept (by simp [status])
    (.of_rejected (ledger.digest_kept member kept) status (named ▸ Option.some_ne_none _)
      (backed.resettled rfl kept.evidence (retains_settle member kept event)))

/-- Settling a receipt as a duplicate keeps the ledger. -/
theorem duplicate (ledger : LooseLedger db) {origin : TelemetryDeliveryReceipt}
    (member : row ∈ db.receipts) (backed : ReceiptBacked db row.evidence)
    (stored : existing ∈ db.packets)
    (source : db.receipts.get? existing.sourceReceiptId = some origin)
    (same : origin.rawBody = row.rawBody) (event : TelemetryAuditEvent) :
    LooseLedger (db.settle (row.resettle (duplicateReceipt row.evidence values existing)) event) := by
  have kept : ReceiptRetains row (row.resettle (duplicateReceipt row.evidence values existing)) :=
    retains_resettle (by rfl) (by simp [duplicateReceipt])
  have status : (row.resettle (duplicateReceipt row.evidence values
      existing)).validationStatus = .duplicate :=
    resettle_validationStatus (by simp [duplicateReceipt])
  have retains := retains_settle member kept event
  refine ledger.settle member kept (by simp [status]) (.of_duplicate
    (ledger.digest_kept member kept) status ?_ (backed.resettled rfl kept.evidence retains))
  -- The packet and its source are named by the row, and the source has the same bytes.
  obtain ⟨present, link⟩ := Table.get?_eq_some.mp source
  obtain ⟨later, among, identified, bytes⟩ := retains.source present
  exact ⟨existing, stored, later, among, resettle_logicalPacketId (Option.some_ne_none _),
    resettle_duplicateOfReceiptId (Option.some_ne_none _), identified.trans link,
    bytes.trans (same.trans kept.rawBody.symm)⟩

/-- Settling a receipt as a sequence conflict keeps the ledger. -/
theorem dispute (ledger : LooseLedger db) (member : row ∈ db.receipts)
    (backed : ReceiptBacked db row.evidence) (stored : existing ∈ db.packets)
    (different : ∀ origin, db.receipts.get? existing.sourceReceiptId = some origin →
      existing.rawSha256 = row.bodySha256 → origin.rawBody ≠ row.rawBody)
    (event : TelemetryAuditEvent) :
    LooseLedger
      (db.settle (row.resettle (sequenceConflictReceipt row.evidence values existing)) event) := by
  have kept : ReceiptRetains row
      (row.resettle (sequenceConflictReceipt row.evidence values existing)) :=
    retains_resettle (by rfl) (by simp [sequenceConflictReceipt])
  have status : (row.resettle (sequenceConflictReceipt row.evidence values
      existing)).validationStatus = .conflict :=
    resettle_validationStatus (by simp [sequenceConflictReceipt])
  have retains := retains_settle member kept event
  refine ledger.settle member kept (by simp [status]) (.of_conflict
    (ledger.digest_kept member kept) status (Or.inl ?_)
    (backed.resettled rfl kept.evidence retains))
  -- The source of the packet is another receipt with other bytes.
  obtain ⟨source, present, link, other, bytes⟩ := ledger.source_of_different member stored different
  obtain ⟨later, among, identified, body⟩ := retains.source present
  refine ⟨resettle_rejectionReason (Option.some_ne_none _), existing, stored, later, among,
    resettle_logicalPacketId (Option.some_ne_none _),
    resettle_duplicateOfReceiptId (Option.some_ne_none _), identified.trans link, ?_, ?_⟩
  · rw [identified, kept.receiptId]
    exact other
  · rw [body, kept.rawBody]
    exact bytes

end Verdicts

section Steps
variable {job : TelemetryProcessingJob}

/-- Closing a job whose packet has its result keeps the ledger. -/
theorem close (ledger : LooseLedger db) {processed : ProcessedTelemetry} (member : job ∈ db.jobs)
    (done : db.processed.get? job.packetId = some processed) :
    LooseLedger (db.move (closedJob job processed) []) := by
  -- A packet has a result only once its job has been queued.
  have queued := ledger.queued_of_result member done
  have kept : JobRetains job (closedJob job processed) :=
    ⟨rfl, rfl, rfl, le_rfl, by simp [closedJob], id⟩
  have backed := (ledger.jobs job member).grow (retains_move member kept [])
  exact ledger.move [] member kept queued
    ⟨backed.packet, fun _ => ⟨processed, (Table.get?_eq_some.mp done).1,
      (Table.get?_eq_some.mp done).2⟩, fun _ => backed.marked queued, fun other => by cases other⟩

/-- Claiming a job keeps the ledger. -/
theorem claim (ledger : LooseLedger db) (member : job ∈ db.jobs) {now : Time}
    (free : isClaimable job now = true) (workerId : String) (leaseSeconds : Int)
    (event : TelemetryAuditEvent) :
    LooseLedger (db.move (claimedJob job workerId leaseSeconds now) [event]) := by
  -- A claimable job has been queued, so it has the name of a reference.
  have queued : job.state ≠ .pendingQueue := by
    intro pending
    simp [isClaimable, pending] at free
  have kept := @claimedJob_retains job workerId leaseSeconds now
  have backed := (ledger.jobs job member).grow (retains_move member kept [event])
  exact ledger.move [event] member kept queued
    ⟨backed.packet, fun done => (by cases done), fun _ => backed.marked queued,
      fun other => by cases other⟩

/-- A failed attempt keeps the ledger. -/
theorem fail (ledger : LooseLedger db) (member : job ∈ db.jobs) (status : job.state = .processing)
    (reason : String) (temporary : Bool) (baseBackoffSeconds : Int) (failureTime : Time)
    (event : TelemetryAuditEvent) :
    LooseLedger
      (db.move (jobAfterFailure job reason temporary baseBackoffSeconds failureTime) [event]) := by
  have queued : job.state ≠ .pendingQueue := by simp [status]
  have kept := jobAfterFailure_retains job reason temporary baseBackoffSeconds failureTime
  have backed := (ledger.jobs job member).grow (retains_move member kept [event])
  refine ledger.move [event] member kept queued ?_
  -- The job fails for good, or it waits with a time to try it again.
  rw [jobAfterFailure] at backed ⊢
  split_ifs
  · exact ⟨backed.packet, fun done => (by cases done), fun _ => backed.marked queued,
      fun other => by cases other⟩
  · exact ⟨backed.packet, fun done => (by cases done), fun _ => backed.marked queued,
      fun _ => Option.some_ne_none _⟩

end Steps

end LooseLedger

/-- One call of a session with held objects keeps the ledger of an accounted database. -/
theorem HeldEffect.looseLedger {after : Database} (effect : HeldEffect db after)
    (accounting : Accounting db) (ledger : LooseLedger db) : LooseLedger after := by
  -- One case for each way in which a call can change the database.
  cases effect with
  | unchanged => exact ledger
  | audited event =>
    exact ledger.grow (HeldEffect.audited event).retains (fun _ => Or.inl) (fun _ => Or.inl)
      (fun _ => Or.inl) (fun _ => Or.inl) (fun _ => Or.inl) ledger.jobUnique ledger.sourceUnique
      ledger.queueStatus
  | anonymous unnamed admitted event =>
    refine ledger.addReceipt admitted (by simp [Delivery.receipt]) (.of_delivery _ _ ?_)
    intro requestId named
    cases unnamed.symm.trans named
  | first named admitted unowned event => exact ledger.addOwner event named admitted unowned
  | reused named owned present link different admitted event =>
    exact ledger.addReuse named owned present link different admitted event
  | rejected member backed reason parsedIdentifiers event =>
    exact ledger.reject member backed reason parsedIdentifiers event
  | duplicated member backed stored key source digest same event =>
    exact ledger.duplicate member backed stored source same event
  | conflicted member backed stored key different event =>
    exact ledger.dispute member backed stored different event
  | stateConflicted member backed range unused tracked onMark event =>
    -- The mark of a session has its packet, so this branch is never reached.
    obtain ⟨packet, stored, same⟩ := accounting.packet_on_mark range tracked onMark
    exact absurd same (packetBySource_eq_none.mp unused packet stored)
  | accepted member backed tracked position packetAdmitted stateAdmitted jobAdmitted =>
    exact ledger.addPacket member backed packetAdmitted jobAdmitted
      (HeldEffect.accepted member backed tracked position packetAdmitted stateAdmitted
        jobAdmitted).retains
  | queued member kept status => exact ledger.queue member kept status _ _
  | closed member done => exact ledger.close member done
  | claimed member undone free workerId leaseSeconds event =>
    exact ledger.claim member free workerId leaseSeconds event
  | completed member status owned admitted => exact ledger.complete member status admitted
  | failed member status reason temporary baseBackoffSeconds failureTime event =>
    exact ledger.fail member status reason temporary baseBackoffSeconds failureTime event

end

/-- The objects that a session may hold for a call that decides on them. -/
def RepoCall.MayHold (held : Held) : RepoCall → Prop
  | rejectDelivery _ _ _ _ | acceptPacketAndCreateJob _ _ _ _ => held.job = none
  | markJobQueued _ _ _ => held.receipt = none
  -- No other call is made by a session whose caller holds an object.
  | _ => held = {}

/-- What a session holds is what it once loaded: earlier versions of rows. -/
structure Held.Loaded (held : Held) (db : Database) : Prop where
  receipt : ∀ object, held.receipt = some object → ReceiptBacked db object ∧
    ∃ row ∈ db.receipts, ReceiptRetains object row
  job : ∀ object, held.job = some object → ∃ row ∈ db.jobs, JobRetains object row

namespace Held.Loaded
variable {held : Held} {db after : Database}

/-- Who holds nothing holds nothing that was not loaded. -/
theorem empty (db : Database) : ({} : Held).Loaded db where
  receipt _ same := by cases same
  job _ same := by cases same

/-- A receipt that was just read is loaded. -/
theorem of_receipt {row : TelemetryDeliveryReceipt} (ledger : LooseLedger db)
    (member : row ∈ db.receipts) : ({ receipt := some row } : Held).Loaded db where
  receipt object same := by
    -- The row was read just now.
    cases same
    exact ⟨ledger.receipts row member, row, member, .refl row⟩
  job _ same := by cases same

/-- A job that was just read is loaded. -/
theorem of_job {row : TelemetryProcessingJob} (member : row ∈ db.jobs) :
    ({ job := some row } : Held).Loaded db where
  receipt _ same := by cases same
  job object same := by
    cases same
    exact ⟨row, member, .refl row⟩

/-- What was loaded was loaded, whatever becomes of the rows. -/
theorem grow (loaded : held.Loaded db) (retains : Retains db after) : held.Loaded after where
  receipt object same := by
    -- The row that the object was loaded from develops further.
    obtain ⟨backed, row, member, kept⟩ := loaded.receipt object same
    obtain ⟨later, among, further⟩ := retains.receipts row member
    exact ⟨backed.grow retains, later, among, kept.trans further⟩
  job object same := by
    obtain ⟨row, member, kept⟩ := loaded.job object same
    obtain ⟨later, among, further⟩ := retains.jobs row member
    exact ⟨later, among, kept.trans further⟩

/-- What a session sees of a receipt shows the evidence of the row. -/
theorem seeReceipt_evidence (loaded : held.Loaded db) {row : TelemetryDeliveryReceipt}
    (member : row ∈ db.receipts) : (held.seeReceipt row).evidence = row.evidence := by
  unfold Held.seeReceipt
  split
  next object holds =>
    split_ifs with same
    · -- The held object is an earlier version of the row with its key.
      obtain ⟨-, origin, among, kept⟩ := loaded.receipt object holds
      have equal : origin = row := Table.eq_of_key among member (kept.receiptId.trans same)
      exact (equal ▸ kept.evidence).symm
    · rfl
  next => rfl

/-- What a session sees of a receipt is backed. -/
theorem seeReceipt_backed (loaded : held.Loaded db) (ledger : LooseLedger db)
    {row : TelemetryDeliveryReceipt} (member : row ∈ db.receipts) :
    ReceiptBacked db (held.seeReceipt row) := by
  -- What is seen is the object, which was backed when it was loaded, or the row.
  unfold Held.seeReceipt
  split
  next object holds =>
    split_ifs
    · exact (loaded.receipt object holds).1
    · exact ledger.receipts row member
  next => exact ledger.receipts row member

/-- A receipt that a session sees as pending is the evidence of its row. -/
theorem seeReceipt_pending (loaded : held.Loaded db) (ledger : LooseLedger db)
    {row : TelemetryDeliveryReceipt} (member : row ∈ db.receipts)
    (status : (held.seeReceipt row).validationStatus = .pending) :
    held.seeReceipt row = row.evidence :=
  ((loaded.seeReceipt_backed ledger member).pristine status).symm.trans
    (loaded.seeReceipt_evidence member)

/-- What a session sees of a job is an earlier version of it. -/
theorem seeJob_retains (loaded : held.Loaded db) {row : TelemetryProcessingJob}
    (member : row ∈ db.jobs) : JobRetains (held.seeJob row) row := by
  -- The object is an earlier version of some row, which has its identifier.
  unfold Held.seeJob
  split
  next object holds =>
    split_ifs with same
    · obtain ⟨origin, among, kept⟩ := loaded.job object holds
      have equal : origin = row := Table.eq_of_key among member (kept.jobId.trans same)
      exact equal ▸ kept
    · exact .refl row
  next => exact .refl row

end Held.Loaded

section
variable {db : Database}

/-- What a call does on the rows, it does with objects that are the rows. -/
theorem Effect.held {after : Database} (effect : Effect db after) (ledger : LooseLedger db) :
    HeldEffect db after := by
  -- A pending row is its own evidence, and is then written as a whole.
  have whole : ∀ {row changed : TelemetryDeliveryReceipt}, row ∈ db.receipts →
      row.validationStatus = .pending → changed.evidence = row.evidence →
      row.evidence = row ∧ row.resettle changed = changed := fun member status same =>
    ⟨(ledger.receipts _ member).pristine status,
      resettle_pristine ((ledger.receipts _ member).pristine status) same⟩
  have backs : ∀ {row : TelemetryDeliveryReceipt}, row ∈ db.receipts →
      row.validationStatus = .pending → ReceiptBacked db row.evidence := fun member status =>
    ((ledger.receipts _ member).pristine status).symm ▸ ledger.receipts _ member
  cases effect with
  | unchanged => exact .unchanged
  | audited event => exact .audited event
  | anonymous unnamed admitted event => exact .anonymous unnamed admitted event
  | first named admitted unowned event => exact .first named admitted unowned event
  | reused named owned present link different admitted event =>
    exact .reused named owned present link different admitted event
  | @rejected receipt member status reason parsedIdentifiers event =>
    have happened := HeldEffect.rejected member (backs member status) reason parsedIdentifiers event
    obtain ⟨pristine, written⟩ := whole member status
      (show (rejectedReceipt receipt.evidence reason parsedIdentifiers).evidence = _ from rfl)
    rwa [written, pristine] at happened
  | @duplicated receipt origin values existing member status stored key source digest same event =>
    have happened := HeldEffect.duplicated member (backs member status) stored key source digest same event
    obtain ⟨pristine, written⟩ := whole member status
      (show (duplicateReceipt receipt.evidence values existing).evidence = _ from rfl)
    rwa [written, pristine] at happened
  | @conflicted receipt values existing member status stored key different event =>
    have happened := HeldEffect.conflicted member (backs member status) stored key different event
    obtain ⟨pristine, written⟩ := whole member status
      (show (sequenceConflictReceipt receipt.evidence values existing).evidence = _ from rfl)
    rwa [written, pristine] at happened
  | @stateConflicted receipt values state member status range unused tracked onMark event =>
    have happened := HeldEffect.stateConflicted member (backs member status) range unused tracked
      onMark event
    obtain ⟨pristine, written⟩ := whole member status
      (show (stateConflictReceipt receipt.evidence values).evidence = _ from rfl)
    rwa [written, pristine] at happened
  | @accepted receipt values sequenceState disposition missingBefore jobId options member status
      tracked position packetAdmitted stateAdmitted jobAdmitted =>
    have happened := HeldEffect.accepted member (backs member status) tracked position packetAdmitted
      stateAdmitted jobAdmitted
    obtain ⟨pristine, written⟩ := whole member status
      (show (acceptedReceipt receipt.evidence values).evidence = _ from rfl)
    rwa [written, pristine] at happened
  | @queued job member status queueMessageId actorIdentity =>
    have happened := HeldEffect.queued member (.refl job) status queueMessageId actorIdentity
    rwa [requeue_self] at happened
  | closed member done => exact .closed member done
  | claimed member undone free workerId leaseSeconds event =>
    exact .claimed member undone free workerId leaseSeconds event
  | completed member status owned admitted => exact .completed member status owned admitted
  | failed member status reason temporary baseBackoffSeconds failureTime event =>
    exact .failed member status reason temporary baseBackoffSeconds failureTime event

end

end Cislunar
