import Cislunar.Proofs.Telemetry.Effect

/-!
Evidence is append-only: no call removes a row or changes what a row has recorded for good.

A receipt keeps its evidence, and its verdict once it has one; a job keeps its identity.
-/

namespace Cislunar

open Foundation

/-- A receipt as it was when it was recorded. -/
def TelemetryDeliveryReceipt.evidence (receipt : TelemetryDeliveryReceipt) :
    TelemetryDeliveryReceipt :=
  { receipt with
    validationStatus := .pending
    rejectionReason := none
    parsedIdentifiers := none
    duplicateOfReceiptId := none
    logicalPacketId := none
    queueStatus := .notApplicable }

/-- What validation decided about a receipt. -/
structure Verdict where
  validationStatus : DeliveryValidationStatus
  rejectionReason : Option String
  parsedIdentifiers : Option JsonObject
  duplicateOfReceiptId : Option UUID
  logicalPacketId : Option String

/-- The verdict columns of a receipt. -/
def TelemetryDeliveryReceipt.verdict (receipt : TelemetryDeliveryReceipt) : Verdict where
  validationStatus := receipt.validationStatus
  rejectionReason := receipt.rejectionReason
  parsedIdentifiers := receipt.parsedIdentifiers
  duplicateOfReceiptId := receipt.duplicateOfReceiptId
  logicalPacketId := receipt.logicalPacketId

/-- How one receipt may develop. -/
structure ReceiptDevelops (before after : TelemetryDeliveryReceipt) : Prop where
  evidence : after.evidence = before.evidence
  verdict : before.validationStatus ≠ .pending → after.verdict = before.verdict

namespace ReceiptDevelops
variable {first second third : TelemetryDeliveryReceipt}

/-- A receipt develops into itself. -/
theorem refl (receipt : TelemetryDeliveryReceipt) : ReceiptDevelops receipt receipt :=
  ⟨rfl, fun _ => rfl⟩

/-- The identifier is evidence. -/
theorem receiptId (develops : ReceiptDevelops first second) : second.receiptId = first.receiptId :=
  congrArg (·.receiptId) develops.evidence

/-- The identifier of the request is evidence. -/
theorem canonicalRequestId (develops : ReceiptDevelops first second) :
    second.canonicalRequestId = first.canonicalRequestId :=
  congrArg (·.canonicalRequestId) develops.evidence

/-- The body is evidence. -/
theorem rawBody (develops : ReceiptDevelops first second) : second.rawBody = first.rawBody :=
  congrArg (·.rawBody) develops.evidence

/-- The digest is evidence. -/
theorem bodySha256 (develops : ReceiptDevelops first second) :
    second.bodySha256 = first.bodySha256 :=
  congrArg (·.bodySha256) develops.evidence

/-- The time of receipt is evidence. -/
theorem receivedAt (develops : ReceiptDevelops first second) :
    second.receivedAt = first.receivedAt :=
  congrArg (·.receivedAt) develops.evidence

/-- A verdict keeps its status. -/
theorem validationStatus (develops : ReceiptDevelops first second)
    (settled : first.validationStatus ≠ .pending) :
    second.validationStatus = first.validationStatus :=
  congrArg (·.validationStatus) (develops.verdict settled)

/-- A verdict keeps its packet. -/
theorem logicalPacketId (develops : ReceiptDevelops first second)
    (settled : first.validationStatus ≠ .pending) :
    second.logicalPacketId = first.logicalPacketId :=
  congrArg (·.logicalPacketId) (develops.verdict settled)

/-- Receipts develop in several steps. -/
theorem trans (early : ReceiptDevelops first second) (late : ReceiptDevelops second third) :
    ReceiptDevelops first third where
  evidence := late.evidence.trans early.evidence
  verdict := by
    -- What is settled first is still settled in the middle, so it is kept twice.
    intro settled
    have still : second.validationStatus ≠ .pending := by rwa [early.validationStatus settled]
    exact (late.verdict still).trans (early.verdict settled)

/-- A pending receipt may take any verdict as long as it keeps its evidence. -/
theorem of_pending (pending : first.validationStatus = .pending)
    (same : second.evidence = first.evidence) : ReceiptDevelops first second :=
  ⟨same, fun settled => absurd pending settled⟩

end ReceiptDevelops

/-- How one job may develop. -/
structure JobDevelops (before after : TelemetryProcessingJob) : Prop where
  jobId : after.jobId = before.jobId
  packetId : after.packetId = before.packetId
  maxAttempts : after.maxAttempts = before.maxAttempts
  attempts : before.attemptCount ≤ after.attemptCount
  queued : before.state ≠ .pendingQueue → after.state ≠ .pendingQueue
  complete : before.state = .complete → after.state = .complete

/-- A job develops into itself. -/
theorem JobDevelops.refl (job : TelemetryProcessingJob) : JobDevelops job job :=
  ⟨rfl, rfl, rfl, le_rfl, id, id⟩

/-- Jobs develop in several steps. -/
theorem JobDevelops.trans {first second third : TelemetryProcessingJob}
    (early : JobDevelops first second) (late : JobDevelops second third) :
    JobDevelops first third where
  jobId := late.jobId.trans early.jobId
  packetId := late.packetId.trans early.packetId
  maxAttempts := late.maxAttempts.trans early.maxAttempts
  attempts := early.attempts.trans late.attempts
  queued moved := late.queued (early.queued moved)
  complete done := late.complete (early.complete done)

/-- Every row of a database is still there in another, developed at most. -/
structure Extends (before after : Database) : Prop where
  receipts : ∀ receipt ∈ before.receipts, ∃ later ∈ after.receipts, ReceiptDevelops receipt later
  identities : ∀ identity ∈ before.identities, identity ∈ after.identities
  packets : ∀ packet ∈ before.packets, packet ∈ after.packets
  jobs : ∀ job ∈ before.jobs, ∃ later ∈ after.jobs, JobDevelops job later
  processed : ∀ result ∈ before.processed, result ∈ after.processed
  auditEvents : before.auditEvents <+: after.auditEvents

namespace Extends
variable {first second third : Database}

/-- A database extends itself. -/
theorem refl (db : Database) : Extends db db where
  receipts receipt member := ⟨receipt, member, .refl receipt⟩
  identities _ member := member
  packets _ member := member
  jobs job member := ⟨job, member, .refl job⟩
  processed _ member := member
  auditEvents := List.prefix_refl _

/-- Databases are extended in several steps. -/
theorem trans (early : Extends first second) (late : Extends second third) :
    Extends first third where
  receipts := by
    -- The row in the middle develops further.
    intro receipt member
    obtain ⟨middle, among, develops⟩ := early.receipts receipt member
    obtain ⟨last, later, further⟩ := late.receipts middle among
    exact ⟨last, later, develops.trans further⟩
  identities identity member := late.identities _ (early.identities _ member)
  packets packet member := late.packets _ (early.packets _ member)
  jobs := by
    intro job member
    obtain ⟨middle, among, develops⟩ := early.jobs job member
    obtain ⟨last, later, further⟩ := late.jobs middle among
    exact ⟨last, later, develops.trans further⟩
  processed result member := late.processed _ (early.processed _ member)
  auditEvents := early.auditEvents.trans late.auditEvents

end Extends

/-- A replaced row stands for the old one; every other row stands for itself. -/
theorem develops_set {κ ρ : Type} [DecidableEq κ] {key : ρ → κ} {Develops : ρ → ρ → Prop}
    (reflexive : ∀ row, Develops row row) {table : Table key} {old new : ρ} (member : old ∈ table)
    (same : key new = key old) (develops : Develops old new) :
    ∀ row ∈ table, ∃ later ∈ table.set new, Develops row later := by
  -- The row with the key of the replacement is the old one, since keys are unique.
  intro row among
  by_cases replaced : key row = key new
  · have equal : row = old := Table.eq_of_key among member (replaced.trans same)
    subst equal
    exact ⟨new, (Table.mem_set_of_mem member same.symm).mpr (Or.inl rfl), develops⟩
  · exact ⟨row, Table.mem_set.mpr (Or.inr ⟨among, replaced⟩), reflexive row⟩

section
variable {db : Database}

/-- Adding a receipt keeps everything. -/
theorem extends_addReceipt {row : TelemetryDeliveryReceipt} (admitted : db.AdmitsReceipt row)
    (event : TelemetryAuditEvent) : Extends db (db.addReceipt row event) where
  receipts receipt member :=
    ⟨receipt, (Table.mem_insert admitted.1).mpr (Or.inl member), .refl receipt⟩
  identities _ member := member
  packets _ member := member
  jobs job member := ⟨job, member, .refl job⟩
  processed _ member := member
  auditEvents := List.prefix_append _ _

/-- Adding a receipt with its identity keeps everything. -/
theorem extends_addOwner {row : TelemetryDeliveryReceipt} {identity : TelemetryRequestIdentity}
    (admitted : db.AdmitsReceipt row) (unowned : db.AdmitsIdentity identity)
    (event : TelemetryAuditEvent) : Extends db (db.addOwner row identity event) where
  receipts receipt member :=
    ⟨receipt, (Table.mem_insert admitted.1).mpr (Or.inl member), .refl receipt⟩
  identities _ member := (Table.mem_insert unowned.1).mpr (Or.inl member)
  packets _ member := member
  jobs job member := ⟨job, member, .refl job⟩
  processed _ member := member
  auditEvents := List.prefix_append _ _

/-- Settling a pending receipt keeps everything. -/
theorem extends_settle {receipt row : TelemetryDeliveryReceipt} (member : receipt ∈ db.receipts)
    (status : receipt.validationStatus = .pending) (same : row.evidence = receipt.evidence)
    (event : TelemetryAuditEvent) : Extends db (db.settle row event) where
  receipts := develops_set ReceiptDevelops.refl member (congrArg (·.receiptId) same)
    (.of_pending status same)
  identities _ member := member
  packets _ member := member
  jobs job member := ⟨job, member, .refl job⟩
  processed _ member := member
  auditEvents := List.prefix_append _ _

/-- Moving a job keeps everything. -/
theorem extends_move {job row : TelemetryProcessingJob} (member : job ∈ db.jobs)
    (develops : JobDevelops job row) (events : List TelemetryAuditEvent) :
    Extends db (db.move row events) where
  receipts receipt member := ⟨receipt, member, .refl receipt⟩
  identities _ member := member
  packets _ member := member
  jobs := develops_set JobDevelops.refl member develops.jobId develops
  processed _ member := member
  auditEvents := List.prefix_append _ _

/-- A claim leaves a job that was in play in the hands of a worker. -/
theorem claimedJob_develops {job : TelemetryProcessingJob} {now : Time}
    (free : isClaimable job now = true) (workerId : String) (leaseSeconds : Int) :
    JobDevelops job (claimedJob job workerId leaseSeconds now) where
  jobId := rfl
  packetId := rfl
  maxAttempts := rfl
  attempts := Nat.le_succ _
  queued _ := by simp [claimedJob]
  -- A complete job is not claimable.
  complete done := by simp [isClaimable, done] at free

/-- A failure keeps the identity of its job. -/
theorem jobAfterFailure_develops {job : TelemetryProcessingJob} (status : job.state = .processing)
    (reason : String) (temporary : Bool) (baseBackoffSeconds : Int) (failureTime : Time) :
    JobDevelops job (jobAfterFailure job reason temporary baseBackoffSeconds failureTime) := by
  -- The job goes back to the queue or fails for good; neither forgets what it was.
  rw [jobAfterFailure]
  split_ifs
  · exact ⟨rfl, rfl, rfl, le_rfl, by simp [failedJob], by simp [status]⟩
  · exact ⟨rfl, rfl, rfl, le_rfl, by simp [retryingJob], by simp [status]⟩

/-- Queueing a job changes only the queue status of the accepted receipts of its packet. -/
theorem mem_queue_receipts {job : TelemetryProcessingJob} {queueMessageId actorIdentity : String}
    {row : TelemetryDeliveryReceipt} :
    row ∈ (db.queue job queueMessageId actorIdentity).receipts ↔
      ∃ old ∈ db.receipts, row =
        if old.logicalPacketId = some job.packetId ∧ old.validationStatus = .accepted then
          { old with queueStatus := .queued }
        else old := by
  -- The update is a modification of rows, with its condition as a Boolean.
  rw [Database.queue]
  dsimp only
  rw [Table.mem_modify]
  simp only [decide_eq_true_eq]

/-- No call removes a row or changes what a row has recorded for good. -/
theorem Effect.extends {after : Database} (effect : Effect db after) : Extends db after := by
  -- One case per effect. Receipts are settled only while they are pending, a job is never put in
  -- front of the queue again, and events are appended.
  cases effect with
  | unchanged => exact .refl db
  | audited event => exact { Extends.refl db with auditEvents := List.prefix_append _ _ }
  | anonymous unnamed admitted event => exact extends_addReceipt admitted event
  | first named admitted unowned event => exact extends_addOwner admitted unowned event
  | reused named owned present link different admitted event =>
    exact extends_addReceipt admitted event
  | rejected member status => exact extends_settle member status (by rfl) _
  | duplicated member status => exact extends_settle member status (by rfl) _
  | conflicted member status => exact extends_settle member status (by rfl) _
  | stateConflicted member status => exact extends_settle member status (by rfl) _
  | accepted member status tracked position packetAdmitted stateAdmitted jobAdmitted =>
    exact {
      receipts := develops_set ReceiptDevelops.refl member (by rfl) (.of_pending status (by rfl))
      identities := fun _ member => member
      packets := fun _ member => (Table.mem_insert packetAdmitted.1).mpr (Or.inl member)
      jobs := fun job member =>
        ⟨job, (Table.mem_insert jobAdmitted.1).mpr (Or.inl member), .refl job⟩
      processed := fun _ member => member
      auditEvents := List.prefix_append _ _ }
  | @queued job member status queueMessageId actorIdentity =>
    exact {
      receipts := by
        intro receipt present
        refine ⟨_, mem_queue_receipts.mpr ⟨receipt, present, rfl⟩, ?_⟩
        split_ifs
        · exact ⟨rfl, fun _ => rfl⟩
        · exact .refl receipt
      identities := fun _ member => member
      packets := fun _ member => member
      jobs := develops_set JobDevelops.refl member rfl
        ⟨rfl, rfl, rfl, le_rfl, by simp [queuedJob], by rcases status with s | s <;> simp [s]⟩
      processed := fun _ member => member
      auditEvents := List.prefix_append _ _ }
  | @closed job processed member done =>
    have develops : JobDevelops job (closedJob job processed) :=
      ⟨rfl, rfl, rfl, le_rfl, by simp [closedJob], by simp [closedJob]⟩
    exact extends_move member develops _
  | claimed member undone free workerId leaseSeconds event =>
    exact extends_move member (claimedJob_develops free workerId leaseSeconds) _
  | completed member status owned admitted =>
    exact {
      receipts := fun receipt member => ⟨receipt, member, .refl receipt⟩
      identities := fun _ member => member
      packets := fun _ member => member
      jobs := develops_set JobDevelops.refl member rfl
        ⟨rfl, rfl, rfl, le_rfl, by simp [completedJob], by simp [completedJob]⟩
      processed := fun _ member => (Table.mem_insert admitted.1).mpr (Or.inl member)
      auditEvents := List.prefix_append _ _ }
  | failed member status reason temporary baseBackoffSeconds failureTime =>
    exact extends_move member (jobAfterFailure_develops status _ _ _ _) _

end

end Cislunar
