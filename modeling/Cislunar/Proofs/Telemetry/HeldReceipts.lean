import Cislunar.Proofs.Telemetry.HeldCalls

/-!
What becomes of a receipt where sessions decide on receipts that they hold: it is settled, possibly
once more, with what the call says, and keeps its evidence.
-/

namespace Cislunar

open Foundation

/-- One step in the life of a receipt where sessions decide on objects that they hold. -/
inductive HeldReceiptStep (db : Database) :
    RepoCall → TelemetryDeliveryReceipt → TelemetryDeliveryReceipt → Prop where
  | kept (call : RepoCall) {row : TelemetryDeliveryReceipt} : HeldReceiptStep db call row row
  /-- The job of the packet has been queued. -/
  | shown (call : RepoCall) {row : TelemetryDeliveryReceipt} :
      HeldReceiptStep db call row { row with queueStatus := .queued }
  | rejected {row : TelemetryDeliveryReceipt} (reason : String)
      (parsedIdentifiers : Option JsonObject) (actorIdentity : String) :
      HeldReceiptStep db (.rejectDelivery row.receiptId reason parsedIdentifiers actorIdentity) row
        (row.resettle (rejectedReceipt row.evidence reason parsedIdentifiers))
  | duplicated {row : TelemetryDeliveryReceipt} {values : DecodedTelemetryValues}
      {existing : LogicalTelemetryPacket} (stored : existing ∈ db.packets)
      (key : existing.values.sourceKey = values.sourceKey) (maxAttempts : Int)
      (actorIdentity : String) :
      HeldReceiptStep db
        (.acceptPacketAndCreateJob row.receiptId values maxAttempts actorIdentity) row
        (row.resettle (duplicateReceipt row.evidence values existing))
  | conflicted {row : TelemetryDeliveryReceipt} {values : DecodedTelemetryValues}
      {existing : LogicalTelemetryPacket} (stored : existing ∈ db.packets)
      (key : existing.values.sourceKey = values.sourceKey) (maxAttempts : Int)
      (actorIdentity : String) :
      HeldReceiptStep db
        (.acceptPacketAndCreateJob row.receiptId values maxAttempts actorIdentity) row
        (row.resettle (sequenceConflictReceipt row.evidence values existing))
  | accepted {row : TelemetryDeliveryReceipt} (values : DecodedTelemetryValues) (maxAttempts : Int)
      (actorIdentity : String) :
      HeldReceiptStep db
        (.acceptPacketAndCreateJob row.receiptId values maxAttempts actorIdentity) row
        (row.resettle (acceptedReceipt row.evidence values))

/-- A receipt that has just been recorded. -/
def ReceiptRecorded (call : RepoCall) (row : TelemetryDeliveryReceipt) : Prop :=
  ∃ delivery newId receiptId original, call = .recordDelivery delivery newId ∧
    row = delivery.receipt receiptId original

section Steps
variable {db : Database} {held : Held} {row : TelemetryDeliveryReceipt}

/-- A step keeps the evidence of its receipt. -/
theorem HeldReceiptStep.evidence {call : RepoCall} {old : TelemetryDeliveryReceipt}
    (step : HeldReceiptStep db call old row) : row.evidence = old.evidence := by
  -- By the kind of step; a status is written over the same evidence.
  cases step with
  | kept | shown => rfl
  | rejected | duplicated | conflicted | accepted => exact resettle_evidence (by rfl)

/-- Receipts of a table that is left alone. -/
theorem heldReceiptStep_of_same (call : RepoCall) {receipts : Table TelemetryDeliveryReceipt.receiptId}
    (same : receipts = db.receipts) (member : row ∈ receipts) :
    ∃ old ∈ db.receipts, HeldReceiptStep db call old row :=
  ⟨row, same ▸ member, .kept call⟩

/-- What an acceptance does on the rows, it does with an object that is the row. -/
theorem AcceptOutcome.onRow {receiptId jobId : UUID} {values : DecodedTelemetryValues}
    {options : AcceptanceOptions}
    {outcome : Except StorageError PacketAcceptanceResult × Database}
    (happened : AcceptOutcome db receiptId values jobId options outcome) : outcome.2 = db ∨
      ∃ receipt, db.receipts.get? receiptId = some receipt ∧
        HeldAcceptOutcome db receipt receipt values jobId options outcome := by
  cases happened with
  | missing => exact Or.inl rfl
  | replayed found status => exact Or.inr ⟨_, found, .replayed status⟩
  | refused found status message => exact Or.inr ⟨_, found, .refused status message⟩
  | @settled receipt found status _ settles =>
    -- A row that is written back over itself is written as a whole.
    have member := (Table.get?_eq_some.mp found).1
    have whole : outcome.2.keepReceipt receipt receipt = outcome.2 := by
      cases settles with
      | duplicated | conflicted | stateConflicted =>
        dsimp only
        rw [settle_keepReceipt member _ (by rfl), flush_loaded (by rfl)]
      | accepted =>
        dsimp only
        rw [addPacket_keepReceipt member _ rfl, flush_loaded (by rfl)]
        rfl
      | integrity => exact keepReceipt_unchanged member _
    have settled : HeldAcceptOutcome db receipt receipt values jobId options
        (outcome.1, outcome.2.keepReceipt receipt receipt) := .settled status settles
    rw [whole] at settled
    exact Or.inr ⟨receipt, found, settled⟩

/-- What a receipt goes through when a held object is rejected. -/
theorem HeldRejectOutcome.receiptStep {receipt : TelemetryDeliveryReceipt} {reason : String}
    {parsedIdentifiers : Option JsonObject} {actorIdentity : String}
    {outcome : Except StorageError DeliveryRecordResult × Database}
    (happened : HeldRejectOutcome db receipt (held.seeReceipt receipt) reason parsedIdentifiers
      actorIdentity outcome) (loaded : held.Loaded db) (ledger : LooseLedger db)
    (stored : receipt ∈ db.receipts) (member : row ∈ outcome.2.receipts) :
    ∃ old ∈ db.receipts, HeldReceiptStep db
      (.rejectDelivery receipt.receiptId reason parsedIdentifiers actorIdentity) old row := by
  -- The only receipt that is written is the one that is rejected.
  cases happened with
  | repeated | refused => exact heldReceiptStep_of_same _ rfl member
  | rejected status =>
    rw [loaded.seeReceipt_pending ledger stored status, settle_keepReceipt stored _ (by rfl)]
      at member
    rcases Table.mem_set.mp member with ⟨rfl, -⟩ | ⟨old, -⟩
    · exact ⟨receipt, stored, .rejected reason parsedIdentifiers actorIdentity⟩
    · exact heldReceiptStep_of_same _ rfl old

/-- What a receipt goes through when an object that is pending is accepted. -/
theorem HeldAcceptOutcome.receiptStep {receipt object : TelemetryDeliveryReceipt}
    {values : DecodedTelemetryValues} {jobId : UUID} {options : AcceptanceOptions}
    {outcome : Except StorageError PacketAcceptanceResult × Database}
    (happened : HeldAcceptOutcome db receipt object values jobId options outcome)
    (pristine : object.validationStatus = .pending → object = receipt.evidence)
    (range : 0 ≤ values.sequenceNumber ∧ values.sequenceNumber ≤ maxUint32)
    (accounting : Accounting db) (stored : receipt ∈ db.receipts)
    (member : row ∈ outcome.2.receipts) :
    ∃ old ∈ db.receipts, HeldReceiptStep db (.acceptPacketAndCreateJob receipt.receiptId values
      options.maxAttempts options.actorIdentity) old row := by
  cases happened with
  | replayed | refused => exact heldReceiptStep_of_same _ rfl member
  | settled status settles =>
    obtain rfl := pristine status
    cases settles with
    | @duplicated existing origin present key =>
      dsimp only at member
      rw [settle_keepReceipt stored _ (by rfl)] at member
      rcases Table.mem_set.mp member with ⟨rfl, -⟩ | ⟨old, -⟩
      · exact ⟨receipt, stored, .duplicated present key _ _⟩
      · exact heldReceiptStep_of_same _ rfl old
    | conflicted present key =>
      dsimp only at member
      rw [settle_keepReceipt stored _ (by rfl)] at member
      rcases Table.mem_set.mp member with ⟨rfl, -⟩ | ⟨old, -⟩
      · exact ⟨receipt, stored, .conflicted present key _ _⟩
      · exact heldReceiptStep_of_same _ rfl old
    | stateConflicted unused tracked onMark =>
      -- The mark of a session has its packet, so this branch is never reached.
      obtain ⟨packet, present, same⟩ := accounting.packet_on_mark range tracked onMark
      exact absurd same (packetBySource_eq_none.mp unused packet present)
    | accepted =>
      dsimp only at member
      rw [addPacket_keepReceipt stored _ (by rfl)] at member
      rcases Table.mem_set.mp member with ⟨rfl, -⟩ | ⟨old, -⟩
      · exact ⟨receipt, stored, .accepted values _ _⟩
      · exact heldReceiptStep_of_same _ rfl old
    | integrity =>
      dsimp only at member
      rw [keepReceipt_unchanged stored] at member
      exact heldReceiptStep_of_same _ rfl member

/-- What a receipt goes through when a held job is queued. -/
theorem HeldQueueOutcome.receiptStep {job : TelemetryProcessingJob}
    {queueMessageId actorIdentity : String} {outcome : Except StorageError Bool × Database}
    (happened : HeldQueueOutcome db job (held.seeJob job) queueMessageId actorIdentity outcome)
    (stored : job ∈ db.jobs) (call : RepoCall) (member : row ∈ outcome.2.receipts) :
    ∃ old ∈ db.receipts, HeldReceiptStep db call old row := by
  -- The accepted receipts of the packet show the queue, and no other column changes.
  cases happened with
  | repeated | renamed | refused => exact heldReceiptStep_of_same _ rfl member
  | queued =>
    rw [queue_keepJob stored _ (held.seeJob_jobId job)] at member
    obtain ⟨old, present, rfl⟩ :=
      (@mem_queue_receipts db (held.seeJob job) queueMessageId actorIdentity row).mp member
    refine ⟨old, present, ?_⟩
    split_ifs
    · exact .shown call
    · exact .kept call

/-- A delivery adds at most its own receipt. -/
theorem RecordOutcome.receipt_origin {delivery : Delivery} {newId : Option UUID} {receiptId : UUID}
    {outcome : Except StorageError DeliveryRecordResult × Database}
    (happened : RecordOutcome db delivery receiptId outcome) (member : row ∈ outcome.2.receipts) :
    row ∈ db.receipts ∨ ReceiptRecorded (.recordDelivery delivery newId) row := by
  -- The outcomes that write insert one receipt, with what the delivery presents.
  cases happened with
  | replay | integrity | dangling => exact Or.inl member
  | anonymous _ admitted | first _ admitted | reused _ _ _ _ _ admitted =>
    rcases (Table.mem_insert admitted.1).mp member with old | rfl
    · exact Or.inl old
    · exact Or.inr ⟨delivery, newId, _, _, rfl, rfl⟩

/-- A claim leaves the receipts. -/
theorem ClaimOutcome.receipts {jobId : UUID} {workerId : String} {leaseSeconds : Int} {now : Time}
    {outcome : Except StorageError (Option TelemetryWorkItem) × Database}
    (happened : ClaimOutcome db jobId workerId leaseSeconds now outcome) :
    outcome.2.receipts = db.receipts := by
  -- No outcome of the call writes a receipt.
  cases happened <;> rfl

/-- A completion leaves the receipts. -/
theorem CompleteOutcome.receipts {jobId : UUID} {result : ProcessingResultValues}
    {workerId : String} {completionTime : Time}
    {outcome : Except StorageError ProcessedTelemetry × Database}
    (happened : CompleteOutcome db jobId result workerId completionTime outcome) :
    outcome.2.receipts = db.receipts := by
  -- No outcome of the call writes a receipt.
  cases happened <;> rfl

/-- A failure leaves the receipts. -/
theorem FailOutcome.receipts {jobId : UUID} {workerId reason : String} {temporary : Bool}
    {baseBackoffSeconds : Int} {failureTime : Time}
    {outcome : Except StorageError ProcessingFailureResult × Database}
    (happened : FailOutcome db jobId workerId reason temporary baseBackoffSeconds failureTime
      outcome) : outcome.2.receipts = db.receipts := by
  -- No outcome of the call writes a receipt.
  cases happened <;> rfl

/-- Every receipt after a call has taken a step from one before it, or has just been recorded. -/
theorem RepoCall.heldReceiptStep_of_mem {env : Surroundings} {call : RepoCall}
    (allowed : call.MayHold held) (loaded : held.Loaded db) (accounting : Accounting db)
    (ledger : LooseLedger db) (member : row ∈ (call.execHolding env held db).2.receipts) :
    (∃ old ∈ db.receipts, HeldReceiptStep db call old row) ∨ ReceiptRecorded call row := by
  cases call with
  | rejectDelivery receiptId reason parsedIdentifiers actorIdentity =>
    rcases rejectDelivery_held env held db receiptId reason parsedIdentifiers actorIdentity with
      ⟨-, failed⟩ | ⟨receipt, found, happened⟩
    · exact Or.inl (heldReceiptStep_of_same _ (congrArg (·.2.receipts) failed) member)
    · obtain ⟨stored, rfl⟩ := Table.get?_eq_some.mp found
      exact Or.inl (happened.receiptStep loaded ledger stored member)
  | acceptPacketAndCreateJob receiptId values maxAttempts actorIdentity =>
    rcases acceptPacketAndCreateJob_held env allowed loaded receiptId values maxAttempts
      actorIdentity with ⟨_, failed, -⟩ | ⟨range, -, ⟨receipt, found, happened⟩ | ⟨-, happened⟩⟩
    · exact Or.inl (heldReceiptStep_of_same _ (congrArg (·.2.receipts) failed) member)
    · obtain ⟨stored, rfl⟩ := Table.get?_eq_some.mp found
      exact Or.inl (happened.receiptStep (loaded.seeReceipt_pending ledger stored) range accounting
        stored member)
    · -- The second attempt decides on the row itself.
      rcases happened.onRow with same | ⟨receipt, found, happened⟩
      · exact Or.inl (heldReceiptStep_of_same _ (congrArg (·.receipts) same) member)
      · obtain ⟨stored, rfl⟩ := Table.get?_eq_some.mp found
        exact Or.inl (happened.receiptStep
          (fun status => ((ledger.receipts receipt stored).pristine status).symm) range accounting
          stored member)
  | markJobQueued jobId queueMessageId actorIdentity =>
    rcases markJobQueued_held env db allowed jobId queueMessageId actorIdentity with
      ⟨-, failed⟩ | ⟨job, found, happened⟩
    · exact Or.inl (heldReceiptStep_of_same _ (congrArg (·.2.receipts) failed) member)
    · exact Or.inl (happened.receiptStep (Table.get?_eq_some.mp found).1 _ member)
  | recordDelivery delivery newId =>
    obtain rfl : held = {} := allowed
    rw [execHolding_empty] at member
    rcases recordDelivery_serially delivery newId env.uuid4 db with ⟨_, failed⟩ | ⟨_, happened⟩
    · exact Or.inl (heldReceiptStep_of_same _ (congrArg (·.2.receipts) failed) member)
    · exact (happened.receipt_origin member).imp_left fun old => heldReceiptStep_of_same _ rfl old
  | claimProcessingJob jobId workerId leaseSeconds =>
    obtain rfl : held = {} := allowed
    rw [execHolding_empty] at member
    rcases claimProcessingJob_exec env db jobId workerId leaseSeconds with
      ⟨_, failed⟩ | ⟨-, happened⟩
    · exact Or.inl (heldReceiptStep_of_same _ (congrArg (·.2.receipts) failed) member)
    · exact Or.inl (heldReceiptStep_of_same _ happened.receipts member)
  | completeProcessingJob jobId result workerId processedAt =>
    obtain rfl : held = {} := allowed
    rw [execHolding_empty] at member
    have happened := completeProcessingJob_exec env db jobId result workerId processedAt
    exact Or.inl (heldReceiptStep_of_same _ happened.receipts member)
  | failProcessingAttempt jobId workerId reason temporary baseBackoffSeconds now =>
    obtain rfl : held = {} := allowed
    rw [execHolding_empty] at member
    rcases failProcessingAttempt_exec env db jobId workerId reason temporary baseBackoffSeconds now
      with ⟨_, failed⟩ | happened
    · exact Or.inl (heldReceiptStep_of_same _ (congrArg (·.2.receipts) failed) member)
    · exact Or.inl (heldReceiptStep_of_same _ happened.receipts member)
  | recordAuditEvent event =>
    obtain rfl : held = {} := allowed
    rw [execHolding_empty] at member
    exact Or.inl (heldReceiptStep_of_same _ rfl member)
  | pendingQueueJobs | recoverableQueueJobs | getDelivery | getPacket | getProcessed | getJob
  | getJobForPacket | listAuditEvents | processingQueueDepth =>
    obtain rfl : held = {} := allowed
    rw [execHolding_empty, RepoCall.read_exec] at member
    · exact Or.inl (heldReceiptStep_of_same _ rfl member)
    · rfl

end Steps

end Cislunar
