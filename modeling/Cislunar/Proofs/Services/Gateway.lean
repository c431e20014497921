import Cislunar.Proofs.Services.Presented
import Cislunar.Proofs.Services.Processes

/-!
The gateway keeps the stores in agreement, and a success it reports is in the tables by then.

A handler answers from what it has read while others move on. What its answer rests on is settled
for good once it has been read: the verdict of a receipt, its packet, and that a job has been queued.
-/

namespace Cislunar

open Foundation Ground

/-- A success that is reported for a body is in the tables. -/
def AnswerDelivered (rawBody : Bytes) (response : Response) (ground : Ground) : Prop :=
  response.statusCode = 200 ∨ response.statusCode = 202 → ground.Delivered rawBody

/-- What the row of a receipt that was read once says about its body. -/
structure ReadReceipt (rawBody : Bytes) (receipt : TelemetryDeliveryReceipt) (ground : Ground) :
    Prop where
  settled : receipt.validationStatus = .accepted ∨ receipt.validationStatus = .duplicate →
    ∀ packetId, receipt.logicalPacketId = some packetId → ground.SettledAs rawBody packetId
  queued : receipt.validationStatus = .accepted ∨ receipt.validationStatus = .duplicate →
    receipt.queueStatus = .queued → ground.Delivered rawBody

/-- A stored receipt says what it says about its own body. -/
theorem ReadReceipt.of_stored {ground : Ground} (ledger : Ledger ground.database)
    {receipt : TelemetryDeliveryReceipt} (member : receipt ∈ ground.database.receipts) :
    ReadReceipt receipt.rawBody receipt ground where
  settled status packetId named := ⟨receipt, member, rfl, status, named⟩
  queued status queued := by
    obtain ⟨packet, stored, named, -⟩ := ledger.packetOfReceipt member status
    obtain ⟨job, among, owner, -⟩ := ledger.jobOfPacket stored
    -- Only an accepted receipt has a queue status, and it follows the job of the packet.
    have accepted : receipt.validationStatus = .accepted := by
      by_contra other
      rw [(ledger.receipts receipt member).unqueued other] at queued
      cases queued
    have follows := ledger.queueStatus receipt member accepted job among (owner ▸ named)
    refine ⟨packet.packetId, ⟨receipt, member, rfl, status, named⟩, job, among, owner, ?_⟩
    intro waiting
    rw [follows, jobStateToQueueStatus_eq_pendingQueue.mpr waiting] at queued
    cases queued

section
variable {thread : Nat}

/-- The job of a packet may be queued, and has been then. -/
theorem queueOne_answers (jobId : UUID) (packetId : String) (held : Option TelemetryProcessingJob) :
    Answers thread (HasJob jobId packetId) (queueOne jobId packetId held)
      fun _ ground => ground.QueuedFor packetId := by
  rw [queueOne]
  cases made : QueueMessage.new jobId packetId with
  | error error => exact .raise
  | ok message =>
    -- The message carries the identifiers it was made from.
    obtain ⟨rfl, rfl⟩ : message.jobId = jobId ∧ message.packetId = packetId := by
      unfold QueueMessage.new at made
      split at made
      · cases made
      · cases made
        exact ⟨rfl, rfl⟩
    exact .bind (enqueue_answers message) fun _ => mark_answers _ _ _ _ _

/-- A settled body whose job is queued is delivered. -/
theorem queueOne_delivers (jobId : UUID) (packetId : String) (held : Option TelemetryProcessingJob)
    (rawBody : Bytes) :
    Answers thread (fun ground => ground.HasJob jobId packetId ∧ ground.SettledAs rawBody packetId)
      (queueOne jobId packetId held) fun _ ground => ground.Delivered rawBody :=
  ((queueOne_answers jobId packetId held).frame fun _ _ held later => later.settledAs held).weaken
    (fun _ => id) fun _ _ reached => ⟨packetId, reached.2, reached.1⟩

/-- Events may be recorded at any time. -/
theorem auditSafely_follows (event : TelemetryAuditEvent) :
    Follows thread (fun _ => True) (auditSafely event) := by
  -- A database error is swallowed, as the helper means to; anything else is raised again.
  refine .tryCatch (.bind (harmless_follows rfl rfl) fun _ => .done fun _ _ => trivial)
    fun failure => ?_
  split_ifs
  · exact .done fun _ _ => trivial
  · exact .raise

/-- A refused vendor is not told of a success. -/
theorem refuseVendor_answers (vendor : VendorRequest) (rawBody : Bytes) :
    Answers thread (fun _ => True) (refuseVendor vendor) (AnswerDelivered rawBody) :=
  .bind (auditSafely_follows _) fun _ => .done fun _ _ success => by simp at success

/-- A refused body is not told of a success. -/
theorem refuseBody_answers (vendor : VendorRequest) {statusCode : Nat} (rawBody : Bytes)
    (refusal : statusCode = 413 ∨ statusCode = 400) :
    Answers thread (fun _ => True) (refuseBody vendor statusCode) (AnswerDelivered rawBody) := by
  -- Neither status is a success.
  refine .bind (auditSafely_follows _) fun _ => .done fun _ _ success => ?_
  rcases refusal with rfl | rfl <;> simp at success

/-- The jobs of the recovery query may be queued. -/
theorem recoverJobs_follows (jobIds : List UUID) :
    Follows thread (fun _ => True) (recoverJobs jobIds) := by
  -- By induction on the identifiers; what is read has its job.
  induction jobIds with
  | nil => exact .done fun _ _ => trivial
  | cons jobId rest ih =>
    have found : Answers thread (fun _ => True) (callRepository (.getJob jobId)) fun found ground =>
        ∀ job, found = some job → ground.HasJob job.jobId job.packetId := by
      refine harmless_answers Lasting.always rfl rfl ?_
      rintro env ground _ valid - answered job rfl
      rw [getJob_exec] at answered ⊢
      exact ⟨job, (Table.get?_eq_some.mp (Except.ok.inj answered)).1, rfl, rfl⟩
    refine .bind found fun answer => ?_
    cases answer with
    | none => exact ih.weaken (fun _ _ => trivial) fun _ _ => id
    | some job =>
      refine .bind ((queueOne_answers job.jobId job.packetId (some job)).weaken (fun _ held => held job rfl)
        fun _ _ _ => trivial) fun transitioned => ?_
      exact .bind ih fun recovered => .done fun _ _ => trivial

/-- The recovery at start-up follows the protocol. -/
theorem recoverPendingJobs_follows (limit : Nat) :
    Follows thread (fun _ => True) (recoverPendingJobs limit) :=
  .bind (harmless_follows rfl rfl) recoverJobs_follows

/-- A header is refused with 400. -/
theorem rejectHeader_answers (receiptId : UUID) (reason : String)
    (existing : Option TelemetryDeliveryReceipt) (rawBody : Bytes) :
    Answers thread (fun _ => True) (rejectHeader receiptId reason existing)
      (AnswerDelivered rawBody) :=
  .bind (harmless_follows rfl rfl) fun _ => .done fun _ _ success => by simp at success

/-- The job of a replayed receipt may be queued. -/
theorem requeueReceipt_answers (receipt : TelemetryDeliveryReceipt) (packetId : String)
    (rawBody : Bytes) :
    Answers thread (SettledAs rawBody packetId) (requeueReceipt receipt packetId)
      (AnswerDelivered rawBody) := by
  -- The job was looked up by the packet of the receipt.
  have found : Answers thread (fun _ => True) (callRepository (.getJobForPacket packetId))
      fun found ground => ∀ job, found = some job →
        job.packetId = packetId ∧ ground.HasJob job.jobId job.packetId := by
    refine harmless_answers Lasting.always rfl rfl ?_
    rintro env ground _ valid - answered job rfl
    rw [getJobForPacket_exec] at answered ⊢
    obtain ⟨member, named⟩ := of_jobByPacket (Except.ok.inj answered)
    exact ⟨named, job, member, rfl, rfl⟩
  refine .bind ((found.frame fun _ _ held later => later.settledAs held).weaken
    (fun _ held => ⟨trivial, held⟩) fun _ _ => id) fun answer => ?_
  cases answer with
  | none => exact .raise
  | some job =>
    refine .bind ((queueOne_delivers job.jobId job.packetId (some job) rawBody).weaken ?_ fun _ _ => id)
      fun transitioned => .done fun _ delivered _ => delivered
    rintro ground ⟨read, settled⟩
    obtain ⟨named, stored⟩ := read job rfl
    exact ⟨stored, named.symm ▸ settled⟩

/-- The job of an acceptance may be queued. -/
theorem answerAcceptance_answers (accepted : PacketAcceptanceResult) (rawBody : Bytes) :
    Answers thread (fun ground => accepted.conflict = false → Stands rawBody accepted ground)
      (answerAcceptance accepted) (AnswerDelivered rawBody) := by
  rw [answerAcceptance]
  dsimp only
  split_ifs with conflict duplicate
  · exact .done fun _ _ success => by simp at success
  · have agrees : accepted.conflict = false := by simpa using conflict
    split
    next jobId packetId status job packet =>
      refine .bind ((queueOne_delivers jobId packetId none rawBody).weaken ?_ fun _ _ => id)
        fun _ => .done fun _ delivered _ => delivered
      intro ground stands
      obtain ⟨packetId', jobId', packet', job', settled, stored, -⟩ := stands agrees
      cases packet.symm.trans packet'
      cases job.symm.trans job'
      exact ⟨stored, settled⟩
    next waiting =>
      -- Nothing is left to do, so the job was queued when the receipt was settled.
      refine .done fun ground stands _ => ?_
      obtain ⟨packetId, jobId, packet, job, settled, -, queued⟩ := stands agrees
      exact ⟨packetId, settled, queued fun status => waiting jobId packetId status job packet⟩
  · have agrees : accepted.conflict = false := by simpa using conflict
    split
    next jobId packetId job packet =>
      refine .bind ((queueOne_delivers jobId packetId none rawBody).weaken ?_ fun _ _ => id)
        fun _ => .done fun _ delivered _ => delivered
      intro ground stands
      obtain ⟨packetId', jobId', packet', job', settled, stored, -⟩ := stands agrees
      cases packet.symm.trans packet'
      cases job.symm.trans job'
      exact ⟨stored, settled⟩
    next => exact .raise

/-- A recorded delivery may be validated at a time that has passed. -/
theorem validateDelivery_answers (settings : GroundSettings) (receiptId : UUID) (rawBody : Bytes)
    (receivedAt : Time) (existing : Option TelemetryDeliveryReceipt) :
    Answers thread (fun ground => ground.HasReceipt receiptId rawBody ∧ receivedAt ≤ ground.clock)
      (validateDelivery settings receiptId rawBody receivedAt existing) (AnswerDelivered rawBody) := by
  -- A rejection is no success; an acceptance answers one only after its job was queued.
  rw [validateDelivery]
  split
  next reason detail failed =>
    have rejects : Follows thread (fun _ => True)
        (callRepository (.rejectDelivery receiptId reason.value none "ground-api")
          { receipt := existing }) :=
      harmless_follows rfl rfl
    exact .bind (rejects.weaken (fun _ _ => trivial) fun _ _ => id)
      fun _ => .done fun _ _ success => by simp at success
  next => exact .raise
  next frame decodes =>
    refine .bind ((accept_answers receiptId rawBody (telemetryValues frame) _ _ _).weaken ?_
      fun _ _ => id) fun accepted => answerAcceptance_answers accepted rawBody
    rintro ground ⟨stored, past⟩
    exact ⟨stored, receivedAt, frame, past, decodes, rfl⟩

/-- A delivery that does not conflict has a receipt with its bytes. -/
theorem RecordOutcome.hasReceipt {db : Database} {delivery : Delivery} {newId : UUID}
    {outcome : Except StorageError DeliveryRecordResult × Database}
    (happened : RecordOutcome db delivery newId outcome) {result : DeliveryRecordResult}
    (answered : outcome.1 = .ok result) (agrees : result.requestConflict = false) :
    ∃ receipt ∈ outcome.2.receipts, receipt.receiptId = result.receiptId ∧
      receipt.rawBody = delivery.rawBody := by
  -- The row was inserted or found with the same bytes.
  cases happened with
  | anonymous unnamed admitted =>
    cases answered
    exact ⟨_, (Table.mem_insert admitted.1).mpr (Or.inr rfl), rfl, rfl⟩
  | first named admitted unowned =>
    cases answered
    exact ⟨_, (Table.mem_insert admitted.1).mpr (Or.inr rfl), rfl, rfl⟩
  | replay named owned present link digest same =>
    cases answered
    exact ⟨_, present, rfl, same⟩
  | reused =>
    cases answered
    cases agrees
  | integrity | dangling => cases answered

/-- A recorded delivery, and where its bytes are. -/
theorem recordDelivery_answers (delivery : Delivery) (receiptId : Option UUID) (receivedAt : Time) :
    Answers thread (fun ground => receivedAt ≤ ground.clock)
      (callRepository (.recordDelivery delivery receiptId)) fun result ground =>
        result.requestConflict = false → ground.HasReceipt result.receiptId delivery.rawBody ∧
          receivedAt ≤ ground.clock := by
  -- What passes while the delivery is recorded does not undo the time.
  refine harmless_answers (fun _ _ held later => held.trans later.clock) rfl rfl ?_
  intro env ground result valid held answered agrees
  rcases recordDelivery_serially delivery receiptId env.uuid4 ground.database with
    ⟨_, failed⟩ | ⟨_, happened⟩
  · cases (congrArg Prod.fst failed).symm.trans answered
  · exact ⟨happened.hasReceipt answered agrees, held⟩

/-- A replay reads the receipt of its body. -/
theorem replayedReceipt_answers (delivery : DeliveryRecordResult) (rawBody : Bytes) :
    Answers thread (HasReceipt delivery.receiptId rawBody) (replayedReceipt delivery)
      fun existing ground => ∀ receipt, existing = some receipt →
        ReadReceipt rawBody receipt ground := by
  -- The receipt that is read is the one that was recorded, so it has the same bytes.
  have read : Answers thread (HasReceipt delivery.receiptId rawBody)
      (callRepository (.getDelivery delivery.receiptId)) fun found ground =>
        ∀ receipt, found = some receipt → ReadReceipt rawBody receipt ground := by
    refine harmless_answers (fun _ _ held later => later.hasReceipt held) rfl rfl ?_
    rintro env ground _ valid ⟨original, present, key, rfl⟩ answered receipt rfl
    rw [getDelivery_exec] at answered ⊢
    obtain ⟨member, named⟩ := Table.get?_eq_some.mp (Except.ok.inj answered)
    obtain rfl : original = receipt := Table.eq_of_key present member (key.trans named.symm)
    exact .of_stored valid.reachable.ledger member
  rw [replayedReceipt]
  split_ifs
  · refine .bind read fun found => ?_
    cases found with
    | none => exact .raise
    | some receipt => exact .done fun _ held => held
  · exact .done fun _ _ _ same => nomatch same

/-- A receipt that is answered alone is a success only when its job has been queued. -/
theorem answerReplay_delivered {receipt : TelemetryDeliveryReceipt} {response : Response}
    {rawBody : Bytes} {ground : Ground} (answers : answerReplay receipt = some response)
    (read : ReadReceipt rawBody receipt ground) : AnswerDelivered rawBody response ground := by
  -- A rejected receipt is answered 422, and a settled one only when it shows the queue.
  rw [answerReplay] at answers
  split_ifs at answers with rejected settled
  · cases answers
    intro success
    simp at success
  · exact fun _ => read.queued settled.1 settled.2

/-- A recorded delivery may be checked. -/
theorem checkDelivery_answers (settings : GroundSettings) (vendor : VendorRequest)
    (rawBody : Bytes) (receivedAt : Time) (receiptId : UUID)
    (existing : Option TelemetryDeliveryReceipt) :
    Answers thread (fun ground => (∀ receipt, existing = some receipt →
        ReadReceipt rawBody receipt ground) ∧
        ground.HasReceipt receiptId rawBody ∧ receivedAt ≤ ground.clock)
      (checkDelivery settings vendor rawBody receivedAt receiptId existing)
      (AnswerDelivered rawBody) := by
  -- Only an accepted receipt that does not show the queue is queued again.
  unfold checkDelivery
  split_ifs
  · exact (rejectHeader_answers _ _ _ _).weaken (fun _ _ => trivial) fun _ _ => id
  · exact (rejectHeader_answers _ _ _ _).weaken (fun _ _ => trivial) fun _ _ => id
  · split
    next receipt packetId unqueued =>
      refine (requeueReceipt_answers receipt packetId rawBody).weaken (fun ground held => ?_)
        fun _ _ => id
      replace unqueued : unqueuedPacket receipt = some packetId := unqueued
      rw [unqueuedPacket] at unqueued
      split_ifs at unqueued with waiting
      exact (held.1 receipt rfl).settled (Or.inl waiting.1) packetId unqueued
    next => exact (validateDelivery_answers _ _ _ _ _).weaken (fun _ held => held.2) fun _ _ => id

/-- The handler follows the protocol within its session. -/
theorem deliver_answers (settings : GroundSettings) (vendor : VendorRequest) (rawBody : Bytes)
    (receivedAt : Time) :
    Answers thread (fun ground => receivedAt ≤ ground.clock)
      (deliver settings vendor rawBody receivedAt) (AnswerDelivered rawBody) := by
  -- A conflict is no success; otherwise the replay answers from its receipt or goes on.
  refine .bind (recordDelivery_answers _ none receivedAt) fun delivery => ?_
  split_ifs with conflict
  · exact .done fun _ _ success => by simp at success
  · have agrees : delivery.requestConflict = false := by simpa using conflict
    have lasting : Lasting Later fun ground : Ground =>
        ground.HasReceipt delivery.receiptId rawBody ∧ receivedAt ≤ ground.clock :=
      fun _ _ held later => ⟨later.hasReceipt held.1, le_trans held.2 later.clock⟩
    refine .bind (((replayedReceipt_answers delivery rawBody).frame lasting).weaken
      (fun _ held => ⟨(held agrees).1, held agrees⟩) fun _ _ => id) fun existing => ?_
    split
    next response answers =>
      refine .done fun ground held => ?_
      obtain ⟨receipt, rfl, replay⟩ := Option.bind_eq_some_iff.mp answers
      exact answerReplay_delivered replay (held.1 receipt rfl)
    next => exact checkDelivery_answers settings vendor rawBody receivedAt _ existing

/-- An unreachable store is not a success. -/
theorem answerUnavailable_answers (failure : Failure) (rawBody : Bytes) :
    Answers thread (fun _ => True) (answerUnavailable failure) (AnswerDelivered rawBody) := by
  -- Both answers are refusals, so neither promises a delivery.
  rw [answerUnavailable]
  split_ifs
  · exact .done fun _ _ success => by simp at success
  · exact .done fun _ _ success => by simp at success
  · exact .raise

/-- A request handler follows the protocol, and its successes are in the tables. -/
theorem receivePayloadData_answers (settings : GroundSettings) (vendor : VendorRequest) :
    Answers thread (fun _ => True) (receivePayloadData settings vendor)
      (AnswerDelivered vendor.body) := by
  -- Every refusal on the way is no success.
  rw [receivePayloadData]
  split
  next => exact refuseVendor_answers vendor _
  next =>
    split
    next => exact .raise
    next =>
      rw [receiveAuthenticated]
      rcases boundedBody_spec vendor settings.maxTelemetryBodyBytes with
        ⟨read, -⟩ | ⟨statusCode, refused, refusal⟩
      · rw [read]
        refine .bind utcNow_answers fun receivedAt => ?_
        exact .tryCatch (deliver_answers settings vendor vendor.body receivedAt)
          fun failure => answerUnavailable_answers failure _
      · rw [refused]
        exact refuseBody_answers vendor _ refusal
    next => exact refuseVendor_answers vendor _

end

end Cislunar
