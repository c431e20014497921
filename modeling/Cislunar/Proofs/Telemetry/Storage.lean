import Cislunar.Telemetry.Outcome

/-! Every repository transaction does one of the things its outcome relation lists. -/

namespace Cislunar

open Foundation Foundation.Prog

/-- A statement that only reads hands its reply on. -/
theorem atomically_select {α : Type} {stmt : Stmt} {reply : stmt.Reply}
    {after : stmt.Reply → Txn α} {db : Database} (reads : stmt.exec db = (.ok reply, db)) :
    atomically Stmt.exec (sql stmt >>= after) db = atomically Stmt.exec (after reply) db := by
  -- The read leaves the tables as they are.
  rw [atomically, sql, runAlone_call_bind_ok Stmt.exec reads, atomically]

/-- An insertion whose constraints hold adds its row and goes on. -/
theorem runAlone_insert {α : Type} {stmt : Stmt} {after : stmt.Reply → Txn α}
    {db next : Database} {reply : stmt.Reply} (inserts : stmt.exec db = (.ok reply, next)) :
    (sql stmt >>= after).runAlone Stmt.exec db = (after reply).runAlone Stmt.exec next :=
  runAlone_call_bind_ok Stmt.exec inserts

/-- A refused insertion ends the transaction with its error. -/
theorem runAlone_refused {α : Type} {stmt : Stmt} {after : stmt.Reply → Txn α}
    {db next : Database} {error : StorageError} (refused : stmt.exec db = (.error error, next)) :
    ((sql stmt >>= after).runAlone Stmt.exec db).1 = .error error := by
  -- The statement that was refused is the last one.
  rw [sql, runAlone_call_bind_error Stmt.exec refused]

/-- A transaction whose first insertion is refused changes nothing. -/
theorem atomically_refused {α : Type} {stmt : Stmt} {after : stmt.Reply → Txn α}
    {db next : Database} {error : StorageError} (refused : stmt.exec db = (.error error, next)) :
    atomically Stmt.exec (sql stmt >>= after) db = (.error error, db) :=
  (atomically_eq_error _).mpr ⟨runAlone_refused refused, rfl⟩

/-- A source key is unused exactly when no packet carries it. -/
theorem packetBySource_eq_none {db : Database} {source : Int × Int × Int} :
    db.packetBySource source = none ↔ ∀ packet ∈ db.packets, packet.values.sourceKey ≠ source := by
  -- The search goes through all packets.
  simp [Database.packetBySource, Table.find?_eq_none]

/-- A packet found under a source key is stored under it. -/
theorem of_packetBySource {db : Database} {source : Int × Int × Int}
    {packet : LogicalTelemetryPacket} (found : db.packetBySource source = some packet) :
    packet ∈ db.packets ∧ packet.values.sourceKey = source := by
  simpa using Table.of_find?_eq_some found

/-- A job found for a packet is stored for it. -/
theorem of_jobByPacket {db : Database} {packetId : String} {job : TelemetryProcessingJob}
    (found : db.jobByPacket packetId = some job) : job ∈ db.jobs ∧ job.packetId = packetId := by
  simpa using Table.of_find?_eq_some found

/-- The two insertions of a delivery that takes its request identifier, or has none. -/
theorem insertDelivery_outcome {db : Database} {delivery : Delivery} {receiptId : UUID}
    (unowned : ∀ requestId, delivery.canonicalRequestId = some requestId →
      db.identities.get? requestId = none) :
    RecordOutcome db delivery receiptId
      (atomically Stmt.exec (insertDelivery delivery receiptId none none) db) := by
  -- The identifier has no owner, so no stored delivery is repeated.
  have unmatched : ∀ owner ∈ db.identities, delivery.canonicalRequestId = some owner.requestId →
      ∀ original ∈ db.receipts, original.receiptId = owner.firstReceiptId →
      ¬(owner.bodySha256 = sha256Hex delivery.rawBody ∧ original.rawBody = delivery.rawBody) :=
    fun owner member named =>
      absurd rfl (Table.get?_eq_none.mp (unowned _ named) owner member)
  -- Each insertion either adds its row or undoes the transaction.
  by_cases admitted : db.AdmitsReceipt (delivery.receipt receiptId none)
  · have first : (Stmt.insertReceipt (delivery.receipt receiptId none)).exec db = (.ok (), _) :=
      if_pos admitted
    cases named : delivery.canonicalRequestId with
    | none =>
      have run : atomically Stmt.exec (insertDelivery delivery receiptId none none) db =
          (.ok (deliveryResult (delivery.receipt receiptId none) false false),
            db.addReceipt (delivery.receipt receiptId none)
              (delivery.auditEvent (delivery.receipt receiptId none) false)) := by
        rw [atomically_eq_ok, insertDelivery, runAlone_insert first, named]
        rfl
      rw [run]
      exact .anonymous named admitted
    | some requestId =>
      by_cases owned : db.AdmitsIdentity ⟨requestId, receiptId, sha256Hex delivery.rawBody⟩
      · have second : (Stmt.insertIdentity ⟨requestId, receiptId, sha256Hex delivery.rawBody⟩).exec
            { db with receipts := db.receipts.insert (delivery.receipt receiptId none) } =
              (.ok (), _) := if_pos owned
        have run : atomically Stmt.exec (insertDelivery delivery receiptId none none) db =
            (.ok (deliveryResult (delivery.receipt receiptId none) false false),
              db.addOwner (delivery.receipt receiptId none)
                ⟨requestId, receiptId, sha256Hex delivery.rawBody⟩
                (delivery.auditEvent (delivery.receipt receiptId none) false)) := by
          rw [atomically_eq_ok, insertDelivery, runAlone_insert first, named]
          exact runAlone_insert second
        rw [run]
        exact .first named admitted owned
      · have refused : (Stmt.insertIdentity ⟨requestId, receiptId, sha256Hex delivery.rawBody⟩).exec
            { db with receipts := db.receipts.insert (delivery.receipt receiptId none) } =
              (.error .integrity, _) := if_neg owned
        have run : atomically Stmt.exec (insertDelivery delivery receiptId none none) db =
            (.error .integrity, db) := by
          rw [atomically_eq_error, insertDelivery, runAlone_insert first, named]
          exact ⟨runAlone_refused refused, rfl⟩
        rw [run]
        refine .integrity unmatched ?_
        rintro ⟨-, -, free⟩
        exact owned ⟨unowned _ named, free⟩
  · have refused : (Stmt.insertReceipt (delivery.receipt receiptId none)).exec db =
        (.error .integrity, db) := if_neg admitted
    rw [insertDelivery, atomically_refused refused]
    exact .integrity unmatched fun all => admitted ⟨all.1, all.2.1⟩

/-- The insertion of a delivery whose request identifier belongs to other bytes. -/
theorem insertReused_outcome {db : Database} {delivery : Delivery} {receiptId : UUID}
    {owner : TelemetryRequestIdentity} {original : TelemetryDeliveryReceipt}
    (named : delivery.canonicalRequestId = some owner.requestId) (member : owner ∈ db.identities)
    (present : original ∈ db.receipts) (link : original.receiptId = owner.firstReceiptId)
    (other : ¬(owner.bodySha256 = sha256Hex delivery.rawBody ∧
      original.rawBody = delivery.rawBody)) :
    RecordOutcome db delivery receiptId (atomically Stmt.exec
      (insertDelivery delivery receiptId (some owner) (some original)) db) := by
  by_cases admitted : db.AdmitsReceipt (delivery.receipt receiptId (some original))
  · have first : (Stmt.insertReceipt (delivery.receipt receiptId (some original))).exec db =
        (.ok (), _) := if_pos admitted
    have run : atomically Stmt.exec
        (insertDelivery delivery receiptId (some owner) (some original)) db =
        (.ok (deliveryResult (delivery.receipt receiptId (some original)) false true),
          db.addReceipt (delivery.receipt receiptId (some original))
            (delivery.auditEvent (delivery.receipt receiptId (some original)) true)) := by
      rw [atomically_eq_ok, insertDelivery, runAlone_insert first, named]
      rfl
    rw [run]
    exact .reused named member present link other admitted
  · have refused : (Stmt.insertReceipt (delivery.receipt receiptId (some original))).exec db =
        (.error .integrity, db) := if_neg admitted
    rw [insertDelivery, atomically_refused refused]
    refine .integrity ?_ fun all => admitted ⟨all.1, all.2.1⟩
    -- The owner of the identifier and its first receipt are the ones that were read.
    intro another among also origin stored first
    obtain rfl : another = owner :=
      Table.eq_of_key among member (Option.some.inj (also.symm.trans named))
    rwa [Table.eq_of_key stored present (first.trans link.symm)]

/-- `record_delivery` does one of the listed things. -/
theorem recordDelivery_outcome (delivery : Delivery) (receiptId : UUID) (db : Database) :
    RecordOutcome db delivery receiptId
      (atomically Stmt.exec (recordDeliveryTransaction delivery receiptId) db) := by
  rw [recordDeliveryTransaction]
  cases named : delivery.canonicalRequestId with
  | none => exact insertDelivery_outcome (by simp [named])
  | some requestId =>
    dsimp only
    rw [atomically_select rfl]
    cases owned : db.identities.get? requestId with
    | none => exact insertDelivery_outcome (by simp [named, owned])
    | some owner =>
      obtain ⟨member, rfl⟩ := Table.get?_eq_some.mp owned
      dsimp only
      rw [atomically_select rfl]
      cases found : db.receipts.get? owner.firstReceiptId with
      | none => exact .dangling named member found _
      | some original =>
        obtain ⟨present, link⟩ := Table.get?_eq_some.mp found
        dsimp only
        split_ifs with same
        · exact .replay named member present link same.1 same.2
        · -- The identifier belongs to other bytes, so only the receipt is added.
          exact insertReused_outcome named member present link same

/-- `reject_delivery` does one of the listed things. -/
theorem rejectDelivery_outcome (receiptId : UUID) (reason : String)
    (parsedIdentifiers : Option JsonObject) (actorIdentity : String) (db : Database) :
    RejectOutcome db receiptId reason parsedIdentifiers actorIdentity
      (atomically Stmt.exec
        (rejectDeliveryTransaction receiptId reason parsedIdentifiers actorIdentity) db) := by
  -- The branches of the transaction, in their order.
  rw [rejectDeliveryTransaction, atomically_select rfl]
  cases found : db.receipts.get? receiptId with
  | none => exact .missing found
  | some receipt =>
    dsimp only
    split_ifs with rejected reason other
    · exact .refused found (by simp [rejected]) _
    · exact .repeated found rejected (not_not.mp reason)
    · exact .refused found other _
    · exact .rejected found (not_not.mp other)

section Acceptance
variable {db : Database} {receipt : TelemetryDeliveryReceipt} {values : DecodedTelemetryValues}
variable {jobId : UUID} {options : AcceptanceOptions}

/-- A delivery under a used source key becomes a duplicate or a conflict. -/
theorem settleExisting_outcome {existing : LogicalTelemetryPacket}
    (found : db.packetBySource values.sourceKey = some existing) :
    SettleOutcome db receipt values jobId options
      (atomically Stmt.exec (settleExisting receipt values existing options.actorIdentity) db) := by
  obtain ⟨stored, key⟩ := of_packetBySource found
  rw [settleExisting, atomically_select rfl]
  -- Digest and bytes are compared with those of the packet's source.
  by_cases exact : isExactDuplicate receipt existing (db.receipts.get? existing.sourceReceiptId) = true
  · rw [if_pos exact]
    obtain ⟨origin, source, same⟩ := (Option.any_eq_true _ _).mp exact
    obtain ⟨digest, bytes⟩ := of_decide_eq_true same
    exact .duplicated stored key source digest bytes
  · rw [if_neg exact]
    refine .conflicted stored key fun origin source digest bytes => exact ?_
    rw [isExactDuplicate, source]
    simp [digest, bytes]

/-- A packet whose rows all satisfy their constraints is added together with its job. -/
theorem acceptNew_run {sequenceState : Option TelemetrySequenceState}
    {disposition : PacketDisposition} {missingBefore : Int}
    (packetAdmitted : db.AdmitsPacket (newPacket receipt values disposition missingBefore))
    (stateAdmitted : sequenceState = none → db.AdmitsState (firstState values missingBefore))
    (jobAdmitted : db.AdmitsJob (newJob jobId values.packetId options.maxAttempts options.now)) :
    atomically Stmt.exec
        (acceptNew receipt values sequenceState disposition missingBefore jobId options) db =
      (.ok (acceptedResult receipt values jobId disposition missingBefore),
        db.addPacket receipt values sequenceState disposition missingBefore jobId options) := by
  have first : (Stmt.insertPacket (newPacket receipt values disposition missingBefore)).exec db =
      (.ok (), _) := if_pos packetAdmitted
  have third : (Stmt.insertJob (newJob jobId values.packetId options.maxAttempts options.now)).exec
      { db with
        packets := db.packets.insert (newPacket receipt values disposition missingBefore)
        states := db.countPacket values disposition missingBefore sequenceState } = (.ok (), _) :=
    if_pos jobAdmitted
  rw [atomically_eq_ok, acceptNew, runAlone_insert first]
  -- The first packet of a session inserts the state, a later one updates it.
  cases sequenceState with
  | none =>
    have second : (Stmt.insertState (firstState values missingBefore)).exec
        { db with
          packets := db.packets.insert (newPacket receipt values disposition missingBefore) } =
        (.ok (), _) :=
      if_pos (stateAdmitted rfl)
    dsimp only
    rw [runAlone_insert second]
    exact runAlone_insert third
  | some state => exact runAlone_insert third

/-- Adding a packet succeeds as a whole or fails with an integrity error. -/
theorem acceptNew_outcome {sequenceState : Option TelemetrySequenceState}
    {disposition : PacketDisposition} {missingBefore : Int}
    (unused : db.packetBySource values.sourceKey = none)
    (tracked : db.states.get? (values.payloadId, values.bootId) = sequenceState)
    (position : sequencePosition values.sequenceNumber sequenceState =
      some (disposition, missingBefore)) :
    SettleOutcome db receipt values jobId options
      (atomically Stmt.exec
        (acceptNew receipt values sequenceState disposition missingBefore jobId options) db) := by
  -- Packet, state and job are inserted in this order, and the first refusal undoes all of it.
  by_cases packetAdmitted : db.AdmitsPacket (newPacket receipt values disposition missingBefore)
  · have first : (Stmt.insertPacket (newPacket receipt values disposition missingBefore)).exec db =
        (.ok (), _) := if_pos packetAdmitted
    by_cases stateAdmitted : sequenceState = none → db.AdmitsState (firstState values missingBefore)
    · by_cases jobAdmitted :
          db.AdmitsJob (newJob jobId values.packetId options.maxAttempts options.now)
      · rw [acceptNew_run packetAdmitted stateAdmitted jobAdmitted]
        exact .accepted unused tracked position packetAdmitted stateAdmitted jobAdmitted
      · have refused : (Stmt.insertJob (newJob jobId values.packetId options.maxAttempts
            options.now)).exec { db with
              packets := db.packets.insert (newPacket receipt values disposition missingBefore)
              states := db.countPacket values disposition missingBefore sequenceState } =
            (.error .integrity, _) := if_neg jobAdmitted
        have run : atomically Stmt.exec (acceptNew receipt values sequenceState disposition
            missingBefore jobId options) db = (.error .integrity, db) := by
          rw [atomically_eq_error, acceptNew, runAlone_insert first]
          cases sequenceState with
          | none =>
            have second : (Stmt.insertState (firstState values missingBefore)).exec { db with
                packets := db.packets.insert
                  (newPacket receipt values disposition missingBefore) } = (.ok (), _) :=
              if_pos (stateAdmitted rfl)
            dsimp only
            rw [runAlone_insert second]
            exact ⟨runAlone_refused refused, rfl⟩
          | some state =>
            dsimp only
            rw [runAlone_insert (show (Stmt.updateState (state.count values disposition
              missingBefore)).exec _ = (.ok (), _) from rfl)]
            exact ⟨runAlone_refused refused, rfl⟩
        rw [run]
        exact .integrity unused tracked position fun all => jobAdmitted all.2.2
    · obtain ⟨rfl, refused⟩ := Classical.not_imp.mp stateAdmitted
      have second : (Stmt.insertState (firstState values missingBefore)).exec { db with
          packets := db.packets.insert (newPacket receipt values disposition missingBefore) } =
        (.error .integrity, _) := if_neg refused
      have run : atomically Stmt.exec (acceptNew receipt values none disposition missingBefore
          jobId options) db = (.error .integrity, db) := by
        rw [atomically_eq_error, acceptNew, runAlone_insert first]
        exact ⟨runAlone_refused second, rfl⟩
      rw [run]
      exact .integrity unused tracked position fun all => stateAdmitted all.2.1
  · have refused : (Stmt.insertPacket (newPacket receipt values disposition missingBefore)).exec db =
        (.error .integrity, db) := if_neg packetAdmitted
    rw [acceptNew, atomically_refused refused]
    exact .integrity unused tracked position fun all => packetAdmitted all.1

/-- Only a state whose mark the packet stands on leaves the packet without a position. -/
theorem sequencePosition_eq_none {sequenceNumber : Int}
    {sequenceState : Option TelemetrySequenceState} :
    sequencePosition sequenceNumber sequenceState = none ↔
      ∃ state, sequenceState = some state ∧
        forwardDistance sequenceNumber state.highWaterSequence = 0 := by
  -- The first comparison is the only branch without a position.
  cases sequenceState with
  | none => simp [sequencePosition]
  | some state =>
    simp only [sequencePosition, Option.some.injEq, exists_eq_left']
    split_ifs with onMark <;> simp [onMark]

/-- A pending receipt is settled in one of the listed ways. -/
theorem settlePending_outcome :
    SettleOutcome db receipt values jobId options
      (atomically Stmt.exec (settlePending receipt values jobId options) db) := by
  -- The look for the packet decides, and then the place in the session.
  rw [settlePending, atomically_select rfl]
  cases found : db.packetBySource values.sourceKey with
  | some existing => exact settleExisting_outcome found
  | none =>
    dsimp only
    rw [atomically_select rfl]
    cases position : sequencePosition values.sequenceNumber
        (db.states.get? (values.payloadId, values.bootId)) with
    | none =>
      obtain ⟨state, tracked, onMark⟩ := sequencePosition_eq_none.mp position
      exact .stateConflicted found tracked onMark
    | some place => exact acceptNew_outcome found rfl position

/-- The acceptance transaction does one of the listed things. -/
theorem acceptPacket_outcome (receiptId : UUID) (values : DecodedTelemetryValues) (jobId : UUID)
    (options : AcceptanceOptions) (db : Database) :
    AcceptOutcome db receiptId values jobId options
      (atomically Stmt.exec (acceptPacketTransaction receiptId values jobId options) db) := by
  rw [acceptPacketTransaction, atomically_select rfl]
  cases found : db.receipts.get? receiptId with
  | none => exact .missing found
  | some receipt =>
    dsimp only
    split_ifs with settled other
    -- A settled receipt is answered from the packet and the job that it names.
    · have answer : atomically Stmt.exec (replayAcceptance receipt) db =
          (.ok (replayedAcceptance receipt (receipt.logicalPacketId.bind db.packets.get?)
            (receipt.logicalPacketId.bind db.jobByPacket)), db) := by
        rw [replayAcceptance]
        cases receipt.logicalPacketId <;> rfl
      rw [answer]
      exact .replayed found settled
    · refine .refused found ?_ _
      cases status : receipt.validationStatus <;> simp [status] at settled other ⊢
    · exact .settled found (not_not.mp other) settlePending_outcome

end Acceptance

/-- Writing back a list of receipts as queued touches only those receipts. -/
theorem runAlone_updateQueued (receipts : List TelemetryDeliveryReceipt) (db : Database) :
    (updateQueued receipts).runAlone Stmt.exec db =
      (.ok (), { db with
        receipts := receipts.foldl
          (fun table receipt => table.set { receipt with queueStatus := .queued })
          db.receipts }) := by
  -- By induction on the receipts.
  induction receipts generalizing db with
  | nil => rfl
  | cons receipt rest ih => exact ih _

/-- `mark_job_queued` does one of the listed things. -/
theorem markJobQueued_outcome (jobId : UUID) (queueMessageId actorIdentity : String)
    (db : Database) :
    QueueOutcome db jobId queueMessageId actorIdentity
      (atomically Stmt.exec (markJobQueuedTransaction jobId queueMessageId actorIdentity) db) := by
  rw [markJobQueuedTransaction, atomically_select rfl]
  cases found : db.jobs.get? jobId with
  | none => exact .missing found
  | some job =>
    dsimp only
    split_ifs with queued renamed other
    · exact .renamed found queued renamed _
    · exact .repeated found queued (not_not.mp renamed)
    · refine .refused found ?_ _
      cases status : job.state <;> simp [status] at queued other ⊢
    · have waiting : job.state = .pendingQueue ∨ job.state = .retryWait := by
        by_cases pending : job.state = .pendingQueue
        · exact Or.inl pending
        · exact Or.inr (not_not.mp fun retry => other ⟨pending, retry⟩)
      have run : atomically Stmt.exec (do
          sql (.updateJob (queuedJob job queueMessageId))
          let receipts : List TelemetryDeliveryReceipt ← sql (.selectAcceptedReceipts job.packetId)
          updateQueued receipts
          audit (queuedEvent job queueMessageId actorIdentity)
          return true) db = (.ok true, db.queue job queueMessageId actorIdentity) := by
        -- Writing the accepted receipts back one by one changes exactly those receipts.
        rw [atomically_eq_ok, Database.queue, ← Table.foldl_set_eq_modify]
        show ((updateQueued (db.acceptedReceipts job.packetId) >>= _).runAlone Stmt.exec
          { db with jobs := db.jobs.set (queuedJob job queueMessageId) }) = _
        rw [runAlone_bind, runAlone_updateQueued]
        rfl
      exact run ▸ .queued found waiting

/-- Taking a claimable job returns its packet's evidence. -/
theorem takeJob_outcome {db : Database} {jobId : UUID} {job : TelemetryProcessingJob}
    (workerId : String) (leaseSeconds : Int) {now : Time} (found : db.jobs.get? jobId = some job)
    (undone : db.processed.get? job.packetId = none) (free : isClaimable job now = true) :
    ClaimOutcome db jobId workerId leaseSeconds now
      (atomically Stmt.exec (takeJob job workerId leaseSeconds now) db) := by
  -- The packet and its source are looked up before the job is written.
  rw [takeJob, atomically_select rfl]
  cases stored : db.packets.get? job.packetId with
  | none => exact .dangling found (by simp [stored]) _
  | some packet =>
    dsimp only
    rw [atomically_select rfl]
    cases source : db.receipts.get? packet.sourceReceiptId with
    | none => exact .dangling found (by simp [stored, source]) _
    | some receipt => exact .taken found undone free stored source

/-- `claim_processing_job` does one of the listed things. -/
theorem claimProcessingJob_outcome (jobId : UUID) (workerId : String) (leaseSeconds : Int)
    (now : Time) (db : Database) :
    ClaimOutcome db jobId workerId leaseSeconds now
      (atomically Stmt.exec (claimProcessingJobTransaction jobId workerId leaseSeconds now) db) := by
  rw [claimProcessingJobTransaction, atomically_select rfl]
  cases found : db.jobs.get? jobId with
  | none => exact .missing found
  | some job =>
    dsimp only
    rw [atomically_select rfl]
    -- A job whose packet has a result is closed, unless it is complete already.
    cases done : db.processed.get? job.packetId with
    | some processed =>
      dsimp only
      split_ifs with status
      · have run : atomically Stmt.exec (do
            sql (.updateJob (closedJob job processed))
            return none) db =
            (.ok (none : Option TelemetryWorkItem), db.move (closedJob job processed) []) := by
          simp only [Database.move, List.append_nil]
          rfl
        exact run ▸ .closed found done status
      · exact .finished found done (not_not.mp status)
    | none =>
      dsimp only
      split_ifs with free
      · exact takeJob_outcome workerId leaseSeconds found done free
      · exact .unavailable found done (by simpa using free)

/-- `complete_processing_job` does one of the listed things. -/
theorem completeProcessingJob_outcome (jobId : UUID) (result : ProcessingResultValues)
    (workerId : String) (completionTime : Time) (db : Database) :
    CompleteOutcome db jobId result workerId completionTime
      (atomically Stmt.exec
        (completeProcessingJobTransaction jobId result workerId completionTime) db) := by
  rw [completeProcessingJobTransaction, atomically_select rfl]
  cases found : db.jobs.get? jobId with
  | none => exact .missing found
  | some job =>
    dsimp only
    rw [atomically_select rfl]
    -- A stored result is compared with the new one; without one the job is completed.
    cases done : db.processed.get? job.packetId with
    | some existing =>
      dsimp only
      split_ifs with different
      · exact .conflicting found done (by simpa using different) _
      · have run : atomically Stmt.exec (do
            sql (.updateJob (closedJob job existing))
            return existing) db = (.ok existing, db.move (closedJob job existing) []) := by
          simp only [Database.move, List.append_nil]
          rfl
        exact run ▸ .closed found done (by simpa using different)
    | none =>
      dsimp only
      split_ifs with status owned
      · exact .refused found done (Or.inl status) _
      · exact .refused found done (Or.inr owned) _
      -- The job is updated before the row is inserted, and a refusal undoes both.
      · by_cases admitted : db.AdmitsProcessed (processedRow job result completionTime)
        · have run : atomically Stmt.exec (do
              sql (.updateJob (completedJob job completionTime))
              sql (.insertProcessed (processedRow job result completionTime))
              audit (completedEvent job result workerId)
              return processedRow job result completionTime) db =
              (.ok (processedRow job result completionTime),
                db.complete job result workerId completionTime) := by
            have second : (Stmt.insertProcessed (processedRow job result completionTime)).exec
                { db with jobs := db.jobs.set (completedJob job completionTime) } = (.ok (), _) :=
              if_pos admitted
            rw [atomically_eq_ok]
            exact runAlone_insert second
          rw [run]
          exact .completed found done (not_not.mp status) (not_not.mp owned) admitted
        · have refused : (Stmt.insertProcessed (processedRow job result completionTime)).exec
              { db with jobs := db.jobs.set (completedJob job completionTime) } =
              (.error .integrity, _) := if_neg admitted
          have run : atomically Stmt.exec (do
              sql (.updateJob (completedJob job completionTime))
              sql (.insertProcessed (processedRow job result completionTime))
              audit (completedEvent job result workerId)
              return processedRow job result completionTime) db = (.error .integrity, db) := by
            rw [atomically_eq_error, runAlone_insert (show (Stmt.updateJob (completedJob job
              completionTime)).exec db = (.ok (), _) from rfl)]
            exact ⟨runAlone_refused refused, rfl⟩
          rw [run]
          exact .integrity found done admitted

/-- `fail_processing_attempt` does one of the listed things. -/
theorem failProcessingAttempt_outcome (jobId : UUID) (workerId reason : String) (temporary : Bool)
    (baseBackoffSeconds : Int) (failureTime : Time) (db : Database) :
    FailOutcome db jobId workerId reason temporary baseBackoffSeconds failureTime
      (atomically Stmt.exec (failProcessingAttemptTransaction jobId workerId reason temporary
        baseBackoffSeconds failureTime) db) := by
  -- The branches of the transaction, in their order.
  rw [failProcessingAttemptTransaction, atomically_select rfl]
  cases found : db.jobs.get? jobId with
  | none => exact .missing found
  | some job =>
    dsimp only
    split_ifs with failed status owned
    · exact .repeated found failed
    · exact .refused found (Or.inl status) failed _
    · exact .refused found (Or.inr owned) failed _
    · exact .failed found (not_not.mp status) (not_not.mp owned)

end Cislunar
