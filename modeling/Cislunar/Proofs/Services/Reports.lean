import Cislunar.Proofs.Services.Answers
import Cislunar.Proofs.Services.Verdicts

/-!
What the gateway answers about a receipt is what the tables say about it, for good where no call decides
on an outdated object.

An answer that names a receipt is given after the receipt was settled, so nothing that happens later
makes it untrue.
-/

namespace Cislunar

open Foundation Ground

/-- The tables hold a receipt with the evidence and the final verdict of a row. -/
def Ground.Settled (row : TelemetryDeliveryReceipt) (ground : Ground) : Prop :=
  row.validationStatus ≠ .pending ∧ ∃ found ∈ ground.database.receipts,
    found.evidence = row.evidence ∧ found.verdict = row.verdict

/-- An answer tells the verdict of a receipt: its packet where it has one, else its reason. -/
inductive Response.Tells (response : Response) (row : TelemetryDeliveryReceipt) : Prop where
  | taken (code : response.statusCode = 200 ∨ response.statusCode = 202)
      (status : row.validationStatus = .accepted ∨ row.validationStatus = .duplicate)
      (packetId : String) (named : row.logicalPacketId = some packetId)
      (told : response.content.lookup "packet_id" = some (.text packetId))
  /-- Only the headers are refused with a 400. -/
  | rejected (reason : String)
      (code : response.statusCode = 422 ∨ response.statusCode = 400 ∧
        (reason = "INVALID_CONTENT_TYPE" ∨ reason = "INVALID_REQUEST_ID"))
      (status : row.validationStatus = .rejected) (given : row.rejectionReason = some reason)
      (told : response.content.lookup "reason" = some (.text reason))
  | conflict (code : response.statusCode = 409) (status : row.validationStatus = .conflict)
      (reason : String) (given : row.rejectionReason = some reason)
      (told : response.content.lookup "reason" = some (.text reason))

/-- What is told of a receipt is told of every row with its verdict. -/
theorem Response.Tells.congr {response : Response} {row found : TelemetryDeliveryReceipt}
    (tells : response.Tells row) (same : found.verdict = row.verdict) : response.Tells found := by
  -- A verdict consists of the three columns that an answer is about.
  have status : found.validationStatus = row.validationStatus :=
    congrArg Verdict.validationStatus same
  have reason : found.rejectionReason = row.rejectionReason := congrArg Verdict.rejectionReason same
  have packet : found.logicalPacketId = row.logicalPacketId := congrArg Verdict.logicalPacketId same
  cases tells with
  | taken code stands packetId named told =>
    exact .taken code (status ▸ stands) packetId (packet.trans named) told
  | rejected text code stands given told =>
    exact .rejected text code (status.trans stands) (reason.trans given) told
  | conflict code stands text given told =>
    exact .conflict code (status.trans stands) text (reason.trans given) told

/-- An answer names a receipt with the body of its request and tells its verdict. -/
def Response.OnRecord (response : Response) (rawBody : Bytes) (ground : Ground) : Prop :=
  ∃ row, ground.Settled row ∧ row.rawBody = rawBody ∧
    response.content.lookup "receipt_id" = some (.text row.receiptId.str) ∧ response.Tells row

section Outcomes
variable {db : Database}

/-- A delivery in conflict has a receipt that says so. -/
theorem RecordOutcome.conflicted {delivery : Delivery} {receiptId : UUID}
    {outcome : Except StorageError DeliveryRecordResult × Database}
    (happened : RecordOutcome db delivery receiptId outcome) {result : DeliveryRecordResult}
    (answered : outcome.1 = .ok result) (conflict : result.requestConflict = true) :
    ∃ row ∈ outcome.2.receipts, row.receiptId = result.receiptId ∧
      row.rawBody = delivery.rawBody ∧ row.validationStatus = .conflict ∧
      row.rejectionReason = some "REQUEST_ID_REUSED_WITH_DIFFERENT_BODY" := by
  -- Only the reuse of a request identifier with other bytes answers with a conflict.
  cases happened with
  | anonymous | first | replay =>
    cases answered
    cases conflict
  | reused _ _ _ _ _ admitted =>
    cases answered
    exact ⟨_, (Table.mem_insert admitted.1).mpr (Or.inr rfl), rfl, rfl, rfl, rfl⟩
  | integrity | dangling => cases answered

/-- A rejection that is answered has a receipt that says so. -/
theorem RejectOutcome.settled {receiptId : UUID} {reason : String}
    {parsedIdentifiers : Option JsonObject} {actorIdentity : String}
    {outcome : Except StorageError DeliveryRecordResult × Database}
    (happened : RejectOutcome db receiptId reason parsedIdentifiers actorIdentity outcome)
    {result : DeliveryRecordResult} (answered : outcome.1 = .ok result) :
    result.receiptId = receiptId ∧ ∃ row ∈ outcome.2.receipts, row.receiptId = receiptId ∧
      row.validationStatus = .rejected ∧ row.rejectionReason = some reason := by
  -- A repetition finds the reason it would have written.
  cases happened with
  | missing | refused => cases answered
  | @repeated receipt found status same =>
    cases answered
    obtain ⟨present, key⟩ := Table.get?_eq_some.mp found
    exact ⟨key, receipt, present, key, status, same⟩
  | @rejected receipt found status =>
    cases answered
    obtain ⟨present, key⟩ := Table.get?_eq_some.mp found
    exact ⟨key, _, (Table.mem_set_of_mem present (by rfl)).mpr (Or.inl rfl), key, rfl, rfl⟩

/-- An acceptance that is answered has a receipt that says so. -/
theorem AcceptOutcome.told {receiptId : UUID} {values : DecodedTelemetryValues} {jobId : UUID}
    {options : AcceptanceOptions}
    {outcome : Except StorageError PacketAcceptanceResult × Database} (reachable : Reachable db)
    (range : 0 ≤ values.sequenceNumber ∧ values.sequenceNumber ≤ maxUint32)
    (happened : AcceptOutcome db receiptId values jobId options outcome)
    {accepted : PacketAcceptanceResult} (answered : outcome.1 = .ok accepted) :
    accepted.receiptId = receiptId ∧ ∃ row ∈ outcome.2.receipts, row.receiptId = receiptId ∧
      (accepted.conflict = true ∧ row.validationStatus = .conflict ∧
          row.rejectionReason = some "SEQUENCE_CONFLICT" ∨
        accepted.conflict = false ∧
          (row.validationStatus = .accepted ∨ row.validationStatus = .duplicate) ∧
          ∃ packetId, row.logicalPacketId = some packetId ∧ accepted.packetId = some packetId) := by
  -- No packet is missing on a mark, which leaves the conflict of the bytes.
  have unmissing := happened.ne_stateConflict reachable.accounting range
  cases happened with
  | missing | refused => cases answered
  | @replayed receipt found status =>
    cases answered
    obtain ⟨present, key⟩ := Table.get?_eq_some.mp found
    obtain ⟨packet, -, named, -⟩ := reachable.ledger.packetOfReceipt present status
    exact ⟨key, receipt, present, key, Or.inr ⟨rfl, status, _, named, named⟩⟩
  | @settled receipt found status _ settles =>
    obtain ⟨present, key⟩ := Table.get?_eq_some.mp found
    cases settles with
    | integrity => cases answered
    | stateConflicted => exact absurd rfl (unmissing receipt)
    | conflicted =>
      cases answered
      exact ⟨key, _, (Table.mem_set_of_mem present (by rfl)).mpr (Or.inl rfl), key,
        Or.inl ⟨rfl, rfl, rfl⟩⟩
    | duplicated =>
      cases answered
      exact ⟨key, _, (Table.mem_set_of_mem present (by rfl)).mpr (Or.inl rfl), key,
        Or.inr ⟨rfl, Or.inr rfl, _, rfl, rfl⟩⟩
    | accepted =>
      cases answered
      exact ⟨key, _, (Table.mem_set_of_mem present (by rfl)).mpr (Or.inl rfl), key,
        Or.inr ⟨rfl, Or.inl rfl, _, rfl, rfl⟩⟩

end Outcomes

section Steps
variable {thread : Nat}

/-- A settled row of the tables. -/
theorem Ground.Settled.of_mem {row : TelemetryDeliveryReceipt} {ground : Ground}
    (settled : row.validationStatus ≠ .pending) (member : row ∈ ground.database.receipts) :
    ground.Settled row :=
  ⟨settled, row, member, rfl, rfl⟩

/-- What is settled stays settled. -/
theorem lasting_settled (row : TelemetryDeliveryReceipt) : Lasting Later (Settled row) := by
  -- Rows develop, and what develops from a settled row has its verdict.
  rintro before after ⟨settled, found, member, evidence, verdict⟩ later
  obtain ⟨next, among, develops⟩ := later.database.receipts found member
  have final : found.validationStatus ≠ .pending := by
    rwa [show found.validationStatus = row.validationStatus from
      congrArg Verdict.validationStatus verdict]
  exact ⟨settled, next, among, develops.evidence.trans evidence,
    (develops.verdict final).trans verdict⟩

/-- A recorded receipt stays where it is. -/
theorem lasting_hasReceipt (receiptId : UUID) (rawBody : Bytes) :
    Lasting Later (HasReceipt receiptId rawBody) := fun _ _ held later => later.hasReceipt held

/-- The row under an identifier holds the body that was recorded under it. -/
theorem Ground.HasReceipt.body {receiptId : UUID} {rawBody : Bytes} {ground : Ground}
    (recorded : ground.HasReceipt receiptId rawBody) {row : TelemetryDeliveryReceipt}
    (member : row ∈ ground.database.receipts) (key : row.receiptId = receiptId) :
    row.rawBody = rawBody := by
  -- Keys are unique, and a recorded body stays.
  obtain ⟨original, stored, identified, rfl⟩ := recorded
  obtain rfl : original = row := Table.eq_of_key stored member (identified.trans key.symm)
  rfl

/-- A rejection that is answered has settled the receipt. -/
theorem rejectDelivery_reports (receiptId : UUID) (reason : String) (rawBody : Bytes)
    (held : Held) :
    Answers thread (HasReceipt receiptId rawBody)
      (callRepository (.rejectDelivery receiptId reason none "ground-api") held)
      fun result ground => result.receiptId = receiptId ∧ ∃ row, ground.Settled row ∧
        row.receiptId = receiptId ∧ row.rawBody = rawBody ∧ row.validationStatus = .rejected ∧
        row.rejectionReason = some reason := by
  -- On current rows the answer tells which row now says so.
  refine harmless_answers (lasting_hasReceipt _ _) rfl rfl ?_
  intro env ground result valid recorded answered
  have still := (valid.later_call env (.rejectDelivery receiptId reason none
    "ground-api")).hasReceipt recorded
  obtain ⟨same, row, member, key, status, given⟩ :=
    (rejectDelivery_exec env ground.database receiptId reason none "ground-api").settled answered
  have settled : row.validationStatus ≠ .pending := by
    rw [status]
    decide
  exact ⟨same, row, .of_mem settled member, key, still.body member key, status, given⟩

/-- An acceptance that is answered has settled the receipt. -/
theorem accept_reports (receiptId : UUID) (rawBody : Bytes) (values : DecodedTelemetryValues)
    (maxAttempts : Int) (held : Held) :
    Answers thread
      (fun ground => ground.HasReceipt receiptId rawBody ∧ ground.Decoded rawBody values)
      (callRepository (.acceptPacketAndCreateJob receiptId values maxAttempts "ground-api") held)
      fun accepted ground => (accepted.conflict = false → Stands rawBody accepted ground) ∧
        accepted.receiptId = receiptId ∧
        ∃ row, ground.Settled row ∧ row.receiptId = receiptId ∧ row.rawBody = rawBody ∧
          (accepted.conflict = true ∧ row.validationStatus = .conflict ∧
              row.rejectionReason = some "SEQUENCE_CONFLICT" ∨
            accepted.conflict = false ∧
              (row.validationStatus = .accepted ∨ row.validationStatus = .duplicate) ∧
              ∃ packetId, row.logicalPacketId = some packetId ∧
                accepted.packetId = some packetId) := by
  -- An acceptance that does not raise tells the verdict of the row it settled or found.
  refine acceptance_answers _ _ _ _ fun env ground accepted valid recorded answered => ?_
  have still := (valid.later_call env (.acceptPacketAndCreateJob receiptId values maxAttempts
    "ground-api")).hasReceipt recorded
  rcases acceptPacketAndCreateJob_serially receiptId values
    { maxAttempts := maxAttempts, actorIdentity := "ground-api", now := env.now } env.uuid4
    ground.database with ⟨_, failed⟩ | ⟨range, -, _, happened⟩
  · cases (congrArg Prod.fst failed).symm.trans answered
  · obtain ⟨same, row, member, key, told⟩ := happened.told valid.reachable range answered
    have settled : row.validationStatus ≠ .pending := by
      rcases told with ⟨-, status, -⟩ | ⟨-, status | status, -⟩ <;> rw [status] <;> decide
    exact ⟨accept_stands valid recorded answered, same, row, .of_mem settled member, key,
      still.body member key, told⟩

/-- A header is refused with the receipt that was rejected for it. -/
theorem rejectHeader_reports {reason : String}
    (header : reason = "INVALID_CONTENT_TYPE" ∨ reason = "INVALID_REQUEST_ID") (receiptId : UUID)
    (existing : Option TelemetryDeliveryReceipt) (rawBody : Bytes) :
    Answers thread (HasReceipt receiptId rawBody) (rejectHeader receiptId reason existing)
      fun response ground => response.OnRecord rawBody ground := by
  -- The response names the receipt that the rejection answered with.
  refine .bind (rejectDelivery_reports receiptId reason rawBody _) fun result =>
    .done fun ground rejected => ?_
  obtain ⟨same, row, settled, key, body, status, given⟩ := rejected
  refine ⟨row, settled, body, ?_, .rejected reason (Or.inr ⟨rfl, header⟩) status given rfl⟩
  rw [key, ← same]
  rfl

/-- What is known of a receipt that was read once. -/
structure Ground.HasRead (rawBody : Bytes) (receipt : TelemetryDeliveryReceipt) (ground : Ground) :
    Prop where
  body : receipt.rawBody = rawBody
  final : receipt.validationStatus ≠ .pending → ground.Settled receipt
  reasoned : receipt.validationStatus = .rejected → ∃ reason, receipt.rejectionReason = some reason
  named : receipt.validationStatus = .accepted ∨ receipt.validationStatus = .duplicate →
    ∃ packetId, receipt.logicalPacketId = some packetId

/-- A replay reads the receipt of its body. -/
theorem replayedReceipt_reads (delivery : DeliveryRecordResult) (rawBody : Bytes) :
    Answers thread (HasReceipt delivery.receiptId rawBody) (replayedReceipt delivery)
      fun existing ground => ∀ receipt, existing = some receipt →
        ground.HasRead rawBody receipt := by
  -- The receipt is read while the tables are consistent, so its columns go together.
  have read : Answers thread (HasReceipt delivery.receiptId rawBody)
      (callRepository (.getDelivery delivery.receiptId)) fun found ground => ∀ receipt,
        found = some receipt → ground.HasRead rawBody receipt := by
    refine harmless_answers (lasting_hasReceipt _ _) rfl rfl ?_
    rintro env ground _ valid recorded answered receipt rfl
    rw [getDelivery_exec] at answered ⊢
    obtain ⟨member, key⟩ := Table.get?_eq_some.mp (Except.ok.inj answered)
    have ledger := valid.reachable.ledger
    refine ⟨recorded.body member key, fun settled => .of_mem settled member, fun status => ?_,
      fun status => ?_⟩
    · exact Option.ne_none_iff_exists'.mp ((ledger.receipts receipt member).rejected status).2.2
    · obtain ⟨packet, -, named, -⟩ := ledger.packetOfReceipt member status
      exact ⟨_, named⟩
  rw [replayedReceipt]
  split_ifs
  · refine .bind read fun found => ?_
    cases found with
    | none => exact .raise
    | some receipt => exact .done fun _ known => known
  · exact .done fun _ _ _ same => (by cases same)

/-- The answer that a replay takes from a receipt alone reports this receipt. -/
theorem answerReplay_reports {receipt : TelemetryDeliveryReceipt} {response : Response}
    {rawBody : Bytes} {ground : Ground} (answers : answerReplay receipt = some response)
    (read : ground.HasRead rawBody receipt) : response.OnRecord rawBody ground := by
  -- A replay answers at once for a rejected receipt and for one whose job is queued.
  rw [answerReplay] at answers
  split_ifs at answers with rejected taken
  · cases answers
    obtain ⟨reason, given⟩ := read.reasoned rejected
    have final : receipt.validationStatus ≠ .pending := by
      rw [rejected]
      decide
    refine ⟨receipt, read.final final, read.body, rfl,
      .rejected reason (Or.inl rfl) rejected given ?_⟩
    rw [given]
    rfl
  · cases answers
    obtain ⟨packetId, named⟩ := read.named taken.1
    have final : receipt.validationStatus ≠ .pending := by
      rcases taken.1 with status | status <;> rw [status] <;> decide
    refine ⟨receipt, read.final final, read.body, rfl,
      .taken (Or.inl rfl) taken.1 packetId named ?_⟩
    rw [named]
    rfl

/-- Queueing the job of a packet leaves what is settled. -/
theorem queueOne_settled (row : TelemetryDeliveryReceipt) (jobId : UUID) (packetId : String)
    (job : Option TelemetryProcessingJob) :
    Answers thread (fun ground => ground.HasJob jobId packetId ∧ ground.Settled row)
      (queueOne jobId packetId job) fun _ ground => ground.Settled row :=
  ((queueOne_answers jobId packetId job).frame (lasting_settled row)).weaken (fun _ => id)
    fun _ _ reached => reached.2

/-- A replayed receipt that has yet to be queued is reported as it is. -/
theorem requeueReceipt_reports {receipt : TelemetryDeliveryReceipt} {packetId : String}
    (status : receipt.validationStatus = .accepted)
    (named : receipt.logicalPacketId = some packetId) :
    Answers thread (Settled receipt) (requeueReceipt receipt packetId)
      fun response ground => response.OnRecord receipt.rawBody ground := by
  -- The receipt is settled already; queueing its job changes only the code of the answer.
  have found : Answers thread (fun _ => True) (callRepository (.getJobForPacket packetId))
      fun found ground => ∀ job, found = some job → ground.HasJob job.jobId job.packetId := by
    refine harmless_answers Lasting.always rfl rfl ?_
    rintro env ground _ valid - answered job rfl
    rw [getJobForPacket_exec] at answered ⊢
    exact ⟨job, (of_jobByPacket (Except.ok.inj answered)).1, rfl, rfl⟩
  refine .bind ((found.frame (lasting_settled receipt)).weaken (fun _ settled => ⟨trivial, settled⟩)
    fun _ _ => id) fun answer => ?_
  cases answer with
  | none => exact .raise
  | some job =>
    refine .bind ((queueOne_settled receipt job.jobId job.packetId (some job)).weaken
      (fun _ known => ⟨known.1 job rfl, known.2⟩) fun _ _ => id) fun transitioned =>
      .done fun ground settled => ?_
    refine ⟨receipt, settled, rfl, rfl, .taken ?_ (Or.inl status) packetId named rfl⟩
    cases transitioned
    · exact Or.inl rfl
    · exact Or.inr rfl

/-- An acceptance is reported with the receipt that it settled. -/
theorem answerAcceptance_reports {accepted : PacketAcceptanceResult}
    {row : TelemetryDeliveryReceipt} (key : row.receiptId = accepted.receiptId)
    (told : accepted.conflict = true ∧ row.validationStatus = .conflict ∧
        row.rejectionReason = some "SEQUENCE_CONFLICT" ∨
      accepted.conflict = false ∧
        (row.validationStatus = .accepted ∨ row.validationStatus = .duplicate) ∧
        ∃ packetId, row.logicalPacketId = some packetId ∧ accepted.packetId = some packetId) :
    Answers thread
      (fun ground => (accepted.conflict = false → Stands row.rawBody accepted ground) ∧
        ground.Settled row)
      (answerAcceptance accepted) fun response ground => response.OnRecord row.rawBody ground := by
  -- A conflict is answered without a call. Otherwise the code depends on whether the packet was a
  -- duplicate, and the job is queued where one is named.
  have queues : ∀ jobId packetId, accepted.conflict = false → accepted.jobId = some jobId →
      accepted.packetId = some packetId → Answers thread
        (fun ground => (accepted.conflict = false → Stands row.rawBody accepted ground) ∧
          ground.Settled row) (queueOne jobId packetId none) fun _ ground => ground.Settled row := by
    intro jobId packetId agrees job packet
    refine (queueOne_settled row jobId packetId none).weaken (fun ground known => ?_) fun _ _ => id
    obtain ⟨packetId', jobId', packet', job', -, stored, -⟩ := known.1 agrees
    cases packet.symm.trans packet'
    cases job.symm.trans job'
    exact ⟨stored, known.2⟩
  have named : ("receipt_id", JsonScalar.text accepted.receiptId.str) =
      ("receipt_id", JsonScalar.text row.receiptId.str) := by rw [key]
  rw [answerAcceptance, named]
  dsimp only
  rcases told with ⟨conflict, status, reason⟩ | ⟨agrees, status, packetId, stored, packet⟩
  · rw [if_pos conflict]
    exact .done fun ground known =>
      ⟨row, known.2, rfl, rfl, .conflict rfl status _ reason rfl⟩
  · rw [if_neg (by simp [agrees]), packet]
    have taken : ∀ (response : Response) ground, ground.Settled row →
        (response.statusCode = 200 ∨ response.statusCode = 202) →
        response.content.lookup "receipt_id" = some (.text row.receiptId.str) →
        response.content.lookup "packet_id" = some (.text packetId) →
        response.OnRecord row.rawBody ground := fun response ground settled code receipt told =>
      ⟨row, settled, rfl, receipt, .taken code status packetId stored told⟩
    split_ifs with duplicate
    · split
      next queuedId jobId job same =>
        cases same
        exact .bind (queues _ _ agrees job packet) fun _ => .done fun ground settled =>
          taken _ ground settled (Or.inl rfl) rfl rfl
      next => exact .done fun ground known => taken _ ground known.2 (Or.inl rfl) rfl rfl
    · split
      next jobId queuedId job same =>
        cases same
        exact .bind (queues _ _ agrees job packet) fun _ => .done fun ground settled =>
          taken _ ground settled (Or.inr rfl) rfl rfl
      next => exact .raise

/-- A recorded delivery is validated and reported. -/
theorem validateDelivery_reports (settings : GroundSettings) (receiptId : UUID) (rawBody : Bytes)
    (receivedAt : Time) (existing : Option TelemetryDeliveryReceipt) :
    Answers thread (fun ground => ground.HasReceipt receiptId rawBody ∧ receivedAt ≤ ground.clock)
      (validateDelivery settings receiptId rawBody receivedAt existing)
      fun response ground => response.OnRecord rawBody ground := by
  -- The body is rejected with its reason, or its frame is accepted.
  rw [validateDelivery]
  split
  next reason detail failed =>
    refine .bind ((rejectDelivery_reports receiptId reason.value rawBody _).weaken
      (fun _ known => known.1) fun _ _ => id) fun _ => .done fun ground rejected => ?_
    obtain ⟨-, row, settled, key, body, status, given⟩ := rejected
    refine ⟨row, settled, body, ?_, .rejected _ (Or.inl rfl) status given rfl⟩
    rw [key]
    rfl
  next => exact .raise
  next frame decodes =>
    refine .bind ((accept_reports receiptId rawBody (telemetryValues frame) _ _).weaken ?_
      fun _ _ => id) fun accepted => ?_
    · rintro ground ⟨stored, past⟩
      exact ⟨stored, receivedAt, frame, past, decodes, rfl⟩
    · rintro ground ⟨stands, same, row, settled, key, rfl, told⟩
      exact answerAcceptance_reports (key.trans same.symm) told ground ⟨stands, settled⟩

/-- A recorded delivery is checked and reported. -/
theorem checkDelivery_reports (settings : GroundSettings) (vendor : VendorRequest) (rawBody : Bytes)
    (receivedAt : Time) (receiptId : UUID) (existing : Option TelemetryDeliveryReceipt) :
    Answers thread (fun ground => (∀ receipt, existing = some receipt →
        ground.HasRead rawBody receipt) ∧
        ground.HasReceipt receiptId rawBody ∧ receivedAt ≤ ground.clock)
      (checkDelivery settings vendor rawBody receivedAt receiptId existing)
      fun response ground => response.OnRecord rawBody ground := by
  -- A replay of an accepted receipt that was not queued goes to the queue, everything else to
  -- validation.
  unfold checkDelivery
  split_ifs
  · exact (rejectHeader_reports (Or.inl rfl) _ _ _).weaken (fun _ known => known.2.1) fun _ _ => id
  · exact (rejectHeader_reports (Or.inr rfl) _ _ _).weaken (fun _ known => known.2.1) fun _ _ => id
  · split
    next receipt packetId unqueued =>
      replace unqueued : unqueuedPacket receipt = some packetId := unqueued
      rw [unqueuedPacket] at unqueued
      split_ifs at unqueued with waiting
      rintro ground ⟨reads, -⟩
      obtain ⟨rfl, final, -, -⟩ := reads receipt rfl
      have settled : receipt.validationStatus ≠ .pending := by
        rw [waiting.1]
        decide
      exact requeueReceipt_reports waiting.1 unqueued ground (final settled)
    next => exact (validateDelivery_reports _ _ _ _ _).weaken (fun _ known => known.2) fun _ _ => id

/-- A delivery is recorded, or it is in conflict and has a receipt that says so. -/
theorem recordDelivery_reports (delivery : Delivery) (receiptId : Option UUID) (receivedAt : Time) :
    Answers thread (fun ground => receivedAt ≤ ground.clock)
      (callRepository (.recordDelivery delivery receiptId)) fun result ground =>
        (result.requestConflict = false → ground.HasReceipt result.receiptId delivery.rawBody ∧
          receivedAt ≤ ground.clock) ∧
        (result.requestConflict = true → ∃ row, ground.Settled row ∧
          row.receiptId = result.receiptId ∧ row.rawBody = delivery.rawBody ∧
          row.validationStatus = .conflict ∧
          row.rejectionReason = some "REQUEST_ID_REUSED_WITH_DIFFERENT_BODY") := by
  -- A conflict has written its row, and otherwise the body is in the tables.
  refine harmless_answers (fun _ _ past later => past.trans later.clock) rfl rfl ?_
  intro env ground result valid past answered
  rcases recordDelivery_serially delivery receiptId env.uuid4 ground.database with
    ⟨_, failed⟩ | ⟨_, happened⟩
  · cases (congrArg Prod.fst failed).symm.trans answered
  · refine ⟨fun agrees => ⟨happened.hasReceipt answered agrees, past⟩, fun conflict => ?_⟩
    obtain ⟨row, member, key, body, status, reason⟩ := happened.conflicted answered conflict
    have settled : row.validationStatus ≠ .pending := by
      rw [status]
      decide
    exact ⟨row, .of_mem settled member, key, body, status, reason⟩

/-- The handler reports on its delivery within its session. -/
theorem deliver_reports (settings : GroundSettings) (vendor : VendorRequest) (rawBody : Bytes)
    (receivedAt : Time) :
    Answers thread (fun ground => receivedAt ≤ ground.clock)
      (deliver settings vendor rawBody receivedAt)
      fun response ground => response.OnRecord rawBody ground := by
  -- A conflict ends here; otherwise the replay answers from its receipt or goes on.
  refine .bind (recordDelivery_reports _ none receivedAt) fun delivery => ?_
  split_ifs with conflict
  · refine .done fun ground recorded => ?_
    obtain ⟨row, settled, key, body, status, reason⟩ := recorded.2 conflict
    refine ⟨row, settled, body, ?_, .conflict rfl status _ reason rfl⟩
    rw [key]
    rfl
  · have agrees : delivery.requestConflict = false := by simpa using conflict
    have lasting : Lasting Later fun ground : Ground =>
        ground.HasReceipt delivery.receiptId rawBody ∧ receivedAt ≤ ground.clock :=
      fun _ _ known later => ⟨later.hasReceipt known.1, le_trans known.2 later.clock⟩
    refine .bind (((replayedReceipt_reads delivery rawBody).frame lasting).weaken
      (fun _ known => ⟨(known.1 agrees).1, known.1 agrees⟩) fun _ _ => id) fun existing => ?_
    split
    next response answers =>
      refine .done fun ground known => ?_
      obtain ⟨receipt, rfl, replay⟩ := Option.bind_eq_some_iff.mp answers
      exact answerReplay_reports replay (known.1 receipt rfl)
    next => exact checkDelivery_reports settings vendor rawBody receivedAt _ existing

/-- Every answer is on record, or it says why nothing is. -/
inductive Response.Reports (settings : GroundSettings) (vendor : VendorRequest)
    (response : Response) (ground : Ground) : Prop where
  | recorded (record : response.OnRecord vendor.body ground)
  /-- A store was unreachable. -/
  | unavailable (code : response.statusCode = 503)
      (unnamed : response.content.lookup "receipt_id" = none)
  | unauthorized (code : response.statusCode = 401)
      (unnamed : response.content.lookup "receipt_id" = none)
      (token : vendor.vendorToken ≠ some settings.vendorToken)
  /-- The body was refused before it was recorded. -/
  | unbounded (unnamed : response.content.lookup "receipt_id" = none)
      (token : vendor.vendorToken = some settings.vendorToken)
      (refused : boundedBody vendor settings.maxTelemetryBodyBytes = .error response.statusCode)

/-- A handler reports on what it was given. -/
theorem receivePayloadData_reports (settings : GroundSettings) (vendor : VendorRequest) :
    Answers thread (fun _ => True) (receivePayloadData settings vendor)
      fun response ground => response.Reports settings vendor ground := by
  have refuses : vendor.vendorToken ≠ some settings.vendorToken →
      Answers thread (fun _ => True) (refuseVendor vendor)
        fun response ground => response.Reports settings vendor ground := fun wrong =>
    .bind (auditSafely_follows _) fun _ => .done fun _ _ => .unauthorized rfl rfl wrong
  rw [receivePayloadData]
  split
  next absent => exact refuses (absent ▸ (Option.some_ne_none _).symm)
  next token presented =>
    split
    next => exact .raise
    next agrees =>
      have right : vendor.vendorToken = some settings.vendorToken :=
        presented.trans (congrArg some (compareDigest_eq_true agrees))
      rw [receiveAuthenticated]
      split
      next statusCode refused =>
        exact .bind (auditSafely_follows _) fun _ => .done fun _ _ => .unbounded rfl right refused
      next rawBody read =>
        obtain rfl := body_of_boundedBody read
        refine .bind utcNow_answers fun receivedAt => ?_
        refine .tryCatch ((deliver_reports settings vendor vendor.body receivedAt).weaken
          (fun _ => id) fun _ _ => .recorded) fun failure => ?_
        -- An unreachable store is the only failure that is answered.
        rw [answerUnavailable]
        split_ifs
        · exact .done fun _ _ => .unavailable rfl rfl
        · exact .done fun _ _ => .unavailable rfl rfl
        · exact .raise
    next differs =>
      refine refuses fun same => compareDigest_eq_false differs ?_
      exact Option.some.inj (presented.symm.trans same)

end Steps

/-- What a process owes for its answer: a handler has reported on its request. -/
def Process.Reported : Process → Option Response → Ground → Prop
  | gateway settings vendor, some response, ground => response.Reports settings vendor ground
  | _, _, _ => True

/-- Every process reports what it owes. -/
theorem Process.reports (thread : Nat) (process : Process) :
    Answers thread (fun _ => True) process.program process.Reported := by
  -- Recoveries and workers owe no report.
  cases process with
  | gateway settings vendor =>
    exact .bind (receivePayloadData_reports settings vendor) fun response => .done fun _ => id
  | startup =>
    exact (Process.startup.answers thread).weaken (fun _ => id) fun answer _ _ => trivial
  | worker workerId iterations =>
    exact ((Process.worker workerId iterations).answers thread).weaken (fun _ => id)
      fun answer _ _ => trivial

/-- A report stays true. -/
theorem Process.lasting_reported (process : Process) (answer : Option Response) :
    Lasting Later (process.Reported answer) := by
  -- Only the report of a record speaks of the tables, and its row is settled.
  intro before after reported later
  cases process with
  | startup | worker => trivial
  | gateway settings vendor =>
    cases answer with
    | none => trivial
    | some response =>
      cases reported with
      | recorded record =>
        obtain ⟨row, settled, rest⟩ := record
        exact .recorded ⟨row, lasting_settled row before after settled later, rest⟩
      | unavailable code unnamed => exact .unavailable code unnamed
      | unauthorized code unnamed token => exact .unauthorized code unnamed token
      | unbounded unnamed token refused => exact .unbounded unnamed token refused

/-- Where no call decides on an outdated object, what has been reported is true. -/
theorem reported_of_run {assign : Nat → Process} {config : GroundConfig}
    (run : Relation.ReflTransGen (AssignedStep currentMachine assign) GroundConfig.initial config) :
    Sound (freshMachine fun _ => True) groundProtocol (fun thread outcome ground =>
      ∀ answer, outcome = .ok answer → (assign thread).Reported answer ground) config := by
  -- The run is one of the machine whose calls decide on current rows; there every process keeps its
  -- word.
  have started : Sound (freshMachine fun _ => True) groundProtocol (fun thread outcome ground =>
      ∀ answer, outcome = .ok answer → (assign thread).Reported answer ground)
      GroundConfig.initial := ⟨CrossStore.empty, fun _ _ running => nomatch running⟩
  refine Sound.run ?_ ?_ ?_ started (Relation.ReflTransGen.mono (fun _ _ => Step.fresh) _ _ run)
  · intro thread outcome before after reached later _ answer same
    exact (assign thread).lasting_reported answer before after (reached answer same) later
  · rintro thread ground _ valid rfl
    exact (assign thread).reports thread ground trivial
  · intro before after valid ticks
    obtain ⟨agreed, later⟩ := valid.tick ticks
    exact ⟨agreed, fun _ => later⟩

/--
Every answer of the gateway is on record, or it says why nothing is.

Handlers, recoveries and workers interleave in any order and any of their requests may fail, but no
call decides on an object whose row has changed since it was loaded. An answer that names no receipt
is a 503, a 401 for a wrong vendor token, or the refusal of a body at the size boundary. Every other
answer names a receipt that is in the tables from then on, with the body of the request: after a 200
or 202 it is accepted or a duplicate of the packet in the answer, after a 409 in conflict, and after a
400 or 422 rejected, for the reason in the answer.
-/
theorem answers_on_record (assign : Nat → Process) (config : GroundConfig)
    (run : Relation.ReflTransGen (AssignedStep currentMachine assign) GroundConfig.initial config)
    (thread : Nat) (settings : GroundSettings) (vendor : VendorRequest)
    (assigned : assign thread = .gateway settings vendor) (response : Response)
    (answered : config.threads thread = some (.done (some response))) :
    (response.content.lookup "receipt_id" = none ∧
      (response.statusCode = 503 ∨
        response.statusCode = 401 ∧ vendor.vendorToken ≠ some settings.vendorToken ∨
        vendor.vendorToken = some settings.vendorToken ∧
          boundedBody vendor settings.maxTelemetryBodyBytes = .error response.statusCode)) ∨
    ∃ row ∈ config.state.database.receipts, row.rawBody = vendor.body ∧
      response.content.lookup "receipt_id" = some (.text row.receiptId.str) ∧
      response.Tells row := by
  have reported := (reported_of_run run).2 thread _ answered (some response) rfl
  rw [assigned] at reported
  cases reported with
  | recorded record =>
    -- The row that was reported on has kept its evidence and its verdict.
    obtain ⟨row, ⟨-, found, member, evidence, verdict⟩, body, receipt, tells⟩ := record
    have key : found.receiptId = row.receiptId := congrArg (·.receiptId) evidence
    have bytes : found.rawBody = row.rawBody := congrArg (·.rawBody) evidence
    exact Or.inr ⟨found, member, bytes.trans body, key ▸ receipt, tells.congr verdict⟩
  | unavailable code unnamed => exact Or.inl ⟨unnamed, Or.inl code⟩
  | unauthorized code unnamed token => exact Or.inl ⟨unnamed, Or.inr (Or.inl ⟨code, token⟩)⟩
  | unbounded unnamed token refused => exact Or.inl ⟨unnamed, Or.inr (Or.inr ⟨token, refused⟩)⟩

/-- The handler takes its turns on current objects until it has answered. -/
def flippedAnswered : GroundConfig :=
  flippedStart.actAll currentMachine 0 ([1, 1, 2].map fun id => (fun _ => id, ⟨.none, trivial⟩))

/-- The rejection of the flipped vector is on record under the identifier in the answer. -/
theorem flipped_vector_on_record : ∃ response, answerOf flippedAnswered 0 = some response ∧
    response.statusCode = 422 ∧ ∃ row ∈ flippedAnswered.state.database.receipts,
      row.rawBody = flippedGolden ∧
        response.content.lookup "receipt_id" = some (.text row.receiptId.str) := by
  -- The answer is evaluated; it names a receipt, so one of the rows is that receipt.
  have code : (answerOf flippedAnswered 0).map (fun response =>
      (response.statusCode, (response.content.lookup "receipt_id").isSome)) = some (422, true) := by
    decide +kernel
  obtain ⟨response, answered, same⟩ := Option.map_eq_some_iff.mp code
  obtain ⟨status, named⟩ := Prod.mk.inj same
  have run : Relation.ReflTransGen (AssignedStep currentMachine fun _ =>
      .gateway sampleSettings (sampleRequest flippedGolden)) GroundConfig.initial
      flippedAnswered := by
    refine Relation.ReflTransGen.trans ?_ (Config.actAll_run _ 0 _ flippedStart)
    exact (Relation.ReflTransGen.single (.environment flippedTicked)).tail (.start rfl rfl)
  rcases answers_on_record _ flippedAnswered run 0 sampleSettings _ rfl response
    (threads_of_answerOf answered) with ⟨unnamed, -⟩ | ⟨row, member, body, receipt, -⟩
  · rw [unnamed] at named
    cases named
  · exact ⟨response, answered, status, row, member, body, receipt⟩

end Cislunar
