import Cislunar.Proofs.Services.Recovery
import Cislunar.Proofs.Telemetry.Health

/-!
A request that is repeated after it was settled, with both stores reachable and nothing in between.

The handler answers from the receipt that owns the identifier. One verdict has no answer of its own:
a receipt in conflict is handed on to be accepted, which the repository refuses.
-/

namespace Cislunar

open Foundation Ground

/-- An authenticated request with a canonical identifier, the expected content type and a body. -/
structure VendorRequest.Presents (settings : GroundSettings) (vendor : VendorRequest)
    (requestId : UUID) (rawBody : Bytes) : Prop where
  token : ∃ token, vendor.vendorToken = some token ∧
    compareDigest token settings.vendorToken = .ok true
  identifier : canonicalUuid4 vendor.requestId = some requestId
  contentType : isOctetStream vendor.contentType = true
  body : boundedBody vendor settings.maxTelemetryBodyBytes = .ok rawBody

/-- A receipt owns a request identifier. -/
def Database.Owns (db : Database) (receipt : TelemetryDeliveryReceipt) (requestId : UUID) : Prop :=
  receipt ∈ db.receipts ∧
    ∃ owner ∈ db.identities, owner.requestId = requestId ∧ owner.firstReceiptId = receipt.receiptId

/-- No receipt, packet or job was created. -/
structure NothingCreated (before after : Database) : Prop where
  receipts : after.receipts.rows.map (·.receiptId) = before.receipts.rows.map (·.receiptId)
  packets : after.packets = before.packets
  jobs : after.jobs.rows.map (·.jobId) = before.jobs.rows.map (·.jobId)

/-- Doing nothing creates nothing. -/
theorem NothingCreated.refl (db : Database) : NothingCreated db db := ⟨rfl, rfl, rfl⟩

/-- The answer that a settled receipt calls for. -/
def AnswersFor (receipt : TelemetryDeliveryReceipt) (response : Response) : Prop :=
  match receipt.validationStatus with
  | .accepted | .duplicate => response.statusCode = 200 ∨ response.statusCode = 202
  | .rejected => response.statusCode = 422 ∧
      ("reason", (receipt.rejectionReason.map .text).getD .null) ∈ response.content
  | .conflict => response.statusCode = 409
  | .pending => True

/-- A repeated request is answered as its receipt calls for, and creates nothing. -/
def ReplayAnswered (settings : GroundSettings) (vendor : VendorRequest) (uuid4 : Nat → UUID)
    (ground : Ground) (receipt : TelemetryDeliveryReceipt) : Prop :=
  ∃ response after, (receivePayloadData settings vendor).runAlone (serve uuid4) ground =
    (.ok response, after) ∧ NothingCreated ground.database after.database ∧
      AnswersFor receipt response

section Steps
variable {settings : GroundSettings} {vendor : VendorRequest} {uuid4 : Nat → UUID}
variable {ground : Ground} {receipt : TelemetryDeliveryReceipt} {requestId : UUID}

/-- A body that was read fits the evidence column. -/
theorem boundedBody_length {rawBody : Bytes}
    (read : boundedBody vendor settings.maxTelemetryBodyBytes = .ok rawBody) :
    rawBody.length ≤ maxEvidenceBodyBytes := by
  -- What the handler reads is the whole body, within the limit of the settings.
  rcases boundedBody_spec vendor settings.maxTelemetryBodyBytes with
    ⟨whole, bounded⟩ | ⟨statusCode, refused, -⟩
  · cases whole.symm.trans read
    exact bounded.trans settings.bodyLimit.2
  · cases refused.symm.trans read

/-- A repeated delivery finds the receipt of its identifier and changes nothing. -/
theorem recordDelivery_replays (ledger : LooseLedger ground.database)
    (owns : ground.database.Owns receipt requestId)
    (presents : vendor.Presents settings requestId receipt.rawBody) (receivedAt : Time) :
    serve uuid4 (.repository (.recordDelivery (vendor.delivery receipt.rawBody receivedAt) none) {})
      ground = (.ok (deliveryResult receipt true false), ground) := by
  obtain ⟨present, owner, owned, rfl, link⟩ := owns
  -- The ledger keeps the digest of the owner beside the identifier.
  obtain ⟨original, stored, same, -, digest⟩ := ledger.identities owner owned
  obtain rfl : original = receipt := Table.eq_of_key stored present (same.trans link)
  have matches_ : owner.bodySha256 = sha256Hex original.rawBody :=
    digest.symm.trans (ledger.receipts original present).digest
  have named : (vendor.delivery original.rawBody receivedAt).canonicalRequestId =
      some owner.requestId := presents.identifier
  have unique : ∀ {other : TelemetryRequestIdentity}, other ∈ ground.database.identities →
      (vendor.delivery original.rawBody receivedAt).canonicalRequestId = some other.requestId →
      other = owner := fun among also =>
    Table.eq_of_key among owned (Option.some.inj (also.symm.trans named))
  have first : ∀ {other : TelemetryDeliveryReceipt}, other ∈ ground.database.receipts →
      other.receiptId = owner.firstReceiptId → other = original := fun among also =>
    Table.eq_of_key among present (also.trans link)
  have identified : vendorIdentity.isEmpty = false := by decide
  obtain ⟨attempt, happened⟩ := recordDelivery_valid (vendor.delivery original.rawBody receivedAt)
    none uuid4 ground.database (boundedBody_length presents.body) identified
  suffices outcome : (RepoCall.recordDelivery (vendor.delivery original.rawBody receivedAt) none).exec
      ⟨uuid4, ground.clock⟩ ground.database =
        (.ok (deliveryResult original true false), ground.database) from serve_repository rfl outcome
  rw [RepoCall.exec, RepoCall.program]
  generalize serially Stmt.exec (recordDelivery (vendor.delivery original.rawBody receivedAt) none
    uuid4) ground.database = reached at happened ⊢
  -- The tables name one owner with these bytes, so every other outcome contradicts them.
  cases happened with
  | anonymous unnamed => rw [named] at unnamed; cases unnamed
  | first also admitted unowned =>
    obtain rfl := Option.some.inj (named.symm.trans also)
    have missing : ground.database.identities.get? owner.requestId = none := unowned.1
    rw [Table.get?_key owned] at missing
    cases missing
  | replay also among stored' link' =>
    obtain rfl := unique among also
    obtain rfl := first stored' link'
    rfl
  | reused also among stored' link' different =>
    obtain rfl := unique among also
    obtain rfl := first stored' link'
    exact absurd ⟨matches_, rfl⟩ different
  | integrity unmatched =>
    exact absurd ⟨matches_, rfl⟩ (unmatched owner owned named original present link.symm)
  | dangling also among absent =>
    obtain rfl := unique among also
    rw [link, Table.get?_key present] at absent
    cases absent

/-- A repeated request is answered from its receipt, or goes on with it. -/
theorem deliver_replays (ledger : LooseLedger ground.database)
    (owns : ground.database.Owns receipt requestId)
    (presents : vendor.Presents settings requestId receipt.rawBody) (receivedAt : Time) :
    (deliver settings vendor receipt.rawBody receivedAt).runAlone (serve uuid4) ground =
      match answerReplay receipt with
      | some response => (.ok response, ground)
      | none => (checkDelivery settings vendor receipt.rawBody receivedAt receipt.receiptId
          (some receipt)).runAlone (serve uuid4) ground := by
  -- The record answers with the receipt, and the receipt is read again to answer from it.
  have found : serve uuid4 (.repository (.getDelivery receipt.receiptId) {}) ground =
      (.ok (some receipt), ground) :=
    serve_repository rfl (by rw [getDelivery_exec, Table.get?_key owns.1])
  have reads : (replayedReceipt (deliveryResult receipt true false)).runAlone (serve uuid4) ground =
      (.ok (some receipt), ground) := by
    rw [replayedReceipt,
      if_pos (show (deliveryResult receipt true false).requestReplay = true from rfl),
      callRepository]
    exact Prog.runAlone_call_bind_ok _ found
  rw [deliver, callRepository,
    Prog.runAlone_call_bind_ok _ (recordDelivery_replays ledger owns presents receivedAt)]
  have agrees : ¬(deliveryResult receipt true false).requestConflict = true := Bool.false_ne_true
  rw [if_neg agrees, Prog.runAlone_bind, reads]
  dsimp only [Option.bind_some]
  cases answerReplay receipt <;> rfl

/-- The reference of a stored job is the one that a new message would make. -/
theorem StoresBacked.marked_eq (backed : StoresBacked ground) {job : TelemetryProcessingJob}
    (stored : job ∈ ground.database.jobs) {message existing : QueueMessage}
    (made : message.jobId = job.jobId ∧ message.packetId = job.packetId)
    (marked : ground.queue.marker message.jobId = some existing) : existing = message := by
  -- The marker leads to a listed reference, whose identifiers are those of the stored job.
  obtain ⟨listed, key⟩ := (backed.queue.marked _ _).mp marked
  obtain ⟨other, among, same, named⟩ := backed.job existing listed
  obtain rfl : other = job := Table.eq_of_key among stored (same.trans (key.trans made.1))
  cases existing
  cases message
  simp_all

/-- A job that waits to be queued is queued, and nothing is created. -/
theorem queueOne_replays (uuid4 : Nat → UUID) (backed : StoresBacked ground)
    {job : TelemetryProcessingJob} (stored : job ∈ ground.database.jobs)
    (waiting : job.state = .pendingQueue) {held : Option TelemetryProcessingJob}
    (current : ({ job := held } : Held).isCurrent ground.database = true) :
    ∃ after, (queueOne job.jobId job.packetId held).runAlone (serve uuid4) ground =
      (.ok true, after) ∧
      NothingCreated ground.database after.database := by
  obtain ⟨packet, present, link⟩ := (backed.tables.ledger.jobs job stored).packet
  have made := QueueMessage.new_eq_ok job.jobId (link ▸ backed.tables.packetId_wellFormed present)
  generalize entry : (⟨job.jobId, job.packetId, _⟩ : QueueMessage) = message at made
  have identifiers : message.jobId = job.jobId ∧ message.packetId = job.packetId :=
    entry ▸ ⟨rfl, rfl⟩
  -- The reference is new, or the one that is there already.
  obtain ⟨fresh, queue, enqueued⟩ : ∃ fresh queue,
      (QueueCall.enqueue message).exec ground.queue = (.ok fresh, queue) := by
    have happened := enqueue_outcome ground.queue message
    generalize (QueueCall.enqueue message).exec ground.queue = outcome at happened
    cases happened with
    | added => exact ⟨_, _, rfl⟩
    | present => exact ⟨_, _, rfl⟩
    | conflict marked different =>
      exact absurd (backed.marked_eq stored identifiers marked) different
  -- A job that waits makes the transition.
  have marks : (RepoCall.markJobQueued job.jobId job.jobId.str "ground-api").exec
      ⟨uuid4, ground.clock⟩ ground.database =
        (.ok true, ground.database.queue job job.jobId.str "ground-api") := by
    have happened := markJobQueued_exec ⟨uuid4, ground.clock⟩ ground.database job.jobId
      job.jobId.str "ground-api"
    rcases happened.of_markable stored (Or.inl waiting) with ⟨queued, -⟩ | ⟨-, answered⟩
    · cases waiting.symm.trans queued
    · exact answered
  refine ⟨{ ground with
    queue := queue
    database := ground.database.queue job job.jobId.str "ground-api" }, ?_,
    ⟨Table.keys_modify ground.database.receipts _
      (fun receipt => { receipt with queueStatus := .queued }) (fun _ => rfl), rfl,
      Table.keys_set _ _⟩⟩
  rw [queueOne, made]
  dsimp only
  rw [callQueue, Prog.runAlone_call_bind_ok _ (serve_queue enqueued), callRepository,
    Prog.runAlone_call]
  have served := @serve_repository uuid4 { ground with queue := queue } _ _ _ _ current marks
  exact served

/-- A replayed receipt that was accepted and has not reached the queue is queued. -/
theorem requeueReceipt_replays (uuid4 : Nat → UUID) (backed : StoresBacked ground)
    (present : receipt ∈ ground.database.receipts) (status : receipt.validationStatus = .accepted)
    (waiting : receipt.queueStatus = .pendingQueue) {packetId : String}
    (named : receipt.logicalPacketId = some packetId) :
    ∃ response after, (requeueReceipt receipt packetId).runAlone (serve uuid4) ground =
      (.ok response, after) ∧ NothingCreated ground.database after.database ∧
        response.statusCode = 202 := by
  -- The receipt shows that its job waits, so the job is read and queued.
  have ledger := backed.tables.ledger
  obtain ⟨packet, stored, link, -⟩ := (ledger.receipts receipt present).accepted status
  obtain ⟨job, among, owner, found⟩ := ledger.jobOfPacket stored
  obtain rfl : packet.packetId = packetId := Option.some.inj (link.symm.trans named)
  have state : job.state = .pendingQueue := by
    have shown := ledger.queueStatus receipt present status job among (owner ▸ link)
    exact jobStateToQueueStatus_eq_pendingQueue.mp (shown.symm.trans waiting)
  have read : serve uuid4 (.repository (.getJobForPacket packet.packetId) {}) ground =
      (.ok (some job), ground) :=
    serve_repository rfl (by rw [getJobForPacket_exec, found])
  have current : ({ job := some job } : Held).isCurrent ground.database = true := by
    simp [Held.isCurrent, Table.get?_key among]
  obtain ⟨after, queued, nothing⟩ := queueOne_replays uuid4 backed among state current
  refine ⟨⟨202, [("receipt_id", .text receipt.receiptId.str), ("packet_id", .text packet.packetId),
    ("status", .text "QUEUED"), ("duplicate", .bool false), ("request_replay", .bool true)]⟩, after,
    ?_, nothing, rfl⟩
  rw [requeueReceipt, callRepository, Prog.runAlone_call_bind_ok _ read]
  dsimp only
  rw [Prog.runAlone_bind, queued]
  rfl

/-- The body of a receipt that was settled with a packet still decodes. -/
theorem StoresBacked.decodes (backed : StoresBacked ground)
    (present : receipt ∈ ground.database.receipts)
    (status : receipt.validationStatus = .accepted ∨ receipt.validationStatus = .duplicate) :
    ∃ frame, decodeTelemetry zlibCrc32 receipt.rawBody (.utc ground.clock) = .ok frame := by
  -- The bytes are those of the packet's source, which decoded at a time that has passed.
  obtain ⟨packet, stored, -, source, among, origin, bytes⟩ :=
    (backed.tables.ledger.receipts receipt present).packet ⟨receipt, present, .refl _⟩ status
  obtain ⟨rawBody, ⟨other, member, key, same⟩, time, frame, past, decodes, -⟩ :=
    backed.tables.decoded packet stored
  obtain rfl : other = source := Table.eq_of_key member among (key.trans origin.symm)
  obtain rfl : rawBody = receipt.rawBody := same.symm.trans bytes
  exact ⟨frame, (decodeTelemetry_at decodes).mpr
    (((decodeTelemetry_at decodes).mp decodes).trans (Int.add_le_add_right past _))⟩

/-- A receipt that was settled with a packet is accepted again as it was. -/
theorem accept_replays (uuid4 : Nat → UUID) (settings : GroundSettings)
    (ledger : LooseLedger ground.database) (present : receipt ∈ ground.database.receipts)
    (status : receipt.validationStatus = .accepted ∨ receipt.validationStatus = .duplicate)
    {receivedAt : Time} {frame : TelemetryFrame OperatingMode}
    (decodes : decodeTelemetry zlibCrc32 receipt.rawBody (.utc receivedAt) = .ok frame) :
    ∃ job ∈ ground.database.jobs, receipt.logicalPacketId = some job.packetId ∧
      ∃ packet, serve uuid4 (.repository (.acceptPacketAndCreateJob receipt.receiptId
        (telemetryValues frame) settings.processingMaximumAttempts "ground-api")
          { receipt := some receipt }) ground =
        (.ok (replayedAcceptance receipt packet (some job)), ground) := by
  -- The receipt is settled, so the acceptance only reads what it was settled with.
  obtain ⟨packet, stored, named, -⟩ :=
    (ledger.receipts receipt present).packet ⟨receipt, present, .refl _⟩ status
  obtain ⟨job, among, owner, found⟩ := ledger.jobOfPacket stored
  obtain ⟨⟨valid, -⟩, -⟩ := decodeTelemetry_eq_ok.mp decodes
  have range : 0 ≤ (telemetryValues frame).sequenceNumber ∧
      (telemetryValues frame).sequenceNumber ≤ maxUint32 := valid.sequence
  obtain ⟨attempt, happened⟩ := acceptPacketAndCreateJob_outcome receipt.receiptId
    ⟨settings.processingMaximumAttempts, "ground-api", ground.clock⟩ uuid4 ground.database range
    valid.boot.1 settings.attemptLimit
  have read : ground.database.receipts.get? receipt.receiptId = some receipt :=
    Table.get?_key present
  refine ⟨job, among, owner ▸ named, receipt.logicalPacketId.bind ground.database.packets.get?, ?_⟩
  suffices outcome : (RepoCall.acceptPacketAndCreateJob receipt.receiptId (telemetryValues frame)
      settings.processingMaximumAttempts "ground-api").exec ⟨uuid4, ground.clock⟩ ground.database =
        (.ok (replayedAcceptance receipt (receipt.logicalPacketId.bind ground.database.packets.get?)
          (some job)), ground.database) from
    serve_repository (by simp [Held.isCurrent, read]) outcome
  rw [RepoCall.exec, RepoCall.program]
  generalize serially Stmt.exec _ ground.database = outcome at happened ⊢
  cases happened with
  | missing absent => rw [read] at absent; cases absent
  | refused other settled =>
    obtain rfl := Option.some.inj (read.symm.trans other)
    rcases status with status | status <;> simp [status] at settled
  | settled other pending =>
    obtain rfl := Option.some.inj (read.symm.trans other)
    rcases status with status | status <;> simp [status] at pending
  | replayed other =>
    obtain rfl := Option.some.inj (read.symm.trans other)
    rw [named, Option.bind_some, Option.bind_some, found]

/-- An acceptance that was a duplicate is answered as one. -/
theorem answerAcceptance_replays (uuid4 : Nat → UUID) (backed : StoresBacked ground)
    {job : TelemetryProcessingJob} (among : job ∈ ground.database.jobs)
    {result : PacketAcceptanceResult} (agrees : result.conflict = false)
    (duplicate : result.duplicate = true)
    (replayed : result.jobId = some job.jobId ∧ result.packetId = some job.packetId ∧
      result.queueStatus = jobStateToQueueStatus job.state) :
    ∃ response after, (answerAcceptance result).runAlone (serve uuid4) ground =
      (.ok response, after) ∧ NothingCreated ground.database after.database ∧
        response.statusCode = 200 := by
  obtain ⟨receiptId, packetId, jobId, validationStatus, queueStatus, disposition, missing, repeats,
    conflict, origin⟩ := result
  obtain ⟨rfl, rfl, rfl⟩ := replayed
  cases agrees
  cases duplicate
  -- A job that still waits is queued before the answer.
  by_cases waiting : job.state = .pendingQueue
  · -- The handler holds no job.
    have current : ({ job := none } : Held).isCurrent ground.database = true := rfl
    obtain ⟨after, queued, nothing⟩ := queueOne_replays uuid4 backed among waiting current
    refine ⟨⟨200, [("receipt_id", .text receiptId.str), ("packet_id", .text job.packetId),
      ("status", .text "DUPLICATE"), ("duplicate", .bool true)]⟩, after, ?_, nothing, rfl⟩
    rw [jobStateToQueueStatus, if_pos waiting]
    show (queueOne job.jobId job.packetId none >>= _).runAlone _ _ = _
    rw [Prog.runAlone_bind, queued]
    rfl
  · refine ⟨⟨200, [("receipt_id", .text receiptId.str), ("packet_id", .text job.packetId),
      ("status", .text "DUPLICATE"), ("duplicate", .bool true)]⟩, ground, ?_, .refl _, rfl⟩
    rw [jobStateToQueueStatus, if_neg waiting]
    rfl

/-- A duplicate is answered as one, and its job is queued where it still waits. -/
theorem validateDelivery_replays (uuid4 : Nat → UUID) (settings : GroundSettings)
    (backed : StoresBacked ground)
    (present : receipt ∈ ground.database.receipts)
    (status : receipt.validationStatus = .duplicate) :
    ∃ response after, (validateDelivery settings receipt.receiptId receipt.rawBody
      ground.clock (some receipt)).runAlone (serve uuid4) ground = (.ok response, after) ∧
        NothingCreated ground.database after.database ∧ response.statusCode = 200 := by
  -- The body decodes again, and the acceptance repeats what it has settled.
  obtain ⟨frame, decodes⟩ := backed.decodes present (Or.inr status)
  obtain ⟨job, among, named, packet, accepted⟩ :=
    accept_replays uuid4 settings backed.tables.ledger present (Or.inr status) decodes
  rw [validateDelivery, decodes]
  dsimp only
  rw [callRepository, Prog.runAlone_call_bind_ok _ accepted]
  exact answerAcceptance_replays uuid4 backed among rfl (decide_eq_true status) ⟨rfl, named, rfl⟩

/-- The repository refuses to settle a receipt in conflict, whatever its bytes decode to. -/
theorem validateDelivery_conflict (uuid4 : Nat → UUID) (settings : GroundSettings)
    (present : receipt ∈ ground.database.receipts) (status : receipt.validationStatus = .conflict)
    (rawBody : Bytes) (receivedAt : Time) :
    ∃ failure, (validateDelivery settings receipt.receiptId rawBody receivedAt
      (some receipt)).runAlone (serve uuid4) ground = (.error failure, ground) ∧
        failure.isRedis = false ∧ failure.isSqlAlchemy = false := by
  have read : ground.database.receipts.get? receipt.receiptId = some receipt :=
    Table.get?_key present
  have current : ({ receipt := some receipt } : Held).isCurrent ground.database = true := by
    simp [Held.isCurrent, read]
  rw [validateDelivery]
  split
  next reason detail invalid =>
    -- A rejection settles pending receipts only.
    have refused : ∃ message, (RepoCall.rejectDelivery receipt.receiptId reason.value none
        "ground-api").exec ⟨uuid4, ground.clock⟩ ground.database =
          (.error (.invalidDeliveryState message), ground.database) := by
      have happened := rejectDelivery_exec ⟨uuid4, ground.clock⟩ ground.database receipt.receiptId
        reason.value none "ground-api"
      generalize (RepoCall.rejectDelivery receipt.receiptId reason.value none "ground-api").exec
        ⟨uuid4, ground.clock⟩ ground.database = outcome at happened
      cases happened with
      | missing absent => rw [read] at absent; cases absent
      | repeated other settled | rejected other settled =>
        obtain rfl := Option.some.inj (read.symm.trans other)
        simp [status] at settled
      | refused _ _ message => exact ⟨message, rfl⟩
    obtain ⟨message, refused⟩ := refused
    refine ⟨.storage (.invalidDeliveryState message), ?_, rfl, rfl⟩
    rw [callRepository, Prog.runAlone_call_bind_error _ (serve_repository current refused)]
  next error other invalid => exact ⟨.codec error, rfl, rfl, rfl⟩
  next frame decodes =>
    have refused : ∃ error, (RepoCall.acceptPacketAndCreateJob receipt.receiptId
        (telemetryValues frame) settings.processingMaximumAttempts "ground-api").exec
          ⟨uuid4, ground.clock⟩ ground.database = (.error error, ground.database) ∧
        (Failure.storage error).isRedis = false ∧ (Failure.storage error).isSqlAlchemy = false := by
      rw [RepoCall.exec, RepoCall.program]
      rcases acceptPacketAndCreateJob_serially receipt.receiptId (telemetryValues frame)
        ⟨settings.processingMaximumAttempts, "ground-api", ground.clock⟩ uuid4 ground.database with
        ⟨message, failed⟩ | ⟨-, -, attempt, happened⟩
      · exact ⟨_, failed, rfl, rfl⟩
      · generalize serially Stmt.exec _ ground.database = outcome at happened
        cases happened with
        | missing absent => rw [read] at absent; cases absent
        | replayed other settled | settled other settled =>
          obtain rfl := Option.some.inj (read.symm.trans other)
          simp [status] at settled
        | refused => exact ⟨_, rfl, rfl, rfl⟩
    obtain ⟨error, refused, reasons⟩ := refused
    refine ⟨.storage error, ?_, reasons⟩
    rw [callRepository, Prog.runAlone_call_bind_error _ (serve_repository current refused)]

/-- A request that presents what the handler asks for is delivered at the present time. -/
theorem receivePayloadData_presents {rawBody : Bytes}
    (presents : vendor.Presents settings requestId rawBody) :
    (receivePayloadData settings vendor).runAlone (serve uuid4) ground =
      ((deliver settings vendor rawBody ground.clock).tryCatch answerUnavailable).runAlone
        (serve uuid4) ground := by
  -- Every check before the delivery passes.
  obtain ⟨token, given, accepted⟩ := presents.token
  rw [receivePayloadData, given]
  dsimp only
  rw [accepted]
  dsimp only
  rw [receiveAuthenticated, presents.body]
  exact Prog.runAlone_call_bind_ok _ rfl

/-- A replay that its receipt answers at once. -/
theorem ReplayAnswered.of_answer (ledger : LooseLedger ground.database)
    (owns : ground.database.Owns receipt requestId)
    (presents : vendor.Presents settings requestId receipt.rawBody) {response : Response}
    (answers : answerReplay receipt = some response) (fits : AnswersFor receipt response) :
    ReplayAnswered settings vendor uuid4 ground receipt := by
  -- The handler answers from the receipt without asking for anything else.
  refine ⟨response, ground, ?_, .refl _, fits⟩
  rw [receivePayloadData_presents presents, Prog.runAlone_tryCatch,
    deliver_replays ledger owns presents, answers]

/-- A replay that goes on with its receipt passes the checks of the headers. -/
theorem receivePayloadData_continues (ledger : LooseLedger ground.database)
    (owns : ground.database.Owns receipt requestId)
    (presents : vendor.Presents settings requestId receipt.rawBody)
    (unanswered : answerReplay receipt = none) :
    (receivePayloadData settings vendor).runAlone (serve uuid4) ground =
      ((match unqueuedPacket receipt with
        | some packetId => requeueReceipt receipt packetId
        | none => validateDelivery settings receipt.receiptId receipt.rawBody ground.clock
            (some receipt)).tryCatch answerUnavailable).runAlone (serve uuid4) ground := by
  -- Both headers pass, so the receipt goes on to its packet or to its validation.
  have named : (canonicalUuid4 vendor.requestId).isNone = false := by rw [presents.identifier]; rfl
  rw [receivePayloadData_presents presents, Prog.runAlone_tryCatch, Prog.runAlone_tryCatch,
    deliver_replays ledger owns presents, unanswered]
  dsimp only [checkDelivery]
  rw [presents.contentType, named]
  dsimp only [Bool.not_true, Option.bind_some]
  cases unqueuedPacket receipt <;> rfl

/--
A repeated request is answered as its receipt calls for, exactly unless the receipt is in conflict.

A conflict has no answer among the replies to a repeated request; it goes on to the decoder and the
repository, which refuse it with an error that the handler does not catch.
-/
theorem replayAnswered_iff (backed : StoresBacked ground)
    (owns : ground.database.Owns receipt requestId)
    (presents : vendor.Presents settings requestId receipt.rawBody)
    (settled : receipt.validationStatus ≠ .pending) :
    ReplayAnswered settings vendor uuid4 ground receipt ↔ receipt.validationStatus ≠ .conflict := by
  -- One case for each verdict; only two of them go on behind the answers to a replay.
  have ledger := backed.tables.ledger
  have consistent := ledger.receipts receipt owns.1
  cases status : receipt.validationStatus with
  | pending => exact absurd status settled
  | rejected =>
    refine iff_of_true (.of_answer ledger owns presents (if_pos status) ?_) (by decide)
    rw [AnswersFor, status]
    exact ⟨rfl, by simp⟩
  | accepted =>
    refine iff_of_true ?_ (by decide)
    obtain ⟨packet, stored, named, -⟩ := consistent.accepted status
    obtain ⟨job, among, owner, -⟩ := ledger.jobOfPacket stored
    have shown := ledger.queueStatus receipt owns.1 status job among (owner ▸ named)
    -- An accepted receipt is answered at once, unless its job has not reached the queue.
    by_cases waiting : job.state = .pendingQueue
    · rw [jobStateToQueueStatus, if_pos waiting] at shown
      obtain ⟨response, after, answered, nothing, code⟩ :=
        requeueReceipt_replays uuid4 backed owns.1 status shown named
      refine ⟨response, after, ?_, nothing, ?_⟩
      · rw [receivePayloadData_continues ledger owns presents (by simp [answerReplay, status, shown]),
          unqueuedPacket, if_pos ⟨status, shown⟩, named, Prog.runAlone_tryCatch, answered]
      · rw [AnswersFor, status]
        exact Or.inr code
    · rw [jobStateToQueueStatus, if_neg waiting] at shown
      have unrejected : ¬receipt.validationStatus = .rejected := by simp [status]
      refine .of_answer ledger owns presents
        ((if_neg unrejected).trans (if_pos ⟨Or.inl status, shown⟩)) ?_
      rw [AnswersFor, status]
      exact Or.inl rfl
  | duplicate =>
    refine iff_of_true ?_ (by decide)
    have unrejected : ¬receipt.validationStatus = .rejected := by simp [status]
    -- A duplicate that was accepted before may show that its job has been queued.
    by_cases shown : receipt.queueStatus = .queued
    · refine .of_answer ledger owns presents
        ((if_neg unrejected).trans (if_pos ⟨Or.inr status, shown⟩)) ?_
      rw [AnswersFor, status]
      exact Or.inl rfl
    obtain ⟨response, after, answered, nothing, code⟩ :=
      validateDelivery_replays uuid4 settings backed owns.1 status
    refine ⟨response, after, ?_, nothing, ?_⟩
    · rw [receivePayloadData_continues ledger owns presents (by simp [answerReplay, status, shown]),
        unqueuedPacket, if_neg (by simp [status]), Prog.runAlone_tryCatch, answered]
    · rw [AnswersFor, status]
      exact Or.inl code
  | conflict =>
    refine iff_of_false ?_ (not_not.mpr rfl)
    obtain ⟨failure, refused, redis, sql⟩ := validateDelivery_conflict uuid4 settings owns.1 status
      receipt.rawBody ground.clock
    rintro ⟨response, after, answered, -⟩
    rw [receivePayloadData_continues ledger owns presents (by simp [answerReplay, status]),
      unqueuedPacket, if_neg (by simp [status]), Prog.runAlone_tryCatch, refused] at answered
    dsimp only at answered
    rw [answerUnavailable, redis, sql] at answered
    cases answered

end Steps

/--
In every state that a run reaches a settled request is answered again, exactly unless it conflicts.

The runs include all serial ones with both stores reachable. The request is repeated without
anything in between, and with any identifiers that it may generate.
-/
theorem request_replay_answered_iff (config : GroundConfig)
    (run : Relation.ReflTransGen GroundStep GroundConfig.initial config)
    (settings : GroundSettings) (vendor : VendorRequest) (requestId : UUID)
    (receipt : TelemetryDeliveryReceipt) (owns : config.state.database.Owns receipt requestId)
    (presents : vendor.Presents settings requestId receipt.rawBody)
    (settled : receipt.validationStatus ≠ .pending) (uuid4 : Nat → UUID) :
    ReplayAnswered settings vendor uuid4 config.state receipt ↔
      receipt.validationStatus ≠ .conflict :=
  replayAnswered_iff (storesBacked_of_run run) owns presents settled

/-- The identifier that the sample request presents. -/
def sampleRequestId : UUID := 0x00000000000040008000000000000001

/-- The sample request presents what the handler asks for. -/
theorem sampleRequest_presents :
    (sampleRequest goldenFrame).Presents sampleSettings sampleRequestId goldenFrame where
  token := ⟨"vendor", rfl, by decide⟩
  identifier := by decide +kernel
  contentType := by decide +kernel
  body := by decide +kernel

/-- A delivery that was accepted is answered again. -/
theorem delivered_request_answered :
    ∃ receipt ∈ (GroundConfig.after deliverySchedule).state.database.receipts,
      receipt.validationStatus = .accepted ∧
        ReplayAnswered sampleSettings (sampleRequest goldenFrame) (fun _ => 9)
          (GroundConfig.after deliverySchedule).state receipt := by
  -- The run stores one receipt and one owner for it.
  have receipts : (GroundConfig.after deliverySchedule).state.database.receipts.rows.map
      (fun receipt => (receipt.receiptId, receipt.rawBody, receipt.validationStatus)) =
        [(1, goldenFrame, .accepted)] := by decide +kernel
  have identities : (GroundConfig.after deliverySchedule).state.database.identities.rows.map
      (fun owner => (owner.requestId, owner.firstReceiptId)) = [(sampleRequestId, 1)] := by
    decide +kernel
  obtain ⟨receipt, stored, fields⟩ := List.mem_map.mp (receipts ▸ List.mem_cons_self)
  obtain ⟨owner, owned, link⟩ := List.mem_map.mp (identities ▸ List.mem_cons_self)
  simp only [Prod.mk.injEq] at fields link
  obtain ⟨key, body, status⟩ := fields
  refine ⟨receipt, stored, status, (request_replay_answered_iff _
    (GroundConfig.after_run deliverySchedule) _ _ sampleRequestId receipt
    ⟨stored, owner, owned, link.1, link.2.trans key.symm⟩ (body ▸ sampleRequest_presents) ?_ _).mpr
    ?_⟩ <;> simp [status]

namespace GroundConfig

/-- One process at a time runs to its end in the first place, and both stores answer. -/
def serially (config : GroundConfig) : List Event → Bool
  | [] => true
  | event :: rest =>
    (match event with
      | .start thread _ => thread = 0
      | .act _ _ fault => fault = .none
      -- A place is freed once its process has ended.
      | .crash thread =>
        match config.threads thread with
        | some (.request _ _) => false
        | _ => true
      | .tick _ => true) && (config.perform event).serially rest

end GroundConfig

/-- The golden vector with another temperature. -/
def warmerFrame : Bytes :=
  [0x01, 0x01, 0x00, 0x00, 0x00, 0x2a, 0x00, 0x00, 0x00, 0x01, 0x00, 0x06, 0x56, 0xb9,
    0x2d, 0xf1, 0x70, 0x00, 0x0b, 0x19, 0x6d, 0xc4, 0x02, 0x00, 0xf1, 0x0d, 0x2b, 0xb5]

/-- A second identifier for the warmer frame. -/
def warmerRequest : VendorRequest :=
  { sampleRequest warmerFrame with requestId := some "00000000-0000-4000-8000-000000000002" }

/-- The golden vector is delivered, then another body under its sequence number. -/
def conflictSchedule : List Event :=
  deliverySchedule ++ [.crash 0, .start 0 (.gateway sampleSettings warmerRequest),
    .act 0 3 .none, .act 0 3 .none, .act 0 4 .none]

/-- A request that ended in conflict is not answered when it is repeated. -/
theorem conflicting_request_unanswered :
    ¬∀ schedule, GroundConfig.initial.serially schedule = true → ∀ settings vendor requestId receipt,
      (GroundConfig.after schedule).state.database.Owns receipt requestId →
      vendor.Presents settings requestId receipt.rawBody → receipt.validationStatus ≠ .pending →
        ∀ uuid4, ReplayAnswered settings vendor uuid4 (GroundConfig.after schedule).state receipt := by
  -- Both receipts and their identities are evaluated; the second one is in conflict, and its
  -- repetition raises.
  intro claimed
  have serial : GroundConfig.initial.serially conflictSchedule = true := by decide +kernel
  have receipts : (GroundConfig.after conflictSchedule).state.database.receipts.rows.map
      (fun receipt => (receipt.receiptId, receipt.rawBody, receipt.validationStatus)) =
        [(1, goldenFrame, .accepted), (3, warmerFrame, .conflict)] := by decide +kernel
  have identities : (GroundConfig.after conflictSchedule).state.database.identities.rows.map
      (fun owner => (owner.requestId, owner.firstReceiptId)) =
        [(sampleRequestId, 1), (sampleRequestId + 1, 3)] := by decide +kernel
  have presents : warmerRequest.Presents sampleSettings (sampleRequestId + 1) warmerFrame :=
    ⟨⟨"vendor", rfl, by decide⟩, by decide +kernel, by decide +kernel, by decide +kernel⟩
  obtain ⟨receipt, stored, fields⟩ := List.mem_map.mp
    (receipts ▸ List.mem_cons_of_mem _ List.mem_cons_self)
  obtain ⟨owner, owned, link⟩ := List.mem_map.mp
    (identities ▸ List.mem_cons_of_mem _ List.mem_cons_self)
  simp only [Prod.mk.injEq] at fields link
  obtain ⟨key, body, status⟩ := fields
  obtain ⟨response, after, answered, -⟩ := claimed conflictSchedule serial sampleSettings
    warmerRequest _ receipt ⟨stored, owner, owned, link.1, link.2.trans key.symm⟩ (body ▸ presents)
    (by simp [status]) fun _ => 9
  have escapes : ((receivePayloadData sampleSettings warmerRequest).runAlone
      (Ground.serve fun _ => 9) (GroundConfig.after conflictSchedule).state).1.toOption.isSome =
        false := by decide +kernel
  rw [answered] at escapes
  cases escapes

end Cislunar
