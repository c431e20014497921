import Cislunar.Proofs.Telemetry.Accounting

/-!
The ledger invariant: every row of the telemetry tables is consistent with the rows it refers to.

A row that was consistent stays consistent while the database grows, so each effect has to account
only for the rows it writes.
-/

namespace Cislunar

open Foundation

/-- A duplicate receipt holds the bytes of the source of its packet. -/
def LinkedDuplicate (db : Database) (receipt : TelemetryDeliveryReceipt) : Prop :=
  ∃ packet ∈ db.packets, ∃ source ∈ db.receipts,
    receipt.logicalPacketId = some packet.packetId ∧
    receipt.duplicateOfReceiptId = some packet.sourceReceiptId ∧
    source.receiptId = packet.sourceReceiptId ∧ source.receiptId ≠ receipt.receiptId ∧
    source.rawBody = receipt.rawBody

/-- A receipt with other bytes than the source of the packet under its key. -/
def SequenceConflict (db : Database) (receipt : TelemetryDeliveryReceipt) : Prop :=
  receipt.rejectionReason = some "SEQUENCE_CONFLICT" ∧
    ∃ packet ∈ db.packets, ∃ source ∈ db.receipts,
      receipt.logicalPacketId = some packet.packetId ∧
      receipt.duplicateOfReceiptId = some packet.sourceReceiptId ∧
      source.receiptId = packet.sourceReceiptId ∧ source.receiptId ≠ receipt.receiptId ∧
      source.rawBody ≠ receipt.rawBody

/-- A receipt with other bytes than the owner of its request identifier. -/
def RequestConflict (db : Database) (receipt : TelemetryDeliveryReceipt) : Prop :=
  receipt.rejectionReason = some "REQUEST_ID_REUSED_WITH_DIFFERENT_BODY" ∧
    receipt.logicalPacketId = none ∧
    ∃ owner ∈ db.identities, ∃ first ∈ db.receipts,
      receipt.canonicalRequestId = some owner.requestId ∧
      receipt.duplicateOfReceiptId = some first.receiptId ∧
      first.receiptId = owner.firstReceiptId ∧ first.receiptId ≠ receipt.receiptId ∧
      first.rawBody ≠ receipt.rawBody

/-- A receipt is consistent with its status. -/
structure ReceiptConsistent (db : Database) (receipt : TelemetryDeliveryReceipt) : Prop where
  digest : receipt.bodySha256 = sha256Hex receipt.rawBody
  unqueued : receipt.validationStatus ≠ .accepted → receipt.queueStatus = .notApplicable
  pending : receipt.validationStatus = .pending → receipt.logicalPacketId = none ∧
    receipt.duplicateOfReceiptId = none ∧ receipt.rejectionReason = none
  rejected : receipt.validationStatus = .rejected → receipt.logicalPacketId = none ∧
    receipt.duplicateOfReceiptId = none ∧ receipt.rejectionReason ≠ none
  accepted : receipt.validationStatus = .accepted → ∃ packet ∈ db.packets,
    receipt.logicalPacketId = some packet.packetId ∧ packet.sourceReceiptId = receipt.receiptId
  duplicate : receipt.validationStatus = .duplicate → LinkedDuplicate db receipt
  conflict : receipt.validationStatus = .conflict →
    SequenceConflict db receipt ∨ RequestConflict db receipt

namespace ReceiptConsistent
variable {db : Database} {receipt : TelemetryDeliveryReceipt}

/-- A rejected receipt is consistent when it names a reason and nothing else. -/
theorem of_rejected (digest : receipt.bodySha256 = sha256Hex receipt.rawBody)
    (status : receipt.validationStatus = .rejected) (unqueued : receipt.queueStatus = .notApplicable)
    (unlinked : receipt.logicalPacketId = none ∧ receipt.duplicateOfReceiptId = none ∧
      receipt.rejectionReason ≠ none) : ReceiptConsistent db receipt where
  digest := digest
  unqueued _ := unqueued
  pending other := by simp [status] at other
  rejected _ := unlinked
  accepted other := by simp [status] at other
  duplicate other := by simp [status] at other
  conflict other := by simp [status] at other

/-- An accepted receipt is consistent when it is the source of its packet. -/
theorem of_accepted (digest : receipt.bodySha256 = sha256Hex receipt.rawBody)
    (status : receipt.validationStatus = .accepted)
    (link : ∃ packet ∈ db.packets, receipt.logicalPacketId = some packet.packetId ∧
      packet.sourceReceiptId = receipt.receiptId) : ReceiptConsistent db receipt where
  digest := digest
  unqueued other := absurd status other
  pending other := by simp [status] at other
  rejected other := by simp [status] at other
  accepted _ := link
  duplicate other := by simp [status] at other
  conflict other := by simp [status] at other

/-- A duplicate receipt is consistent when it holds the bytes of its packet's source. -/
theorem of_duplicate (digest : receipt.bodySha256 = sha256Hex receipt.rawBody)
    (status : receipt.validationStatus = .duplicate)
    (unqueued : receipt.queueStatus = .notApplicable) (link : LinkedDuplicate db receipt) :
    ReceiptConsistent db receipt where
  digest := digest
  unqueued _ := unqueued
  pending other := by simp [status] at other
  rejected other := by simp [status] at other
  accepted other := by simp [status] at other
  duplicate _ := link
  conflict other := by simp [status] at other

/-- A conflict receipt is consistent when it names what it conflicts with. -/
theorem of_conflict (digest : receipt.bodySha256 = sha256Hex receipt.rawBody)
    (status : receipt.validationStatus = .conflict)
    (unqueued : receipt.queueStatus = .notApplicable)
    (link : SequenceConflict db receipt ∨ RequestConflict db receipt) :
    ReceiptConsistent db receipt where
  digest := digest
  unqueued _ := unqueued
  pending other := by simp [status] at other
  rejected other := by simp [status] at other
  accepted other := by simp [status] at other
  duplicate other := by simp [status] at other
  conflict _ := link

end ReceiptConsistent

/-- A packet is consistent with its source receipt and its job. -/
structure PacketConsistent (db : Database) (packet : LogicalTelemetryPacket) : Prop where
  identifier : packet.packetId = packet.values.packetId
  positive : 0 < packet.values.payloadId ∧ 0 < packet.values.bootId
  source : ∃ receipt ∈ db.receipts, receipt.receiptId = packet.sourceReceiptId ∧
    receipt.validationStatus = .accepted ∧ receipt.logicalPacketId = some packet.packetId ∧
    receipt.bodySha256 = packet.rawSha256
  job : ∃ job ∈ db.jobs, job.packetId = packet.packetId

/-- A job is consistent with its packet and, once complete, has a result. -/
structure JobConsistent (db : Database) (job : TelemetryProcessingJob) : Prop where
  packet : ∃ packet ∈ db.packets, packet.packetId = job.packetId
  result : job.state = .complete → ∃ processed ∈ db.processed, processed.packetId = job.packetId

/-- A request identifier is owned by a receipt that presented it. -/
def IdentityConsistent (db : Database) (identity : TelemetryRequestIdentity) : Prop :=
  ∃ receipt ∈ db.receipts, receipt.receiptId = identity.firstReceiptId ∧
    receipt.canonicalRequestId = some identity.requestId ∧
    receipt.bodySha256 = identity.bodySha256

/-- A result belongs to the completed job of its packet. -/
def ResultConsistent (db : Database) (processed : ProcessedTelemetry) : Prop :=
  ∃ job ∈ db.jobs, job.jobId = processed.processingJobId ∧ job.packetId = processed.packetId ∧
    job.state = .complete

/-- An accepted receipt shows whether the job of its packet has reached the queue. -/
def QueueStatusConsistent (db : Database) : Prop :=
  ∀ receipt ∈ db.receipts, receipt.validationStatus = .accepted → ∀ job ∈ db.jobs,
    receipt.logicalPacketId = some job.packetId →
    receipt.queueStatus = jobStateToQueueStatus job.state

/-- Every row is consistent with the rows it refers to. -/
structure Ledger (db : Database) : Prop where
  receipts : ∀ receipt ∈ db.receipts, ReceiptConsistent db receipt
  packets : ∀ packet ∈ db.packets, PacketConsistent db packet
  jobs : ∀ job ∈ db.jobs, JobConsistent db job
  identities : ∀ identity ∈ db.identities, IdentityConsistent db identity
  processed : ∀ processed ∈ db.processed, ResultConsistent db processed
  jobUnique : ∀ first ∈ db.jobs, ∀ second ∈ db.jobs, first.packetId = second.packetId →
    first = second
  sourceUnique : ∀ first ∈ db.packets, ∀ second ∈ db.packets,
    first.values.sourceKey = second.values.sourceKey → first = second
  queueStatus : QueueStatusConsistent db

section Growth
variable {db after : Database}

/-- A source receipt stays where it is, with its bytes. -/
theorem Extends.source (grows : Extends db after) {source : TelemetryDeliveryReceipt}
    (member : source ∈ db.receipts) : ∃ later ∈ after.receipts,
      later.receiptId = source.receiptId ∧ later.rawBody = source.rawBody := by
  -- A receipt develops, and it keeps its identifier and its bytes.
  obtain ⟨later, among, develops⟩ := grows.receipts source member
  exact ⟨later, among, develops.receiptId, develops.rawBody⟩

/-- A consistent receipt that is not rewritten stays consistent. -/
theorem ReceiptConsistent.grow {receipt : TelemetryDeliveryReceipt}
    (consistent : ReceiptConsistent db receipt) (grows : Extends db after) :
    ReceiptConsistent after receipt where
  digest := consistent.digest
  unqueued := consistent.unqueued
  pending := consistent.pending
  rejected := consistent.rejected
  accepted status := by
    obtain ⟨packet, member, links⟩ := consistent.accepted status
    exact ⟨packet, grows.packets packet member, links⟩
  duplicate status := by
    obtain ⟨packet, stored, source, member, named, link, origin, other, same⟩ :=
      consistent.duplicate status
    -- The receipts that the row points to may be rewritten, but keep their identifier and their
    -- bytes.
    obtain ⟨later, among, key, bytes⟩ := grows.source member
    exact ⟨packet, grows.packets packet stored, later, among, named, link, key.trans origin,
      key ▸ other, bytes.trans same⟩
  conflict status := by
    rcases consistent.conflict status with
      ⟨reason, packet, stored, source, member, named, link, origin, other, different⟩ |
      ⟨reason, unlinked, owner, owned, first, member, named, link, origin, other, different⟩
    · obtain ⟨later, among, key, bytes⟩ := grows.source member
      exact Or.inl ⟨reason, packet, grows.packets packet stored, later, among, named, link,
        key.trans origin, key ▸ other, bytes ▸ different⟩
    · obtain ⟨later, among, key, bytes⟩ := grows.source member
      exact Or.inr ⟨reason, unlinked, owner, grows.identities owner owned, later, among, named,
        key ▸ link, key.trans origin, key ▸ other, bytes ▸ different⟩

/-- A consistent packet stays consistent. -/
theorem PacketConsistent.grow {packet : LogicalTelemetryPacket}
    (consistent : PacketConsistent db packet) (grows : Extends db after) :
    PacketConsistent after packet where
  identifier := consistent.identifier
  positive := consistent.positive
  source := by
    obtain ⟨receipt, member, key, status, named, digest⟩ := consistent.source
    obtain ⟨later, among, develops⟩ := grows.receipts receipt member
    -- The source was settled as accepted, and a settled receipt changes its queue status alone.
    have settled : receipt.validationStatus ≠ .pending := by simp [status]
    exact ⟨later, among, develops.receiptId.trans key, (develops.validationStatus settled).trans status,
      (develops.logicalPacketId settled).trans named, develops.bodySha256.trans digest⟩
  job := by
    obtain ⟨job, member, named⟩ := consistent.job
    obtain ⟨later, among, develops⟩ := grows.jobs job member
    exact ⟨later, among, develops.packetId.trans named⟩

/-- A consistent job that is not rewritten stays consistent. -/
theorem JobConsistent.grow {job : TelemetryProcessingJob} (consistent : JobConsistent db job)
    (grows : Extends db after) : JobConsistent after job where
  packet := by
    -- Packets and results stay as they are.
    obtain ⟨packet, member, named⟩ := consistent.packet
    exact ⟨packet, grows.packets packet member, named⟩
  result done := by
    obtain ⟨processed, member, named⟩ := consistent.result done
    exact ⟨processed, grows.processed processed member, named⟩

/-- An owned request identifier stays owned. -/
theorem IdentityConsistent.grow {identity : TelemetryRequestIdentity}
    (consistent : IdentityConsistent db identity) (grows : Extends db after) :
    IdentityConsistent after identity := by
  -- The receipt may have developed, but not in the fields compared here.
  obtain ⟨receipt, member, key, named, digest⟩ := consistent
  obtain ⟨later, among, develops⟩ := grows.receipts receipt member
  exact ⟨later, among, develops.receiptId.trans key, develops.canonicalRequestId.trans named,
    develops.bodySha256.trans digest⟩

/-- A result keeps its completed job. -/
theorem ResultConsistent.grow {processed : ProcessedTelemetry}
    (consistent : ResultConsistent db processed) (grows : Extends db after) :
    ResultConsistent after processed := by
  -- The job may have developed, but a complete one stays complete.
  obtain ⟨job, member, key, named, done⟩ := consistent
  obtain ⟨later, among, develops⟩ := grows.jobs job member
  exact ⟨later, among, develops.jobId.trans key, develops.packetId.trans named,
    develops.complete done⟩

/-- A grown database is consistent when the rows it has written are. -/
theorem Ledger.grow (ledger : Ledger db) (grows : Extends db after)
    (receipts : ∀ receipt ∈ after.receipts, receipt ∈ db.receipts ∨ ReceiptConsistent after receipt)
    (packets : ∀ packet ∈ after.packets, packet ∈ db.packets ∨ PacketConsistent after packet)
    (jobs : ∀ job ∈ after.jobs, job ∈ db.jobs ∨ JobConsistent after job)
    (identities : ∀ identity ∈ after.identities,
      identity ∈ db.identities ∨ IdentityConsistent after identity)
    (processed : ∀ result ∈ after.processed, result ∈ db.processed ∨ ResultConsistent after result)
    (jobUnique : ∀ first ∈ after.jobs, ∀ second ∈ after.jobs,
      first.packetId = second.packetId → first = second)
    (sourceUnique : ∀ first ∈ after.packets, ∀ second ∈ after.packets,
      first.values.sourceKey = second.values.sourceKey → first = second)
    (queueStatus : QueueStatusConsistent after) : Ledger after where
  receipts receipt member := (receipts receipt member).elim
    (fun old => (ledger.receipts receipt old).grow grows) id
  packets packet member := (packets packet member).elim
    (fun old => (ledger.packets packet old).grow grows) id
  jobs job member := (jobs job member).elim (fun old => (ledger.jobs job old).grow grows) id
  identities identity member := (identities identity member).elim
    (fun old => (ledger.identities identity old).grow grows) id
  processed result member := (processed result member).elim
    (fun old => (ledger.processed result old).grow grows) id
  jobUnique := jobUnique
  sourceUnique := sourceUnique
  queueStatus := queueStatus

end Growth

section Effects
variable {db : Database}

/-- A job whose packet has a result is complete. -/
theorem Ledger.complete_of_result (ledger : Ledger db) {job : TelemetryProcessingJob}
    {processed : ProcessedTelemetry} (member : job ∈ db.jobs)
    (done : db.processed.get? job.packetId = some processed) : job.state = .complete := by
  obtain ⟨stored, named⟩ := Table.get?_eq_some.mp done
  obtain ⟨owner, among, -, same, complete⟩ := ledger.processed processed stored
  rwa [ledger.jobUnique job member owner among (by rw [same, named])]

/-- A delivery that is recorded as pending is consistent in any database. -/
theorem pendingReceipt_consistent (db : Database) (delivery : Delivery) (receiptId : UUID) :
    ReceiptConsistent db (delivery.receipt receiptId none) where
  digest := rfl
  unqueued _ := rfl
  pending _ := ⟨rfl, rfl, rfl⟩
  rejected status := by cases status
  accepted status := by cases status
  duplicate status := by cases status
  conflict status := by cases status

/-- A new receipt with a consistent row keeps the ledger. -/
theorem Ledger.addReceipt (ledger : Ledger db) {row : TelemetryDeliveryReceipt}
    {event : TelemetryAuditEvent} (admitted : db.AdmitsReceipt row)
    (unaccepted : row.validationStatus ≠ .accepted)
    (consistent : ReceiptConsistent (db.addReceipt row event) row) :
    Ledger (db.addReceipt row event) := by
  -- Only the new row has to be looked at; its status keeps it out of the queue status of any job.
  have mem : ∀ receipt, receipt ∈ (db.addReceipt row event).receipts ↔
      receipt ∈ db.receipts ∨ receipt = row := fun _ => Table.mem_insert admitted.1
  refine ledger.grow (extends_addReceipt admitted event) (fun receipt member => ?_)
    (fun _ => Or.inl) (fun _ => Or.inl) (fun _ => Or.inl) (fun _ => Or.inl) ledger.jobUnique
    ledger.sourceUnique fun receipt member accepted job among => ?_
  · rcases (mem receipt).mp member with old | rfl
    · exact Or.inl old
    · exact Or.inr consistent
  · rcases (mem receipt).mp member with old | rfl
    · exact ledger.queueStatus receipt old accepted job among
    · exact absurd accepted unaccepted

/-- A new receipt that takes its request identifier keeps the ledger. -/
theorem Ledger.addOwner (ledger : Ledger db) {delivery : Delivery} {receiptId requestId : UUID}
    (event : TelemetryAuditEvent) (named : delivery.canonicalRequestId = some requestId)
    (admitted : db.AdmitsReceipt (delivery.receipt receiptId none))
    (unowned : db.AdmitsIdentity ⟨requestId, receiptId, sha256Hex delivery.rawBody⟩) :
    Ledger (db.addOwner (delivery.receipt receiptId none)
      ⟨requestId, receiptId, sha256Hex delivery.rawBody⟩ event) := by
  have mem : ∀ receipt, receipt ∈ (db.addOwner (delivery.receipt receiptId none)
      ⟨requestId, receiptId, sha256Hex delivery.rawBody⟩ event).receipts ↔
      receipt ∈ db.receipts ∨ receipt = delivery.receipt receiptId none :=
    fun _ => Table.mem_insert admitted.1
  -- The two new rows answer for each other: the receipt is pending, and the identity names it.
  refine ledger.grow (extends_addOwner admitted unowned event) (fun receipt member => ?_)
    (fun _ => Or.inl) (fun _ => Or.inl) (fun identity member => ?_) (fun _ => Or.inl)
    ledger.jobUnique ledger.sourceUnique fun receipt member accepted job among => ?_
  · rcases (mem receipt).mp member with old | rfl
    · exact Or.inl old
    · exact Or.inr (pendingReceipt_consistent _ delivery receiptId)
  · rcases (Table.mem_insert unowned.1).mp member with old | rfl
    · exact Or.inl old
    · exact Or.inr ⟨_, (mem _).mpr (Or.inr rfl), rfl, named, rfl⟩
  · rcases (mem receipt).mp member with old | rfl
    · exact ledger.queueStatus receipt old accepted job among
    · cases accepted

/-- Settling a pending receipt with a consistent row keeps the ledger. -/
theorem Ledger.settle (ledger : Ledger db) {receipt row : TelemetryDeliveryReceipt}
    {event : TelemetryAuditEvent} (member : receipt ∈ db.receipts)
    (status : receipt.validationStatus = .pending) (same : row.evidence = receipt.evidence)
    (unaccepted : row.validationStatus ≠ .accepted)
    (consistent : ReceiptConsistent (db.settle row event) row) : Ledger (db.settle row event) := by
  -- The settled row takes the place of the pending one, and every other receipt stays.
  have key : receipt.receiptId = row.receiptId := (congrArg (·.receiptId) same).symm
  have mem : ∀ other, other ∈ (db.settle row event).receipts ↔
      other = row ∨ (other ∈ db.receipts ∧ other.receiptId ≠ row.receiptId) :=
    fun _ => Table.mem_set_of_mem member key
  refine ledger.grow (extends_settle member status same event) (fun other among => ?_)
    (fun _ => Or.inl) (fun _ => Or.inl) (fun _ => Or.inl) (fun _ => Or.inl) ledger.jobUnique
    ledger.sourceUnique fun other among accepted job => ?_
  · rcases (mem other).mp among with rfl | ⟨old, -⟩
    · exact Or.inr consistent
    · exact Or.inl old
  · rcases (mem other).mp among with rfl | ⟨old, -⟩
    · exact absurd accepted unaccepted
    · exact ledger.queueStatus other old accepted job

/-- The source receipt of a packet is another receipt than one that is still pending. -/
theorem Ledger.source_of_packet (ledger : Ledger db) {receipt : TelemetryDeliveryReceipt}
    {packet : LogicalTelemetryPacket} (member : receipt ∈ db.receipts)
    (status : receipt.validationStatus = .pending) (stored : packet ∈ db.packets) :
    ∃ source ∈ db.receipts, db.receipts.get? packet.sourceReceiptId = some source ∧
      source.receiptId = packet.sourceReceiptId ∧ source.receiptId ≠ receipt.receiptId ∧
      packet.rawSha256 = sha256Hex source.rawBody := by
  obtain ⟨source, among, key, accepted, -, digest⟩ := (ledger.packets packet stored).source
  refine ⟨source, among, Table.get?_eq_some.mpr ⟨among, key⟩, key, fun same => ?_, ?_⟩
  -- A source is accepted, so it cannot be the pending receipt.
  · rw [Table.eq_of_key among member same, status] at accepted
    cases accepted
  · rw [← digest, (ledger.receipts source among).digest]

/-- The source of a packet is still there, under its key and with its bytes, once another receipt
is settled. -/
theorem mem_settle_of_ne {receipt row source : TelemetryDeliveryReceipt}
    {event : TelemetryAuditEvent} (among : source ∈ db.receipts)
    (same : row.evidence = receipt.evidence) (other : source.receiptId ≠ receipt.receiptId) :
    source ∈ (db.settle row event).receipts :=
  Table.mem_set.mpr (Or.inr ⟨among, (congrArg (·.receiptId) same : row.receiptId = _) ▸ other⟩)

/-- Moving a job along keeps the ledger. -/
theorem Ledger.move (ledger : Ledger db) {job row : TelemetryProcessingJob}
    (events : List TelemetryAuditEvent) (member : job ∈ db.jobs) (develops : JobDevelops job row)
    (shown : jobStateToQueueStatus row.state = jobStateToQueueStatus job.state)
    (unfinished : row.state = .complete → job.state = .complete) :
    Ledger (db.move row events) := by
  -- A moved job keeps its identifier and its packet, so the rows that name it lose nothing.
  have mem : ∀ other, other ∈ (db.move row events).jobs ↔
      other = row ∨ (other ∈ db.jobs ∧ other.jobId ≠ row.jobId) :=
    fun _ => Table.mem_set_of_mem member develops.jobId.symm
  have grows := extends_move member develops events
  refine ledger.grow grows (fun _ => Or.inl) (fun _ => Or.inl) (fun other among => ?_)
    (fun _ => Or.inl) (fun _ => Or.inl)
    (Table.unique_set member develops.jobId.symm develops.packetId.symm ledger.jobUnique)
    ledger.sourceUnique fun receipt present accepted other among linked => ?_
  · rcases (mem other).mp among with rfl | ⟨old, -⟩
    · obtain ⟨packet, result⟩ := (ledger.jobs job member).grow grows
      exact Or.inr ⟨develops.packetId ▸ packet, fun done => develops.packetId ▸ result (unfinished done)⟩
    · exact Or.inl old
  · rcases (mem other).mp among with rfl | ⟨old, -⟩
    · rw [shown]
      exact ledger.queueStatus receipt present accepted job member (develops.packetId ▸ linked)
    · exact ledger.queueStatus receipt present accepted other old linked

/-- Queueing a job together with its accepted receipts keeps the ledger. -/
theorem Ledger.queue (ledger : Ledger db) {job : TelemetryProcessingJob} (member : job ∈ db.jobs)
    (status : job.state = .pendingQueue ∨ job.state = .retryWait)
    (queueMessageId actorIdentity : String) :
    Ledger (db.queue job queueMessageId actorIdentity) := by
  have mem : ∀ other, other ∈ (db.queue job queueMessageId actorIdentity).jobs ↔
      other = queuedJob job queueMessageId ∨ (other ∈ db.jobs ∧ other.jobId ≠ job.jobId) :=
    fun _ => Table.mem_set_of_mem member rfl
  have grows : Extends db (db.queue job queueMessageId actorIdentity) :=
    (Effect.queued member status queueMessageId actorIdentity).extends
  refine ledger.grow grows (fun receipt present => ?_) (fun _ => Or.inl) (fun other among => ?_)
    (fun _ => Or.inl) (fun _ => Or.inl) (Table.unique_set member rfl rfl ledger.jobUnique)
    ledger.sourceUnique fun receipt present accepted other among linked => ?_
  · -- A receipt of the packet differs from its old row in the queue status alone.
    obtain ⟨old, before, rfl⟩ := mem_queue_receipts.mp present
    split_ifs with ofPacket
    · have consistent := (ledger.receipts old before).grow grows
      exact Or.inr ⟨consistent.digest, fun unaccepted => absurd ofPacket.2 unaccepted,
        consistent.pending, consistent.rejected, consistent.accepted, consistent.duplicate,
        consistent.conflict⟩
    · exact Or.inl before
  · rcases (mem other).mp among with rfl | ⟨old, -⟩
    · obtain ⟨packet, -⟩ := (ledger.jobs job member).grow grows
      exact Or.inr ⟨packet, fun done => by cases done⟩
    · exact Or.inl old
  · obtain ⟨old, before, rfl⟩ := mem_queue_receipts.mp present
    split_ifs at accepted linked ⊢ with ofPacket
    -- The receipts of the packet show QUEUED, and the packet has no other job.
    · rcases (mem other).mp among with rfl | ⟨stored, different⟩
      · rfl
      · have same : job.packetId = other.packetId := Option.some.inj (ofPacket.1.symm.trans linked)
        exact absurd (congrArg (·.jobId) (ledger.jobUnique job member other stored same)).symm
          different
    -- A receipt that was left alone belongs to another packet.
    · rcases (mem other).mp among with rfl | ⟨stored, -⟩
      · exact absurd ⟨linked, accepted⟩ ofPacket
      · exact ledger.queueStatus old before accepted other stored linked

/-- Completing a job with its first result keeps the ledger. -/
theorem Ledger.complete (ledger : Ledger db) {job : TelemetryProcessingJob}
    {result : ProcessingResultValues} {workerId : String} {completionTime : Time}
    (member : job ∈ db.jobs) (status : job.state = .processing)
    (admitted : db.AdmitsProcessed (processedRow job result completionTime)) :
    Ledger (db.complete job result workerId completionTime) := by
  -- The result and the completed job are written together and name each other.
  have mem : ∀ other, other ∈ (db.complete job result workerId completionTime).jobs ↔
      other = completedJob job completionTime ∨ (other ∈ db.jobs ∧ other.jobId ≠ job.jobId) :=
    fun _ => Table.mem_set_of_mem member rfl
  have results : ∀ other, other ∈ (db.complete job result workerId completionTime).processed ↔
      other ∈ db.processed ∨ other = processedRow job result completionTime :=
    fun _ => Table.mem_insert admitted.1
  have develops : JobDevelops job (completedJob job completionTime) :=
    ⟨rfl, rfl, rfl, le_rfl, by simp [completedJob], fun _ => rfl⟩
  have grows : Extends db (db.complete job result workerId completionTime) := {
    receipts := fun receipt member => ⟨receipt, member, .refl receipt⟩
    identities := fun _ member => member
    packets := fun _ member => member
    jobs := develops_set JobDevelops.refl member rfl develops
    processed := fun _ member => (results _).mpr (Or.inl member)
    auditEvents := List.prefix_append _ _ }
  refine ledger.grow grows (fun _ => Or.inl) (fun _ => Or.inl) (fun other among => ?_)
    (fun _ => Or.inl) (fun other among => ?_)
    (Table.unique_set member rfl rfl ledger.jobUnique)
    ledger.sourceUnique fun receipt present accepted other among linked => ?_
  · rcases (mem other).mp among with rfl | ⟨old, -⟩
    · obtain ⟨packet, -⟩ := (ledger.jobs job member).grow grows
      exact Or.inr ⟨packet, fun _ => ⟨_, (results _).mpr (Or.inr rfl), rfl⟩⟩
    · exact Or.inl old
  · rcases (results other).mp among with old | rfl
    · exact Or.inl old
    · exact Or.inr ⟨_, (mem _).mpr (Or.inl rfl), rfl, rfl, rfl⟩
  · rcases (mem other).mp among with rfl | ⟨old, -⟩
    -- Processing and complete jobs are both shown as queued.
    · rw [ledger.queueStatus receipt present accepted job member linked, status]
      rfl
    · exact ledger.queueStatus receipt present accepted other old linked

/-- Accepting a new packet together with its job keeps the ledger. -/
theorem Ledger.addPacket (ledger : Ledger db) {receipt : TelemetryDeliveryReceipt}
    {values : DecodedTelemetryValues} {sequenceState : Option TelemetrySequenceState}
    {disposition : PacketDisposition} {missingBefore : Int} {jobId : UUID}
    {options : AcceptanceOptions} (member : receipt ∈ db.receipts)
    (packetAdmitted : db.AdmitsPacket (newPacket receipt values disposition missingBefore))
    (jobAdmitted : db.AdmitsJob (newJob jobId values.packetId options.maxAttempts options.now))
    (grows : Extends db
      (db.addPacket receipt values sequenceState disposition missingBefore jobId options)) :
    Ledger (db.addPacket receipt values sequenceState disposition missingBefore jobId options) := by
  -- Receipt, packet and job appear together: each of the three is the witness of the others.
  generalize grown : db.addPacket receipt values sequenceState disposition missingBefore jobId
    options = after at grows ⊢
  have receipts : ∀ other, other ∈ after.receipts ↔ other = acceptedReceipt receipt values ∨
      (other ∈ db.receipts ∧ other.receiptId ≠ receipt.receiptId) := by
    intro other
    rw [← grown]
    exact Table.mem_set_of_mem member rfl
  have packets : ∀ other, other ∈ after.packets ↔ other ∈ db.packets ∨
      other = newPacket receipt values disposition missingBefore := by
    intro other
    rw [← grown]
    exact Table.mem_insert packetAdmitted.1
  have jobs : ∀ other, other ∈ after.jobs ↔ other ∈ db.jobs ∨
      other = newJob jobId values.packetId options.maxAttempts options.now := by
    intro other
    rw [← grown]
    exact Table.mem_insert jobAdmitted.1
  have jobUnique : ∀ first ∈ after.jobs, ∀ second ∈ after.jobs,
      first.packetId = second.packetId → first = second := by
    rw [← grown]
    exact Table.unique_insert jobAdmitted.1 jobAdmitted.2.1 ledger.jobUnique
  have sourceUnique : ∀ first ∈ after.packets, ∀ second ∈ after.packets,
      first.values.sourceKey = second.values.sourceKey → first = second := by
    rw [← grown]
    exact Table.unique_insert packetAdmitted.1 packetAdmitted.2.2.1 ledger.sourceUnique
  refine ledger.grow grows (fun other among => ?_) (fun other among => ?_) (fun other among => ?_)
    (fun _ among => Or.inl (by rw [← grown] at among; exact among))
    (fun _ among => Or.inl (by rw [← grown] at among; exact among))
    jobUnique sourceUnique fun other among accepted job present linked => ?_
  · rcases (receipts other).mp among with rfl | ⟨old, -⟩
    · exact Or.inr (.of_accepted (ledger.receipts receipt member).digest rfl
        ⟨_, (packets _).mpr (Or.inr rfl), rfl, rfl⟩)
    · exact Or.inl old
  · rcases (packets other).mp among with old | rfl
    · exact Or.inl old
    · have positive := packetAdmitted.2.2.2
      exact Or.inr ⟨rfl, ⟨positive.1, positive.2.1⟩,
        ⟨_, (receipts _).mpr (Or.inl rfl), rfl, rfl, rfl, rfl⟩,
        ⟨_, (jobs _).mpr (Or.inr rfl), rfl⟩⟩
  · rcases (jobs other).mp among with old | rfl
    · exact Or.inl old
    · exact Or.inr ⟨⟨_, (packets _).mpr (Or.inr rfl), rfl⟩, fun done => by cases done⟩
  · rcases (receipts other).mp among with rfl | ⟨old, -⟩ <;>
      rcases (jobs job).mp present with stored | rfl
    · exact absurd (Option.some.inj linked).symm (jobAdmitted.2.1 job stored)
    · rfl
    · exact ledger.queueStatus other old accepted job stored linked
    · -- An old receipt cannot name a packet whose identifier was free until now.
      obtain ⟨packet, kept, named, -⟩ := (ledger.receipts other old).accepted accepted
      exact absurd (Option.some.inj (named.symm.trans linked))
        (Table.get?_eq_none.mp packetAdmitted.1 packet kept)

/-- One call keeps the ledger of an accounted database. -/
theorem Effect.ledger {after : Database} (effect : Effect db after) (accounting : Accounting db)
    (ledger : Ledger db) : Ledger after := by
  have grows := effect.extends
  -- One case for each way in which a call can change the database.
  cases effect with
  | unchanged => exact ledger
  | audited event =>
    exact ledger.grow grows (fun _ => Or.inl) (fun _ => Or.inl) (fun _ => Or.inl) (fun _ => Or.inl)
      (fun _ => Or.inl) ledger.jobUnique ledger.sourceUnique ledger.queueStatus
  | anonymous unnamed admitted event =>
    exact ledger.addReceipt admitted (by simp [Delivery.receipt])
      (pendingReceipt_consistent _ _ _)
  | first named admitted unowned event => exact ledger.addOwner event named admitted unowned
  | @reused delivery receiptId owner original named owned present link different admitted event =>
    refine ledger.addReceipt admitted (by simp [Delivery.receipt]) (.of_conflict rfl rfl rfl ?_)
    have kept : original ∈ (db.addReceipt (delivery.receipt receiptId (some original))
        event).receipts := (Table.mem_insert admitted.1).mpr (Or.inl present)
    refine Or.inr ⟨rfl, rfl, owner, owned, original, kept, named, rfl, link, fun same => ?_, ?_⟩
    · exact Table.get?_eq_none.mp admitted.1 original present same
    · -- Equal bytes would have equal digests, and the identifier would have been replayed.
      intro bytes
      obtain ⟨first, among, key, -, digest⟩ := ledger.identities owner owned
      have same : first = original := Table.eq_of_key among present (key.trans link.symm)
      subst same
      exact different ⟨by rw [← digest, (ledger.receipts first among).digest, bytes]; rfl, bytes⟩
  | @rejected receipt member status reason parsedIdentifiers event =>
    refine ledger.settle member status (by rfl) (by simp [rejectedReceipt])
      (.of_rejected (ledger.receipts receipt member).digest rfl rfl ?_)
    obtain ⟨unlinked, original, -⟩ := (ledger.receipts receipt member).pending status
    exact ⟨unlinked, original, by simp [rejectedReceipt]⟩
  | @duplicated receipt origin values existing member status stored key source digest same event =>
    obtain ⟨found, among, lookup, named, other, -⟩ := ledger.source_of_packet member status stored
    obtain rfl : found = origin := Option.some.inj (lookup.symm.trans source)
    refine ledger.settle member status (by rfl) (by simp [duplicateReceipt])
      (.of_duplicate (ledger.receipts receipt member).digest rfl rfl ?_)
    exact ⟨existing, stored, found, mem_settle_of_ne among (by rfl) other, rfl, rfl, named, other,
      same⟩
  | @conflicted receipt values existing member status stored key different event =>
    obtain ⟨source, among, lookup, named, other, digest⟩ :=
      ledger.source_of_packet member status stored
    refine ledger.settle member status (by rfl) (by simp [sequenceConflictReceipt])
      (.of_conflict (ledger.receipts receipt member).digest rfl rfl ?_)
    refine Or.inl ⟨rfl, existing, stored, source, mem_settle_of_ne among (by rfl) other, rfl, rfl,
      named, other, fun same => ?_⟩
    refine different source lookup ?_ same
    rw [digest, same, (ledger.receipts receipt member).digest]
    rfl
  | stateConflicted member status range unused tracked onMark event =>
    -- The mark of a session has its packet, so this branch is never reached.
    obtain ⟨packet, stored, same⟩ := accounting.packet_on_mark range tracked onMark
    exact absurd same (packetBySource_eq_none.mp unused packet stored)
  | accepted member status tracked position packetAdmitted stateAdmitted jobAdmitted =>
    exact ledger.addPacket member packetAdmitted jobAdmitted grows
  | queued member status queueMessageId actorIdentity =>
    exact ledger.queue member status queueMessageId actorIdentity
  | @closed job processed member done =>
    have complete := ledger.complete_of_result member done
    have develops : JobDevelops job (closedJob job processed) :=
      ⟨rfl, rfl, rfl, le_rfl, by simp [closedJob], by simp [closedJob]⟩
    exact ledger.move _ member develops (by rw [complete]; rfl) fun _ => complete
  | @claimed job member undone now free workerId leaseSeconds event =>
    refine ledger.move _ member (claimedJob_develops free workerId leaseSeconds) ?_
      fun done => by cases done
    have waiting : job.state ≠ .pendingQueue := by
      intro pending
      simp [isClaimable, pending] at free
    simp [jobStateToQueueStatus, claimedJob, waiting]
  | completed member status owned admitted => exact ledger.complete member status admitted
  | @failed job member status reason temporary baseBackoffSeconds failureTime event =>
    have develops := jobAfterFailure_develops status reason temporary baseBackoffSeconds failureTime
    refine ledger.move _ member develops ?_ ?_ <;>
      (rw [jobAfterFailure]; split_ifs <;> simp [failedJob, retryingJob, jobStateToQueueStatus, status])

end Effects

/-- A packet has one job. -/
theorem Ledger.jobOfPacket {db : Database} (ledger : Ledger db) {packet : LogicalTelemetryPacket}
    (stored : packet ∈ db.packets) :
    ∃ job ∈ db.jobs, job.packetId = packet.packetId ∧ db.jobByPacket packet.packetId = some job := by
  -- The search by packet finds the first job with its identifier, and there is no second one.
  obtain ⟨job, member, named⟩ := (ledger.packets packet stored).job
  refine ⟨job, member, named, Table.find?_eq_some_of_unique member (decide_eq_true named) ?_⟩
  intro other among also
  exact ledger.jobUnique other among job member ((of_decide_eq_true also).trans named.symm)

/-- A settled receipt leads to its packet, which has a source with the same bytes. -/
theorem Ledger.packetOfReceipt {db : Database} (ledger : Ledger db)
    {receipt : TelemetryDeliveryReceipt} (member : receipt ∈ db.receipts)
    (status : receipt.validationStatus = .accepted ∨ receipt.validationStatus = .duplicate) :
    ∃ packet ∈ db.packets, receipt.logicalPacketId = some packet.packetId ∧
      ∃ source ∈ db.receipts, source.receiptId = packet.sourceReceiptId ∧
        source.rawBody = receipt.rawBody := by
  have consistent := ledger.receipts receipt member
  -- An accepted receipt is itself the source of its packet; a duplicate names the source.
  rcases status with accepted | duplicate
  · obtain ⟨packet, stored, named, link⟩ := consistent.accepted accepted
    exact ⟨packet, stored, named, receipt, member, link.symm, rfl⟩
  · obtain ⟨packet, stored, source, among, named, -, link, -, same⟩ :=
      consistent.duplicate duplicate
    exact ⟨packet, stored, named, source, among, link, same⟩

/-- The empty database is consistent. -/
theorem Ledger.empty : Ledger .empty where
  receipts _ member := absurd member (Table.not_mem_empty _)
  packets _ member := absurd member (Table.not_mem_empty _)
  jobs _ member := absurd member (Table.not_mem_empty _)
  identities _ member := absurd member (Table.not_mem_empty _)
  processed _ member := absurd member (Table.not_mem_empty _)
  jobUnique _ member := absurd member (Table.not_mem_empty _)
  sourceUnique _ member := absurd member (Table.not_mem_empty _)
  queueStatus _ member := absurd member (Table.not_mem_empty _)

/-- Whole histories keep the ledger. -/
theorem Reachable.ledger {db : Database} (reachable : Reachable db) : Ledger db := by
  induction reachable with
  | empty => exact .empty
  | call env call before ih => exact (call.exec_effect env _).ledger before.accounting ih

/--
The ledger is consistent after every history of calls.

Accepted receipts, packets and jobs correspond one to one, and no other receipt is the source of a
packet. A duplicate holds the bytes of its packet's source and a conflict names a receipt with other
bytes. Results belong to complete jobs, and accepted receipts show whether their job was queued.
-/
theorem ledger_consistent (history : List (Surroundings × RepoCall)) :
    let db := databaseAfter history
    (∀ receipt ∈ db.receipts, receipt.validationStatus = .accepted →
      ∃! packet, packet ∈ db.packets ∧ receipt.logicalPacketId = some packet.packetId ∧
        packet.sourceReceiptId = receipt.receiptId) ∧
    (∀ packet ∈ db.packets,
      ∃! receipt, receipt ∈ db.receipts ∧ receipt.validationStatus = .accepted ∧
        receipt.logicalPacketId = some packet.packetId ∧
        packet.sourceReceiptId = receipt.receiptId) ∧
    (∀ packet ∈ db.packets, ∃! job, job ∈ db.jobs ∧ job.packetId = packet.packetId) ∧
    (∀ job ∈ db.jobs, ∃! packet, packet ∈ db.packets ∧ job.packetId = packet.packetId) ∧
    (∀ receipt ∈ db.receipts, receipt.validationStatus ≠ .accepted → ∀ packet ∈ db.packets,
      packet.sourceReceiptId ≠ receipt.receiptId) ∧
    (∀ receipt ∈ db.receipts, receipt.validationStatus = .duplicate →
      LinkedDuplicate db receipt) ∧
    (∀ receipt ∈ db.receipts, receipt.validationStatus = .conflict →
      SequenceConflict db receipt ∨ RequestConflict db receipt) ∧
    (∀ processed ∈ db.processed, ResultConsistent db processed) ∧
    (∀ job ∈ db.jobs, job.state = .complete →
      ∃! processed, processed ∈ db.processed ∧ processed.packetId = job.packetId) ∧
    QueueStatusConsistent db := by
  intro db
  have ledger : Ledger db := (reachable_databaseAfter history).ledger
  -- Existence is read off the ledger; uniqueness follows from the keys of the tables and the
  -- uniqueness of jobs.
  refine ⟨fun receipt member status => ?_, fun packet member => ?_, fun packet member => ?_,
    fun job member => ?_, fun receipt member status packet stored source => ?_,
    fun receipt member => (ledger.receipts receipt member).duplicate,
    fun receipt member => (ledger.receipts receipt member).conflict, ledger.processed,
    fun job member done => ?_, ledger.queueStatus⟩
  · obtain ⟨packet, stored, named, source⟩ := (ledger.receipts receipt member).accepted status
    refine ⟨packet, ⟨stored, named, source⟩, ?_⟩
    rintro other ⟨among, also, -⟩
    exact Table.eq_of_key among stored (Option.some.inj (also.symm.trans named))
  · obtain ⟨receipt, stored, key, status, named, -⟩ := (ledger.packets packet member).source
    refine ⟨receipt, ⟨stored, status, named, key.symm⟩, ?_⟩
    rintro other ⟨among, -, -, also⟩
    exact Table.eq_of_key among stored (also.symm.trans key.symm)
  · obtain ⟨job, stored, named⟩ := (ledger.packets packet member).job
    refine ⟨job, ⟨stored, named⟩, ?_⟩
    rintro other ⟨among, also⟩
    exact ledger.jobUnique other among job stored (also.trans named.symm)
  · obtain ⟨packet, stored, named⟩ := (ledger.jobs job member).packet
    refine ⟨packet, ⟨stored, named.symm⟩, ?_⟩
    rintro other ⟨among, also⟩
    exact Table.eq_of_key among stored (also.symm.trans named.symm)
  · obtain ⟨origin, among, key, accepted, -⟩ := (ledger.packets packet stored).source
    rw [Table.eq_of_key among member (key.trans source)] at accepted
    exact status accepted
  · obtain ⟨processed, stored, named⟩ := (ledger.jobs job member).result done
    refine ⟨processed, ⟨stored, named⟩, ?_⟩
    rintro other ⟨among, also⟩
    exact Table.eq_of_key among stored (also.trans named.symm)

end Cislunar
