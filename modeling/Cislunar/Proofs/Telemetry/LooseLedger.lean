import Cislunar.Proofs.Telemetry.Ledger

/-!
What is left of the ledger where sessions decide on objects that they hold.

Such a session may settle a receipt again that was settled in the meantime, and queue a job again.
Verdicts and final states may then change; evidence, packets and results stay, and so do the links
between the rows.
-/

namespace Cislunar

open Foundation

/-- A receipt owns its request identifier. -/
def TelemetryDeliveryReceipt.Owns (row : TelemetryDeliveryReceipt) (requestId : UUID)
    (db : Database) : Prop :=
  ∃ owner ∈ db.identities, owner.requestId = requestId ∧ owner.firstReceiptId = row.receiptId

/-- A receipt is in conflict over its request identifier. -/
def TelemetryDeliveryReceipt.Disputes (row : TelemetryDeliveryReceipt) : Prop :=
  row.validationStatus = .conflict ∧
    row.rejectionReason = some "REQUEST_ID_REUSED_WITH_DIFFERENT_BODY"

/-- A receipt keeps its evidence and does not become pending again. -/
structure ReceiptRetains (before after : TelemetryDeliveryReceipt) : Prop where
  evidence : after.evidence = before.evidence
  settled : before.validationStatus ≠ .pending → after.validationStatus ≠ .pending

namespace ReceiptRetains
variable {first second third : TelemetryDeliveryReceipt}

/-- A receipt retains what it has. -/
theorem refl (receipt : TelemetryDeliveryReceipt) : ReceiptRetains receipt receipt := ⟨rfl, id⟩

/-- What is retained twice is retained. -/
theorem trans (early : ReceiptRetains first second) (late : ReceiptRetains second third) :
    ReceiptRetains first third :=
  ⟨late.evidence.trans early.evidence, fun settled => late.settled (early.settled settled)⟩

/-- A receipt keeps its identifier. -/
theorem receiptId (retains : ReceiptRetains first second) : second.receiptId = first.receiptId :=
  congrArg (·.receiptId) retains.evidence

/-- A receipt keeps its request identifier. -/
theorem canonicalRequestId (retains : ReceiptRetains first second) :
    second.canonicalRequestId = first.canonicalRequestId :=
  congrArg (·.canonicalRequestId) retains.evidence

/-- A receipt keeps its bytes. -/
theorem rawBody (retains : ReceiptRetains first second) : second.rawBody = first.rawBody :=
  congrArg (·.rawBody) retains.evidence

/-- A receipt keeps its digest. -/
theorem bodySha256 (retains : ReceiptRetains first second) :
    second.bodySha256 = first.bodySha256 :=
  congrArg (·.bodySha256) retains.evidence

/-- A receipt keeps the time it was received at. -/
theorem receivedAt (retains : ReceiptRetains first second) :
    second.receivedAt = first.receivedAt :=
  congrArg (·.receivedAt) retains.evidence

end ReceiptRetains

/-- A job keeps its identity, and does not wait for its first reference again. -/
structure JobRetains (before after : TelemetryProcessingJob) : Prop where
  jobId : after.jobId = before.jobId
  packetId : after.packetId = before.packetId
  maxAttempts : after.maxAttempts = before.maxAttempts
  attempts : before.attemptCount ≤ after.attemptCount
  queued : before.state ≠ .pendingQueue → after.state ≠ .pendingQueue
  marked : before.queueMessageId ≠ none → after.queueMessageId ≠ none

/-- A job retains what it has. -/
theorem JobRetains.refl (job : TelemetryProcessingJob) : JobRetains job job :=
  ⟨rfl, rfl, rfl, le_rfl, id, id⟩

/-- What is retained twice is retained. -/
theorem JobRetains.trans {first second third : TelemetryProcessingJob}
    (early : JobRetains first second) (late : JobRetains second third) :
    JobRetains first third where
  jobId := late.jobId.trans early.jobId
  packetId := late.packetId.trans early.packetId
  maxAttempts := late.maxAttempts.trans early.maxAttempts
  attempts := early.attempts.trans late.attempts
  queued moved := late.queued (early.queued moved)
  marked named := late.marked (early.marked named)

/-- Every row of a database is still there in another, with what it retains. -/
structure Retains (before after : Database) : Prop where
  receipts : ∀ receipt ∈ before.receipts, ∃ later ∈ after.receipts, ReceiptRetains receipt later
  identities : ∀ identity ∈ before.identities, identity ∈ after.identities
  packets : ∀ packet ∈ before.packets, packet ∈ after.packets
  jobs : ∀ job ∈ before.jobs, ∃ later ∈ after.jobs, JobRetains job later
  processed : ∀ result ∈ before.processed, result ∈ after.processed
  auditEvents : before.auditEvents <+: after.auditEvents

namespace Retains
variable {first second third : Database}

/-- A database retains what it has. -/
theorem refl (db : Database) : Retains db db where
  receipts receipt member := ⟨receipt, member, .refl receipt⟩
  identities _ member := member
  packets _ member := member
  jobs job member := ⟨job, member, .refl job⟩
  processed _ member := member
  auditEvents := List.prefix_refl _

/-- What is retained twice is retained. -/
theorem trans (early : Retains first second) (late : Retains second third) :
    Retains first third where
  receipts := by
    -- The row in the middle is retained further.
    intro receipt member
    obtain ⟨middle, among, retains⟩ := early.receipts receipt member
    obtain ⟨last, later, further⟩ := late.receipts middle among
    exact ⟨last, later, retains.trans further⟩
  identities identity member := late.identities _ (early.identities _ member)
  packets packet member := late.packets _ (early.packets _ member)
  jobs := by
    intro job member
    obtain ⟨middle, among, retains⟩ := early.jobs job member
    obtain ⟨last, later, further⟩ := late.jobs middle among
    exact ⟨last, later, retains.trans further⟩
  processed result member := late.processed _ (early.processed _ member)
  auditEvents := early.auditEvents.trans late.auditEvents

/-- A source receipt stays where it is, with its bytes. -/
theorem source (retains : Retains first second) {source : TelemetryDeliveryReceipt}
    (member : source ∈ first.receipts) : ∃ later ∈ second.receipts,
      later.receiptId = source.receiptId ∧ later.rawBody = source.rawBody := by
  obtain ⟨later, among, kept⟩ := retains.receipts source member
  exact ⟨later, among, kept.receiptId, kept.rawBody⟩

end Retains

/-- A duplicate receipt holds the bytes of the source of its packet, which it may be itself. -/
def NamesDuplicate (db : Database) (receipt : TelemetryDeliveryReceipt) : Prop :=
  ∃ packet ∈ db.packets, ∃ source ∈ db.receipts,
    receipt.logicalPacketId = some packet.packetId ∧
    receipt.duplicateOfReceiptId = some packet.sourceReceiptId ∧
    source.receiptId = packet.sourceReceiptId ∧ source.rawBody = receipt.rawBody

/-- What the last session that settled a receipt has left behind. -/
structure ReceiptBacked (db : Database) (receipt : TelemetryDeliveryReceipt) : Prop where
  digest : receipt.bodySha256 = sha256Hex receipt.rawBody
  pristine : receipt.validationStatus = .pending → receipt.evidence = receipt
  rejected : receipt.validationStatus = .rejected → receipt.rejectionReason ≠ none
  accepted : receipt.validationStatus = .accepted → ∃ packet ∈ db.packets,
    receipt.logicalPacketId = some packet.packetId ∧ packet.sourceReceiptId = receipt.receiptId
  duplicate : receipt.validationStatus = .duplicate → NamesDuplicate db receipt
  conflict : receipt.validationStatus = .conflict →
    SequenceConflict db receipt ∨ RequestConflict db receipt
  owned : ∀ requestId, receipt.canonicalRequestId = some requestId →
    receipt.Disputes ∨ receipt.Owns requestId db

namespace ReceiptBacked
variable {db : Database} {receipt : TelemetryDeliveryReceipt}

/-- A rejected receipt is backed when it names a reason. -/
theorem of_rejected (digest : receipt.bodySha256 = sha256Hex receipt.rawBody)
    (status : receipt.validationStatus = .rejected) (reason : receipt.rejectionReason ≠ none)
    (owned : ∀ requestId, receipt.canonicalRequestId = some requestId →
      receipt.Disputes ∨ receipt.Owns requestId db) :
    ReceiptBacked db receipt where
  digest := digest
  pristine other := by simp [status] at other
  rejected _ := reason
  accepted other := by simp [status] at other
  duplicate other := by simp [status] at other
  conflict other := by simp [status] at other
  owned := owned

/-- An accepted receipt is backed when it is the source of its packet. -/
theorem of_accepted (digest : receipt.bodySha256 = sha256Hex receipt.rawBody)
    (status : receipt.validationStatus = .accepted)
    (link : ∃ packet ∈ db.packets, receipt.logicalPacketId = some packet.packetId ∧
      packet.sourceReceiptId = receipt.receiptId)
    (owned : ∀ requestId, receipt.canonicalRequestId = some requestId →
      receipt.Disputes ∨ receipt.Owns requestId db) : ReceiptBacked db receipt where
  digest := digest
  pristine other := by simp [status] at other
  rejected other := by simp [status] at other
  accepted _ := link
  duplicate other := by simp [status] at other
  conflict other := by simp [status] at other
  owned := owned

/-- A duplicate receipt is backed when it holds the bytes of its packet's source. -/
theorem of_duplicate (digest : receipt.bodySha256 = sha256Hex receipt.rawBody)
    (status : receipt.validationStatus = .duplicate) (link : NamesDuplicate db receipt)
    (owned : ∀ requestId, receipt.canonicalRequestId = some requestId →
      receipt.Disputes ∨ receipt.Owns requestId db) :
    ReceiptBacked db receipt where
  digest := digest
  pristine other := by simp [status] at other
  rejected other := by simp [status] at other
  accepted other := by simp [status] at other
  duplicate _ := link
  conflict other := by simp [status] at other
  owned := owned

/-- A conflict receipt is backed when it names what it conflicts with. -/
theorem of_conflict (digest : receipt.bodySha256 = sha256Hex receipt.rawBody)
    (status : receipt.validationStatus = .conflict)
    (link : SequenceConflict db receipt ∨ RequestConflict db receipt)
    (owned : ∀ requestId, receipt.canonicalRequestId = some requestId →
      receipt.Disputes ∨ receipt.Owns requestId db) :
    ReceiptBacked db receipt where
  digest := digest
  pristine other := by simp [status] at other
  rejected other := by simp [status] at other
  accepted other := by simp [status] at other
  duplicate other := by simp [status] at other
  conflict _ := link
  owned := owned

/-- A delivery that is recorded as pending is backed when it owns its identifier. -/
theorem of_delivery (delivery : Delivery) (receiptId : UUID)
    (owned : ∀ requestId, delivery.canonicalRequestId = some requestId →
      (delivery.receipt receiptId none).Owns requestId db) :
    ReceiptBacked db (delivery.receipt receiptId none) where
  owned requestId named := Or.inr (owned requestId named)
  digest := rfl
  pristine _ := rfl
  rejected status := by cases status
  accepted status := by cases status
  duplicate status := by cases status
  conflict status := by cases status

end ReceiptBacked

/-- A packet has a source, which was settled, and a job. -/
structure PacketBacked (db : Database) (packet : LogicalTelemetryPacket) : Prop where
  identifier : packet.packetId = packet.values.packetId
  positive : 0 < packet.values.payloadId ∧ 0 < packet.values.bootId
  source : ∃ receipt ∈ db.receipts, receipt.receiptId = packet.sourceReceiptId ∧
    receipt.validationStatus ≠ .pending ∧ receipt.bodySha256 = packet.rawSha256
  job : ∃ job ∈ db.jobs, job.packetId = packet.packetId

/-- A job has a packet, a result once it is complete, and the columns its state goes with. -/
structure JobBacked (db : Database) (job : TelemetryProcessingJob) : Prop where
  packet : ∃ packet ∈ db.packets, packet.packetId = job.packetId
  result : job.state = .complete → ∃ processed ∈ db.processed, processed.packetId = job.packetId
  marked : job.state ≠ .pendingQueue → job.queueMessageId ≠ none
  retry : job.state = .retryWait → job.nextAttemptAt ≠ none

/-- A result belongs to a job that has reached the queue. -/
def ResultBacked (db : Database) (processed : ProcessedTelemetry) : Prop :=
  ∃ job ∈ db.jobs, job.packetId = processed.packetId ∧ job.state ≠ .pendingQueue

/-- Every row is backed by the rows it refers to. -/
structure LooseLedger (db : Database) : Prop where
  receipts : ∀ receipt ∈ db.receipts, ReceiptBacked db receipt
  packets : ∀ packet ∈ db.packets, PacketBacked db packet
  jobs : ∀ job ∈ db.jobs, JobBacked db job
  identities : ∀ identity ∈ db.identities, IdentityConsistent db identity
  processed : ∀ processed ∈ db.processed, ResultBacked db processed
  jobUnique : ∀ first ∈ db.jobs, ∀ second ∈ db.jobs, first.packetId = second.packetId →
    first = second
  sourceUnique : ∀ first ∈ db.packets, ∀ second ∈ db.packets,
    first.values.sourceKey = second.values.sourceKey → first = second
  queueStatus : QueueStatusConsistent db

section Growth
variable {db after : Database}

/-- What a receipt owns it owns for good. -/
theorem Retains.owns (retains : Retains db after) {receipt : TelemetryDeliveryReceipt}
    {requestId : UUID} (owns : receipt.Owns requestId db) : receipt.Owns requestId after := by
  obtain ⟨owner, among, link⟩ := owns
  exact ⟨owner, retains.identities owner among, link⟩

/-- A pending receipt owns its identifier, and so does the row that its session writes. -/
theorem ReceiptBacked.resettled {old row : TelemetryDeliveryReceipt}
    (backed : ReceiptBacked db old) (pending : old.validationStatus = .pending)
    (same : row.evidence = old.evidence) (retains : Retains db after) (requestId : UUID)
    (named : row.canonicalRequestId = some requestId) :
    row.Disputes ∨ row.Owns requestId after := by
  -- A receipt in dispute is settled from the start, so a pending one owns its identifier.
  rcases backed.owned requestId
    ((congrArg (·.canonicalRequestId) same).symm.trans named) with ⟨status, -⟩ | owns
  · cases pending.symm.trans status
  · obtain ⟨owner, among, identified, first⟩ := retains.owns owns
    exact Or.inr ⟨owner, among, identified, first.trans (congrArg (·.receiptId) same).symm⟩

/-- A backed receipt that is not rewritten stays backed. -/
theorem ReceiptBacked.grow {receipt : TelemetryDeliveryReceipt} (backed : ReceiptBacked db receipt)
    (retains : Retains db after) : ReceiptBacked after receipt where
  digest := backed.digest
  pristine := backed.pristine
  rejected := backed.rejected
  accepted status := by
    obtain ⟨packet, member, links⟩ := backed.accepted status
    exact ⟨packet, retains.packets packet member, links⟩
  duplicate status := by
    obtain ⟨packet, stored, source, member, named, link, origin, same⟩ := backed.duplicate status
    -- The receipts that the row points to may be settled again, but keep identifier and bytes.
    obtain ⟨later, among, key, bytes⟩ := retains.source member
    exact ⟨packet, retains.packets packet stored, later, among, named, link, key.trans origin,
      bytes.trans same⟩
  conflict status := by
    rcases backed.conflict status with
      ⟨reason, packet, stored, source, member, named, link, origin, other, different⟩ |
      ⟨reason, unlinked, owner, owned, first, member, named, link, origin, other, different⟩
    · obtain ⟨later, among, key, bytes⟩ := retains.source member
      exact Or.inl ⟨reason, packet, retains.packets packet stored, later, among, named, link,
        key.trans origin, key ▸ other, bytes ▸ different⟩
    · obtain ⟨later, among, key, bytes⟩ := retains.source member
      exact Or.inr ⟨reason, unlinked, owner, retains.identities owner owned, later, among, named,
        key ▸ link, key.trans origin, key ▸ other, bytes ▸ different⟩
  owned requestId named := (backed.owned requestId named).imp_right retains.owns

/-- A backed packet stays backed. -/
theorem PacketBacked.grow {packet : LogicalTelemetryPacket} (backed : PacketBacked db packet)
    (retains : Retains db after) : PacketBacked after packet where
  identifier := backed.identifier
  positive := backed.positive
  source := by
    -- The source keeps its verdict and its digest.
    obtain ⟨receipt, member, key, settled, digest⟩ := backed.source
    obtain ⟨later, among, kept⟩ := retains.receipts receipt member
    exact ⟨later, among, kept.receiptId.trans key, kept.settled settled,
      kept.bodySha256.trans digest⟩
  job := by
    obtain ⟨job, member, named⟩ := backed.job
    obtain ⟨later, among, kept⟩ := retains.jobs job member
    exact ⟨later, among, kept.packetId.trans named⟩

/-- A backed job that is not rewritten stays backed. -/
theorem JobBacked.grow {job : TelemetryProcessingJob} (backed : JobBacked db job)
    (retains : Retains db after) : JobBacked after job where
  packet := by
    -- The packet and the result of the job stay.
    obtain ⟨packet, member, named⟩ := backed.packet
    exact ⟨packet, retains.packets packet member, named⟩
  result done := by
    obtain ⟨processed, member, named⟩ := backed.result done
    exact ⟨processed, retains.processed processed member, named⟩
  marked := backed.marked
  retry := backed.retry

/-- An owned request identifier stays owned. -/
theorem IdentityConsistent.retained {identity : TelemetryRequestIdentity}
    (consistent : IdentityConsistent db identity) (retains : Retains db after) :
    IdentityConsistent after identity := by
  -- The receipt may have been rewritten, but not in the fields compared here.
  obtain ⟨receipt, member, key, named, digest⟩ := consistent
  obtain ⟨later, among, kept⟩ := retains.receipts receipt member
  exact ⟨later, among, kept.receiptId.trans key, kept.canonicalRequestId.trans named,
    kept.bodySha256.trans digest⟩

/-- A backed result stays backed. -/
theorem ResultBacked.grow {processed : ProcessedTelemetry} (backed : ResultBacked db processed)
    (retains : Retains db after) : ResultBacked after processed := by
  obtain ⟨job, member, named, queued⟩ := backed
  obtain ⟨later, among, kept⟩ := retains.jobs job member
  exact ⟨later, among, kept.packetId.trans named, kept.queued queued⟩

/-- A database that retains another is backed when the rows it has written are. -/
theorem LooseLedger.grow (ledger : LooseLedger db) (retains : Retains db after)
    (receipts : ∀ receipt ∈ after.receipts, receipt ∈ db.receipts ∨ ReceiptBacked after receipt)
    (packets : ∀ packet ∈ after.packets, packet ∈ db.packets ∨ PacketBacked after packet)
    (jobs : ∀ job ∈ after.jobs, job ∈ db.jobs ∨ JobBacked after job)
    (identities : ∀ identity ∈ after.identities,
      identity ∈ db.identities ∨ IdentityConsistent after identity)
    (processed : ∀ result ∈ after.processed, result ∈ db.processed ∨ ResultBacked after result)
    (jobUnique : ∀ first ∈ after.jobs, ∀ second ∈ after.jobs,
      first.packetId = second.packetId → first = second)
    (sourceUnique : ∀ first ∈ after.packets, ∀ second ∈ after.packets,
      first.values.sourceKey = second.values.sourceKey → first = second)
    (queueStatus : QueueStatusConsistent after) : LooseLedger after where
  receipts receipt member := (receipts receipt member).elim
    (fun old => (ledger.receipts receipt old).grow retains) id
  packets packet member := (packets packet member).elim
    (fun old => (ledger.packets packet old).grow retains) id
  jobs job member := (jobs job member).elim (fun old => (ledger.jobs job old).grow retains) id
  identities identity member := (identities identity member).elim
    (fun old => (ledger.identities identity old).retained retains) id
  processed result member := (processed result member).elim
    (fun old => (ledger.processed result old).grow retains) id
  jobUnique := jobUnique
  sourceUnique := sourceUnique
  queueStatus := queueStatus

end Growth

namespace LooseLedger
variable {db : Database}

/-- The empty database is backed. -/
theorem empty : LooseLedger .empty where
  receipts _ member := absurd member (Table.not_mem_empty _)
  packets _ member := absurd member (Table.not_mem_empty _)
  jobs _ member := absurd member (Table.not_mem_empty _)
  identities _ member := absurd member (Table.not_mem_empty _)
  processed _ member := absurd member (Table.not_mem_empty _)
  jobUnique _ member := absurd member (Table.not_mem_empty _)
  sourceUnique _ member := absurd member (Table.not_mem_empty _)
  queueStatus _ member := absurd member (Table.not_mem_empty _)

/-- The only job of a packet that has a result has reached the queue. -/
theorem queued_of_result (ledger : LooseLedger db) {job : TelemetryProcessingJob}
    {processed : ProcessedTelemetry} (member : job ∈ db.jobs)
    (done : db.processed.get? job.packetId = some processed) : job.state ≠ .pendingQueue := by
  obtain ⟨stored, named⟩ := Table.get?_eq_some.mp done
  obtain ⟨owner, among, same, queued⟩ := ledger.processed processed stored
  rwa [ledger.jobUnique job member owner among (by rw [same, named])]

/-- A packet has one job. -/
theorem jobOfPacket (ledger : LooseLedger db) {packet : LogicalTelemetryPacket}
    (stored : packet ∈ db.packets) :
    ∃ job ∈ db.jobs, job.packetId = packet.packetId ∧ db.jobByPacket packet.packetId = some job := by
  -- The search by packet finds the first job with its identifier, and there is no second one.
  obtain ⟨job, member, named⟩ := (ledger.packets packet stored).job
  refine ⟨job, member, named, Table.find?_eq_some_of_unique member (decide_eq_true named) ?_⟩
  intro other among also
  exact ledger.jobUnique other among job member ((of_decide_eq_true also).trans named.symm)

/-- The search for the source of a packet finds it, with the digest that the packet carries. -/
theorem sourceOfPacket (ledger : LooseLedger db) {packet : LogicalTelemetryPacket}
    (stored : packet ∈ db.packets) :
    ∃ source ∈ db.receipts, db.receipts.get? packet.sourceReceiptId = some source ∧
      source.receiptId = packet.sourceReceiptId ∧ packet.rawSha256 = sha256Hex source.rawBody := by
  -- The digest of the packet is that of its source, and the source's is computed.
  obtain ⟨source, among, key, -, digest⟩ := (ledger.packets packet stored).source
  refine ⟨source, among, Table.get?_eq_some.mpr ⟨among, key⟩, key, ?_⟩
  rw [← digest, (ledger.receipts source among).digest]

/-- Two receipts under one identifier are the same, unless one is in conflict over it. -/
theorem one_receipt (ledger : LooseLedger db) {first second : TelemetryDeliveryReceipt}
    (left : first ∈ db.receipts) (right : second ∈ db.receipts) {requestId : UUID}
    (named : first.canonicalRequestId = some requestId)
    (named' : second.canonicalRequestId = some requestId) :
    first.Disputes ∨ second.Disputes ∨ first = second := by
  rcases (ledger.receipts first left).owned requestId named with
    disputes | ⟨owner, among, identified, key⟩
  · exact Or.inl disputes
  rcases (ledger.receipts second right).owned requestId named' with
    disputes | ⟨other, among', identified', key'⟩
  · exact Or.inr (Or.inl disputes)
  · -- An identifier has one owner, and that has one first receipt.
    obtain rfl : owner = other := Table.eq_of_key among among' (identified.trans identified'.symm)
    exact Or.inr (Or.inr (Table.eq_of_key left right (key.symm.trans key')))

end LooseLedger

/-- An accepted or duplicate receipt leads to its packet, which has a source with the same bytes. -/
theorem ReceiptBacked.packet {db : Database} {receipt : TelemetryDeliveryReceipt}
    (backed : ReceiptBacked db receipt)
    (present : ∃ row ∈ db.receipts, ReceiptRetains receipt row)
    (status : receipt.validationStatus = .accepted ∨ receipt.validationStatus = .duplicate) :
    ∃ packet ∈ db.packets, receipt.logicalPacketId = some packet.packetId ∧
      ∃ source ∈ db.receipts, source.receiptId = packet.sourceReceiptId ∧
        source.rawBody = receipt.rawBody := by
  -- An accepted receipt is itself the source of its packet; a duplicate names the source.
  rcases status with accepted | duplicate
  · obtain ⟨packet, stored, named, link⟩ := backed.accepted accepted
    obtain ⟨row, member, kept⟩ := present
    exact ⟨packet, stored, named, row, member, kept.receiptId.trans link.symm, kept.rawBody⟩
  · obtain ⟨packet, stored, source, among, named, -, link, same⟩ := backed.duplicate duplicate
    exact ⟨packet, stored, named, source, among, link, same⟩

end Cislunar
