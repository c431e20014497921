import Cislunar.Proofs.Telemetry.Ledger

/-!
Raw evidence is append-only over every call, whether it returns or raises.

What the size, the digest and the bytes of a receipt say about each other holds from its insertion on.
-/

namespace Cislunar

open Foundation

/-- A receipt keeps its evidence, and its validation status changes once at most. -/
structure EvidenceKept (before after : TelemetryDeliveryReceipt) : Prop where
  receiptId : after.receiptId = before.receiptId
  rawBody : after.rawBody = before.rawBody
  rawBodySize : after.rawBodySize = before.rawBodySize
  bodySha256 : after.bodySha256 = before.bodySha256
  receivedAt : after.receivedAt = before.receivedAt
  vendorSentAt : after.vendorSentAt = before.vendorSentAt
  presentedRequestId : after.presentedRequestId = before.presentedRequestId
  canonicalRequestId : after.canonicalRequestId = before.canonicalRequestId
  contentType : after.contentType = before.contentType
  peerCertificateIdentity : after.peerCertificateIdentity = before.peerCertificateIdentity
  validationStatus : after.validationStatus = before.validationStatus ∨
    before.validationStatus = .pending ∧
      after.validationStatus ∈ [.accepted, .rejected, .duplicate, .conflict]

/-- A receipt that develops keeps its evidence. -/
theorem ReceiptDevelops.evidenceKept {before after : TelemetryDeliveryReceipt}
    (develops : ReceiptDevelops before after) : EvidenceKept before after where
  receiptId := develops.receiptId
  rawBody := develops.rawBody
  rawBodySize := congrArg (·.rawBodySize) develops.evidence
  bodySha256 := develops.bodySha256
  receivedAt := develops.receivedAt
  vendorSentAt := congrArg (·.vendorSentAt) develops.evidence
  presentedRequestId := congrArg (·.presentedRequestId) develops.evidence
  canonicalRequestId := develops.canonicalRequestId
  contentType := congrArg (·.contentType) develops.evidence
  peerCertificateIdentity := congrArg (·.peerCertificateIdentity) develops.evidence
  validationStatus := by
    by_cases pending : before.validationStatus = .pending
    · -- A pending receipt stays so or takes one of the four verdicts.
      cases status : after.validationStatus with
      | pending => exact Or.inl pending.symm
      | accepted | rejected | duplicate | conflict => exact Or.inr ⟨pending, by simp⟩
    · exact Or.inl (develops.validationStatus pending)

section
variable {db after : Database}

/-- A receipt after a call has the evidence of one before it, or has just been recorded. -/
theorem Effect.receipt_origin (effect : Effect db after) {row : TelemetryDeliveryReceipt}
    (member : row ∈ after.receipts) :
    (∃ old ∈ db.receipts, row.evidence = old.evidence) ∨
      ∃ delivery receiptId original, row = Delivery.receipt delivery receiptId original ∧
        db.AdmitsReceipt row := by
  -- Settling a receipt rewrites its verdict and leaves the others alone.
  have settled : ∀ {receipt new : TelemetryDeliveryReceipt}, receipt ∈ db.receipts →
      new.evidence = receipt.evidence → row ∈ db.receipts.set new →
      ∃ old ∈ db.receipts, row.evidence = old.evidence := by
    intro receipt new stored same among
    rcases Table.mem_set.mp among with ⟨rfl, -⟩ | ⟨old, -⟩
    · exact ⟨receipt, stored, same⟩
    · exact ⟨row, old, rfl⟩
  cases effect with
  | unchanged | audited | closed | claimed | completed | failed =>
    exact Or.inl ⟨row, member, rfl⟩
  | anonymous _ admitted | first _ admitted | reused _ _ _ _ _ admitted =>
    rcases (Table.mem_insert admitted.1).mp member with old | rfl
    · exact Or.inl ⟨row, old, rfl⟩
    · exact Or.inr ⟨_, _, _, rfl, admitted⟩
  | rejected stored | duplicated stored | conflicted stored | stateConflicted stored
  | accepted stored => exact Or.inl (settled stored (by rfl) member)
  | queued =>
    obtain ⟨old, stored, rfl⟩ := mem_queue_receipts.mp member
    refine Or.inl ⟨old, stored, ?_⟩
    split_ifs <;> rfl

end

/-- Size and digest of a receipt are those of its bytes, which are within the limit. -/
structure ReceiptSound (receipt : TelemetryDeliveryReceipt) : Prop where
  size : receipt.rawBodySize = receipt.rawBody.length
  limit : receipt.rawBody.length ≤ 1024
  digest : receipt.bodySha256 = sha256Hex receipt.rawBody

/-- Soundness is a matter of the evidence. -/
theorem ReceiptSound.of_evidence {first second : TelemetryDeliveryReceipt}
    (sound : ReceiptSound first) (same : second.evidence = first.evidence) :
    ReceiptSound second := by
  -- All three fields of the check are part of the evidence.
  have body : second.rawBody = first.rawBody := congrArg (·.rawBody) same
  have size : second.rawBodySize = first.rawBodySize := congrArg (·.rawBodySize) same
  have digest : second.bodySha256 = first.bodySha256 := congrArg (·.bodySha256) same
  exact ⟨by rw [size, body, sound.size], by rw [body]; exact sound.limit,
    by rw [digest, body, sound.digest]⟩

/-- The receipts of every reachable database are sound. -/
theorem Reachable.receipts_sound {db : Database} (reachable : Reachable db) :
    ∀ receipt ∈ db.receipts, ReceiptSound receipt := by
  -- A receipt is an old one with its evidence, or comes from a delivery that passed the checks of
  -- the table.
  induction reachable with
  | empty => exact fun receipt member => absurd member (Table.not_mem_empty receipt)
  | call env call before ih =>
    intro row member
    rcases (call.exec_effect env _).receipt_origin member with
      ⟨old, stored, same⟩ | ⟨delivery, receiptId, original, rfl, admitted⟩
    · exact (ih old stored).of_evidence same
    · exact ⟨rfl, admitted.2, rfl⟩

/-- What holds of the evidence in a database, and of whatever is called next. -/
structure EvidenceAppendOnly (db : Database) : Prop where
  /-- No call loses a receipt or rewrites its evidence. -/
  receipts : ∀ env call, ∀ receipt ∈ db.receipts,
    ∃ later ∈ (RepoCall.exec env call db).2.receipts, EvidenceKept receipt later
  /-- No call loses or changes a packet. -/
  packets : ∀ env call, ∀ packet ∈ db.packets, packet ∈ (RepoCall.exec env call db).2.packets
  sound : ∀ receipt ∈ db.receipts, ReceiptSound receipt
  /-- A packet carries the digest of the bytes it was read from. -/
  sources : ∀ packet ∈ db.packets, ∃ source ∈ db.receipts,
    source.receiptId = packet.sourceReceiptId ∧ packet.rawSha256 = sha256Hex source.rawBody

/--
Evidence is append-only after every history of calls with any arguments.

The next call may be any, successful or raising: every receipt and every packet is still there
afterwards, receipts with their evidence and their verdict, packets unchanged.
-/
theorem evidence_appendOnly (history : List (Surroundings × RepoCall)) :
    EvidenceAppendOnly (databaseAfter history) := by
  -- The history leads to a reachable database, and every call extends it.
  have reachable := reachable_databaseAfter history
  refine ⟨fun env call receipt member => ?_, fun env call => ?_, reachable.receipts_sound,
    fun packet member => ?_⟩
  · obtain ⟨later, among, develops⟩ :=
      (call.exec_effect env (databaseAfter history)).extends.receipts receipt member
    exact ⟨later, among, develops.evidenceKept⟩
  · exact (call.exec_effect env (databaseAfter history)).extends.packets
  · obtain ⟨source, recorded, link, -, -, same⟩ := (reachable.ledger.packets packet member).source
    exact ⟨source, recorded, link, same.symm.trans (reachable.receipts_sound source recorded).digest⟩

end Cislunar
