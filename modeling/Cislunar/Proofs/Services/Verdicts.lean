import Cislunar.Proofs.Services.Loaded
import Cislunar.Proofs.Telemetry.Codec
import Cislunar.Proofs.Telemetry.Sessions

/-!
Every verdict in the tables is the one that the rules of the gateway give for the bytes it is about.

Requests are retried, handlers decide on receipts that were settled in the meantime and end anywhere;
a receipt is still rejected for a rule that a request with its bytes breaks, and named by what its
bytes decode to.
-/

namespace Cislunar

open Foundation Ground

/-- A receipt is accepted, a duplicate or in sequence conflict, so it has to do with a packet. -/
def TelemetryDeliveryReceipt.FindsPacket (row : TelemetryDeliveryReceipt) : Prop :=
  row.validationStatus = .accepted ∨ row.validationStatus = .duplicate ∨
    row.rejectionReason = some "SEQUENCE_CONFLICT" ∧ row.validationStatus = .conflict

/-- A receipt is of a request, and its verdict is the one that this request deserves. -/
structure VendorRequest.Deserves (vendor : VendorRequest) (receivedAt : Time)
    (row : TelemetryDeliveryReceipt) : Prop where
  brought : vendor.Brought row
  rejected : row.validationStatus = .rejected →
    ∃ reason, vendor.complaint receivedAt = some reason ∧ row.rejectionReason = some reason
  found : row.FindsPacket → vendor.complaint receivedAt = none ∧
    ∃ packetId, row.logicalPacketId = some packetId ∧ vendor.Brings receivedAt packetId

/-- One of certain requests deserves the verdict of a receipt, at a time that has passed. -/
def TelemetryDeliveryReceipt.Judged (vendors : VendorRequest → Prop) (clock : Time)
    (row : TelemetryDeliveryReceipt) : Prop :=
  ∃ vendor receivedAt, vendors vendor ∧ receivedAt ≤ clock ∧ vendor.Deserves receivedAt row

section Verdicts
variable {vendors : VendorRequest → Prop} {ground : Ground} {row : TelemetryDeliveryReceipt}

/-- A verdict stays deserved as time goes by. -/
theorem TelemetryDeliveryReceipt.Judged.mono {clock later : Time} (judged : row.Judged vendors clock)
    (passed : clock ≤ later) : row.Judged vendors later := by
  -- The time of the judgement is past.
  obtain ⟨vendor, receivedAt, among, past, deserves⟩ := judged
  exact ⟨vendor, receivedAt, among, past.trans passed, deserves⟩

/-- A receipt with the packet of a request without complaint is what this request deserves. -/
theorem VendorRequest.Deserves.of_packet {vendor : VendorRequest} {receivedAt : Time}
    {packetId : String} (brought : vendor.Brought row) (taken : row.validationStatus ≠ .rejected)
    (fine : vendor.complaint receivedAt = none) (named : row.logicalPacketId = some packetId)
    (brings : vendor.Brings receivedAt packetId) : vendor.Deserves receivedAt row where
  brought := brought
  rejected status := absurd status taken
  found _ := ⟨fine, packetId, named, brings⟩

/-- A new receipt is pending, or in conflict over its identifier. -/
theorem ReceiptRecorded.judged {call : RepoCall} (recorded : ReceiptRecorded call row)
    (rests : ground.RestsOn vendors call) : row.Judged vendors ground.clock := by
  -- A delivery that is recorded is pending or in conflict over its identifier; the other verdicts
  -- need another status.
  obtain ⟨delivery, newId, receiptId, original, rfl, rfl⟩ := recorded
  obtain ⟨vendor, receivedAt, among, past, rfl⟩ := rests
  refine ⟨vendor, receivedAt, among, past, ⟨rfl, rfl⟩, fun status => ?_, fun finds => ?_⟩
  · cases original <;> cases status
  · rcases finds with status | status | ⟨reason, status⟩
    · cases original <;> cases status
    · cases original <;> cases status
    · cases original with
      | none => cases status
      | some owner => simp [Delivery.receipt] at reason

/-- A receipt that has gone through a justified call has the verdict that its request deserves. -/
theorem HeldReceiptStep.judged {call : RepoCall} {old : TelemetryDeliveryReceipt}
    (step : HeldReceiptStep ground.database call old row) (backed : TablesBacked ground)
    (rests : ground.RestsOn vendors call) (member : old ∈ ground.database.receipts)
    (judged : old.Judged vendors ground.clock) : row.Judged vendors ground.clock := by
  -- The packet under the key of some values has their identifier.
  have identifier : ∀ {values : DecodedTelemetryValues},
      ∀ existing ∈ ground.database.packets, existing.values.sourceKey = values.sourceKey →
        values.packetId = existing.packetId := fun existing stored same =>
    (packetId_of_sourceKey same.symm).trans
      (backed.ledger.packets existing stored).identifier.symm
  have evidence := step.evidence
  cases step with
  | kept => exact judged
  | shown =>
    obtain ⟨vendor, receivedAt, among, past, deserves⟩ := judged
    exact ⟨vendor, receivedAt, among, past, deserves.brought.congr rfl, deserves.rejected,
      deserves.found⟩
  | rejected reason parsedIdentifiers =>
    obtain ⟨vendor, receivedAt, among, recorded, complaint⟩ := rests
    have status : (old.resettle (rejectedReceipt old.evidence reason
        parsedIdentifiers)).validationStatus = .rejected :=
      resettle_validationStatus (by simp [rejectedReceipt])
    refine ⟨vendor, receivedAt, among, recorded.2, (recorded.brought member rfl).congr evidence.symm,
      fun _ => ⟨reason, complaint, resettle_rejectionReason (Option.some_ne_none _)⟩, fun finds => ?_⟩
    rw [TelemetryDeliveryReceipt.FindsPacket, status] at finds
    simp at finds
  | duplicated stored key =>
    obtain ⟨vendor, receivedAt, among, recorded, fine, frame, decodes, rfl⟩ := rests
    refine ⟨vendor, receivedAt, among, recorded.2,
      .of_packet ((recorded.brought member rfl).congr evidence.symm) ?_ fine
        (resettle_logicalPacketId (Option.some_ne_none _))
        ⟨frame, decodes, identifier _ stored key⟩⟩
    rw [resettle_validationStatus (by simp [duplicateReceipt])]
    simp [duplicateReceipt]
  | conflicted stored key =>
    obtain ⟨vendor, receivedAt, among, recorded, fine, frame, decodes, rfl⟩ := rests
    refine ⟨vendor, receivedAt, among, recorded.2,
      .of_packet ((recorded.brought member rfl).congr evidence.symm) ?_ fine
        (resettle_logicalPacketId (Option.some_ne_none _))
        ⟨frame, decodes, identifier _ stored key⟩⟩
    rw [resettle_validationStatus (by simp [sequenceConflictReceipt])]
    simp [sequenceConflictReceipt]
  | accepted values =>
    obtain ⟨vendor, receivedAt, among, recorded, fine, frame, decodes, rfl⟩ := rests
    refine ⟨vendor, receivedAt, among, recorded.2,
      .of_packet ((recorded.brought member rfl).congr evidence.symm) ?_ fine
        (resettle_logicalPacketId (Option.some_ne_none _)) ⟨frame, decodes, rfl⟩⟩
    rw [resettle_validationStatus (by simp [acceptedReceipt])]
    simp [acceptedReceipt]

/-- A justified request leaves deserved verdicts behind. -/
theorem judged_of_perform {after : Ground} (backed : TablesBacked ground)
    (judged : ∀ row ∈ ground.database.receipts, row.Judged vendors ground.clock)
    {uuid4 : Nat → UUID} {fault : Fault} {request : Request} {reply : Except Failure request.Reply}
    (justified : ground.Justifies vendors request)
    (performed : ground.perform uuid4 fault request = (reply, after)) :
    ∀ row ∈ after.database.receipts, row.Judged vendors after.clock := by
  -- Only a repository call writes receipts, and every row is an old one after its step, or new.
  cases request with
  | clock =>
    obtain ⟨-, rfl⟩ := Prod.mk.inj performed
    exact judged
  | queue call => rcases (perform_queue performed).1 with rfl | rfl <;> exact judged
  | repository call held =>
    rcases (Fault.apply_cases performed).1 with rfl | rfl
    · exact judged
    · intro row member
      obtain ⟨allowed, loaded, rests⟩ := justified
      rcases RepoCall.heldReceiptStep_of_mem allowed loaded backed.accounting backed.ledger member
        with ⟨old, stored, step⟩ | recorded
      · exact step.judged backed rests stored (judged old stored)
      · exact (recorded.judged rests : row.Judged vendors ground.clock)

/-- In every run the tables are backed and the verdicts are deserved. -/
theorem judged_of_run {starts : Nat → Ground → Service (Option Response) → Prop}
    {environment : Ground → Ground → Prop}
    (loading : Loading vendors groundMachine starts environment) {config : GroundConfig}
    (run : Relation.ReflTransGen (Step groundMachine starts environment) GroundConfig.initial
      config) :
    ∀ row ∈ config.state.database.receipts, row.Judged vendors config.state.clock := by
  -- By induction on the run, in which every request is justified.
  replace run := (loading.run run).2
  induction run with
  | refl => exact fun row member => absurd member (Table.not_mem_empty row)
  | tail _ step ih =>
    cases step with
    | act running performed =>
      obtain ⟨backed, justified, reached⟩ := of_justified performed
      exact judged_of_perform backed ih justified (Option.some.inj reached)
    | start | crash => exact ih
    | environment moved =>
      obtain ⟨same, forward⟩ := loading.environment _ _ moved
      exact fun row member => (ih row (same ▸ member)).mono forward

end Verdicts

/-- A process under some settings; who presents the vendor token posts one of certain requests. -/
def Process.Posts (settings : GroundSettings) (vendors : VendorRequest → Prop) : Process → Prop
  | gateway used vendor =>
    used = settings ∧ (vendor.vendorToken = some settings.vendorToken → vendors vendor)
  | startup | worker _ _ => True

/-- Who posts what may be posted presents it. -/
theorem Process.Posts.presents {settings : GroundSettings} {vendors : VendorRequest → Prop}
    {process : Process} (posts : process.Posts settings vendors) : process.Presents vendors := by
  -- Only the gateway presents a request of a vendor.
  cases process with
  | gateway used vendor =>
    obtain ⟨rfl, among⟩ := posts
    exact among
  | startup | worker => trivial

/-- Any process may start at any time, as long as it posts what it may post. -/
def startsPosting (settings : GroundSettings) (vendors : VendorRequest → Prop) (_ : Nat)
    (_ : Ground) (program : Service (Option Response)) : Prop :=
  ∃ process : Process, process.Posts settings vendors ∧ process.program = program

/-- The steps of the ground system while certain requests are posted under the vendor token. -/
abbrev PostingStep (settings : GroundSettings) (vendors : VendorRequest → Prop) :
    GroundConfig → GroundConfig → Prop :=
  Step groundMachine (startsPosting settings vendors) Ground.Ticks

/-- What is posted justifies the requests of the processes. -/
theorem loading_postingStep (settings : GroundSettings) (vendors : VendorRequest → Prop) :
    Loading vendors groundMachine (startsPosting settings vendors) Ground.Ticks :=
  .ground (fun _ _ _ ⟨process, posts, same⟩ => ⟨process, posts.presents, same⟩)
    fun _ _ => Ground.Ticks.tables

/--
The verdict on every receipt is the one that its bytes deserve.

Handlers, recoveries and workers interleave in any order, requests fail, are repeated and end
anywhere, and handlers decide on receipts that they have read before. Every receipt is of a request
that was posted under the vendor token. Where it is rejected, its reason is the first complaint about
such a request, at a time that has passed. Where it is accepted, a duplicate or in sequence conflict,
there is no complaint about such a request, and the receipt names the packet that the body decodes to.
-/
theorem verdicts_deserved (settings : GroundSettings) (vendors : VendorRequest → Prop)
    (config : GroundConfig)
    (run : Relation.ReflTransGen (PostingStep settings vendors) GroundConfig.initial config)
    (receipt : TelemetryDeliveryReceipt) (member : receipt ∈ config.state.database.receipts) :
    ∃ vendor receivedAt, vendors vendor ∧ receivedAt ≤ config.state.clock ∧
      vendor.body = receipt.rawBody ∧
      canonicalUuid4 vendor.requestId = receipt.canonicalRequestId ∧
      (receipt.validationStatus = .rejected →
        ∃ reason, vendor.complaint receivedAt = some reason ∧
          receipt.rejectionReason = some reason) ∧
      (receipt.validationStatus = .accepted ∨ receipt.validationStatus = .duplicate ∨
          receipt.rejectionReason = some "SEQUENCE_CONFLICT" ∧
            receipt.validationStatus = .conflict →
        vendor.complaint receivedAt = none ∧ ∃ packetId,
          receipt.logicalPacketId = some packetId ∧ vendor.Brings receivedAt packetId) := by
  -- The judgement is an invariant of the runs.
  obtain ⟨vendor, receivedAt, among, past, deserves⟩ :=
    judged_of_run (loading_postingStep settings vendors) run receipt member
  exact ⟨vendor, receivedAt, among, past, deserves.brought.body, deserves.brought.requestId,
    deserves.rejected, deserves.found⟩

/-- The golden vector with its last bit flipped. -/
def flippedGolden : Bytes := goldenFrame.set 27 4

/-- One handler that has yet to judge the flipped vector. -/
def flippedStart : GroundConfig where
  state := { clock := 1784203201000000 }
  threads := Function.update (fun _ => none) 0
    (some (Process.gateway sampleSettings (sampleRequest flippedGolden)).program)

/-- The time of the delivery comes. -/
theorem flippedTicked : Ground.Ticks GroundConfig.initial.state { clock := 1784203201000000 } :=
  ⟨1784203201000000, by decide, rfl⟩

/-- The handler takes its turns until it has answered. -/
def flippedJudged : GroundConfig :=
  flippedStart.actAll groundMachine 0 ([1, 1, 2].map fun id => (fun _ => id, ⟨.none, trivial⟩))

/-- The flipped vector is rejected for its checksum, and that is what its bytes deserve. -/
theorem flipped_vector_deserved : ∃ receipt ∈ flippedJudged.state.database.receipts,
    receipt.rejectionReason = some "CRC_MISMATCH" ∧ ∃ (vendor : VendorRequest) (receivedAt : Time),
      vendor.vendorToken = some "vendor" ∧ vendor.body = flippedGolden ∧
        vendor.complaint receivedAt = some "CRC_MISMATCH" := by
  -- The receipt is evaluated; the run is that of the schedule.
  have found : ∃ receipt, flippedJudged.state.database.receipts.get? 1 = some receipt ∧
      receipt.rawBody = flippedGolden ∧ receipt.validationStatus = .rejected ∧
        receipt.rejectionReason = some "CRC_MISMATCH" := by
    have shown : (flippedJudged.state.database.receipts.get? 1).map (fun receipt =>
        (receipt.rawBody, receipt.validationStatus, receipt.rejectionReason)) =
          some (flippedGolden, .rejected, some "CRC_MISMATCH") := by decide +kernel
    obtain ⟨receipt, stored, same⟩ := Option.map_eq_some_iff.mp shown
    obtain ⟨body, rest⟩ := Prod.mk.inj same
    obtain ⟨status, reason⟩ := Prod.mk.inj rest
    exact ⟨receipt, stored, body, status, reason⟩
  obtain ⟨receipt, stored, body, status, reason⟩ := found
  have member := (Table.get?_eq_some.mp stored).1
  have run : Relation.ReflTransGen (PostingStep sampleSettings fun vendor =>
      vendor.vendorToken = some "vendor") GroundConfig.initial flippedJudged := by
    refine Relation.ReflTransGen.trans ?_ (Config.actAll_run _ 0 _ flippedStart)
    exact (Relation.ReflTransGen.single (.environment flippedTicked)).tail
      (.start rfl ⟨.gateway sampleSettings (sampleRequest flippedGolden), ⟨rfl, id⟩, rfl⟩)
  obtain ⟨vendor, receivedAt, posted, -, same, -, rejected, -⟩ :=
    verdicts_deserved sampleSettings _ flippedJudged run receipt member
  obtain ⟨_, complaint, named⟩ := rejected status
  rw [reason, Option.some.injEq] at named
  subst named
  exact ⟨receipt, member, reason, vendor, receivedAt, posted, same.trans body, complaint⟩

end Cislunar
