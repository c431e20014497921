import Cislunar.Proofs.Telemetry.Ledger
import Cislunar.Proofs.Telemetry.PacketId
import Cislunar.Telemetry.Sequence

/-!
The acceptance transaction refines the pure sequence rule.

The rule is asked with the stored mark of the session and the stored bytes under the source key; the
transaction has to do what it decides.
-/

namespace Cislunar

open Foundation

/-- The stored high-water mark of a session. -/
def Database.highWater (db : Database) (session : Int × Int) : Option Int :=
  (db.states.get? session).map (·.highWaterSequence)

/-- The bytes of the source receipt of the packet under a source key. -/
def Database.storedBytes (db : Database) (source : Int × Int × Int) : Option Bytes :=
  (db.packetBySource source).bind fun packet =>
    (db.receipts.get? packet.sourceReceiptId).map (·.rawBody)

/-- The mark of a session after one more packet. -/
def markAfter (values : DecodedTelemetryValues) (disposition : PacketDisposition)
    (missingBefore : Int) : Option TelemetrySequenceState → Int
  | none => values.sequenceNumber
  | some state => (state.count values disposition missingBefore).highWaterSequence

/-- The receipt status that records a decision. -/
def SequenceDisposition.status : SequenceDisposition → DeliveryValidationStatus
  | duplicate => .duplicate
  | conflict => .conflict
  | firstInOrder | firstWithGap | inOrder | gap | lateOrOutOfOrder => .accepted

/-- The packet disposition that records a decision about a new packet. -/
def SequenceDisposition.position : SequenceDisposition → Option PacketDisposition
  | duplicate | conflict => none
  | firstInOrder | firstWithGap => some .first
  | inOrder => some .inOrder
  | gap => some .gap
  | lateOrOutOfOrder => some .late

/-- An acceptance did what a decision says. -/
structure Realizes (db after : Database) (receipt : TelemetryDeliveryReceipt)
    (values : DecodedTelemetryValues) (decision : SequenceDecision)
    (result : PacketAcceptanceResult) : Prop where
  status : result.validationStatus = decision.disposition.status
  recorded : ∃ settled ∈ after.receipts, settled.receiptId = receipt.receiptId ∧
    settled.validationStatus = decision.disposition.status
  position : ∀ place, decision.disposition.position = some place →
    result.sequenceDisposition = some place
  job : (decision.shouldQueue = true ∧ ∃ job, after.jobs.rows = db.jobs.rows ++ [job] ∧
      result.jobId = some job.jobId ∧ job.packetId = values.packetId) ∨
    (decision.shouldQueue = false ∧ after.jobs = db.jobs)
  mark : after.highWater (values.payloadId, values.bootId) = decision.nextHighWater
  missing : decision.disposition ≠ .duplicate → result.missingBefore = decision.missingCount
  /-- The answer for a duplicate repeats what was missing before the stored packet. -/
  repeated : decision.disposition = .duplicate → ∃ packet,
    db.packetBySource values.sourceKey = some packet ∧ result.missingBefore = packet.missingBefore

/-- A number in range passes its check. -/
theorem validateUint32_ok (name : String) {value : Int} (range : 0 ≤ value ∧ value ≤ maxUint32) :
    validateUint32 name value = .ok () :=
  if_pos range

section Rule
variable {lastHighWater : Option Int} {currentSequence mark : Int} {incomingBytes : Bytes}
variable (range : 0 ≤ currentSequence ∧ currentSequence ≤ maxUint32)
variable (nonempty : incomingBytes ≠ [])

include range nonempty

/-- A stored record decides between a duplicate and a conflict. -/
theorem decideSequence_stored (stored : Bytes)
    (marked : ∀ mark, lastHighWater = some mark → 0 ≤ mark ∧ mark ≤ maxUint32) :
    decideSequence lastHighWater currentSequence incomingBytes (some stored) =
      .ok (if stored = incomingBytes then ⟨.duplicate, true, false, false, lastHighWater, 0⟩
        else ⟨.conflict, false, false, false, lastHighWater, 0⟩) := by
  -- The mark is validated where there is one, and not looked at.
  unfold decideSequence
  rw [validateUint32_ok _ range, List.isEmpty_eq_false_iff.mpr nonempty]
  cases lastHighWater with
  | none => by_cases same : stored = incomingBytes <;> simp [same]
  | some mark =>
    dsimp only
    rw [validateUint32_ok _ (marked mark rfl)]
    by_cases same : stored = incomingBytes <;> simp [same] <;> rfl

/-- The first packet of a session counts every earlier number as missing. -/
theorem decideSequence_first :
    decideSequence none currentSequence incomingBytes none =
      .ok ⟨if currentSequence = 0 then .firstInOrder else .firstWithGap, true, true, true,
        some currentSequence, currentSequence⟩ := by
  -- Without a mark and without a stored record only the incoming number is validated.
  unfold decideSequence
  rw [validateUint32_ok _ range, List.isEmpty_eq_false_iff.mpr nonempty]
  rfl

/-- A later packet is placed against the mark. -/
theorem decideSequence_marked (bounds : 0 ≤ mark ∧ mark ≤ maxUint32) :
    decideSequence (some mark) currentSequence incomingBytes none =
      decideFromMark mark currentSequence := by
  -- Both numbers are valid and nothing is stored, so the distance decides.
  unfold decideSequence
  dsimp only
  rw [validateUint32_ok _ range, validateUint32_ok _ bounds,
    List.isEmpty_eq_false_iff.mpr nonempty]
  rfl

end Rule

section
variable {db : Database} {receipt : TelemetryDeliveryReceipt} {values : DecodedTelemetryValues}

/-- A pending receipt of a consistent database is the source of no packet. -/
theorem Ledger.pending_not_source (ledger : Ledger db) (member : receipt ∈ db.receipts)
    (status : receipt.validationStatus = .pending) :
    ∀ packet ∈ db.packets, packet.sourceReceiptId ≠ receipt.receiptId := by
  -- The source of a packet is an accepted receipt.
  intro packet stored source
  obtain ⟨origin, among, key, accepted, -⟩ := (ledger.packets packet stored).source
  rw [Table.eq_of_key among member (key.trans source), status] at accepted
  cases accepted

/-- In a consistent database an unused source key has an unused packet identifier. -/
theorem Ledger.packetId_unused (ledger : Ledger db) (accounting : Accounting db)
    (positive : 0 < values.payloadId ∧ 0 < values.bootId)
    (range : 0 ≤ values.sequenceNumber ∧ values.sequenceNumber ≤ maxUint32)
    (unused : db.packetBySource values.sourceKey = none) :
    ∀ packet ∈ db.packets, packet.packetId ≠ values.packetId := by
  -- The identifier of a stored packet is that of its numbers, and these are its source key.
  intro packet stored same
  have consistent := ledger.packets packet stored
  refine packetBySource_eq_none.mp unused packet stored
    (sourceKey_of_packetId ⟨consistent.positive.1, consistent.positive.2,
      (accounting.range packet stored).1⟩ ⟨positive.1, positive.2, range.1⟩ ?_)
  rw [← consistent.identifier, same]

/-- In a consistent database nothing refuses a new packet with a fresh job identifier. -/
theorem Ledger.admits_new (ledger : Ledger db) (accounting : Accounting db) {jobId : UUID}
    {options : AcceptanceOptions} (member : receipt ∈ db.receipts)
    (status : receipt.validationStatus = .pending)
    (positive : 0 < values.payloadId ∧ 0 < values.bootId)
    (range : 0 ≤ values.sequenceNumber ∧ values.sequenceNumber ≤ maxUint32)
    (unused : db.packetBySource values.sourceKey = none) (fresh : db.jobs.get? jobId = none)
    (attempts : 0 < options.maxAttempts) (disposition : PacketDisposition) (missingBefore : Int) :
    db.AdmitsPacket (newPacket receipt values disposition missingBefore) ∧
      (db.states.get? (values.payloadId, values.bootId) = none →
        db.AdmitsState (firstState values missingBefore)) ∧
      db.AdmitsJob (newJob jobId values.packetId options.maxAttempts options.now) := by
  -- Keys, uniqueness and the checks of the three tables, one after the other.
  have free := ledger.packetId_unused accounting positive range unused
  refine ⟨⟨Table.get?_eq_none.mpr free, ledger.pending_not_source member status,
    packetBySource_eq_none.mp unused, positive.1, positive.2, range.1, range.2⟩,
    fun untracked => ⟨untracked, positive.1, positive.2, range.1, range.2⟩,
    fresh, fun job stored same => ?_, attempts⟩
  obtain ⟨packet, among, named⟩ := (ledger.jobs job stored).packet
  exact free packet among (named.trans same)

/-- The stored mark of a session is an unsigned 32-bit value. -/
theorem Accounting.highWater_range (accounting : Accounting db) (session : Int × Int) :
    ∀ mark, db.highWater session = some mark → 0 ≤ mark ∧ mark ≤ maxUint32 := by
  -- The mark is the sequence number of a stored packet.
  intro mark found
  obtain ⟨state, tracked, rfl⟩ := Option.map_eq_some_iff.mp found
  obtain ⟨packet, stored, -, -, same⟩ :=
    (accounting.states state (Table.get?_eq_some.mp tracked).1).mark
  rw [← same]
  exact accounting.range packet stored

/-- The position of a new packet is the decision of the pure rule. -/
theorem decideSequence_new {sequenceState : Option TelemetrySequenceState}
    {disposition : PacketDisposition} {missingBefore : Int} {body : Bytes} (nonempty : body ≠ [])
    (range : 0 ≤ values.sequenceNumber ∧ values.sequenceNumber ≤ maxUint32)
    (marked : ∀ state, sequenceState = some state →
      0 ≤ state.highWaterSequence ∧ state.highWaterSequence ≤ maxUint32)
    (position : sequencePosition values.sequenceNumber sequenceState =
      some (disposition, missingBefore)) :
    ∃ decision, decideSequence (sequenceState.map (·.highWaterSequence)) values.sequenceNumber
        body none = .ok decision ∧
      decision.disposition.status = .accepted ∧
      decision.disposition.position = some disposition ∧ decision.shouldQueue = true ∧
      decision.missingCount = missingBefore ∧
      decision.nextHighWater = some (markAfter values disposition missingBefore sequenceState) := by
  -- The rule and the repository split the distance at the same places: zero, one and half of the
  -- range.
  cases sequenceState with
  | none =>
    obtain ⟨rfl, rfl⟩ : disposition = .first ∧ missingBefore = values.sequenceNumber := by
      simpa [sequencePosition, eq_comm] using position
    refine ⟨_, decideSequence_first range nonempty, ?_⟩
    by_cases zero : values.sequenceNumber = 0 <;>
      simp [zero, SequenceDisposition.status, SequenceDisposition.position, markAfter]
  | some state =>
    rw [Option.map_some, decideSequence_marked range nonempty (marked state rfl)]
    simp only [sequencePosition, forwardDistance_eq, halfUint32Range] at position
    by_cases onMark : (values.sequenceNumber - state.highWaterSequence) % 4294967296 = 0
    · simp [onMark] at position
    by_cases next : (values.sequenceNumber - state.highWaterSequence) % 4294967296 = 1
    · obtain ⟨rfl, rfl⟩ : disposition = .inOrder ∧ missingBefore = 0 := by
        simpa [onMark, next, eq_comm] using position
      refine ⟨_, (if_neg onMark).trans (if_pos next), rfl, rfl, rfl, rfl, rfl⟩
    by_cases near : (values.sequenceNumber - state.highWaterSequence) % 4294967296 < 2147483648
    · obtain ⟨rfl, rfl⟩ : disposition = .gap ∧
          missingBefore = (values.sequenceNumber - state.highWaterSequence) % 4294967296 - 1 := by
        simpa [onMark, next, near, eq_comm] using position
      have further : 2 ≤ (values.sequenceNumber - state.highWaterSequence) % 4294967296 := by omega
      exact ⟨_, (if_neg onMark).trans ((if_neg next).trans (if_pos ⟨further, near⟩)),
        rfl, rfl, rfl, rfl, rfl⟩
    · obtain ⟨rfl, rfl⟩ : disposition = .late ∧ missingBefore = 0 := by
        simpa [onMark, next, near, eq_comm] using position
      exact ⟨_, (if_neg onMark).trans ((if_neg next).trans (if_neg fun both => near both.2)),
        rfl, rfl, rfl, rfl, rfl⟩

/-- The bytes stored under the source key of a packet are those of its source. -/
theorem storedBytes_of_packet {packet : LogicalTelemetryPacket} {source : TelemetryDeliveryReceipt}
    (found : db.packetBySource values.sourceKey = some packet)
    (origin : db.receipts.get? packet.sourceReceiptId = some source) :
    db.storedBytes values.sourceKey = some source.rawBody := by
  -- The packet is found by its key, and its source by the link.
  rw [Database.storedBytes, found, Option.bind_some, origin, Option.map_some]

/-- A settled receipt is found in the database it was settled in. -/
theorem mem_settle {row : TelemetryDeliveryReceipt} {event : TelemetryAuditEvent}
    (member : receipt ∈ db.receipts) (same : receipt.receiptId = row.receiptId) :
    row ∈ (db.settle row event).receipts :=
  (Table.mem_set_of_mem member same).mpr (Or.inl rfl)

/-- A new packet changes the state of its own session only. -/
theorem get?_countPacket {sequenceState : Option TelemetrySequenceState}
    (tracked : db.states.get? (values.payloadId, values.bootId) = sequenceState)
    (disposition : PacketDisposition) (missingBefore : Int) (session : Int × Int) :
    (db.countPacket values disposition missingBefore sequenceState).get? session =
      if (values.payloadId, values.bootId) = session then
        some (Database.stateAfter values disposition missingBefore sequenceState)
      else db.states.get? session := by
  -- The state is inserted for a new session and replaced for a known one.
  cases sequenceState with
  | none => exact Table.get?_insert tracked session
  | some state =>
    have own : (state.count values disposition missingBefore).session =
        (values.payloadId, values.bootId) := by
      rw [← (Table.get?_eq_some.mp tracked).2, TelemetrySequenceState.count]
      split_ifs <;> rfl
    exact Table.get?_set_of_used tracked own session

/-- A new packet leaves the mark of its session where the count puts it. -/
theorem highWater_addPacket {sequenceState : Option TelemetrySequenceState}
    {disposition : PacketDisposition} {missingBefore : Int} {jobId : UUID}
    {options : AcceptanceOptions}
    (tracked : db.states.get? (values.payloadId, values.bootId) = sequenceState) :
    (db.addPacket receipt values sequenceState disposition missingBefore jobId options).highWater
        (values.payloadId, values.bootId) =
      some (markAfter values disposition missingBefore sequenceState) := by
  -- The state of the own session is the one that was written.
  rw [Database.highWater, Database.addPacket]
  dsimp only
  rw [get?_countPacket tracked, if_pos rfl]
  cases sequenceState <;> rfl

/-- A pending receipt is settled as the pure rule decides. -/
theorem SettleOutcome.realizes (ledger : Ledger db) (accounting : Accounting db) {jobId : UUID}
    {options : AcceptanceOptions} {outcome : Except StorageError PacketAcceptanceResult × Database}
    (settles : SettleOutcome db receipt values jobId options outcome)
    (member : receipt ∈ db.receipts) (status : receipt.validationStatus = .pending)
    (nonempty : receipt.rawBody ≠ []) (positive : 0 < values.payloadId ∧ 0 < values.bootId)
    (range : 0 ≤ values.sequenceNumber ∧ values.sequenceNumber ≤ maxUint32)
    (attempts : 0 < options.maxAttempts) (fresh : db.jobs.get? jobId = none) :
    ∃ decision result, decideSequence (db.highWater (values.payloadId, values.bootId))
        values.sequenceNumber receipt.rawBody (db.storedBytes values.sourceKey) = .ok decision ∧
      outcome.1 = .ok result ∧ Realizes db outcome.2 receipt values decision result := by
  -- One case per way of settling a receipt. A conflict with the state needs a mark without its
  -- packet, and a refusal a table that is not consistent; reachable databases have neither.
  have marked := accounting.highWater_range (values.payloadId, values.bootId)
  cases settles with
  | @duplicated existing origin stored key source digest same =>
    have found : db.packetBySource values.sourceKey = some existing :=
      Table.find?_eq_some_of_unique stored (by simpa using key) fun other among also =>
        ledger.sourceUnique other among existing stored (by rw [key]; simpa using also)
    have decides := decideSequence_stored range nonempty origin.rawBody marked
    rw [← storedBytes_of_packet found source, if_pos same] at decides
    exact ⟨_, _, decides, rfl, {
      status := rfl
      recorded := ⟨_, mem_settle member (by rfl), rfl, rfl⟩
      position := fun _ none => by cases none
      job := Or.inr ⟨rfl, rfl⟩
      mark := rfl
      missing := fun other => absurd rfl other
      repeated := fun _ => ⟨existing, found, rfl⟩ }⟩
  | @conflicted existing stored key different =>
    have found : db.packetBySource values.sourceKey = some existing :=
      Table.find?_eq_some_of_unique stored (by simpa using key) fun other among also =>
        ledger.sourceUnique other among existing stored (by rw [key]; simpa using also)
    obtain ⟨source, -, lookup, -, -, digest⟩ := ledger.source_of_packet member status stored
    have unequal : source.rawBody ≠ receipt.rawBody := by
      intro same
      refine different source lookup ?_ same
      rw [digest, same, (ledger.receipts receipt member).digest]
    have decides := decideSequence_stored range nonempty source.rawBody marked
    rw [← storedBytes_of_packet found lookup, if_neg unequal] at decides
    exact ⟨_, _, decides, rfl, {
      status := rfl
      recorded := ⟨_, mem_settle member (by rfl), rfl, rfl⟩
      position := fun _ none => by cases none
      job := Or.inr ⟨rfl, rfl⟩
      mark := rfl
      missing := fun _ => rfl
      repeated := fun other => by cases other }⟩
  | stateConflicted unused tracked onMark =>
    obtain ⟨packet, stored, same⟩ := accounting.packet_on_mark range tracked onMark
    exact absurd same (packetBySource_eq_none.mp unused packet stored)
  | @accepted sequenceState disposition missingBefore unused tracked position packetAdmitted
      stateAdmitted jobAdmitted =>
    have unstored : db.storedBytes values.sourceKey = none := by
      rw [Database.storedBytes, unused, Option.bind_none]
    obtain ⟨decision, decides, accepted, placed, queues, missing, next⟩ :=
      decideSequence_new nonempty range (fun state same =>
        marked _ (by rw [Database.highWater, tracked, same]; rfl)) position
    rw [← tracked] at decides
    have stored : acceptedReceipt receipt values ∈ (db.addPacket receipt values sequenceState
        disposition missingBefore jobId options).receipts :=
      (Table.mem_set_of_mem member (by rfl)).mpr (Or.inl rfl)
    exact ⟨decision, _, unstored ▸ decides, rfl, {
      status := accepted.symm
      recorded := ⟨_, stored, rfl, accepted.symm⟩
      position := fun place at_ => placed.symm.trans at_
      job := Or.inl ⟨queues, _, Table.rows_insert jobAdmitted.1, rfl, rfl⟩
      mark := (highWater_addPacket tracked).trans next.symm
      missing := fun _ => missing.symm
      repeated := fun duplicate => by
        rw [duplicate] at accepted
        cases accepted }⟩
  | integrity unused tracked position refused =>
    obtain ⟨packet, state, job⟩ := ledger.admits_new accounting member status positive range unused
      fresh attempts _ _
    exact absurd ⟨packet, fun none => state (tracked.trans none), job⟩ refused

end

/--
The acceptance of a pending receipt does what the pure sequence rule decides.

The rule is asked with the stored mark of the session and the stored bytes under the source key. It
does not raise; status, disposition, job and mark afterwards are those of its decision, and so is the
missing count, except that the answer for a duplicate repeats that of the stored packet. Numbers are
unbounded here; `Reachable.inRange` keeps those of decoded packets within their columns.
-/
theorem acceptance_refines_decideSequence (db : Database) (reachable : Reachable db)
    (env : Surroundings) (fresh : ∀ attempt, db.jobs.get? (env.uuid4 attempt) = none)
    (receipt : TelemetryDeliveryReceipt) (member : receipt ∈ db.receipts)
    (pending : receipt.validationStatus = .pending) (nonempty : receipt.rawBody ≠ [])
    (values : DecodedTelemetryValues) (positive : 0 < values.payloadId ∧ 0 < values.bootId)
    (range : 0 ≤ values.sequenceNumber ∧ values.sequenceNumber ≤ maxUint32)
    (maxAttempts : Int) (attempts : 0 < maxAttempts) (actorIdentity : String) :
    let outcome := (RepoCall.acceptPacketAndCreateJob receipt.receiptId values maxAttempts
      actorIdentity).exec env db
    ∃ decision result, decideSequence (db.highWater (values.payloadId, values.bootId))
        values.sequenceNumber receipt.rawBody (db.storedBytes values.sourceKey) = .ok decision ∧
      outcome.1 = .ok result ∧ Realizes db outcome.2 receipt values decision result := by
  -- A pending receipt is found and settled; the guards before it hold by assumption.
  intro outcome
  have stored : db.receipts.get? receipt.receiptId = some receipt := Table.get?_key member
  obtain ⟨attempt, happened⟩ := acceptPacketAndCreateJob_outcome receipt.receiptId
    { maxAttempts := maxAttempts, actorIdentity := actorIdentity, now := env.now } env.uuid4 db
    range positive.2 attempts
  change AcceptOutcome db receipt.receiptId values (env.uuid4 attempt) _ outcome at happened
  generalize outcome = answer at happened
  cases happened with
  | missing absent => simp [stored] at absent
  | replayed found status =>
    cases stored.symm.trans found
    simp [pending] at status
  | refused found status =>
    cases stored.symm.trans found
    simp [pending] at status
  | settled found status settles =>
    cases stored.symm.trans found
    exact settles.realizes reachable.ledger reachable.accounting member pending nonempty positive
      range attempts (fresh attempt)

/-- Surroundings of a call at time zero that generates one identifier. -/
def surroundingsWith (id : UUID) : Surroundings where
  uuid4 := fun _ => id
  now := 0

/-- Values of packet five of a session. -/
def fifthValues : DecodedTelemetryValues where
  protocolVersion := 1
  payloadId := 1
  bootId := 7
  sequenceNumber := 5
  sampleTimestampUs := 0
  temperatureCentiC := 0
  voltageMv := 0
  operatingMode := 0
  faultFlags := 0

/-- A delivery without a request identifier. -/
def anonymousDelivery (rawBody : Bytes) : Delivery where
  rawBody := rawBody
  peerCertificateIdentity := "payload-gateway"
  presentedRequestId := none
  canonicalRequestId := none
  contentType := some "application/octet-stream"
  receivedAt := 0

/-- Packet five has opened its session and is delivered a second time. -/
def redelivery : Database := databaseAfter
  [(surroundingsWith 10, .recordDelivery (anonymousDelivery [1]) (some 1)),
    (surroundingsWith 11, .acceptPacketAndCreateJob 1 fifthValues 3 "ground-api"),
    (surroundingsWith 12, .recordDelivery (anonymousDelivery [1]) (some 2))]

/-- The second receipt of packet five. -/
def redeliveredReceipt : TelemetryDeliveryReceipt := (anonymousDelivery [1]).receipt 2 none

/-- The pure rule misses nothing before a duplicate, and the answer says that five are missing. -/
theorem acceptance_of_duplicate_repeats_missing :
    redeliveredReceipt ∈ redelivery.receipts ∧ redeliveredReceipt.validationStatus = .pending ∧
      decideSequence (redelivery.highWater (1, 7)) 5 redeliveredReceipt.rawBody
          (redelivery.storedBytes fifthValues.sourceKey) =
        .ok ⟨.duplicate, true, false, false, some 5, 0⟩ ∧
      ((RepoCall.acceptPacketAndCreateJob 2 fifthValues 3 "ground-api").exec (surroundingsWith 13)
        redelivery).1.toOption.map (·.missingBefore) = some 5 := by
  -- The call and the decision are both run on the same tables.
  decide +kernel

/-- The second receipt is settled as the rule decides. -/
theorem acceptance_of_duplicate_refines :
    let outcome := (RepoCall.acceptPacketAndCreateJob 2 fifthValues 3 "ground-api").exec
      (surroundingsWith 13) redelivery
    ∃ decision result, decideSequence (redelivery.highWater (1, 7)) 5 redeliveredReceipt.rawBody
          (redelivery.storedBytes fifthValues.sourceKey) = .ok decision ∧
      outcome.1 = .ok result ∧
      Realizes redelivery outcome.2 redeliveredReceipt fifthValues decision result :=
  have fresh : redelivery.jobs.get? 13 = none := by decide +kernel
  acceptance_refines_decideSequence redelivery (reachable_databaseAfter _)
    (surroundingsWith 13) (fun _ => fresh) redeliveredReceipt (by decide +kernel) rfl
    (by decide) fifthValues (by decide) (by decide) 3 (by decide) "ground-api"

end Cislunar
