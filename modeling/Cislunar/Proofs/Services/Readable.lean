import Cislunar.Proofs.Services.Agreement
import Cislunar.Proofs.Services.Results

/-!
Whether a worker can read what the gateway accepted.

The gateway decodes a delivery at the time of the request in hand, the worker at the time stored with
the receipt. The two differ for a request that is retried, and the rule on samples from the future
depends on the time.
-/

namespace Cislunar

open Foundation Ground

/-- The bytes of a work item decode to its values and can be assessed. -/
def WorkReadable (item : TelemetryWorkItem) : Prop :=
  ∃ frame assessment,
    decodeTelemetry zlibCrc32 item.rawBody (.utc item.receivedAt) = .ok frame ∧
      storedValues frame = item.values ∧
      assessHealth frame (.utc item.receivedAt) = .ok assessment

/-- Workers can read whatever they may claim, and none of them reports a permanent failure. -/
structure WorkAgrees (config : GroundConfig) : Prop where
  readable : ∀ uuid4 jobId workerId leaseSeconds item,
    ((RepoCall.claimProcessingJob jobId workerId leaseSeconds).exec ⟨uuid4, config.state.clock⟩
      config.state.database).1 = .ok (some item) → WorkReadable item
  temporary : ∀ thread jobId workerId reason temporary baseBackoffSeconds now held next,
    config.threads thread = some (.request (.repository (.failProcessingAttempt jobId workerId
      reason temporary baseBackoffSeconds now) held) next) → temporary = true

/--
An acceptance that creates a packet does so from a sample that its receipt allows.

The time that counts is the one stored with the receipt, not the one of the request in hand.
-/
def acceptsInTime (ground : Ground) : Request → Bool
  | .repository (.acceptPacketAndCreateJob receiptId values _ _) _ =>
    match ground.database.receipts.get? receiptId with
    | some receipt =>
      -- A duplicate creates no packet.
      (ground.database.packetBySource values.sourceKey).isSome ∨
        values.sampleTimestampUs ≤ receipt.receivedAt + maxFutureSkewUs
    | none => true
  | _ => true

/-- The steps of the ground system in which packets are created in time. -/
abbrev TimelyStep : GroundConfig → GroundConfig → Prop :=
  Step (groundMachine.restrict acceptsInTime) startsProcess Ground.Ticks

/-- Every packet was sampled at a time that its source receipt allows. -/
def PacketsReceivable (db : Database) : Prop :=
  ∀ packet ∈ db.packets, ∃ source ∈ db.receipts, source.receiptId = packet.sourceReceiptId ∧
    packet.values.sampleTimestampUs ≤ source.receivedAt + maxFutureSkewUs

/-- Old packets stay receivable while the tables grow. -/
theorem PacketsReceivable.grow {db after : Database} (receivable : PacketsReceivable db)
    (grows : Retains db after) {packet : LogicalTelemetryPacket} (member : packet ∈ db.packets) :
    ∃ source ∈ after.receipts, source.receiptId = packet.sourceReceiptId ∧
      packet.values.sampleTimestampUs ≤ source.receivedAt + maxFutureSkewUs := by
  -- The source of the packet keeps the time it was received.
  obtain ⟨source, recorded, link, inTime⟩ := receivable packet member
  obtain ⟨later, among, kept⟩ := grows.receipts source recorded
  exact ⟨later, among, kept.receiptId.trans link, kept.receivedAt.symm ▸ inTime⟩

/-- An acceptance adds at most the packet of a receipt that is there, under an unused sequence. -/
theorem acceptance_packet_origin {env : Surroundings} {db : Database} {held : Held}
    (free : held.job = none) (loaded : held.Loaded db) {receiptId : UUID}
    {values : DecodedTelemetryValues} {maxAttempts : Int} {actorIdentity : String}
    {packet : LogicalTelemetryPacket}
    (member : packet ∈ ((RepoCall.acceptPacketAndCreateJob receiptId values maxAttempts
      actorIdentity).execHolding env held db).2.packets) :
    packet ∈ db.packets ∨ packet.sourceReceiptId = receiptId ∧ packet.values = values ∧
      db.packetBySource values.sourceKey = none ∧
      ∃ receipt, db.receipts.get? receiptId = some receipt := by
  -- The acceptance decides on the object, or on the row where none is held.
  rcases acceptPacketAndCreateJob_held env free loaded receiptId values maxAttempts actorIdentity
    with ⟨_, failed, -⟩ | ⟨-, -, ⟨row, found, happened⟩ | ⟨-, happened⟩⟩
  · exact Or.inl (congrArg (·.2.packets) failed ▸ member)
  · rcases happened.packet_origin member with old | ⟨source, same, unused, -⟩
    · exact Or.inl old
    · exact Or.inr ⟨source.trans (Table.get?_eq_some.mp found).2, same, unused, row, found⟩
  · rcases happened.packet_origin member with old | ⟨source, same, unused, receipt, found, -⟩
    · exact Or.inl old
    · exact Or.inr ⟨source, same, unused, receipt, found⟩

/-- A justified call in time keeps the packets receivable. -/
theorem PacketsReceivable.call {vendors : VendorRequest → Prop} {ground : Ground}
    (receivable : PacketsReceivable ground.database)
    (backed : TablesBacked ground) (env : Surroundings) {call : RepoCall} {held : Held}
    (justified : ground.Justifies vendors (.repository call held))
    (inTime : acceptsInTime ground (.repository call held) = true) :
    PacketsReceivable (call.execHolding env held ground.database).2 := by
  have grows := (backed.call env justified).2.1
  intro packet member
  by_cases accepts : call.isAccept = false
  · rw [(RepoCall.heldTables_kept justified.1 justified.2.1).1 accepts] at member
    exact receivable.grow grows member
  · cases call with
    | acceptPacketAndCreateJob receiptId values maxAttempts actorIdentity =>
      rcases acceptance_packet_origin justified.1 justified.2.1 member with
        old | ⟨source, rfl, unused, receipt, found⟩
      · exact receivable.grow grows old
      · -- The packet is new, so its sample is in time for the receipt it names.
        obtain ⟨recorded, key⟩ := Table.get?_eq_some.mp found
        obtain ⟨later, among, kept⟩ := grows.receipts receipt recorded
        refine ⟨later, among, (kept.receiptId.trans key).trans source.symm, ?_⟩
        rw [kept.receivedAt]
        simpa [acceptsInTime, found, unused] using inTime
    | _ => exact absurd rfl accepts

/-- Runs in which packets are created in time keep them receivable. -/
theorem packetsReceivable_of_run {config : GroundConfig}
    (run : Relation.ReflTransGen TimelyStep GroundConfig.initial config) :
    PacketsReceivable config.state.database := by
  -- By induction on the run, in which every request is justified besides.
  replace run := ((loading_groundStep.restrict acceptsInTime).run run).2
  induction run with
  | refl => exact fun packet member => absurd member (Table.not_mem_empty packet)
  | @tail middle last _ step ih =>
    cases step with
    | @act thread request next choice reply state running performed =>
      obtain ⟨backed, justified, performed⟩ := of_justified performed
      obtain ⟨inTime, performed⟩ := Machine.of_restrict performed
      have reached : middle.state.perform choice.1 choice.2 request = (reply, state) :=
        Option.some.inj performed
      cases request with
      | clock =>
        cases reached
        exact ih
      | queue call =>
        obtain ⟨uuid4, fault, possible⟩ := choice
        cases fault <;> cases reached <;> exact ih
      | repository call held =>
        show PacketsReceivable state.database
        rcases (perform_repository reached).1 with same | same
        · exact same ▸ ih
        · exact same ▸ ih.call backed _ justified inTime
    | start => exact ih
    | crash => exact ih
    | environment moved =>
      obtain ⟨clock, _, rfl⟩ := moved
      exact ih

/-- What was decoded by the gateway can be read at the time of a receipt that allows it. -/
theorem TablesBacked.readable {ground : Ground} (backed : TablesBacked ground)
    (receivable : PacketsReceivable ground.database) {packetId : String} {rawBody : Bytes}
    {receivedAt : Time} {values : DecodedTelemetryValues}
    (evidence : ground.database.EvidenceOf packetId rawBody receivedAt values) :
    ∃ frame assessment, decodeTelemetry zlibCrc32 rawBody (.utc receivedAt) = .ok frame ∧
      storedValues frame = values ∧ assessHealth frame (.utc receivedAt) = .ok assessment := by
  obtain ⟨packet, stored, _, rfl, source, recorded, link, rfl, rfl⟩ := evidence
  obtain ⟨body, ⟨receipt, present, key, rfl⟩, time, frame, _, decodes, same⟩ :=
    backed.decoded packet stored
  -- The decoded receipt and the receivable one are the source of the packet.
  obtain rfl : receipt = source := Table.eq_of_key present recorded (key.trans link.symm)
  obtain ⟨allowed, among, named, inTime⟩ := receivable packet stored
  obtain rfl : allowed = receipt := Table.eq_of_key among recorded (named.trans link.symm)
  obtain ⟨assessment, assessed⟩ := @assessHealth_of_decoded _ _ allowed.receivedAt _ decodes
  have sampled : frame.timestampUs = packet.values.sampleTimestampUs :=
    congrArg DecodedTelemetryValues.sampleTimestampUs same
  exact ⟨frame, assessment, (decodeTelemetry_at decodes).mpr (sampled ▸ inTime), same, assessed⟩

/-- Readable evidence computes. -/
theorem computeResult_of_readable {rawBody : Bytes} {receivedAt : Time}
    {values : DecodedTelemetryValues} {frame : TelemetryFrame OperatingMode}
    {assessment : HealthAssessment}
    (decodes : decodeTelemetry zlibCrc32 rawBody (.utc receivedAt) = .ok frame)
    (same : storedValues frame = values)
    (assessed : assessHealth frame (.utc receivedAt) = .ok assessment) :
    computeResult rawBody receivedAt values = .ok (engineeringResult frame assessment) := by
  -- Each of the three branches of the worker is the good one.
  unfold computeResult
  rw [decodes]
  dsimp only
  rw [if_neg (not_not.mpr same), assessed]

/--
Gateway and worker agree on every packet that is created in time.

Requests are retried and handlers crash at any point. In every state that a run reaches, the work
item of any claim can be read, and no process is about to report a permanent failure.
-/
theorem work_agrees_of_timely_run (config : GroundConfig)
    (run : Relation.ReflTransGen TimelyStep GroundConfig.initial config) : WorkAgrees config := by
  have ground : Relation.ReflTransGen GroundStep GroundConfig.initial config :=
    run.lift id fun _ _ => Step.of_restrict
  have backed := tablesBacked_of_run ground
  have receivable := packetsReceivable_of_run run
  refine ⟨?_, ?_⟩
  · intro uuid4 jobId workerId leaseSeconds item answered
    rcases claimProcessingJob_exec ⟨uuid4, config.state.clock⟩ config.state.database jobId workerId
      leaseSeconds with ⟨_, failed⟩ | ⟨-, happened⟩
    · cases (congrArg Prod.fst failed).symm.trans answered
    · obtain ⟨job, _, _, evidence⟩ := happened.workOf answered
      exact backed.readable receivable evidence
  · intro thread jobId workerId reason temporary baseBackoffSeconds now held next running
    cases permanent : temporary with
    | true => rfl
    | false =>
      subst permanent
      -- A permanent failure needs evidence that does not compute, and all evidence does.
      have performed : groundMachine.exec (fun _ => jobId, ⟨.none, trivial⟩) thread config.state
          (.repository (.failProcessingAttempt jobId workerId reason false baseBackoffSeconds now)
            held) = some (config.state.perform (fun _ => jobId) .none (.repository
              (.failProcessingAttempt jobId workerId reason false baseBackoffSeconds now) held)) :=
        rfl
      obtain ⟨rawBody, receivedAt, values, failure, ⟨job, _, _, evidence⟩, fails⟩ :=
        workEnded_of_run (resultRun_of_groundRun ground) running performed
      obtain ⟨frame, assessment, decodes, same, assessed⟩ := backed.readable receivable evidence
      rw [computeResult_of_readable decodes same assessed] at fails
      cases fails

/-- A packet that was created in time can be claimed and read. -/
theorem delivered_packet_readable :
    ∃ jobId item, ((RepoCall.claimProcessingJob jobId "worker-a" 60).exec
      ⟨fun _ => 3, (GroundConfig.after deliverySchedule).state.clock⟩
      (GroundConfig.after deliverySchedule).state.database).1 = .ok (some item) ∧
      WorkReadable item := by
  -- The schedule is in time, and the claim is evaluated.
  have timely : GroundConfig.initial.allows acceptsInTime deliverySchedule = true := by
    decide +kernel
  have claimed : ((((RepoCall.claimProcessingJob 2 "worker-a" 60).exec
      ⟨fun _ => 3, (GroundConfig.after deliverySchedule).state.clock⟩
      (GroundConfig.after deliverySchedule).state.database).1).toOption.bind id).isSome = true := by
    decide +kernel
  obtain ⟨item, found⟩ := Option.isSome_iff_exists.mp claimed
  have answered := Option.bind_eq_some_iff.mp found
  obtain ⟨work, replied, rfl⟩ := answered
  have same := of_toOption_eq_some replied
  exact ⟨2, item, same, (work_agrees_of_timely_run _ (GroundConfig.after_run_restrict timely)).readable
    _ _ _ _ item same⟩

/--
A request whose first handler crashed after recording it, and which is retried six minutes later.

The first receipt is ten minutes older than the sample, the second attempt four.
-/
def retrySchedule : List Event :=
  [.tick 1784202600000000, .start 0 (.gateway sampleSettings (sampleRequest goldenFrame)),
    .act 0 1 .none, .act 0 1 .none, .crash 0, .tick 360000000,
    .start 1 (.gateway sampleSettings (sampleRequest goldenFrame)), .act 1 2 .none, .act 1 2 .none,
    .act 1 2 .none, .act 1 2 .none, .act 1 2 .none, .act 1 2 .none]

/-- The gateway accepts the retried request, and no worker can read what it accepted. -/
theorem retried_request_unreadable :
    ¬∀ config, Relation.ReflTransGen GroundStep GroundConfig.initial config → WorkAgrees config := by
  -- The claim hands out work whose bytes do not decode at its time of receipt.
  intro agree
  have agrees := agree _ (GroundConfig.after_run retrySchedule)
  have claimed : (((RepoCall.claimProcessingJob 2 "worker-a" 60).exec
      ⟨fun _ => 3, (GroundConfig.after retrySchedule).state.clock⟩
      (GroundConfig.after retrySchedule).state.database).1.toOption.bind id).map
        (fun item => (decodeTelemetry zlibCrc32 item.rawBody (.utc item.receivedAt)).toOption) =
      some none := by decide +kernel
  obtain ⟨item, found, unread⟩ := Option.map_eq_some_iff.mp claimed
  obtain ⟨work, replied, rfl⟩ := Option.bind_eq_some_iff.mp found
  obtain ⟨frame, _, decodes, _⟩ :=
    agrees.readable _ _ _ _ item (of_toOption_eq_some replied)
  rw [decodes] at unread
  cases unread

end Cislunar
