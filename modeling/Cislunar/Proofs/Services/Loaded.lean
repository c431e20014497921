import Cislunar.Foundation.Keeps
import Cislunar.Proofs.Services.CrossStore
import Cislunar.Proofs.Services.Presented
import Cislunar.Proofs.Services.Requests
import Cislunar.Proofs.Telemetry.HeldReceipts

/-!
What the processes hold is what they once loaded, whatever has become of the rows.

A handler settles only the receipt of its request, for what the request deserves, and queues only the
jobs of packets. The tables therefore stay backed in every run, also where handlers and recoveries
decide on objects whose rows have changed.
-/

namespace Cislunar

open Foundation Ground

/-- A job has no message, or the one that the gateway names after it. -/
def MessageNamed (job : TelemetryProcessingJob) : Prop :=
  job.queueMessageId = none ∨ job.queueMessageId = some job.jobId.str

/-- The rows are backed, and packets were decoded from the bytes of their sources. -/
structure TablesBacked (ground : Ground) : Prop where
  ledger : LooseLedger ground.database
  accounting : Accounting ground.database
  named : ∀ job ∈ ground.database.jobs, MessageNamed job
  decoded : ∀ packet ∈ ground.database.packets, ∃ rawBody,
    ground.HasReceipt packet.sourceReceiptId rawBody ∧ ground.Decoded rawBody packet.values

/-- Rows retain what they have, and the clock does not go back. -/
def Ground.Onward (before after : Ground) : Prop :=
  Retains before.database after.database ∧ before.clock ≤ after.clock

/-- A receipt of a request is recorded under an identifier, and a time has passed. -/
def Ground.Recorded (receiptId : UUID) (vendor : VendorRequest) (receivedAt : Time)
    (ground : Ground) : Prop :=
  (∃ receipt ∈ ground.database.receipts, receipt.receiptId = receiptId ∧ vendor.Brought receipt) ∧
    receivedAt ≤ ground.clock

/-- What a delivery, its verdict and a mark rest on, where certain requests are presented. -/
def Ground.RestsOn (vendors : VendorRequest → Prop) (ground : Ground) : RepoCall → Prop
  | .recordDelivery delivery _ => ∃ vendor receivedAt, vendors vendor ∧
    receivedAt ≤ ground.clock ∧ delivery = vendor.delivery vendor.body receivedAt
  | .rejectDelivery receiptId reason _ _ => ∃ vendor receivedAt, vendors vendor ∧
    ground.Recorded receiptId vendor receivedAt ∧ vendor.complaint receivedAt = some reason
  | .acceptPacketAndCreateJob receiptId values _ _ => ∃ vendor receivedAt, vendors vendor ∧
    ground.Recorded receiptId vendor receivedAt ∧ vendor.complaint receivedAt = none ∧
      ∃ frame, decodeTelemetry zlibCrc32 vendor.body (.utc receivedAt) = .ok frame ∧
        telemetryValues frame = values
  | .markJobQueued jobId queueMessageId _ => queueMessageId = jobId.str
  | _ => True

/-- What every request of a process rests on, where certain requests are presented. -/
def Ground.Justifies (vendors : VendorRequest → Prop) (ground : Ground) : Request → Prop
  | .repository call held =>
    call.MayHold held ∧ held.Loaded ground.database ∧ ground.RestsOn vendors call
  | .queue (.enqueue message) => ground.HasJob message.jobId message.packetId
  | _ => True

namespace Ground
variable {first second third : Ground}

/-- A state is onward of itself. -/
theorem Onward.refl (ground : Ground) : Onward ground ground := ⟨.refl _, le_rfl⟩

/-- Onward of what is onward is onward. -/
theorem Onward.trans (early : Onward first second) (late : Onward second third) :
    Onward first third := ⟨early.1.trans late.1, early.2.trans late.2⟩

/-- A job stays the job of its packet. -/
theorem Onward.hasJob (onward : Onward first second) {jobId : UUID} {packetId : String}
    (present : first.HasJob jobId packetId) : second.HasJob jobId packetId := by
  -- The job may have been rewritten, and it keeps its identifier and its packet.
  obtain ⟨job, member, key, named⟩ := present
  obtain ⟨next, among, kept⟩ := onward.1.jobs job member
  exact ⟨next, among, kept.jobId.trans key, kept.packetId.trans named⟩

/-- A receipt keeps its body. -/
theorem Onward.hasReceipt (onward : Onward first second) {receiptId : UUID} {rawBody : Bytes}
    (present : first.HasReceipt receiptId rawBody) : second.HasReceipt receiptId rawBody := by
  obtain ⟨receipt, member, key, same⟩ := present
  obtain ⟨next, among, kept⟩ := onward.1.receipts receipt member
  exact ⟨next, among, kept.receiptId.trans key, kept.rawBody.trans same⟩

/-- A recorded receipt stays recorded. -/
theorem Onward.recorded (onward : Onward first second) {receiptId : UUID} {vendor : VendorRequest}
    {receivedAt : Time} (recorded : first.Recorded receiptId vendor receivedAt) :
    second.Recorded receiptId vendor receivedAt := by
  -- The receipt of the delivery is kept with its evidence, and the clock does not go back.
  obtain ⟨⟨receipt, member, key, brought⟩, past⟩ := recorded
  obtain ⟨next, among, kept⟩ := onward.1.receipts receipt member
  exact ⟨⟨next, among, kept.receiptId.trans key, brought.congr kept.evidence.symm⟩,
    past.trans onward.2⟩

/-- The receipt under an identifier is the one that was recorded under it. -/
theorem Recorded.brought {ground : Ground} {receiptId : UUID} {vendor : VendorRequest}
    {receivedAt : Time} (recorded : ground.Recorded receiptId vendor receivedAt)
    {row : TelemetryDeliveryReceipt} (member : row ∈ ground.database.receipts)
    (key : row.receiptId = receiptId) : vendor.Brought row := by
  obtain ⟨⟨original, stored, identified, brought⟩, -⟩ := recorded
  obtain rfl : original = row := Table.eq_of_key stored member (identified.trans key.symm)
  exact brought

/-- What was decoded once stays decoded. -/
theorem Onward.decoded (onward : Onward first second) {rawBody : Bytes}
    {values : DecodedTelemetryValues} (decoded : first.Decoded rawBody values) :
    second.Decoded rawBody values := by
  obtain ⟨time, frame, past, decodes, same⟩ := decoded
  exact ⟨time, frame, past.trans onward.2, decodes, same⟩

end Ground

/-- An accepted receipt holds the bytes that its values were decoded from. -/
theorem Ground.RestsOn.decoded {vendors : VendorRequest → Prop} {ground : Ground} {receiptId : UUID}
    {values : DecodedTelemetryValues} {maxAttempts : Int} {actorIdentity : String}
    (rests : ground.RestsOn vendors
      (.acceptPacketAndCreateJob receiptId values maxAttempts actorIdentity)) :
    ∃ rawBody, ground.HasReceipt receiptId rawBody ∧ ground.Decoded rawBody values := by
  -- The receipt that the call rests on was brought with the body of the request.
  obtain ⟨vendor, receivedAt, -, ⟨⟨receipt, member, key, brought⟩, past⟩, -, frame, decodes, same⟩ :=
    rests
  exact ⟨vendor.body, ⟨receipt, member, key, brought.body.symm⟩, receivedAt, frame, past, decodes,
    same⟩

/-- Empty tables are backed. -/
theorem TablesBacked.empty : TablesBacked {} where
  ledger := .empty
  accounting := .empty
  named job member := absurd member (Table.not_mem_empty job)
  decoded packet member := absurd member (Table.not_mem_empty packet)

/-- Tables that are left alone stay backed while time passes. -/
theorem TablesBacked.of_same {before after : Ground} (backed : TablesBacked before)
    (same : after.database = before.database) (forward : before.clock ≤ after.clock) :
    TablesBacked after ∧ Onward before after := by
  -- Every part is about the tables, except that packets were decoded before now.
  have onward : Onward before after := ⟨same ▸ .refl _, forward⟩
  refine ⟨⟨same ▸ backed.ledger, same ▸ backed.accounting, same ▸ backed.named, ?_⟩, onward⟩
  intro packet member
  obtain ⟨rawBody, source, decoded⟩ := backed.decoded packet (same ▸ member)
  exact ⟨rawBody, onward.hasReceipt source, onward.decoded decoded⟩

section Calls
variable {vendors : VendorRequest → Prop} {env : Surroundings} {db : Database} {held : Held}

/-- An acceptance of a held object adds at most the packet of its receipt. -/
theorem HeldAcceptOutcome.packet_origin {row : TelemetryDeliveryReceipt}
    {values : DecodedTelemetryValues} {jobId : UUID} {options : AcceptanceOptions}
    {outcome : Except StorageError PacketAcceptanceResult × Database}
    (happened : HeldAcceptOutcome db row (held.seeReceipt row) values jobId options outcome)
    {packet : LogicalTelemetryPacket} (member : packet ∈ outcome.2.packets) :
    packet ∈ db.packets ∨ packet.sourceReceiptId = row.receiptId ∧ packet.values = values ∧
      db.packetBySource values.sourceKey = none ∧
      (held.seeReceipt row).validationStatus = .pending := by
  -- Only a receipt that the handler sees pending is settled, and only with a packet whose source
  -- key is unused.
  cases happened with
  | replayed | refused => exact Or.inl member
  | settled pending settles =>
    generalize (held.seeReceipt row).receiptId = key at *
    cases settles with
    | duplicated | conflicted | stateConflicted | integrity => exact Or.inl member
    | accepted unused _ _ packetAdmitted =>
      rcases (Table.mem_insert packetAdmitted.1).mp member with old | rfl
      · exact Or.inl old
      · exact Or.inr ⟨held.seeReceipt_receiptId row, rfl, unused, pending⟩

/-- A verdict on a held object adds neither packets nor results. -/
theorem HeldRejectOutcome.tables {row object : TelemetryDeliveryReceipt} {reason : String}
    {parsedIdentifiers : Option JsonObject} {actorIdentity : String}
    {outcome : Except StorageError DeliveryRecordResult × Database}
    (happened : HeldRejectOutcome db row object reason parsedIdentifiers actorIdentity outcome) :
    outcome.2.packets = db.packets ∧ outcome.2.processed = db.processed := by
  cases happened <;> exact ⟨rfl, rfl⟩

/-- A mark on a held object adds neither packets nor results. -/
theorem HeldQueueOutcome.tables {row object : TelemetryProcessingJob}
    {queueMessageId actorIdentity : String} {outcome : Except StorageError Bool × Database}
    (happened : HeldQueueOutcome db row object queueMessageId actorIdentity outcome) :
    outcome.2.packets = db.packets ∧ outcome.2.processed = db.processed := by
  cases happened <;> exact ⟨rfl, rfl⟩

/-- An acceptance of a held object adds no result. -/
theorem HeldAcceptOutcome.processed {row object : TelemetryDeliveryReceipt}
    {values : DecodedTelemetryValues} {jobId : UUID} {options : AcceptanceOptions}
    {outcome : Except StorageError PacketAcceptanceResult × Database}
    (happened : HeldAcceptOutcome db row object values jobId options outcome) :
    outcome.2.processed = db.processed := by
  -- No outcome of an acceptance writes the table of results.
  cases happened with
  | replayed | refused => rfl
  | settled pending settles => cases settles <;> rfl

/-- Only an acceptance adds packets, and only a completion adds results. -/
theorem RepoCall.heldTables_kept {call : RepoCall} (allowed : call.MayHold held)
    (loaded : held.Loaded db) :
    (call.isAccept = false → (call.execHolding env held db).2.packets = db.packets) ∧
      (call.isComplete = false → (call.execHolding env held db).2.processed = db.processed) := by
  -- The three calls that decide on a held object have outcomes of their own; the others hold
  -- nothing.
  cases call with
  | rejectDelivery receiptId reason parsedIdentifiers actorIdentity =>
    rcases rejectDelivery_held env held db receiptId reason parsedIdentifiers actorIdentity with
      ⟨-, failed⟩ | ⟨_, -, happened⟩
    · rw [failed]
      exact ⟨fun _ => rfl, fun _ => rfl⟩
    · exact ⟨fun _ => happened.tables.1, fun _ => happened.tables.2⟩
  | acceptPacketAndCreateJob receiptId values maxAttempts actorIdentity =>
    refine ⟨fun other => (by cases other), fun _ => ?_⟩
    rcases acceptPacketAndCreateJob_held env allowed loaded receiptId values maxAttempts
      actorIdentity with ⟨_, failed, -⟩ | ⟨-, -, ⟨_, -, happened⟩ | ⟨-, happened⟩⟩
    · rw [failed]
    · exact happened.processed
    · exact happened.processed
  | markJobQueued jobId queueMessageId actorIdentity =>
    rcases markJobQueued_held env db allowed jobId queueMessageId actorIdentity with
      ⟨-, failed⟩ | ⟨_, -, happened⟩
    · rw [failed]
      exact ⟨fun _ => rfl, fun _ => rfl⟩
    · exact ⟨fun _ => happened.tables.1, fun _ => happened.tables.2⟩
  | _ =>
    obtain rfl : held = {} := allowed
    rw [RepoCall.execHolding_empty]
    exact RepoCall.tables_kept env _

/-- A failed attempt leaves the message of its job alone. -/
theorem jobAfterFailure_queueMessageId (job : TelemetryProcessingJob) (reason : String)
    (temporary : Bool) (baseBackoffSeconds : Int) (failureTime : Time) :
    (jobAfterFailure job reason temporary baseBackoffSeconds failureTime).queueMessageId =
      job.queueMessageId := by
  rw [jobAfterFailure]
  split_ifs <;> rfl

/-- A job that is queued again under its name is named. -/
theorem requeue_named {row object : TelemetryProcessingJob} (named : MessageNamed row)
    (marked : object.queueMessageId ≠ none → row.queueMessageId ≠ none) :
    (row.requeue object row.jobId.str).queueMessageId = some row.jobId.str := by
  have written : (row.requeue object row.jobId.str).queueMessageId =
      flushColumn row.queueMessageId object.queueMessageId (some row.jobId.str) := rfl
  rw [written]
  unfold flushColumn
  split_ifs with same
  -- Where the object was marked already the row is named after it already.
  · exact named.resolve_left (marked (same ▸ Option.some_ne_none _))
  · rfl

/-- Every step of a job that is marked under its own name keeps it named. -/
theorem HeldJobStep.messageNamed {ground : Ground} {call : RepoCall}
    {job row : TelemetryProcessingJob} (step : HeldJobStep env held call job row)
    (rests : ground.RestsOn vendors call) (named : MessageNamed job) : MessageNamed row := by
  -- A mark writes the name of its own job, whatever the object says, and no other step names a
  -- message.
  cases step with
  | kept => exact named
  | queued retains status queueMessageId actorIdentity =>
    obtain rfl : queueMessageId = job.jobId.str := rests
    exact Or.inr (requeue_named named retains.marked)
  | closed => exact named
  | claimed => exact named
  | completed => exact named
  | failed =>
    rw [MessageNamed, jobAfterFailure_queueMessageId, jobAfterFailure_jobId]
    exact named

end Calls

section Steps
variable {vendors : VendorRequest → Prop} {ground after : Ground}

/-- A packet after a justified call was there before, or has just been decoded. -/
theorem TablesBacked.packet_origin {env : Surroundings} {call : RepoCall} {held : Held}
    (justified : ground.Justifies vendors (.repository call held)) {packet : LogicalTelemetryPacket}
    (member : packet ∈ (call.execHolding env held ground.database).2.packets) :
    packet ∈ ground.database.packets ∨ ∃ rawBody,
      ground.HasReceipt packet.sourceReceiptId rawBody ∧ ground.Decoded rawBody packet.values := by
  -- An acceptance adds a packet for the receipt whose bytes it has decoded, no other call adds one.
  obtain ⟨allowed, loaded, rests⟩ := justified
  by_cases other : call.isAccept = false
  · exact Or.inl ((RepoCall.heldTables_kept allowed loaded).1 other ▸ member)
  cases call with
  | acceptPacketAndCreateJob receiptId values maxAttempts actorIdentity =>
    obtain ⟨rawBody, present, decoded⟩ := rests.decoded
    rcases acceptPacketAndCreateJob_held env allowed loaded receiptId values maxAttempts
      actorIdentity with ⟨_, failed, -⟩ | ⟨-, -, ⟨row, found, happened⟩ | ⟨-, happened⟩⟩
    · exact Or.inl (congrArg (·.2.packets) failed ▸ member)
    · obtain ⟨-, rfl⟩ := Table.get?_eq_some.mp found
      exact (happened.packet_origin member).imp_right fun ⟨source, same, _⟩ =>
        ⟨rawBody, source.symm ▸ present, same.symm ▸ decoded⟩
    · exact (happened.packet_origin member).imp_right fun ⟨source, same, _⟩ =>
        ⟨rawBody, source.symm ▸ present, same.symm ▸ decoded⟩
  | _ => exact absurd rfl other

/-- A justified call keeps the tables backed. -/
theorem TablesBacked.call (backed : TablesBacked ground) (env : Surroundings) {call : RepoCall}
    {held : Held} (justified : ground.Justifies vendors (.repository call held)) :
    TablesBacked { ground with database := (call.execHolding env held ground.database).2 } ∧
      Onward ground { ground with database := (call.execHolding env held ground.database).2 } := by
  -- Every row after the call is an old one after its step, or new.
  have packets : ∀ packet ∈ (call.execHolding env held ground.database).2.packets, _ :=
    fun packet member => TablesBacked.packet_origin justified member
  obtain ⟨allowed, loaded, rests⟩ := justified
  have effect := call.execHolding_effect env allowed loaded backed.ledger
  have onward : Onward ground
      { ground with database := (call.execHolding env held ground.database).2 } :=
    ⟨effect.retains, le_rfl⟩
  refine ⟨⟨effect.looseLedger backed.accounting backed.ledger, effect.accounting backed.accounting,
    fun row member => ?_, fun packet member => ?_⟩, onward⟩
  · rcases call.heldJobStep_of_mem allowed loaded backed.ledger member with
      ⟨job, stored, step⟩ | ⟨-, _, _, _, -, new⟩
    · exact step.messageNamed rests (backed.named job stored)
    · rw [new]
      exact Or.inl rfl
  · rcases packets packet member with old | ⟨rawBody, source, decoded⟩
    · obtain ⟨rawBody, source, decoded⟩ := backed.decoded packet old
      exact ⟨rawBody, onward.hasReceipt source, onward.decoded decoded⟩
    · exact ⟨rawBody, onward.hasReceipt source, onward.decoded decoded⟩

/-- A justified request keeps the tables backed, whether its connection holds or not. -/
theorem TablesBacked.perform (backed : TablesBacked ground) {uuid4 : Nat → UUID} {fault : Fault}
    {request : Request} {reply : Except Failure request.Reply} (justified : ground.Justifies vendors request)
    (performed : ground.perform uuid4 fault request = (reply, after)) :
    TablesBacked after ∧ Onward ground after := by
  -- A request reaches one store or none; a lost connection leaves the store as it was or as the
  -- call left it.
  cases request with
  | clock =>
    obtain ⟨-, rfl⟩ := Prod.mk.inj performed
    exact ⟨backed, .refl _⟩
  | queue call =>
    rcases (perform_queue performed).1 with rfl | rfl
    · exact ⟨backed, .refl _⟩
    · exact backed.of_same rfl le_rfl
  | repository call held =>
    rcases (Fault.apply_cases performed).1 with rfl | rfl
    · exact ⟨backed, .refl _⟩
    · exact backed.call ⟨uuid4, ground.clock⟩ justified

end Steps

/-- Between any two steps the tables are backed, and every request of a process is justified. -/
def loadedProtocol (vendors : VendorRequest → Prop) :
    Protocol Nat Failure Request Request.Reply Ground where
  invariant := TablesBacked
  rely _ := Onward
  action _ before request _ _ := before.Justifies vendors request
  rely_refl _ := Onward.refl
  rely_trans _ _ _ _ := Onward.trans

/-- A service whose requests are justified by what is known, with what its answer tells. -/
abbrev Loads (vendors : VendorRequest → Prop) {α : Type} (thread : Nat) (pre : Ground → Prop)
    (service : Service α) (post : α → Ground → Prop) : Prop :=
  Returns (loadedProtocol vendors) groundMachine thread pre service post

section Rules
variable {vendors : VendorRequest → Prop} {thread : Nat} {fact : Ground → Prop}

/-- A lasting fact cannot be taken away. -/
theorem kept_loaded (lasting : Lasting Onward fact) : Kept (loadedProtocol vendors) thread fact :=
  fun before after holds moved _ => lasting before after holds moved

/-- A lasting fact can be carried over any service. -/
theorem Loads.frame {α : Type} {pre : Ground → Prop} {service : Service α} {post : α → Ground → Prop}
    (lasting : Lasting Onward fact) (loads : Loads vendors thread pre service post) :
    Loads vendors thread (fun ground => pre ground ∧ fact ground) service
      fun value ground => post value ground ∧ fact ground :=
  (Triple.frame (Nat.succ_ne_self thread) (kept_loaded lasting) (kept_loaded lasting) loads).weaken
    (fun _ => id) fun _ _ reached value same => ⟨reached.1 value same, reached.2⟩

/-- A repository call that is justified by what is known. -/
theorem loads_repository {call : RepoCall} {held : Held} {post : call.Reply → Ground → Prop}
    (lasting : Lasting Onward fact)
    (justified : ∀ ground, TablesBacked ground → fact ground →
      ground.Justifies vendors (.repository call held))
    (answered : ∀ env ground value, TablesBacked ground → fact ground →
      (call.execHolding env held ground.database).1 = .ok value →
      post value { ground with database := (call.execHolding env held ground.database).2 }) :
    Loads vendors thread fact (callRepository call held) post := by
  refine Triple.call (kept_loaded lasting) fun before backed known choice reply after performed => ?_
  have reached : before.perform choice.1 choice.2 (.repository call held) = (reply, after) :=
    Option.some.inj performed
  obtain ⟨still, onward⟩ := backed.perform (justified before backed known) reached
  refine ⟨⟨still, fun _ _ => onward, justified before backed known⟩, ?_⟩
  rintro value rfl
  -- An answer that arrives is that of the call, and the call has had its effect.
  rcases (Fault.apply_cases reached).2 with lost | ⟨same, replied⟩
  · cases lost
  · exact same ▸ answered _ before value backed known (of_mapError_eq_ok replied.symm)

/-- A queue operation that is justified by what is known. -/
theorem loads_queue {call : QueueCall} (lasting : Lasting Onward fact)
    (justified : ∀ ground, fact ground → ground.Justifies vendors (.queue call)) :
    Loads vendors thread fact (callQueue call) fun _ _ => True := by
  -- The command is justified before it runs, and what lasts holds after it.
  refine Triple.call (kept_loaded lasting) fun before backed known choice reply after performed => ?_
  obtain ⟨still, onward⟩ :=
    backed.perform (justified before known) (Option.some.inj performed)
  exact ⟨⟨still, fun _ _ => onward, justified before known⟩, fun _ _ => trivial⟩

/-- A request that rests on nothing. -/
def Request.isPlain : Request → Bool
  | .clock => true
  | .queue (.enqueue _) => false
  | .queue _ => true
  | .repository (.recordDelivery _ _) _ => false
  | .repository (.acceptPacketAndCreateJob _ _ _ _) _ => false
  | .repository (.rejectDelivery _ _ _ _) _ => false
  | .repository (.markJobQueued _ _ _) _ => false
  | .repository _ held => held = {}

/-- A plain request is justified everywhere. -/
theorem justifies_of_plain {request : Request} (plain : request.isPlain = true) (ground : Ground) :
    ground.Justifies vendors request := by
  -- Plain requests rest on nothing and hold nothing.
  cases request with
  | clock => trivial
  | queue call =>
    cases call with
    | enqueue => cases plain
    | _ => trivial
  | repository call held =>
    cases call with
    | recordDelivery | acceptPacketAndCreateJob | rejectDelivery | markJobQueued => cases plain
    | _ =>
      obtain rfl : held = {} := of_decide_eq_true plain
      exact ⟨rfl, .empty _, trivial⟩

/-- A service of plain requests is justified throughout. -/
theorem loads_plain {α : Type} {service : Service α}
    (plain : service.Only fun request => request.isPlain = true) :
    Loads vendors thread (fun _ => True) service fun _ _ => True := by
  -- Every request of such a service is justified wherever it is made.
  intro ground _
  refine (Safe.of_only plain fun before backed request simple choice reply after performed =>
    ?_).weaken fun _ _ _ _ _ => trivial
  have justified : before.Justifies vendors request := justifies_of_plain simple before
  obtain ⟨still, onward⟩ := backed.perform justified (Option.some.inj performed)
  exact ⟨still, fun _ _ => onward, justified⟩

/-- What a worker asks for is plain. -/
theorem isPlain_of_fromWorker {request : Request} (worker : request.fromWorker = true) :
    request.isPlain = true := by
  -- One case per branch of the filter of a worker.
  unfold Request.fromWorker at worker
  split at worker
  · rfl
  · rfl
  · rfl
  · rfl
  · rfl
  · exact decide_eq_true (of_decide_eq_true worker).2
  · exact worker
  · exact worker
  · exact worker
  · cases worker

/-- A job stays where it is. -/
theorem onward_hasJob (jobId : UUID) (packetId : String) : Lasting Onward (HasJob jobId packetId) :=
  fun _ _ present onward => onward.hasJob present

/-- A recorded receipt stays recorded. -/
theorem onward_recorded (receiptId : UUID) (vendor : VendorRequest) (receivedAt : Time) :
    Lasting Onward (Recorded receiptId vendor receivedAt) :=
  fun _ _ recorded onward => onward.recorded recorded

/-- What was loaded was loaded. -/
theorem onward_loaded (held : Held) : Lasting Onward fun ground => held.Loaded ground.database :=
  fun _ _ loaded onward => loaded.grow onward.1

/-- A time that has passed has passed. -/
theorem onward_past (time : Time) : Lasting Onward fun ground => time ≤ ground.clock :=
  fun _ _ past onward => le_trans past onward.2

end Rules

section Gateway
variable {vendors : VendorRequest → Prop} {thread : Nat}

/-- Recording an event rests on nothing. -/
theorem auditSafely_plain (event : TelemetryAuditEvent) :
    (auditSafely event).Only fun request => request.isPlain = true := by
  refine .tryCatch (.bind (.call rfl) fun _ => trivial) fun failure => ?_
  split_ifs <;> trivial

/-- The job of a packet is queued by whoever has loaded it or holds nothing. -/
theorem queueOne_loads (jobId : UUID) (packetId : String) (job : Option TelemetryProcessingJob) :
    Loads vendors thread (fun ground => ground.HasJob jobId packetId ∧
      ({ job := job } : Held).Loaded ground.database) (queueOne jobId packetId job)
      fun _ _ => True := by
  rw [queueOne]
  cases made : QueueMessage.new jobId packetId with
  | error error => exact .raise
  | ok message =>
    -- The message carries the identifiers it was made from.
    obtain ⟨rfl, rfl⟩ : message.jobId = jobId ∧ message.packetId = packetId := by
      unfold QueueMessage.new at made
      split at made
      · cases made
      · cases made
        exact ⟨rfl, rfl⟩
    refine .bind (Loads.frame (onward_loaded { job := job })
      (loads_queue (onward_hasJob _ _) fun _ known => known)) fun _ => ?_
    have marks : Loads vendors thread
        (fun ground => ({ job := job } : Held).Loaded ground.database)
        (callRepository (.markJobQueued message.jobId message.jobId.str "ground-api")
          { job := job }) fun _ _ => True :=
      loads_repository (onward_loaded _) (fun _ _ known => ⟨rfl, known, rfl⟩)
        fun _ _ _ _ _ _ => trivial
    exact Returns.weaken marks (fun _ known => known.2) fun _ _ => id

/-- The recovery holds the job that it has read. -/
theorem recoverJobs_loads (jobIds : List UUID) :
    Loads vendors thread (fun _ => True) (recoverJobs jobIds) fun _ _ => True := by
  -- By induction on the identifiers: what was read is held until the mark, and it stays loaded.
  induction jobIds with
  | nil => exact .done fun _ _ => trivial
  | cons jobId rest ih =>
    have found : Loads vendors thread (fun _ => True) (callRepository (.getJob jobId)) fun found ground =>
        ∀ job, found = some job → ground.HasJob job.jobId job.packetId ∧
          ({ job := some job } : Held).Loaded ground.database := by
      refine loads_repository Lasting.always (fun ground _ _ => justifies_of_plain rfl ground) ?_
      rintro env ground _ backed - answered job rfl
      rw [RepoCall.execHolding_empty, getJob_exec] at answered ⊢
      have member := (Table.get?_eq_some.mp (Except.ok.inj answered)).1
      exact ⟨⟨job, member, rfl, rfl⟩, .of_job member⟩
    refine .bind found fun answer => ?_
    cases answer with
    | none => exact Returns.weaken ih (fun _ _ => trivial) fun _ _ => id
    | some job =>
      refine .bind (Returns.weaken (queueOne_loads job.jobId job.packetId (some job))
        (fun _ known => known job rfl) fun _ _ => id) fun transitioned => ?_
      exact .bind ih fun recovered => .done fun _ _ => trivial

/-- The recovery at start-up is justified. -/
theorem recoverPendingJobs_loads (limit : Nat) :
    Loads vendors thread (fun _ => True) (recoverPendingJobs limit) fun _ _ => True :=
  .bind (loads_plain (.call rfl)) recoverJobs_loads

/-- A receipt is rejected for what its request deserves, by whoever has loaded it or nothing. -/
theorem rejectDelivery_loads {vendor : VendorRequest} (among : vendors vendor) {receivedAt : Time}
    {reason : String} (deserved : vendor.complaint receivedAt = some reason) (receiptId : UUID)
    (existing : Option TelemetryDeliveryReceipt) :
    Loads vendors thread (fun ground => ({ receipt := existing } : Held).Loaded ground.database ∧
        ground.Recorded receiptId vendor receivedAt)
      (callRepository (.rejectDelivery receiptId reason none "ground-api")
        { receipt := existing }) fun _ _ => True :=
  loads_repository ((onward_loaded _).and (onward_recorded _ _ _))
    (fun _ _ known => ⟨rfl, known.1, vendor, receivedAt, among, known.2, deserved⟩)
    fun _ _ _ _ _ _ => trivial

/-- A replayed receipt is queued again with the job that was read. -/
theorem requeueReceipt_loads (receipt : TelemetryDeliveryReceipt) (packetId : String) :
    Loads vendors thread (fun _ => True) (requeueReceipt receipt packetId) fun _ _ => True := by
  -- The job that was read is held until the mark, as in the recovery.
  have found : Loads vendors thread (fun _ => True) (callRepository (.getJobForPacket packetId))
      fun found ground => ∀ job, found = some job → ground.HasJob job.jobId job.packetId ∧
        ({ job := some job } : Held).Loaded ground.database := by
    refine loads_repository Lasting.always (fun ground _ _ => justifies_of_plain rfl ground) ?_
    rintro env ground _ backed - answered job rfl
    rw [RepoCall.execHolding_empty, getJobForPacket_exec] at answered ⊢
    have member := (of_jobByPacket (Except.ok.inj answered)).1
    exact ⟨⟨job, member, rfl, rfl⟩, .of_job member⟩
  refine .bind found fun answer => ?_
  cases answer with
  | none => exact .raise
  | some job =>
    exact .bind (Returns.weaken (queueOne_loads job.jobId job.packetId (some job))
      (fun _ known => known job rfl) fun _ _ => id) fun transitioned => .done fun _ _ => trivial

/-- An acceptance names a job only with the packet that the job is of. -/
def NamesJob (accepted : PacketAcceptanceResult) (ground : Ground) : Prop :=
  ∀ jobId packetId, accepted.jobId = some jobId → accepted.packetId = some packetId →
    ground.HasJob jobId packetId

/-- The job of an acceptance is queued by a handler that holds nothing. -/
theorem answerAcceptance_loads (accepted : PacketAcceptanceResult) :
    Loads vendors thread (NamesJob accepted) (answerAcceptance accepted) fun _ _ => True := by
  -- The job of the answer is queued by its identifier; no object of it is at hand.
  have queues : ∀ jobId packetId, accepted.jobId = some jobId → accepted.packetId = some packetId →
      Loads vendors thread (NamesJob accepted) (queueOne jobId packetId none) fun _ _ => True :=
    fun jobId packetId job packet => Returns.weaken (queueOne_loads jobId packetId none)
      (fun _ names => ⟨names jobId packetId job packet, .empty _⟩) fun _ _ => id
  rw [answerAcceptance]
  dsimp only
  split_ifs
  · exact .done fun _ _ => trivial
  · split
    next jobId packetId _ job packet =>
      exact .bind (queues jobId packetId job packet) fun _ => .done fun _ _ => trivial
    next => exact .done fun _ _ => trivial
  · split
    next jobId packetId job packet =>
      exact .bind (queues jobId packetId job packet) fun _ => .done fun _ _ => trivial
    next => exact .raise

/-- The answer for a settled receipt names the job that is found for its packet. -/
theorem replayedAcceptance_namesJob {db : Database} {after : Ground}
    (kept : ∀ job ∈ db.jobs, job ∈ after.database.jobs) (object : TelemetryDeliveryReceipt) :
    NamesJob (replayedAcceptance object (object.logicalPacketId.bind db.packets.get?)
      (object.logicalPacketId.bind db.jobByPacket)) after := by
  -- The packet and the job of the answer are both looked up by what the receipt names.
  intro jobId packetId named linked
  replace linked : object.logicalPacketId = some packetId := linked
  obtain ⟨job, found, rfl⟩ := Option.map_eq_some_iff.mp named
  rw [linked, Option.bind_some] at found
  obtain ⟨member, owner⟩ := of_jobByPacket found
  exact ⟨job, kept job member, rfl, owner⟩

/-- The answer for a receipt that was just settled names the job of its packet. -/
theorem SettleOutcome.namesJob {db : Database} {receipt : TelemetryDeliveryReceipt} {newId : UUID}
    {values : DecodedTelemetryValues} {options : AcceptanceOptions} {after : Ground}
    {outcome : Except StorageError PacketAcceptanceResult × Database}
    (settles : SettleOutcome db receipt values newId options outcome)
    (kept : ∀ job ∈ outcome.2.jobs, job ∈ after.database.jobs) {accepted : PacketAcceptanceResult}
    (answered : outcome.1 = .ok accepted) : NamesJob accepted after := by
  -- A duplicate names the job of the stored packet, an accepted packet its own new job.
  intro jobId packetId named linked
  cases settles with
  | duplicated stored =>
    cases answered
    obtain ⟨job, found, rfl⟩ := Option.map_eq_some_iff.mp named
    obtain ⟨member, owner⟩ := of_jobByPacket found
    cases linked
    exact ⟨job, kept job member, rfl, owner⟩
  | conflicted | stateConflicted =>
    cases answered
    cases named
  | accepted _ _ _ _ _ jobAdmitted =>
    cases answered
    cases named
    cases linked
    exact ⟨_, kept _ ((Table.mem_insert jobAdmitted.1).mpr (Or.inr rfl)), rfl, rfl⟩
  | integrity => cases answered

/-- The answer to an acceptance of a held object names the job of its packet. -/
theorem acceptPacketAndCreateJob_namesJob {env : Surroundings} {ground : Ground} {held : Held}
    (free : held.job = none) (loaded : held.Loaded ground.database) {receiptId : UUID}
    {values : DecodedTelemetryValues} {maxAttempts : Int} {actorIdentity : String}
    {accepted : PacketAcceptanceResult}
    (answered : ((RepoCall.acceptPacketAndCreateJob receiptId values maxAttempts
      actorIdentity).execHolding env held ground.database).1 = .ok accepted) :
    NamesJob accepted { ground with
      database := ((RepoCall.acceptPacketAndCreateJob receiptId values maxAttempts
        actorIdentity).execHolding env held ground.database).2 } := by
  -- The acceptance decides on the object, or on the row where none is held; either way it replays
  -- or settles.
  rcases acceptPacketAndCreateJob_held env free loaded receiptId values maxAttempts actorIdentity
    with ⟨_, failed, -⟩ | ⟨-, -, ⟨row, -, happened⟩ | ⟨-, happened⟩⟩
  · cases (congrArg Prod.fst failed).symm.trans answered
  all_goals
    generalize (RepoCall.acceptPacketAndCreateJob receiptId values maxAttempts
      actorIdentity).execHolding env held ground.database = outcome at happened answered ⊢
  · cases happened with
    | replayed =>
      cases answered
      exact replayedAcceptance_namesJob (fun _ => id) _
    | refused => cases answered
    | settled status settles => exact settles.namesJob (fun _ => id) answered
  · cases happened with
    | missing | refused => cases answered
    | replayed found =>
      cases answered
      exact replayedAcceptance_namesJob (fun _ => id) _
    | settled found status settles => exact settles.namesJob (fun _ => id) answered

/-- A recorded delivery is validated by whoever has loaded the receipt or holds nothing. -/
theorem validateDelivery_loads (settings : GroundSettings) {vendor : VendorRequest}
    (among : vendors vendor) {receivedAt : Time}
    (headers : vendor.complaint receivedAt = bytesComplaint vendor.body receivedAt)
    (receiptId : UUID) (existing : Option TelemetryDeliveryReceipt) :
    Loads vendors thread (fun ground => ({ receipt := existing } : Held).Loaded ground.database ∧
        ground.Recorded receiptId vendor receivedAt)
      (validateDelivery settings receiptId vendor.body receivedAt existing) fun _ _ => True := by
  -- The complaint about the bytes is the reason of the rejection, or there is a frame to accept.
  rw [bytesComplaint] at headers
  rw [validateDelivery]
  split
  next reason detail failed =>
    rw [failed] at headers
    exact .bind (rejectDelivery_loads among headers receiptId existing) fun _ =>
      .done fun _ _ => trivial
  next => exact .raise
  next frame decodes =>
    rw [decodes] at headers
    refine .bind (loads_repository ((onward_loaded _).and (onward_recorded _ _ _))
      (fun ground _ known => ⟨rfl, known.1, vendor, receivedAt, among, known.2, headers, frame,
        decodes, rfl⟩) ?_) answerAcceptance_loads
    exact fun env ground accepted _ known answered =>
      acceptPacketAndCreateJob_namesJob rfl known.1 answered

/-- A delivery that is not in conflict has a receipt with its bytes and its identifier. -/
theorem RecordOutcome.recorded {db : Database} {delivery : Delivery} {receiptId : UUID}
    {outcome : Except StorageError DeliveryRecordResult × Database} (ledger : LooseLedger db)
    (happened : RecordOutcome db delivery receiptId outcome) {result : DeliveryRecordResult}
    (answered : outcome.1 = .ok result) (agrees : result.requestConflict = false) :
    ∃ row ∈ outcome.2.receipts, row.receiptId = result.receiptId ∧
      row.rawBody = delivery.rawBody ∧ row.canonicalRequestId = delivery.canonicalRequestId := by
  cases happened with
  | anonymous _ admitted | first _ admitted =>
    cases answered
    exact ⟨_, (Table.mem_insert admitted.1).mpr (Or.inr rfl), rfl, rfl, rfl⟩
  | replay named owned present link _ same =>
    cases answered
    -- The receipt of the owner presented the identifier as well.
    obtain ⟨first, stored, key, identified, -⟩ := ledger.identities _ owned
    obtain rfl := Table.eq_of_key stored present (key.trans link.symm)
    exact ⟨first, present, rfl, same, identified.trans named.symm⟩
  | reused =>
    cases answered
    cases agrees
  | integrity | dangling => cases answered

/-- A delivery is recorded with what its request presents. -/
theorem recordDelivery_loads {vendor : VendorRequest} (among : vendors vendor) (receivedAt : Time) :
    Loads vendors thread (fun ground => receivedAt ≤ ground.clock)
      (callRepository (.recordDelivery (vendor.delivery vendor.body receivedAt) none))
      fun result ground => result.requestConflict = false →
        ground.Recorded result.receiptId vendor receivedAt := by
  -- The delivery answers with a receipt that holds its body under its request.
  refine loads_repository (onward_past receivedAt)
    (fun ground _ past => ⟨rfl, .empty _, vendor, receivedAt, among, past, rfl⟩) ?_
  intro env ground result backed past answered agrees
  rw [RepoCall.execHolding_empty] at answered ⊢
  rcases recordDelivery_serially (vendor.delivery vendor.body receivedAt) none env.uuid4
    ground.database with ⟨_, failed⟩ | ⟨_, happened⟩
  · cases (congrArg Prod.fst failed).symm.trans answered
  · obtain ⟨row, member, key, body, requestId⟩ := happened.recorded backed.ledger answered agrees
    exact ⟨⟨row, member, key, body.symm, requestId.symm⟩, past⟩

/-- A replay holds the receipt that it has read. -/
theorem replayedReceipt_loads (delivery : DeliveryRecordResult) :
    Loads vendors thread (fun _ => True) (replayedReceipt delivery) fun existing ground =>
      ({ receipt := existing } : Held).Loaded ground.database := by
  -- The receipt comes straight from the tables, so it is as loaded as its row.
  have read : Loads vendors thread (fun _ => True) (callRepository (.getDelivery delivery.receiptId))
      fun found ground => ({ receipt := found } : Held).Loaded ground.database := by
    refine loads_repository Lasting.always (fun ground _ _ => justifies_of_plain rfl ground) ?_
    rintro env ground found backed - answered
    rw [RepoCall.execHolding_empty, getDelivery_exec] at answered ⊢
    cases found with
    | none => exact .empty _
    | some receipt =>
      exact .of_receipt backed.ledger (Table.get?_eq_some.mp (Except.ok.inj answered)).1
  rw [replayedReceipt]
  split_ifs
  · refine .bind read fun found => ?_
    cases found with
    | none => exact .raise
    | some receipt => exact .done fun _ loaded => loaded
  · exact .done fun ground _ => .empty _

/-- A recorded delivery is checked by whoever has loaded the receipt or holds nothing. -/
theorem checkDelivery_loads (settings : GroundSettings) {vendor : VendorRequest}
    (among : vendors vendor) (receivedAt : Time) (receiptId : UUID)
    (existing : Option TelemetryDeliveryReceipt) :
    Loads vendors thread (fun ground => ({ receipt := existing } : Held).Loaded ground.database ∧
        ground.Recorded receiptId vendor receivedAt)
      (checkDelivery settings vendor vendor.body receivedAt receiptId existing)
      fun _ _ => True := by
  -- Both headers are looked at before the receipt; each refusal is the complaint of the request.
  have rejects : ∀ reason, vendor.complaint receivedAt = some reason →
      Loads vendors thread (fun ground => ({ receipt := existing } : Held).Loaded ground.database ∧
        ground.Recorded receiptId vendor receivedAt) (rejectHeader receiptId reason existing)
        fun _ _ => True := fun _ deserved =>
    .bind (rejectDelivery_loads among deserved receiptId existing) fun _ => .done fun _ _ => trivial
  unfold checkDelivery
  split_ifs with untyped unidentified
  · exact rejects _ (VendorRequest.complaint_untyped untyped receivedAt)
  · exact rejects _ (VendorRequest.complaint_unidentified untyped unidentified receivedAt)
  · split
    · exact Returns.weaken (requeueReceipt_loads _ _) (fun _ _ => trivial) fun _ _ => id
    · exact validateDelivery_loads settings among
        (VendorRequest.complaint_of_headers untyped unidentified receivedAt) _ _

/-- The requests of a handler within its session are justified. -/
theorem deliver_loads (settings : GroundSettings) {vendor : VendorRequest} (among : vendors vendor)
    (receivedAt : Time) :
    Loads vendors thread (fun ground => receivedAt ≤ ground.clock)
      (deliver settings vendor vendor.body receivedAt) fun _ _ => True := by
  -- The receipt of the delivery stays recorded while a replay reads it.
  refine .bind (recordDelivery_loads among receivedAt) fun delivery => ?_
  split_ifs with conflict
  · exact .done fun _ _ => trivial
  · have agrees : delivery.requestConflict = false := by simpa using conflict
    refine .bind (Returns.weaken (Loads.frame (onward_recorded delivery.receiptId vendor receivedAt)
      (replayedReceipt_loads delivery)) (fun _ known => ⟨trivial, known agrees⟩) fun _ _ => id)
      fun existing => ?_
    split
    · exact .done fun _ _ => trivial
    · exact checkDelivery_loads settings among receivedAt _ existing

/-- The clock shows a time that has passed once it is used. -/
theorem utcNow_loads :
    Loads vendors thread (fun _ => True) utcNow fun time ground => time ≤ ground.clock := by
  -- The time that is read is the clock itself, which later steps only move on.
  refine Triple.call (kept_loaded Lasting.always) fun before backed _ choice reply after performed => ?_
  obtain ⟨rfl, rfl⟩ := Prod.mk.inj (Option.some.inj performed)
  refine ⟨⟨backed, fun _ _ => .refl _, trivial⟩, fun value same => ?_⟩
  cases same
  exact le_rfl

/-- The requests of a handler are justified, where it presents what may be presented. -/
theorem receivePayloadData_loads {settings : GroundSettings} {vendor : VendorRequest}
    (among : vendor.vendorToken = some settings.vendorToken → vendors vendor) :
    Loads vendors thread (fun _ => True) (receivePayloadData settings vendor) fun _ _ => True := by
  -- A request gets to the tables only when its token is that of the settings.
  have refused : Loads vendors thread (fun _ => True) (refuseVendor vendor) fun _ _ => True :=
    loads_plain (.bind (auditSafely_plain _) fun _ => trivial)
  rw [receivePayloadData]
  split
  next => exact refused
  next token presented =>
    split
    next => exact .raise
    next agrees =>
      have posted : vendors vendor := among (presented.trans (congrArg some
        (compareDigest_eq_true agrees)))
      rw [receiveAuthenticated]
      split
      next => exact loads_plain (.bind (auditSafely_plain _) fun _ => trivial)
      next rawBody read =>
        obtain rfl := body_of_boundedBody read
        refine .bind utcNow_loads fun receivedAt => ?_
        refine .tryCatch (deliver_loads settings posted receivedAt) fun failure => ?_
        rw [answerUnavailable]
        split_ifs
        · exact .done fun _ _ => trivial
        · exact .done fun _ _ => trivial
        · exact .raise
    next => exact refused

end Gateway

section Machines
variable {vendors : VendorRequest → Prop}

/-- The requests of every process are justified, where it presents what may be presented. -/
theorem Process.loads (thread : Nat) {process : Process} (presents : process.Presents vendors) :
    Triple (loadedProtocol vendors) groundMachine thread (fun _ => True) process.program
      fun _ _ => True := by
  -- Recoveries hold jobs, gateways hold receipts, and workers are plain.
  have returns : Loads vendors thread (fun _ => True) process.program fun _ _ => True := by
    cases process with
    | gateway settings vendor =>
      exact .bind (receivePayloadData_loads presents) fun _ => .done fun _ _ => trivial
    | startup => exact .bind (recoverPendingJobs_loads _) fun _ => .done fun _ _ => trivial
    | worker workerId iterations =>
      exact loads_plain (.bind ((runWorker_fromWorker workerId iterations).mono
        fun _ => isPlain_of_fromWorker) fun _ => trivial)
  exact Triple.weaken returns (fun _ => id) fun _ _ _ => trivial

/-- A request that is justified, in a state whose tables are backed. -/
noncomputable def Ground.isJustified (vendors : VendorRequest → Prop) (ground : Ground)
    (request : Request) : Bool := by
  classical exact decide (TablesBacked ground ∧ ground.Justifies vendors request)

/-- A request is justified when the tables are backed and it rests on what it needs. -/
theorem Ground.isJustified_iff {ground : Ground} {request : Request} :
    ground.isJustified vendors request = true ↔
      TablesBacked ground ∧ ground.Justifies vendors request := by
  classical
  exact decide_eq_true_iff

/-- The ground system in which every request is justified by certain requests of the vendor. -/
noncomputable abbrev presentingMachine (vendors : VendorRequest → Prop) :
    Machine Nat Failure Request Request.Reply Ground :=
  groundMachine.restrict (Ground.isJustified vendors)

/-- The ground system in which every request is justified. -/
noncomputable abbrev justifiedMachine : Machine Nat Failure Request Request.Reply Ground :=
  presentingMachine fun _ => True

/-- What is performed in a ground system with justified requests was justified. -/
theorem of_justified {machine : Machine Nat Failure Request Request.Reply Ground}
    {choice : machine.Choice} {thread : Nat} {ground after : Ground} {request : Request}
    {reply : Except Failure request.Reply}
    (performed : (machine.restrict (Ground.isJustified vendors)).exec choice thread ground request =
      some (reply, after)) :
    TablesBacked ground ∧ ground.Justifies vendors request ∧
      machine.exec choice thread ground request = some (reply, after) := by
  -- The restricted machine performs what its filter permits.
  obtain ⟨permitted, reached⟩ := Machine.of_restrict performed
  obtain ⟨backed, justified⟩ := Ground.isJustified_iff.mp permitted
  exact ⟨backed, justified, reached⟩

/-- A system whose programs ask for what is justified, and whose environment leaves the tables. -/
structure Loading {α : Type} (vendors : VendorRequest → Prop)
    (machine : Machine Nat Failure Request Request.Reply Ground)
    (starts : Nat → Ground → Service α → Prop)
    (environment : Ground → Ground → Prop) : Prop where
  starts : ∀ thread ground program, starts thread ground program →
    Safe (loadedProtocol vendors) machine thread (fun _ _ => True) program ground
  environment : ∀ before after, environment before after →
    after.database = before.database ∧ before.clock ≤ after.clock

/-- Time leaves the tables. -/
theorem Ground.Ticks.tables {before after : Ground} (ticks : Ticks before after) :
    after.database = before.database ∧ before.clock ≤ after.clock := by
  obtain ⟨clock, forward, rfl⟩ := ticks
  exact ⟨rfl, forward⟩

end Machines

section Runs
variable {α : Type} {vendors : VendorRequest → Prop}
variable {machine : Machine Nat Failure Request Request.Reply Ground}
variable {starts : Nat → Ground → Service α → Prop} {environment : Ground → Ground → Prop}
variable {config : Config Nat Failure Request Request.Reply Ground α}

/-- Processes that are started where they may ask for what they like ask for what is justified. -/
theorem Loading.ground {starts : Nat → Ground → Service (Option Response) → Prop}
    (processes : ∀ thread ground program, starts thread ground program →
      ∃ process : Process, process.Presents vendors ∧ process.program = program)
    (tables : ∀ before after, environment before after →
      after.database = before.database ∧ before.clock ≤ after.clock) :
    Loading vendors groundMachine starts environment where
  starts thread ground program starting := by
    -- A process may start anywhere, since its program is justified from every ground.
    obtain ⟨process, presents, rfl⟩ := processes thread ground program starting
    exact Process.loads thread presents ground trivial
  environment := tables

/-- Nothing changes where fewer requests are allowed. -/
theorem Loading.restrict (loading : Loading vendors machine starts environment)
    (allowed : Ground → Request → Bool) :
    Loading vendors (machine.restrict allowed) starts environment where
  starts thread ground program starting := (loading.starts thread ground program starting).restrict
    allowed
  environment := loading.environment

/-- In every run all requests are justified, so it is a run in which they have to be. -/
theorem Loading.run (loading : Loading vendors machine starts environment)
    (run : Relation.ReflTransGen (Step machine starts environment) ⟨{}, fun _ => none⟩ config) :
    Sound machine (loadedProtocol vendors) (fun _ _ _ => True) config ∧
      Relation.ReflTransGen
        (Step (machine.restrict (Ground.isJustified vendors)) starts environment)
        ⟨{}, fun _ => none⟩ config := by
  -- The invariant is that the tables are backed; each process carries the triple of what it holds.
  have started : Sound machine (loadedProtocol vendors) (fun (_ : Nat) (_ : Except Failure α) _ =>
      True) ⟨{}, fun _ => none⟩ := ⟨.empty, fun _ _ running => by cases running⟩
  refine Sound.run_restrict (fun _ _ _ _ _ _ _ => trivial)
    (fun thread ground program _ => loading.starts thread ground program)
    (fun before after backed moved => ?_)
    (fun _ _ _ _ _ backed justified => Ground.isJustified_iff.mpr ⟨backed, justified⟩) started run
  obtain ⟨same, forward⟩ := loading.environment before after moved
  obtain ⟨still, onward⟩ := backed.of_same same forward
  exact ⟨still, fun _ => onward⟩

end Runs

/-- A process that may present whatever it likes presents something, if anything. -/
theorem presents_of_starts {thread : Nat} {ground : Ground} {program : Service (Option Response)}
    (starting : startsProcess thread ground program) :
    ∃ process : Process, process.Presents (fun _ => True) ∧ process.program = program := by
  obtain ⟨process, same⟩ := starting
  exact ⟨process, process.presents_any, same⟩

/-- In every run of the ground system the requests are justified. -/
theorem loading_groundStep : Loading (fun _ => True) groundMachine startsProcess Ground.Ticks :=
  .ground (fun _ _ _ => presents_of_starts) fun _ _ => Ground.Ticks.tables

/-- In every run of the ground system the tables are backed. -/
theorem tablesBacked_of_run {config : GroundConfig}
    (run : Relation.ReflTransGen GroundStep GroundConfig.initial config) :
    TablesBacked config.state :=
  (loading_groundStep.run run).1.1

/-- The tables are backed, and every reference leads to the job of its packet. -/
structure StoresBacked (ground : Ground) : Prop where
  tables : TablesBacked ground
  queue : QueueConsistent ground.queue
  job : ∀ message ∈ ground.queue.references, ground.HasJob message.jobId message.packetId

/-- Empty stores are backed. -/
theorem StoresBacked.empty : StoresBacked {} where
  tables := .empty
  queue := .empty
  job message listed := by cases listed

/-- Time passes over backed stores. -/
theorem StoresBacked.tick {ground after : Ground} (backed : StoresBacked ground)
    (ticks : Ticks ground after) : StoresBacked after := by
  obtain ⟨tables, onward⟩ := backed.tables.of_same ticks.tables.1 ticks.tables.2
  obtain ⟨clock, -, rfl⟩ := ticks
  exact ⟨tables, backed.queue, backed.job⟩

/-- A justified request keeps the stores backed, whether its connection holds or not. -/
theorem StoresBacked.perform {vendors : VendorRequest → Prop} {ground after : Ground}
    (backed : StoresBacked ground)
    {uuid4 : Nat → UUID} {fault : Fault} {request : Request} {reply : Except Failure request.Reply}
    (justified : ground.Justifies vendors request)
    (performed : ground.perform uuid4 fault request = (reply, after)) : StoresBacked after := by
  -- A request to one store leaves the other alone. References are old ones or those of an enqueue,
  -- and both have their jobs.
  obtain ⟨tables, onward⟩ := backed.tables.perform justified performed
  have job : ∀ message ∈ ground.queue.references, after.HasJob message.jobId message.packetId :=
    fun message listed => onward.hasJob (backed.job message listed)
  cases request with
  | clock =>
    obtain ⟨-, rfl⟩ := Prod.mk.inj performed
    exact backed
  | repository call held =>
    have same : after.queue = ground.queue := by
      rcases (Fault.apply_cases performed).1 with rfl | rfl <;> rfl
    exact ⟨tables, same ▸ backed.queue, same ▸ job⟩
  | queue call =>
    rcases (perform_queue performed).1 with rfl | rfl
    · exact backed
    · refine ⟨tables, (backed.queue.step call).consistent, fun message listed => ?_⟩
      rcases call.references_origin listed with old | rfl
      · exact job message old
      · exact onward.hasJob justified

/-- In every run of the ground system the stores are backed. -/
theorem storesBacked_of_run {config : GroundConfig}
    (run : Relation.ReflTransGen GroundStep GroundConfig.initial config) :
    StoresBacked config.state := by
  -- By induction on the run, in which every request is justified.
  replace run := (loading_groundStep.run run).2
  induction run with
  | refl => exact .empty
  | tail _ step ih =>
    cases step with
    | act running performed =>
      obtain ⟨-, justified, reached⟩ := of_justified performed
      exact ih.perform justified (Option.some.inj reached)
    | start | crash => exact ih
    | environment moved =>
      exact ih.tick moved

end Cislunar
