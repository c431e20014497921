import Cislunar.Foundation.Outlook
import Cislunar.Proofs.Services.Recovery

/-!
Whether a worker is in the way of a process that queues a job.

A handler and the recovery at start-up learn of a job first, and put its reference into Redis and
mark it as queued after that. Nothing locks the job in between, so a worker may take it. The mark
then decides on the row, or on the object that the process has read and still holds. Whatever a
process goes on to mark it has found, or comes to find, as it may be marked.
-/

namespace Cislunar

open Foundation Ground

/-- A job with the packet it is for and the receipt that the packet comes from. -/
structure JobOrigin where
  jobId : UUID
  packetId : String
  receiptId : UUID

/-- A row of the job is for the packet. -/
def JobOrigin.Fits (origin : JobOrigin) (job : TelemetryProcessingJob) : Prop :=
  job.jobId = origin.jobId → job.packetId = origin.packetId

/-- The answer that accepts the receipt of a packet again. -/
structure JobOrigin.Repeats (origin : JobOrigin) (accepted : PacketAcceptanceResult) : Prop where
  conflict : accepted.conflict = false
  duplicate : accepted.duplicate = false
  jobId : accepted.jobId = some origin.jobId
  packetId : accepted.packetId = some origin.packetId

/-- A receipt whose session holds no verdict on it that an acceptance would not repeat. -/
def Held.Repeatable (held : Held) (receiptId : UUID) : Prop :=
  ∀ object, held.receipt = some object → object.receiptId = receiptId →
    object.validationStatus = .pending ∨ object.validationStatus = .accepted

/--
The replies that let a process go on to mark a job without taking on other work.

A job that is read along the way is the one that was asked for, as it may be marked; a receipt that
is accepted again leads back to the job of its packet.
-/
def Request.Passes (origin : JobOrigin) :
    (request : Request) → Except Failure request.Reply → Prop
  | .queue (.enqueue _), _ => True
  | .repository (.markJobQueued _ _ _) _, _ => True
  | .repository (.getJob jobId) _, reply => ∀ job, reply = .ok (some job) →
      job.jobId = jobId ∧ origin.Fits job ∧ (job.jobId = origin.jobId → Markable job)
  | .repository (.getJobForPacket packetId) _, reply => ∀ job, reply = .ok (some job) →
      job.packetId = packetId ∧ origin.Fits job ∧ (job.jobId = origin.jobId → Markable job)
  | .repository (.acceptPacketAndCreateJob receiptId _ _ _) held, reply =>
      receiptId = origin.receiptId ∧ held.Repeatable receiptId ∧
        ∀ accepted, reply = .ok accepted → origin.Repeats accepted
  | _, _ => False

/-- The request to mark a job as queued. -/
def Request.Marks (origin : JobOrigin) : Request → Prop
  | .repository (.markJobQueued jobId _ _) _ => jobId = origin.jobId
  | _ => False

/-- A service that goes on to mark a job before it takes on other work. -/
abbrev GoesOnToMark {α : Type} (origin : JobOrigin) (service : Service α) : Prop :=
  service.Ahead (Request.Passes origin) (Request.Marks origin)

/-- The database has the job of a packet from a receipt. -/
def JobOrigin.Stored (origin : JobOrigin) (db : Database) : Prop :=
  (∃ job ∈ db.jobs, job.jobId = origin.jobId ∧ job.packetId = origin.packetId) ∧
    ∃ packet ∈ db.packets, packet.packetId = origin.packetId ∧
      packet.sourceReceiptId = origin.receiptId

/-- The job comes from the packet and the receipt, once there is one. -/
def JobOrigin.Sincere (origin : JobOrigin) (db : Database) : Prop :=
  ∀ job ∈ db.jobs, job.jobId = origin.jobId → origin.Stored db

/-- A step takes a job into `PROCESSING`. -/
def JobOrigin.Taken (origin : JobOrigin) (before after : Database) : Prop :=
  origin.Stored before ∧
    (∃ job ∈ before.jobs, job.jobId = origin.jobId ∧ job.state ≠ .processing) ∧
    ∃ row ∈ after.jobs, row.jobId = origin.jobId ∧ row.state = .processing

/-- A step of the system that takes no job which a running process goes on to mark. -/
def ConsiderateStep (config config' : GroundConfig) : Prop :=
  GroundStep config config' ∧ ∀ origin : JobOrigin,
    origin.Taken config.state.database config'.state.database →
      ∀ thread process, config.threads thread = some process → ¬GoesOnToMark origin process

/-- No worker has a job, and none has finished it. -/
structure Untaken (db : Database) (job : TelemetryProcessingJob) : Prop where
  markable : Markable job
  unresolved : ∀ result ∈ db.processed, result.packetId ≠ job.packetId

/-- A stored job may be marked. -/
def MayMark (origin : JobOrigin) (ground : Ground) : Prop :=
  origin.Stored ground.database → ∀ job ∈ ground.database.jobs, job.jobId = origin.jobId →
    Untaken ground.database job

/-- A request to mark the job finds that it may be marked, in its row and as it is held. -/
def Request.Finds (origin : JobOrigin) (ground : Ground) : Request → Prop
  | .repository (.markJobQueued jobId _ _) held =>
      jobId = origin.jobId → origin.Sincere ground.database → MayMark origin ground ∧
        ∀ object, held.job = some object → object.jobId = jobId → Markable object
  | _ => True

/-- The job of a result is complete. -/
def ResultsClosed (db : Database) : Prop :=
  ∀ result ∈ db.processed, ∀ job ∈ db.jobs, job.packetId = result.packetId → job.state = .complete

/-- What a process may count on when it makes a request. -/
structure Justly (before : Ground) (request : Request) (reply : Except Failure request.Reply)
    (after : Ground) : Prop where
  closed : ResultsClosed before.database
  backed : TablesBacked before
  justified : before.Justifies (fun _ => True) request
  performed : ∃ uuid4 fault, before.perform uuid4 fault request = (reply, after)

/-- A service that provides for the marking of a job at every request. -/
abbrev Considers {α : Type} (origin : JobOrigin) (post : Except Failure α → Ground → Prop)
    (service : Service α) : Prop :=
  Provident (Request.Passes origin) Justly (Request.Finds origin) post service

/-- What a service comes to finds a job as it needs it. -/
abbrev FindsMarkable {α : Type} (origin : JobOrigin) (ground : Ground) (service : Service α) :
    Prop :=
  Provided (Request.Passes origin) (Request.Finds origin ground) (fun _ => True) service

section Rows
variable {origin : JobOrigin} {db : Database} {job : TelemetryProcessingJob}

/-- Every row fits a job that is stored. -/
theorem JobOrigin.Stored.fits (stored : origin.Stored db) (member : job ∈ db.jobs) :
    origin.Fits job := by
  -- The job under that identifier is the stored one, and it names the packet.
  intro same
  obtain ⟨⟨own, among, key, named⟩, -⟩ := stored
  rw [Table.eq_of_key member among (same.trans key.symm)]
  exact named

/-- The receipt of a stored job has a verdict. -/
theorem JobOrigin.Stored.settled (stored : origin.Stored db) (ledger : LooseLedger db)
    {receipt : TelemetryDeliveryReceipt} (present : receipt ∈ db.receipts)
    (same : receipt.receiptId = origin.receiptId) : receipt.validationStatus ≠ .pending := by
  -- The receipt is the source of the packet of the job, and a source is settled.
  obtain ⟨-, packet, among, -, source⟩ := stored
  obtain ⟨other, recorded, key, settled, -⟩ := (ledger.packets packet among).source
  obtain rfl : other = receipt :=
    Table.eq_of_key recorded present (key.trans (source.trans same.symm))
  exact settled

/-- A job that is stored after the tables have grown was stored before, if it was there. -/
theorem JobOrigin.Stored.earlier {after : Database} (stored : origin.Stored after)
    (grows : Retains db after) (ledger : LooseLedger db) (member : job ∈ db.jobs)
    (key : job.jobId = origin.jobId) : origin.Stored db := by
  obtain ⟨⟨row, among, owned, named⟩, packet, kept, packetNamed, source⟩ := stored
  obtain ⟨later, present, retains⟩ := grows.jobs job member
  obtain rfl : later = row :=
    Table.eq_of_key present among (retains.jobId.trans (key.trans owned.symm))
  have packetId : job.packetId = origin.packetId := retains.packetId.symm.trans named
  -- Packets do not change, so the packet of the job has had its source all along.
  obtain ⟨own, linked, link⟩ := (ledger.jobs job member).packet
  obtain rfl : own = packet := Table.eq_of_key (grows.packets own linked) kept
    (link.trans (packetId.trans packetNamed.symm))
  exact ⟨⟨job, member, key, packetId⟩, own, linked, packetNamed, source⟩

/-- What a job comes from it has come from at all earlier times. -/
theorem JobOrigin.Sincere.earlier {after : Database} (sincere : origin.Sincere after)
    (grows : Retains db after) (ledger : LooseLedger db) : origin.Sincere db := by
  -- The job is still there later, so what is known of it later was known before.
  intro job member key
  obtain ⟨later, among, retains⟩ := grows.jobs job member
  exact (sincere later among (retains.jobId.trans key)).earlier grows ledger member key

/-- Every job comes from a packet and its source. -/
theorem exists_sincere (ledger : LooseLedger db) (member : job ∈ db.jobs) :
    ∃ origin : JobOrigin, origin.jobId = job.jobId ∧ origin.Stored db ∧ origin.Sincere db := by
  -- The job, its packet and the source of the packet make up the origin.
  obtain ⟨packet, kept, link⟩ := (ledger.jobs job member).packet
  have stored : JobOrigin.Stored ⟨job.jobId, job.packetId, packet.sourceReceiptId⟩ db :=
    ⟨⟨job, member, rfl, rfl⟩, packet, kept, link, rfl⟩
  exact ⟨_, rfl, stored, fun _ _ _ => stored⟩

/-- A job that waits to be queued is with no worker. -/
theorem untaken_of_pending (ledger : LooseLedger db) (member : job ∈ db.jobs)
    (waiting : job.state = .pendingQueue) : Untaken db job := by
  -- A packet with a result has a job that was taken, and PENDING_QUEUE is before that.
  refine ⟨Or.inl waiting, fun result stored named => ?_⟩
  exact ledger.queued_of_result member (Table.get?_eq_some.mpr ⟨stored, named⟩) waiting

/-- A job that may be marked and is not complete has no result. -/
theorem untaken_of_markable (closed : ResultsClosed db) (member : job ∈ db.jobs)
    (markable : Markable job) : Untaken db job := by
  -- A result belongs to a job that was taken, and a job taken cannot be marked.
  refine ⟨markable, fun result stored named => markable.not_taken (Or.inr (Or.inl ?_))⟩
  exact closed result stored job member named.symm

/-- A job that is with no worker may be marked. -/
theorem mayMark_of_untaken {ground : Ground} (among : job ∈ ground.database.jobs)
    (key : job.jobId = origin.jobId) (untaken : Untaken ground.database job) :
    MayMark origin ground := by
  -- Keys are unique, so the job to be marked is this one.
  intro _ other member same
  rwa [Table.eq_of_key member among (same.trans key.symm)]

/-- Where a job comes from elsewhere, nothing is asked of its marks. -/
theorem finds_of_insincere {ground : Ground} (insincere : ¬origin.Sincere ground.database)
    (request : Request) : request.Finds origin ground := by
  -- An insincere origin is never looked for.
  unfold Request.Finds
  split
  · exact fun _ sincere => absurd sincere insincere
  · trivial

end Rows

section Steps
variable {origin : JobOrigin} {ground after : Ground} {request : Request}
variable {reply : Except Failure request.Reply}

/-- The tables stay backed, and lose nothing. -/
theorem Justly.onward (justly : Justly ground request reply after) :
    TablesBacked after ∧ Onward ground after := by
  -- The request was justified when it was made.
  obtain ⟨uuid4, fault, performed⟩ := justly.performed
  exact justly.backed.perform justly.justified performed

/-- A row after a repository call is new, or has gone through one step of a job. -/
theorem Justly.jobStep {call : RepoCall} {held : Held} {reply : Except Failure call.Reply}
    (justly : Justly ground (.repository call held) reply after) {row : TelemetryProcessingJob}
    (member : row ∈ after.database.jobs) :
    (∃ env, ∃ job ∈ ground.database.jobs, HeldJobStep env held call job row) ∨
      row.state = .pendingQueue := by
  -- A connection that fails before the call leaves every row as it was.
  obtain ⟨-, backed, ⟨allowed, loaded, -⟩, uuid4, fault, performed⟩ := justly
  rcases (perform_repository performed).1 with same | same
  · exact Or.inl ⟨⟨uuid4, 0⟩, row, same ▸ member, .kept call⟩
  · rw [same] at member
    rcases call.heldJobStep_of_mem allowed loaded backed.ledger member with
      ⟨job, stored, step⟩ | ⟨-, _, _, _, -, new⟩
    · exact Or.inl ⟨_, job, stored, step⟩
    · exact Or.inr (new ▸ rfl)

/-- A job that was not stored before a call may be marked after it. -/
theorem Justly.mayMark_of_unborn {call : RepoCall} {held : Held} {reply : Except Failure call.Reply}
    (justly : Justly ground (.repository call held) reply after)
    (unborn : ¬origin.Stored ground.database) : MayMark origin after := by
  -- Only a new row can be that of a job that was not stored, and new jobs wait to be queued.
  intro stored row member key
  obtain ⟨still, onward⟩ := justly.onward
  rcases justly.jobStep member with ⟨env, old, earlier, step⟩ | waiting
  · exact absurd (stored.earlier onward.1 justly.backed.ledger earlier
      (step.jobId.symm.trans key)) unborn
  · exact untaken_of_pending still.ledger member waiting

/-- A call that reads leaves the tables as they are. -/
theorem Justly.read {call : RepoCall} {reply : Except Failure call.Reply}
    (justly : Justly ground (.repository call {}) reply after)
    {answer : Surroundings → Database → call.Reply}
    (reads : ∀ env db, call.exec env db = (.ok (answer env db), db)) :
    after = ground ∧ ∃ env, ∀ value, reply = .ok value → value = answer env ground.database := by
  -- A reading call answers what its function says, unless its answer is lost.
  obtain ⟨-, -, -, uuid4, fault, performed⟩ := justly
  rw [perform, RepoCall.execHolding_empty, reads] at performed
  obtain ⟨same, answered⟩ := Fault.apply_cases performed
  refine ⟨same.elim id id, ⟨uuid4, ground.clock⟩, ?_⟩
  rintro value rfl
  rcases answered with lost | ⟨-, replied⟩
  · cases lost
  · exact Except.ok.inj replied

end Steps

section Acceptance
variable {origin : JobOrigin} {db : Database}

/-- An accepted receipt that is answered with a stored job is the source of that job's packet. -/
theorem replayedAcceptance_repeats (ledger : LooseLedger db) (stored : origin.Stored db)
    {object : TelemetryDeliveryReceipt} (backed : ReceiptBacked db object)
    (status : object.validationStatus = .accepted)
    (named : (replayedAcceptance object (object.logicalPacketId.bind db.packets.get?)
      (object.logicalPacketId.bind db.jobByPacket)).jobId = some origin.jobId) :
    object.receiptId = origin.receiptId ∧
      origin.Repeats (replayedAcceptance object (object.logicalPacketId.bind db.packets.get?)
        (object.logicalPacketId.bind db.jobByPacket)) := by
  -- The receipt leads to its packet and from there to the one job of it.
  obtain ⟨packet, kept, link, source⟩ := backed.accepted status
  obtain ⟨job, member, owner, search⟩ := ledger.jobOfPacket kept
  have known := named
  rw [link, Option.bind_some, Option.bind_some, search] at known
  have packetId := stored.fits member (Option.some.inj known)
  obtain ⟨-, first, among, packetNamed, comes⟩ := stored
  obtain rfl : packet = first :=
    Table.eq_of_key kept among (owner.symm.trans (packetId.trans packetNamed.symm))
  exact ⟨source.symm.trans comes, rfl, by simp [replayedAcceptance, status], named,
    link.trans (congrArg some packetNamed)⟩

/-- A job that an answer calls waiting waits. -/
theorem replayedAcceptance_waiting {object : TelemetryDeliveryReceipt}
    {packet : Option LogicalTelemetryPacket}
    (named : (replayedAcceptance object packet
      (object.logicalPacketId.bind db.jobByPacket)).jobId = some origin.jobId)
    (shown : (replayedAcceptance object packet
      (object.logicalPacketId.bind db.jobByPacket)).queueStatus = .pendingQueue) :
    ∃ job ∈ db.jobs, job.jobId = origin.jobId ∧ job.state = .pendingQueue := by
  -- The answer shows the state of the job that it names.
  obtain ⟨job, found, same⟩ := Option.map_eq_some_iff.mp named
  obtain ⟨packetId, -, search⟩ := Option.bind_eq_some_iff.mp found
  rw [replayedAcceptance, found] at shown
  exact ⟨job, (of_jobByPacket search).1, same, jobStateToQueueStatus_eq_pendingQueue.mp shown⟩

/-- A receipt that is settled anew leads to a job only while that waits to be queued. -/
theorem SettleOutcome.waiting (ledger : LooseLedger db) {receipt : TelemetryDeliveryReceipt}
    {values : DecodedTelemetryValues} {newId : UUID} {options : AcceptanceOptions}
    {outcome : Except StorageError PacketAcceptanceResult × Database}
    (settles : SettleOutcome db receipt values newId options outcome)
    {accepted : PacketAcceptanceResult} (answered : outcome.1 = .ok accepted)
    (agrees : accepted.conflict = false)
    (queues : accepted.duplicate = false ∨ accepted.queueStatus = .pendingQueue)
    (named : accepted.jobId = some origin.jobId) :
    ∃ job ∈ outcome.2.jobs, job.jobId = origin.jobId ∧ job.state = .pendingQueue := by
  -- A duplicate shows the state of the stored job, and an accepted packet has a new one.
  cases settles with
  | @duplicated existing source kept =>
    obtain ⟨job, member, owner, search⟩ := ledger.jobOfPacket kept
    cases answered
    rw [search] at named queues
    rcases queues with never | shown
    · cases never
    · exact ⟨job, member, Option.some.inj named, jobStateToQueueStatus_eq_pendingQueue.mp shown⟩
  | conflicted | stateConflicted =>
    cases answered
    cases agrees
  | integrity => cases answered
  | accepted unused tracked position packetAdmitted stateAdmitted jobAdmitted =>
    cases answered
    exact ⟨_, (Table.mem_insert jobAdmitted.1).mpr (Or.inr rfl), Option.some.inj named, rfl⟩

/-- A settled receipt leads to a waiting job, or is the accepted source of its packet. -/
theorem replayed_provides (ledger : LooseLedger db) (stored : origin.Stored db)
    {object : TelemetryDeliveryReceipt} (backed : ReceiptBacked db object)
    (status : object.validationStatus = .accepted ∨ object.validationStatus = .duplicate)
    {accepted : PacketAcceptanceResult}
    (answer : accepted = replayedAcceptance object (object.logicalPacketId.bind db.packets.get?)
      (object.logicalPacketId.bind db.jobByPacket))
    (queues : accepted.duplicate = false ∨ accepted.queueStatus = .pendingQueue)
    (named : accepted.jobId = some origin.jobId) :
    (∃ job ∈ db.jobs, job.jobId = origin.jobId ∧ job.state = .pendingQueue) ∨
      object.validationStatus = .accepted ∧ object.receiptId = origin.receiptId ∧
        origin.Repeats accepted := by
  -- A duplicate answers with the state of its job; an accepted receipt is the source of its packet.
  subst answer
  rcases status with status | status
  · obtain ⟨same, repeats⟩ := replayedAcceptance_repeats ledger stored backed status named
    exact Or.inr ⟨status, same, repeats⟩
  · rcases queues with never | shown
    · simp [replayedAcceptance, status] at never
    · exact Or.inl (replayedAcceptance_waiting named shown)

/-- An acceptance that leads to a stored job finds it waiting, or repeats what it has said of it. -/
theorem acceptPacketAndCreateJob_provides {env : Surroundings} {held : Held}
    (free : held.job = none) (loaded : held.Loaded db) (ledger : LooseLedger db)
    (stored : origin.Stored db) {receiptId : UUID} {values : DecodedTelemetryValues}
    {maxAttempts : Int} {actorIdentity : String} {accepted : PacketAcceptanceResult}
    (answered : ((RepoCall.acceptPacketAndCreateJob receiptId values maxAttempts
      actorIdentity).execHolding env held db).1 = .ok accepted)
    (agrees : accepted.conflict = false)
    (queues : accepted.duplicate = false ∨ accepted.queueStatus = .pendingQueue)
    (named : accepted.jobId = some origin.jobId) :
    (∃ job ∈ ((RepoCall.acceptPacketAndCreateJob receiptId values maxAttempts
      actorIdentity).execHolding env held db).2.jobs,
        job.jobId = origin.jobId ∧ job.state = .pendingQueue) ∨
      receiptId = origin.receiptId ∧ held.Repeatable receiptId ∧ origin.Repeats accepted := by
  -- What the session holds of the receipt is what it sees.
  have sees : ∀ {row : TelemetryDeliveryReceipt}, db.receipts.get? receiptId = some row →
      (held.seeReceipt row).validationStatus = .pending ∨
        (held.seeReceipt row).validationStatus = .accepted → held.Repeatable receiptId := by
    intro row found status object holds same
    obtain ⟨-, key⟩ := Table.get?_eq_some.mp found
    have seen : held.seeReceipt row = object := by
      rw [Held.seeReceipt, holds]
      exact if_pos (same.trans key.symm)
    exact seen ▸ status
  rcases acceptPacketAndCreateJob_held env free loaded receiptId values maxAttempts actorIdentity
    with ⟨_, failed, -⟩ | ⟨-, -, ⟨row, found, happened⟩ | ⟨⟨row, found, status⟩, happened⟩⟩
  · cases (congrArg Prod.fst failed).symm.trans answered
  all_goals
    obtain ⟨member, key⟩ := Table.get?_eq_some.mp found
    generalize (RepoCall.acceptPacketAndCreateJob receiptId values maxAttempts
      actorIdentity).execHolding env held db = outcome at happened answered ⊢
  · have backed := loaded.seeReceipt_backed ledger member
    have same : (held.seeReceipt row).receiptId = receiptId :=
      (held.seeReceipt_receiptId row).trans key
    cases happened with
    | replayed status =>
      rcases replayed_provides ledger stored backed status (Except.ok.inj answered).symm queues
        named with waiting | ⟨status, source, repeats⟩
      · exact Or.inl waiting
      · exact Or.inr ⟨same.symm.trans source, sees found (Or.inr status), repeats⟩
    | refused => cases answered
    | settled status settles =>
      exact Or.inl (settles.waiting ledger answered agrees queues named)
  · have backed := ledger.receipts row member
    cases happened with
    | missing | refused => cases answered
    | replayed other settled =>
      obtain rfl := Option.some.inj (found.symm.trans other)
      rcases replayed_provides ledger stored backed settled (Except.ok.inj answered).symm queues
        named with waiting | ⟨-, source, repeats⟩
      · exact Or.inl waiting
      · exact Or.inr ⟨key.symm.trans source, sees found (Or.inl status), repeats⟩
    | settled other pending settles =>
      exact Or.inl (settles.waiting ledger answered agrees queues named)

end Acceptance

section Reads
variable {α : Type} {origin : JobOrigin} {ground after : Ground}

/-- Whoever queues a stored job that may not be marked misses something. -/
theorem queueOne_ahead (backed : TablesBacked ground) {job : TelemetryProcessingJob}
    (member : job ∈ ground.database.jobs) (sincere : origin.Sincere ground.database)
    (same : job.jobId = origin.jobId) (taken : ¬Markable job)
    (object : Option TelemetryProcessingJob) :
    (queueOne job.jobId job.packetId object).Ahead (Request.Passes origin)
      fun wanted => ¬wanted.Finds origin ground := by
  -- The reference of a stored job can be made, so the mark is reached.
  obtain ⟨packet, kept, link⟩ := (backed.ledger.jobs job member).packet
  have made := QueueMessage.new_eq_ok job.jobId (link ▸ backed.packetId_wellFormed kept)
  rw [queueOne, made]
  refine Or.inr ⟨.ok true, trivial, Or.inl fun finds => taken ?_⟩
  exact ((finds same sincere).1 (sincere job member same) job member same).markable

/-- Where nothing is missed, a stored job that is read to be queued may be marked. -/
theorem markable_of_nothing (backed : TablesBacked ground) {job : TelemetryProcessingJob}
    (member : job ∈ ground.database.jobs) (sincere : origin.Sincere ground.database)
    (same : job.jobId = origin.jobId) {call : RepoCall} {rest : call.Reply → Service α}
    {value : call.Reply} (passed : (Request.repository call {}).Passes origin (.ok value))
    {object : Option TelemetryProcessingJob} {more : Bool → Service α}
    (sequel : rest value = queueOne job.jobId job.packetId object >>= more)
    (nothing : ¬(callRepository call >>= rest).Ahead (Request.Passes origin)
      fun wanted => ¬wanted.Finds origin ground) : Markable job := by
  -- If the job were taken its reader would go on to a mark that misses it.
  by_contra taken
  refine nothing (Or.inr ⟨.ok value, passed, ?_⟩)
  show (rest value).Ahead _ _
  rw [sequel]
  exact (queueOne_ahead backed member sincere same taken object).bind more

/-- A job that is read by its identifier lets its reader pass, unless it is of no concern. -/
theorem getJob_passes {jobId : UUID} {found : Option TelemetryProcessingJob}
    (justly : Justly ground (.repository (.getJob jobId) {}) (.ok found) after)
    {rest : Option TelemetryProcessingJob → Service α}
    (sequel : ∀ job, ∃ more, rest (some job) = queueOne job.jobId job.packetId (some job) >>= more)
    (nothing : ¬(callRepository (.getJob jobId) >>= rest).Ahead (Request.Passes origin)
      fun wanted => ¬wanted.Finds origin ground) :
    (Request.repository (.getJob jobId) {}).Passes origin (.ok found) ∨
      ∀ request : Request, request.Finds origin after := by
  obtain ⟨rfl, -, read⟩ := justly.read (fun _ _ => rfl)
  by_cases sincere : origin.Sincere after.database
  · refine Or.inl fun job same => ?_
    cases same
    obtain ⟨member, key⟩ := Table.get?_eq_some.mp (read _ rfl).symm
    have fits : origin.Fits job := fun own => (sincere job member own).fits member own
    refine ⟨key, fits, fun own => ?_⟩
    -- The same job might have been read while it waits.
    obtain ⟨more, same⟩ := sequel { job with state := .pendingQueue }
    have passed : (Request.repository (.getJob jobId) {}).Passes origin
        (.ok (some { job with state := .pendingQueue })) := by
      intro other equal
      cases equal
      exact ⟨key, fits, fun _ => Or.inl rfl⟩
    exact markable_of_nothing justly.backed member sincere own passed same nothing
  · exact Or.inr (finds_of_insincere sincere)

/-- A job that is read by its packet lets its reader pass, unless it is of no concern. -/
theorem getJobForPacket_passes {packetId : String} {found : Option TelemetryProcessingJob}
    (justly : Justly ground (.repository (.getJobForPacket packetId) {}) (.ok found) after)
    {rest : Option TelemetryProcessingJob → Service α}
    (sequel : ∀ job, ∃ more, rest (some job) = queueOne job.jobId job.packetId (some job) >>= more)
    (nothing : ¬(callRepository (.getJobForPacket packetId) >>= rest).Ahead (Request.Passes origin)
      fun wanted => ¬wanted.Finds origin ground) :
    (Request.repository (.getJobForPacket packetId) {}).Passes origin (.ok found) ∨
      ∀ request : Request, request.Finds origin after := by
  -- Where the tables tell the truth of the job its reader may mark it; elsewhere nothing is asked
  -- of marks.
  obtain ⟨rfl, -, read⟩ := justly.read (fun _ _ => rfl)
  by_cases sincere : origin.Sincere after.database
  · refine Or.inl fun job same => ?_
    cases same
    obtain ⟨member, named⟩ := of_jobByPacket (read _ rfl).symm
    have fits : origin.Fits job := fun own => (sincere job member own).fits member own
    refine ⟨named, fits, fun own => ?_⟩
    obtain ⟨more, same⟩ := sequel { job with state := .pendingQueue }
    have passed : (Request.repository (.getJobForPacket packetId) {}).Passes origin
        (.ok (some { job with state := .pendingQueue })) := by
      intro other equal
      cases equal
      exact ⟨named, fits, fun _ => Or.inl rfl⟩
    exact markable_of_nothing justly.backed member sincere own passed same nothing
  · exact Or.inr (finds_of_insincere sincere)

/-- An acceptance lets its process pass, or provides for the answer to it. -/
theorem accept_provides {receiptId : UUID} {values : DecodedTelemetryValues} {maxAttempts : Int}
    {actorIdentity : String} {held : Held} {reply : Except Failure PacketAcceptanceResult}
    (justly : Justly ground (.repository (.acceptPacketAndCreateJob receiptId values maxAttempts
      actorIdentity) held) reply after) :
    (Request.repository (.acceptPacketAndCreateJob receiptId values maxAttempts
      actorIdentity) held).Passes origin reply ∨
    ∀ accepted, reply = .ok accepted → accepted.conflict = false →
      accepted.duplicate = false ∨ accepted.queueStatus = .pendingQueue →
      accepted.jobId = some origin.jobId → MayMark origin after := by
  by_cases stored : origin.Stored ground.database
  · by_contra neither
    obtain ⟨bars, misses⟩ := not_or.mp neither
    refine misses fun accepted answered agrees queues named => ?_
    subst answered
    have still := justly.onward.1
    obtain ⟨-, backed, ⟨allowed, loaded, -⟩, uuid4, fault, performed⟩ := justly
    have happened := exec_of_perform performed
    -- Either the job waits in the tables that the call leaves, or the answer lets the process pass.
    rcases acceptPacketAndCreateJob_provides allowed loaded backed.ledger stored
      (congrArg Prod.fst happened) agrees queues named with ⟨job, member, key, waiting⟩ | passed
    · rw [happened] at member
      exact mayMark_of_untaken member key (untaken_of_pending still.ledger member waiting)
    · refine absurd ⟨passed.1, passed.2.1, fun other same => ?_⟩ bars
      cases same
      exact passed.2.2
  · exact Or.inr fun _ _ _ _ _ => justly.mayMark_of_unborn stored

/-- A receipt that a replay goes on with leads to a job that may be marked. -/
theorem receipt_provides (backed : TablesBacked ground) {receipt : TelemetryDeliveryReceipt}
    (present : receipt ∈ ground.database.receipts) (unanswered : answerReplay receipt = none) :
    (unqueuedPacket receipt = some origin.packetId → MayMark origin ground) ∧
    (unqueuedPacket receipt = none → receipt.receiptId = origin.receiptId →
      ({ receipt := some receipt } : Held).Repeatable receipt.receiptId →
        MayMark origin ground) := by
  -- The queue status of an accepted receipt follows its job.
  have ledger := backed.ledger
  constructor
  · intro unqueued stored
    obtain ⟨job, member, key, named⟩ := stored.1
    rw [unqueuedPacket] at unqueued
    split_ifs at unqueued with waiting
    have shown := ledger.queueStatus receipt present waiting.1 job member (named ▸ unqueued)
    have state := jobStateToQueueStatus_eq_pendingQueue.mp (shown.symm.trans waiting.2)
    exact mayMark_of_untaken member key (untaken_of_pending ledger member state) stored
  · intro nothing same repeatable stored
    rcases repeatable receipt rfl rfl with status | status
    · exact absurd status (stored.settled ledger present same)
    · -- An accepted receipt would have been answered, or queued again with its packet.
      obtain ⟨packet, kept, link, -⟩ := (ledger.receipts receipt present).accepted status
      obtain ⟨job, member, owner, -⟩ := ledger.jobOfPacket kept
      have shown := ledger.queueStatus receipt present status job member (owner ▸ link)
      rw [jobStateToQueueStatus] at shown
      split_ifs at shown with state
      · simp [unqueuedPacket, status, shown, link] at nothing
      · simp [answerReplay, status, shown] at unanswered

/-- A delivery that is neither a replay nor a conflict is recorded as pending. -/
theorem RecordOutcome.pending {db : Database} {delivery : Delivery} {receiptId : UUID}
    {outcome : Except StorageError DeliveryRecordResult × Database}
    (happened : RecordOutcome db delivery receiptId outcome) {result : DeliveryRecordResult}
    (answered : outcome.1 = .ok result) (agrees : result.requestConflict = false)
    (new : result.requestReplay = false) : ∃ receipt ∈ outcome.2.receipts,
      receipt.receiptId = result.receiptId ∧ receipt.validationStatus = .pending := by
  -- A receipt that is neither a replay nor a conflict is a new row.
  cases happened with
  | anonymous _ admitted | first _ admitted =>
    cases answered
    exact ⟨_, (Table.mem_insert admitted.1).mpr (Or.inr rfl), rfl, rfl⟩
  | replay =>
    cases answered
    cases new
  | reused =>
    cases answered
    cases agrees
  | integrity | dangling => cases answered

/-- A receipt that was just recorded has no job yet. -/
theorem record_unstored {delivery : Delivery} {result : DeliveryRecordResult}
    (justly : Justly ground (.repository (.recordDelivery delivery none) {}) (.ok result) after)
    (agrees : result.requestConflict = false) (new : result.requestReplay = false)
    (same : result.receiptId = origin.receiptId) : ¬origin.Stored after.database := by
  intro stored
  have ledger := justly.onward.1.ledger
  obtain ⟨-, -, -, uuid4, fault, performed⟩ := justly
  have recorded := exec_of_perform performed
  rw [RepoCall.execHolding_empty, RepoCall.exec, RepoCall.program] at recorded
  rcases recordDelivery_serially delivery none uuid4 ground.database with
    ⟨message, failed⟩ | ⟨attempt, happened⟩
  · cases failed.symm.trans recorded
  · -- The new row is pending, and the receipt of a stored job is not.
    rw [recorded] at happened
    obtain ⟨row, added, key, pending⟩ := happened.pending rfl agrees new
    exact stored.settled ledger added (key.trans same) pending

end Reads

section Walks
variable {origin : JobOrigin} {ground : Ground}

/-- A repository call finds what it needs. -/
theorem finds_repository (call : RepoCall) (held : Held) {fit : Request → Prop}
    {post : Except Failure call.Reply → Prop} (now : fit (.repository call held))
    (reached : ∀ reply, (Request.repository call held).Passes origin reply → post reply) :
    Provided (Request.Passes origin) fit post (callRepository call held) :=
  .call now reached

/-- A queue operation finds what it needs. -/
theorem finds_queue (call : QueueCall) {post : Except Failure call.Reply → Prop}
    (reached : ∀ reply, (Request.queue call).Passes origin reply → post reply) :
    Provided (Request.Passes origin) (Request.Finds origin ground) post (callQueue call) :=
  .call trivial reached

/-- Whoever queues a job needs it to be markable, in its row and as it is held. -/
theorem queueOne_finds {jobId : UUID} {packetId : String} {object : Option TelemetryProcessingJob}
    (ready : jobId = origin.jobId → MayMark origin ground)
    (holds : jobId = origin.jobId → ∀ job, object = some job → Markable job) :
    FindsMarkable origin ground (queueOne jobId packetId object) := by
  -- The mark is the only request that asks for anything.
  unfold queueOne
  split
  next => exact .raise trivial
  next message valid =>
    refine .bind (finds_queue (.enqueue message) fun reply _ => ?_)
    cases reply with
    | error failure => trivial
    | ok fresh =>
      exact finds_repository (.markJobQueued jobId jobId.str "ground-api") { job := object }
        (fun same _ => ⟨ready same, fun job held _ => holds same job held⟩) fun _ _ => trivial

/-- Queueing a job lets its process pass throughout. -/
theorem queueOne_passes (jobId : UUID) (packetId : String)
    (object : Option TelemetryProcessingJob) : (queueOne jobId packetId object).Only
      fun request => ∀ reply, request.Passes origin reply := by
  -- It enqueues and marks, and neither request reads a job.
  unfold queueOne
  split
  · trivial
  · exact .bind (.call fun _ => trivial) fun _ => .call fun _ => trivial

/-- The recovery needs every job of its list to be markable. -/
theorem recoverJobs_finds {jobIds : List UUID}
    (ready : origin.jobId ∈ jobIds → MayMark origin ground) :
    FindsMarkable origin ground (recoverJobs jobIds) := by
  -- By induction on the list: each job is read, queued and left behind.
  induction jobIds with
  | nil => exact .done trivial
  | cons jobId rest ih =>
    have later := ih fun among => ready (List.mem_cons_of_mem _ among)
    refine .bind (finds_repository _ _ trivial fun reply passed => ?_)
    rcases reply with failure | found
    · trivial
    · cases found with
      | none => exact later
      | some job =>
        obtain ⟨key, -, markable⟩ := passed job rfl
        refine .bind ((queueOne_finds (fun same => ready ?_) fun same other held => ?_).weaken
          fun outcome _ => ?_)
        · rw [← same, key]
          exact List.mem_cons_self
        · cases held
          exact markable same
        · cases outcome with
          | error failure => trivial
          | ok transitioned =>
            refine .bind (later.weaken fun outcome _ => ?_)
            cases outcome <;> first | trivial | exact .done trivial

/-- The recovery reads only what it was told to. -/
theorem recoverJobs_considers (jobIds : List UUID) :
    Considers origin (fun _ _ => True) (recoverJobs jobIds) := by
  -- By induction on the list; what is read of a job is passed on to its queueing.
  induction jobIds with
  | nil => trivial
  | cons jobId rest ih =>
    refine .call_bind (fun before found reached justly nothing => ?_)
      (fun _ _ _ _ => Or.inl fun _ same => by cases same) fun found => ?_
    · exact (getJob_passes justly (fun job => ⟨_, rfl⟩) nothing).imp_right .of_fit
    · cases found with
      | none => exact ih
      | some job =>
        refine .bind (.of_passing (queueOne_passes _ _ _)) fun _ =>
          .bind (ih.weaken fun outcome _ _ => ?_) fun _ => trivial
        cases outcome <;> first | trivial | exact .done trivial

/-- A replayed receipt needs the job of its packet to be markable. -/
theorem requeueReceipt_finds {receipt : TelemetryDeliveryReceipt} {packetId : String}
    (ready : packetId = origin.packetId → MayMark origin ground) :
    FindsMarkable origin ground (requeueReceipt receipt packetId) := by
  -- The job is read by its packet, which leads to the job in question only.
  refine .bind (finds_repository _ _ trivial fun reply passed => ?_)
  rcases reply with failure | found
  · trivial
  · cases found with
    | none => exact .raise trivial
    | some job =>
      obtain ⟨named, fits, markable⟩ := passed job rfl
      refine .bind ((queueOne_finds (fun same => ready ?_) fun same other held => ?_).weaken
        fun outcome _ => ?_)
      · exact named.symm.trans (fits same)
      · cases held
        exact markable same
      · cases outcome <;> first | trivial | exact .done trivial

/-- A replayed receipt is queued again with the job that is read. -/
theorem requeueReceipt_considers (receipt : TelemetryDeliveryReceipt) (packetId : String) :
    Considers origin (fun _ _ => True) (requeueReceipt receipt packetId) := by
  -- The only reading request is the search for the job of the packet.
  refine .call_bind (fun before found reached justly nothing => ?_)
    (fun _ _ _ _ => Or.inl fun _ same => by cases same) fun found => ?_
  · exact (getJobForPacket_passes justly (fun job => ⟨_, rfl⟩) nothing).imp_right .of_fit
  · cases found with
    | none => trivial
    | some job => exact .bind (.of_passing (queueOne_passes _ _ _)) fun _ => trivial

/-- An acceptance needs its job to be markable unless it conflicts or is a queued duplicate. -/
theorem answerAcceptance_finds {accepted : PacketAcceptanceResult}
    (ready : accepted.conflict = false →
      accepted.duplicate = false ∨ accepted.queueStatus = .pendingQueue →
      accepted.jobId = some origin.jobId → MayMark origin ground) :
    FindsMarkable origin ground (answerAcceptance accepted) := by
  -- The job is queued for a first acceptance, and for a duplicate whose job still waits.
  rw [answerAcceptance]
  dsimp only
  split_ifs with conflict duplicate
  · exact .done trivial
  · split
    next status job packet =>
      refine .bind ((queueOne_finds (fun same => ?_) fun _ _ held => by cases held).weaken
        fun outcome _ => ?_)
      · exact ready (Bool.eq_false_of_not_eq_true conflict) (Or.inr status) (same ▸ job)
      · cases outcome <;> first | trivial | exact .done trivial
    next => exact .done trivial
  · split
    next job packet =>
      refine .bind ((queueOne_finds (fun same => ?_) fun _ _ held => by cases held).weaken
        fun outcome _ => ?_)
      · exact ready (Bool.eq_false_of_not_eq_true conflict)
          (Or.inl (Bool.eq_false_of_not_eq_true duplicate)) (same ▸ job)
      · cases outcome <;> first | trivial | exact .done trivial
    next => exact .raise trivial

/-- The answer to an acceptance lets its process pass throughout. -/
theorem answerAcceptance_passes (accepted : PacketAcceptanceResult) :
    (answerAcceptance accepted).Only fun request => ∀ reply, request.Passes origin reply := by
  -- The job is queued under either disposition, or not at all.
  rw [answerAcceptance]
  dsimp only
  split_ifs
  · trivial
  · split
    · exact .bind (queueOne_passes _ _ _) fun _ => trivial
    · trivial
  · split
    · exact .bind (queueOne_passes _ _ _) fun _ => trivial
    · trivial

/-- A delivery that is validated needs the job of its receipt to be markable. -/
theorem validateDelivery_finds {settings : GroundSettings} {receiptId : UUID} {rawBody : Bytes}
    {receivedAt : Time} {existing : Option TelemetryDeliveryReceipt}
    (ready : receiptId = origin.receiptId →
      ({ receipt := existing } : Held).Repeatable receiptId → MayMark origin ground) :
    FindsMarkable origin ground
      (validateDelivery settings receiptId rawBody receivedAt existing) := by
  -- A rejection leads to no mark; an acceptance leads to one when its answer names the job.
  unfold validateDelivery
  split
  · exact .bind (finds_repository _ _ trivial fun _ passed => passed.elim)
  · exact .raise trivial
  · refine .bind (finds_repository _ _ trivial fun reply passed => ?_)
    rcases reply with failure | accepted
    · trivial
    · exact answerAcceptance_finds fun _ _ _ => ready passed.1 passed.2.1

/-- A verdict concerns no mark. -/
theorem rejectDelivery_considers (receiptId : UUID) (reason : String)
    (existing : Option TelemetryDeliveryReceipt) (response : DeliveryRecordResult → Response) :
    Considers origin (fun _ _ => True) (do
      let rejected ← callRepository (.rejectDelivery receiptId reason none "ground-api")
        { receipt := existing }
      return response rejected : Service Response) :=
  .of_only (.bind (.call fun _ => trivial) fun _ => trivial)

/-- A validation provides for the job of its acceptance. -/
theorem validateDelivery_considers (settings : GroundSettings) (receiptId : UUID) (rawBody : Bytes)
    (receivedAt : Time) (existing : Option TelemetryDeliveryReceipt) :
    Considers origin (fun _ _ => True)
      (validateDelivery settings receiptId rawBody receivedAt existing) := by
  -- Only an accepted frame goes on to a job.
  unfold validateDelivery
  split
  · exact rejectDelivery_considers _ _ _ _
  · trivial
  · refine .bind (.call fun before reply after justly => ?_)
      fun accepted => .of_passing (answerAcceptance_passes accepted)
    refine (accept_provides justly).imp_right fun ready => ?_
    cases reply with
    | error failure => trivial
    | ok accepted => exact answerAcceptance_finds (ready accepted rfl)

/-- A checked delivery needs what its receipt leads to. -/
theorem checkDelivery_finds {settings : GroundSettings} {vendor : VendorRequest} {rawBody : Bytes}
    {receivedAt : Time} {receiptId : UUID} {existing : Option TelemetryDeliveryReceipt}
    (waiting : existing.bind unqueuedPacket = some origin.packetId → MayMark origin ground)
    (fresh : existing.bind unqueuedPacket = none → receiptId = origin.receiptId →
      ({ receipt := existing } : Held).Repeatable receiptId → MayMark origin ground) :
    FindsMarkable origin ground
      (checkDelivery settings vendor rawBody receivedAt receiptId existing) := by
  -- A receipt goes on to its waiting packet, or else to its validation.
  unfold checkDelivery
  split_ifs
  · exact .bind (finds_repository _ _ trivial fun _ passed => passed.elim)
  · exact .bind (finds_repository _ _ trivial fun _ passed => passed.elim)
  · split
    next receipt packetId unqueued =>
      exact requeueReceipt_finds fun same => waiting (unqueued.trans (congrArg some same))
    next nothing =>
      refine validateDelivery_finds fun same => fresh ?_ same
      refine Option.eq_none_iff_forall_ne_some.mpr fun packetId found => ?_
      obtain ⟨receipt, given, -⟩ := Option.bind_eq_some_iff.mp found
      exact nothing receipt packetId given found

/-- A check provides for the job that its receipt leads to. -/
theorem checkDelivery_considers (settings : GroundSettings) (vendor : VendorRequest)
    (rawBody : Bytes) (receivedAt : Time) (receiptId : UUID)
    (existing : Option TelemetryDeliveryReceipt) :
    Considers origin (fun _ _ => True)
      (checkDelivery settings vendor rawBody receivedAt receiptId existing) := by
  -- Neither rejection leads to a mark.
  unfold checkDelivery
  split_ifs
  · exact rejectDelivery_considers _ _ _ _
  · exact rejectDelivery_considers _ _ _ _
  · split
    · exact requeueReceipt_considers _ _
    · exact validateDelivery_considers _ _ _ _ _

/-- A receipt that a replay finds is stored in backed tables. -/
theorem replayedReceipt_considers {delivery : DeliveryRecordResult} :
    Considers origin (fun outcome ground => ∀ existing, outcome = .ok existing →
      ∃ receipt ∈ ground.database.receipts, existing = some receipt ∧
        receipt.receiptId = delivery.receiptId ∧ TablesBacked ground)
      (replayedReceipt delivery) := by
  -- Reading the receipt leaves the tables as they are.
  unfold replayedReceipt
  split_ifs with replay
  · refine .bind (.call fun before reply after justly => Or.inr ?_)
      fun found => by cases found <;> trivial
    rcases reply with failure | found
    · exact fun _ same => by cases same
    · obtain ⟨rfl, -, read⟩ := justly.read (fun _ _ => rfl)
      cases found with
      | none => exact .raise fun _ same => by cases same
      | some receipt =>
        refine .done fun _ same => ?_
        cases same
        obtain ⟨present, key⟩ := Table.get?_eq_some.mp (read _ rfl).symm
        exact ⟨receipt, present, rfl, key, justly.backed⟩
  · trivial

/-- A handler provides for its job from the delivery to the answer. -/
theorem deliver_considers (settings : GroundSettings) (vendor : VendorRequest) (rawBody : Bytes)
    (receivedAt : Time) :
    Considers origin (fun _ _ => True) (deliver settings vendor rawBody receivedAt) := by
  -- A new receipt has no job yet, and a replayed one is read in full before it is checked.
  refine .bind (.call fun before reply after justly => Or.inr ?_) fun delivery => ?_
  · rcases reply with failure | delivery
    · trivial
    · dsimp only
      split_ifs with conflict
      · exact .done trivial
      · refine .bind ?_
        rw [replayedReceipt]
        split_ifs with replay
        · exact .bind (finds_repository _ _ trivial fun _ passed => passed.elim)
        · refine .done (checkDelivery_finds (fun waiting => by cases waiting)
            fun _ same _ stored => ?_)
          exact absurd stored (record_unstored justly (Bool.eq_false_of_not_eq_true conflict)
            (Bool.eq_false_of_not_eq_true replay) same)
  · split_ifs with conflict
    · trivial
    · refine .bind (replayedReceipt_considers.weaken fun outcome ground found => ?_)
        fun existing => ?_
      · rcases outcome with failure | existing
        · trivial
        · obtain ⟨receipt, present, rfl, key, backed⟩ := found existing rfl
          dsimp only [Option.bind_some]
          split
          next => exact .done trivial
          next unanswered =>
            obtain ⟨waiting, fresh⟩ := receipt_provides backed present unanswered
            exact checkDelivery_finds waiting fun nothing same repeatable =>
              fresh nothing (key.trans same) (key.symm ▸ repeatable)
      · split
        · trivial
        · exact checkDelivery_considers _ _ _ _ _ _

/-- An audit event concerns no mark. -/
theorem auditSafely_finds (event : TelemetryAuditEvent) :
    (auditSafely event).Only fun request => ∀ ground, request.Finds origin ground := by
  -- The one request writes an audit event.
  refine .tryCatch (.bind (.call fun _ => trivial) fun _ => trivial) fun failure => ?_
  split_ifs <;> trivial

/-- A request handler provides for its job. -/
theorem receivePayloadData_considers (settings : GroundSettings) (vendor : VendorRequest) :
    Considers origin (fun _ _ => True) (receivePayloadData settings vendor) := by
  -- Only a delivery with a body comes to a job; refusals write audit events.
  have refuses : Considers origin (fun _ _ => True) (refuseVendor vendor) :=
    .of_only (.bind (auditSafely_finds _) fun _ => trivial)
  rw [receivePayloadData]
  split
  · exact refuses
  · split
    · trivial
    · rw [receiveAuthenticated]
      split
      · exact .of_only (.bind (auditSafely_finds _) fun _ => trivial)
      · refine .bind (.call fun before reply after justly => Or.inr ?_) fun receivedAt =>
          .tryCatch ((deliver_considers _ _ _ _).weaken fun outcome ground _ => ?_) fun failure => ?_
        · rcases reply with failure | receivedAt
          · trivial
          · exact .tryCatch (.bind (finds_repository _ _ trivial fun _ passed => passed.elim))
        · cases outcome with
          | ok response => trivial
          | error failure =>
            dsimp only
            rw [answerUnavailable]
            split_ifs <;> first | exact .done trivial | exact .raise trivial
        · rw [answerUnavailable]
          split_ifs <;> trivial
    · exact refuses

/-- The recovery at start-up provides for the jobs that its query returns. -/
theorem recoverPendingJobs_considers :
    Considers origin (fun _ _ => True) recoverPendingJobs := by
  -- The list holds jobs that a mark is permitted for when the query runs.
  refine .bind (.call fun before reply after justly => Or.inr ?_) recoverJobs_considers
  rcases reply with failure | jobIds
  · trivial
  · refine recoverJobs_finds fun among => ?_
    obtain ⟨rfl, env, read⟩ := justly.read recoverableQueueJobs_exec
    obtain rfl := read _ rfl
    obtain ⟨job, stored, key, recoverable⟩ := (recoveredJobs_spec _ _).2.2 _ among
    have markable := markable_of_recoverable justly.backed.ledger stored
      (justly.backed.named job stored) recoverable
    exact mayMark_of_untaken stored key (untaken_of_markable justly.closed stored markable)

/-- A worker marks no job. -/
theorem finds_of_fromWorker {request : Request} (worker : request.fromWorker = true)
    (ground : Ground) : request.Finds origin ground := by
  -- A worker marks no job as queued.
  cases request with
  | clock | queue call => trivial
  | repository call =>
    cases call with
    | markJobQueued => cases worker
    | _ => trivial

/-- Every process provides for the jobs it goes on to mark. -/
theorem Process.considers (process : Process) :
    Considers origin (fun _ _ => True) process.program := by
  -- A worker never marks a job, and the other processes read what they mark.
  cases process with
  | gateway settings vendor =>
    refine .bind ((receivePayloadData_considers settings vendor).weaken fun outcome _ _ => ?_)
      fun _ => trivial
    cases outcome <;> first | trivial | exact .done trivial
  | startup =>
    refine .bind (recoverPendingJobs_considers.weaken fun outcome _ _ => ?_) fun _ => trivial
    cases outcome <;> first | trivial | exact .done trivial
  | worker workerId iterations =>
    refine .of_only (.bind ((runWorker_fromWorker workerId iterations).mono ?_) fun _ => trivial)
    exact fun request worker => finds_of_fromWorker worker

/-- No process starts with a job to mark. -/
theorem Process.finds (process : Process) : FindsMarkable origin ground process.program := by
  cases process with
  | gateway settings vendor =>
    -- The first request of a handler lets nothing pass.
    have refuses : ∀ event (response : Response), FindsMarkable origin ground
        (do auditSafely event; return response : Service Response) := fun event response =>
      .bind (.tryCatch (.bind (finds_repository _ _ trivial fun _ passed => passed.elim)))
    have starts : FindsMarkable origin ground (receivePayloadData settings vendor) := by
      rw [receivePayloadData]
      split
      · exact refuses _ _
      · split
        · exact .raise trivial
        · rw [receiveAuthenticated]
          split
          · exact refuses _ _
          · exact .bind (.barred Request.clock trivial fun _ => id)
        · exact refuses _ _
    refine .bind (starts.weaken fun outcome _ => ?_)
    cases outcome <;> first | trivial | exact .done trivial
  | startup =>
    exact .bind (.bind (finds_repository _ _ trivial fun _ passed => passed.elim))
  | worker workerId iterations =>
    exact .bind (.bind (finds_queue _ fun _ passed => passed.elim))

end Walks

end Cislunar
