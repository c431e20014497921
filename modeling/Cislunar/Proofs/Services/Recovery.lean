import Cislunar.Proofs.Services.Agreement
import Cislunar.Proofs.Services.Loaded
import Cislunar.Proofs.Telemetry.PacketId

/-!
What the recovery at start-up makes of a queue that has lost all of its keys.

The recovery never fails, and it brings back one reference for each job that its query returns. The
query leaves out jobs whose worker has stopped, and everything beyond its limit.
-/

namespace Cislunar

open Foundation Ground

/-- Decoded values have an identifier that the queue takes. -/
theorem Ground.Decoded.packetId_wellFormed {ground : Ground} {rawBody : Bytes}
    {values : DecodedTelemetryValues} (decoded : ground.Decoded rawBody values) :
    packetIdComplaint values.packetId = none := by
  -- The numbers of a decoded frame are in the ranges that the format can print.
  obtain ⟨time, frame, -, decodes, rfl⟩ := decoded
  obtain ⟨⟨valid, -⟩, -⟩ := decodeTelemetry_eq_ok.mp decodes
  show packetIdComplaint (packetIdText frame.payloadId frame.bootId frame.sequenceNumber) = none
  rw [valid.payload]
  exact packetIdComplaint_packetIdText (by decide) ⟨by linarith [valid.boot.1], valid.boot.2⟩
    valid.sequence

/-- Every stored packet has an identifier that the queue takes. -/
theorem TablesBacked.packetId_wellFormed {ground : Ground} (backed : TablesBacked ground)
    {packet : LogicalTelemetryPacket} (member : packet ∈ ground.database.packets) :
    packetIdComplaint packet.packetId = none := by
  -- The identifier is that of decoded values.
  obtain ⟨rawBody, -, decoded⟩ := backed.decoded packet member
  rw [(backed.ledger.packets packet member).identifier]
  exact decoded.packetId_wellFormed

/-- A row that allows the transition to `QUEUED`, or has made it under the name of its job. -/
def Markable (job : TelemetryProcessingJob) : Prop :=
  job.state = .pendingQueue ∨ job.state = .retryWait ∨
    job.state = .queued ∧ job.queueMessageId = some job.jobId.str

/-- A markable job is with no worker, and not over. -/
theorem Markable.not_taken {job : TelemetryProcessingJob} (markable : Markable job) :
    ¬(job.state = .processing ∨ job.state = .complete ∨ job.state = .failed) := by
  -- None of the markable states is one of a job that was taken.
  rcases markable with state | state | ⟨state, -⟩ <;> simp [state]

/-- A markable job is marked, or was marked before. -/
theorem QueueOutcome.of_markable {db : Database} {job : TelemetryProcessingJob}
    {actorIdentity : String} {outcome : Except StorageError Bool × Database}
    (happened : QueueOutcome db job.jobId job.jobId.str actorIdentity outcome)
    (stored : job ∈ db.jobs) (markable : Markable job) :
    job.state = .queued ∧ outcome = (.ok false, db) ∨
      (job.state = .pendingQueue ∨ job.state = .retryWait) ∧
        outcome = (.ok true, db.queue job job.jobId.str actorIdentity) := by
  have own : db.jobs.get? job.jobId = some job := Table.get?_key stored
  -- The row that the call finds is the stored one, so its state decides.
  cases happened with
  | missing absent => cases own.symm.trans absent
  | repeated found status =>
    cases own.symm.trans found
    exact Or.inl ⟨status, rfl⟩
  | renamed found status different =>
    cases own.symm.trans found
    rcases markable with state | state | ⟨-, named⟩
    · simp [status] at state
    · simp [status] at state
    · exact absurd named different
  | refused found status =>
    cases own.symm.trans found
    exact absurd status markable.not_taken
  | queued found status =>
    cases own.symm.trans found
    exact Or.inr ⟨status, rfl⟩

/-- Jobs with their identifiers, and whether they are open. -/
def openJobs (db : Database) : List (UUID × Bool) :=
  db.jobs.rows.map fun job => (job.jobId, job.isOpen)

/-- An open job stays open when it is marked. -/
theorem openJobs_queue {db : Database} {job : TelemetryProcessingJob} (stored : job ∈ db.jobs)
    (opened : job.isOpen = true) (queueMessageId actorIdentity : String) :
    openJobs (db.queue job queueMessageId actorIdentity) = openJobs db := by
  -- Marking changes one row, and that row is open before and after.
  show (db.jobs.rows.map _).map _ = db.jobs.rows.map _
  rw [List.map_map]
  refine List.map_congr_left fun row member => ?_
  by_cases same : row.jobId = job.jobId
  · obtain rfl : row = job := Table.eq_of_key member stored same
    simpa [queuedJob, TelemetryProcessingJob.isOpen] using opened
  · have other : row.jobId ≠ (queuedJob job queueMessageId).jobId := same
    simp only [Function.comp_apply, if_neg other]

section Alone
variable (uuid4 : Nat → UUID) (ground : Ground) {job : TelemetryProcessingJob}

/-- Marking a job of a markable row succeeds and leaves the other rows alone. -/
theorem markJobQueued_serves (stored : job ∈ ground.database.jobs) (markable : Markable job)
    {held : Held} (current : held.isCurrent ground.database = true) :
    ∃ transitioned database, serve uuid4 (.repository (.markJobQueued job.jobId job.jobId.str
        "ground-api") held) ground = (.ok transitioned, { ground with database := database }) ∧
      openJobs database = openJobs ground.database ∧
      ∀ other ∈ ground.database.jobs, other.jobId ≠ job.jobId → other ∈ database.jobs := by
  -- The mark changes nothing, or the row of the job alone.
  have happened := markJobQueued_exec ⟨uuid4, ground.clock⟩ ground.database job.jobId
    job.jobId.str "ground-api"
  rcases happened.of_markable stored markable with ⟨-, answered⟩ | ⟨status, answered⟩
  · exact ⟨_, _, serve_repository current answered, rfl, fun _ member _ => member⟩
  · have opened : job.isOpen = true := by
      rcases status with waiting | waiting <;> simp [TelemetryProcessingJob.isOpen, waiting]
    refine ⟨_, _, serve_repository current answered, openJobs_queue stored opened _ _, ?_⟩
    intro row member different
    exact Table.mem_set.mpr (Or.inr ⟨member, different⟩)

/-- A job that the recovery can queue: it has no marker and its row can be marked. -/
structure Requeueable (ground : Ground) (jobId : UUID) : Prop where
  unmarked : ground.queue.marker jobId = none
  row : ∃ job ∈ ground.database.jobs, job.jobId = jobId ∧
    packetIdComplaint job.packetId = none ∧ Markable job

/-- What queueing one job does when nothing else happens. -/
structure Requeued (before : Ground) (jobId : UUID) (after : Ground) : Prop where
  /-- The message is put in front of the pending ones. -/
  pending : ∃ message : QueueMessage, message.jobId = jobId ∧
    after.queue.pending = message :: before.queue.pending
  marker : ∀ other ≠ jobId, after.queue.marker other = before.queue.marker other
  /-- The rows of other jobs stay. -/
  kept : ∀ other ∈ before.database.jobs, other.jobId ≠ jobId → other ∈ after.database.jobs
  opened : openJobs after.database = openJobs before.database

/-- A job that can be queued is. -/
theorem queueOne_serves (stored : job ∈ ground.database.jobs)
    (unmarked : ground.queue.marker job.jobId = none)
    (wellFormed : packetIdComplaint job.packetId = none) (markable : Markable job)
    {held : Option TelemetryProcessingJob}
    (current : ({ job := held } : Held).isCurrent ground.database = true) :
    ∃ transitioned after, (queueOne job.jobId job.packetId held).runAlone (serve uuid4) ground =
      (.ok transitioned, after) ∧ Requeued ground job.jobId after := by
  have made := QueueMessage.new_eq_ok job.jobId wellFormed
  generalize entry : (⟨job.jobId, job.packetId, wellFormed⟩ : QueueMessage) = message at made
  have key : message.jobId = job.jobId := entry ▸ rfl
  obtain ⟨queue, enqueued, pending, marker⟩ : ∃ queue,
      (QueueCall.enqueue message).exec ground.queue = (.ok true, queue) ∧
      queue.pending = message :: ground.queue.pending ∧
      queue.marker = Function.update ground.queue.marker job.jobId (some message) := by
    rw [QueueCall.exec, TelemetryQueue.enqueueScript, key, unmarked]
    exact ⟨_, rfl, rfl, rfl⟩
  -- The mark does not look at the queue, so the order of the two stores does not matter.
  obtain ⟨transitioned, database, marks, opened, kept⟩ :=
    markJobQueued_serves uuid4 { ground with queue := queue } stored markable current
  refine ⟨transitioned, { ground with queue := queue, database := database }, ?_,
    ⟨message, key, pending⟩, fun other different => ?_, kept, opened⟩
  · rw [queueOne, made]
    dsimp only
    rw [callQueue, Prog.runAlone_call_bind_ok _ (serve_queue enqueued), callRepository,
      Prog.runAlone_call]
    exact marks
  · show queue.marker other = _
    rw [marker, Function.update_of_ne different]

/-- Queueing one job leaves the others as they can be queued. -/
theorem Requeued.requeueable {before after : Ground} {jobId other : UUID}
    (done : Requeued before jobId after) (different : other ≠ jobId)
    (ready : Requeueable before other) : Requeueable after other := by
  -- Requeueing one job touches neither the marker nor the row of another.
  obtain ⟨unmarked, job, stored, rfl, wellFormed, markable⟩ := ready
  exact ⟨(done.marker _ different).trans unmarked, job, done.kept job stored different, rfl,
    wellFormed, markable⟩

/-- The loop queues each of its jobs once. -/
theorem recoverJobs_serves (jobIds : List UUID) (distinct : jobIds.Nodup)
    (ready : ∀ jobId ∈ jobIds, Requeueable ground jobId) :
    ∃ recovered after, (recoverJobs jobIds).runAlone (serve uuid4) ground = (.ok recovered, after) ∧
      openJobs after.database = openJobs ground.database ∧
      ∀ jobId, referenceCount jobId after.queue.pending =
        referenceCount jobId ground.queue.pending + if jobId ∈ jobIds then 1 else 0 := by
  -- Each round queues one job and leaves the jobs of the later rounds as they were.
  induction jobIds generalizing ground with
  | nil => exact ⟨0, ground, rfl, rfl, fun _ => by simp⟩
  | cons first rest ih =>
    obtain ⟨unique, others⟩ := List.nodup_cons.mp distinct
    obtain ⟨unmarked, job, stored, rfl, wellFormed, markable⟩ := ready first List.mem_cons_self
    -- Nothing has come between the read and the mark, so the held job is its row.
    have current : ({ job := some job } : Held).isCurrent ground.database = true := by
      simp [Held.isCurrent, Table.get?_key stored]
    obtain ⟨transitioned, middle, queued, done⟩ :=
      queueOne_serves uuid4 ground stored unmarked wellFormed markable current
    obtain ⟨recovered, after, loops, opened, counts⟩ := ih middle others fun jobId member =>
      done.requeueable (fun same => unique (same ▸ member)) (ready jobId (List.mem_cons_of_mem _ member))
    have found : serve uuid4 (.repository (.getJob job.jobId) {}) ground = (.ok (some job), ground) :=
      serve_repository rfl (by rw [getJob_exec, Table.get?_key stored])
    refine ⟨if transitioned then recovered + 1 else recovered, after, ?_,
      opened.trans done.opened, fun jobId => ?_⟩
    · rw [recoverJobs, callRepository, Prog.runAlone_call_bind_ok _ found]
      dsimp only
      rw [Prog.runAlone_bind, queued]
      dsimp only
      rw [Prog.runAlone_bind, loops]
      rfl
    · obtain ⟨message, key, pending⟩ := done.pending
      rw [counts, pending, referenceCount, List.countP_cons, key]
      by_cases same : job.jobId = jobId
      · subst same
        simp [unique, referenceCount]
      · simp [same, Ne.symm same, referenceCount]

end Alone

/-- The gateway restarts alone, at some time after every key of the queue was lost. -/
def recoverAfterLoss (ground : Ground) (restart : Time) (uuid4 : Nat → UUID) :
    Except Failure Nat × Ground :=
  recoverPendingJobs.runAlone (serve uuid4)
    { ground with queue := .empty, clock := restart }

/-- The recovery completes, and every open job has one pending reference. -/
def Rebuilt (outcome : Except Failure Nat × Ground) : Prop :=
  (∃ recovered, outcome.1 = .ok recovered) ∧ ∀ job ∈ outcome.2.database.jobs, job.isOpen = true →
    referenceCount job.jobId outcome.2.queue.pending = 1

/-- The jobs that the recovery brings back, oldest first. -/
def recoveredJobs (db : Database) (restart : Time) : List UUID :=
  (((db.jobs.rows.filter (TelemetryProcessingJob.isRecoverable restart)).insertionSort
    (·.createdAt ≤ ·.createdAt)).take 10000).map (·.jobId)

/-- The query of the recovery reads the jobs to bring back. -/
theorem recoverableQueueJobs_exec (env : Surroundings) (db : Database) :
    (RepoCall.recoverableQueueJobs 10000).exec env db = (.ok (recoveredJobs db env.now), db) := rfl

/-- A job that the query selects can be marked. -/
theorem markable_of_recoverable {db : Database} (ledger : LooseLedger db)
    {job : TelemetryProcessingJob} (stored : job ∈ db.jobs) (named : MessageNamed job)
    {restart : Time} (recoverable : job.isRecoverable restart = true) : Markable job := by
  -- One case for each branch of the query.
  simp only [TelemetryProcessingJob.isRecoverable, Bool.decide_or, Bool.or_eq_true,
    decide_eq_true_eq] at recoverable
  rcases recoverable with waiting | queued | ⟨waiting, -⟩
  · exact Or.inl waiting
  · -- A queued job has a message, which carries its name.
    refine Or.inr (Or.inr ⟨queued, named.resolve_left ?_⟩)
    exact (ledger.jobs job stored).marked (by simp [queued])
  · exact Or.inr (Or.inl waiting)

/-- The recovery brings back jobs that its query selects, none of them twice. -/
theorem recoveredJobs_spec (db : Database) (restart : Time) :
    (recoveredJobs db restart).Nodup ∧ (recoveredJobs db restart).length ≤ 10000 ∧
      ∀ jobId ∈ recoveredJobs db restart,
        ∃ job ∈ db.jobs, job.jobId = jobId ∧ job.isRecoverable restart = true := by
  -- Sorting and cutting the list keeps its rows distinct.
  have sorted := List.perm_insertionSort (·.createdAt ≤ ·.createdAt)
    (db.jobs.rows.filter (TelemetryProcessingJob.isRecoverable restart))
  refine ⟨?_, ?_, fun jobId member => ?_⟩
  · refine List.Nodup.sublist ((List.take_sublist _ _).map _) ?_
    rw [(sorted.map _).nodup_iff]
    exact db.jobs.nodup.sublist (List.filter_sublist.map _)
  · rw [recoveredJobs, List.length_map]
    exact List.length_take_le _ _
  · obtain ⟨job, taken, rfl⟩ := List.mem_map.mp member
    obtain ⟨stored, selected⟩ := List.mem_filter.mp (sorted.mem_iff.mp (List.mem_of_mem_take taken))
    exact ⟨job, stored, rfl, selected⟩

/-- Within the limit every job that the query selects is brought back. -/
theorem mem_recoveredJobs {db : Database} {restart : Time} {job : TelemetryProcessingJob}
    (few : db.jobs.rows.countP (TelemetryProcessingJob.isRecoverable restart) ≤ 10000)
    (stored : job ∈ db.jobs) (selected : job.isRecoverable restart = true) :
    job.jobId ∈ recoveredJobs db restart := by
  -- The cut leaves a list within the limit as it is.
  rw [recoveredJobs, List.take_of_length_le]
  · refine List.mem_map_of_mem ((List.perm_insertionSort _ _).mem_iff.mpr ?_)
    exact List.mem_filter.mpr ⟨stored, selected⟩
  · rw [List.length_insertionSort, ← List.countP_eq_length_filter]
    exact few

/-- The recovery after a loss completes and brings back the jobs of its query. -/
theorem recoverAfterLoss_serves {ground : Ground} (backed : TablesBacked ground) (restart : Time)
    (uuid4 : Nat → UUID) :
    ∃ recovered after, recoverAfterLoss ground restart uuid4 = (.ok recovered, after) ∧
      openJobs after.database = openJobs ground.database ∧
      ∀ jobId, referenceCount jobId after.queue.pending =
        if jobId ∈ recoveredJobs ground.database restart then 1 else 0 := by
  -- The query returns jobs that can be queued, and the loop queues each of them once.
  obtain ⟨distinct, -, selected⟩ := recoveredJobs_spec ground.database restart
  -- An empty queue has no markers.
  have ready : ∀ jobId ∈ recoveredJobs ground.database restart,
      Requeueable { ground with queue := .empty, clock := restart } jobId := by
    intro jobId member
    obtain ⟨job, stored, rfl, recoverable⟩ := selected jobId member
    obtain ⟨packet, present, link⟩ := (backed.ledger.jobs job stored).packet
    exact ⟨rfl, job, stored, rfl, link ▸ backed.packetId_wellFormed present,
      markable_of_recoverable backed.ledger stored (backed.named job stored) recoverable⟩
  obtain ⟨recovered, after, loops, opened, counts⟩ :=
    recoverJobs_serves uuid4 { ground with queue := .empty, clock := restart } _ distinct ready
  have asked : serve uuid4 (.repository (.recoverableQueueJobs 10000) {})
      { ground with queue := .empty, clock := restart } =
        (.ok (recoveredJobs ground.database restart),
          { ground with queue := .empty, clock := restart }) :=
    serve_repository rfl (recoverableQueueJobs_exec _ _)
  refine ⟨recovered, after, ?_, opened, fun jobId => ?_⟩
  · rw [recoverAfterLoss, recoverPendingJobs, callRepository, Prog.runAlone_call_bind_ok _ asked]
    exact loops
  · rw [counts]
    exact Nat.zero_add _

/-- An instant later than every lease and every retry that the jobs have stored. -/
def PastDeadlines (db : Database) (restart : Time) : Prop :=
  ∀ job ∈ db.jobs.rows, ∀ time ∈ job.leaseExpiresAt.toList ++ job.nextAttemptAt.toList,
    time < restart

instance (db : Database) (restart : Time) : Decidable (PastDeadlines db restart) :=
  inferInstanceAs (Decidable (∀ job ∈ db.jobs.rows, _))

/-- An open job that no worker holds is recoverable once its retry is due. -/
theorem isRecoverable_iff {db : Database} (ledger : LooseLedger db) {restart : Time}
    (past : PastDeadlines db restart) {job : TelemetryProcessingJob} (stored : job ∈ db.jobs) :
    job.isRecoverable restart = true ↔ job.isOpen = true ∧ job.state ≠ .processing := by
  -- Past all deadlines, a retry is due; every other state is selected or not whatever the time is.
  have retry := (ledger.jobs job stored).retry
  cases state : job.state with
  | retryWait =>
    obtain ⟨time, waits⟩ := Option.ne_none_iff_exists'.mp (retry state)
    have due := past job stored time (by simp [waits])
    simp [TelemetryProcessingJob.isRecoverable, TelemetryProcessingJob.isOpen, state, isDue, waits,
      due.le]
  | pendingQueue | queued | processing | complete | failed =>
    simp [TelemetryProcessingJob.isRecoverable, TelemetryProcessingJob.isOpen, state]

/--
The recovery at start-up rebuilds a lost queue exactly when it can see all of the work.

The keys of the queue are lost in any state that a run reaches, and the gateway restarts alone after
every stored deadline. The query passes over jobs in `PROCESSING`, whose workers are gone with the
queue, and over everything beyond its limit.
-/
theorem queue_rebuilt_iff (config : GroundConfig)
    (run : Relation.ReflTransGen GroundStep GroundConfig.initial config) (restart : Time)
    (past : PastDeadlines config.state.database restart) (uuid4 : Nat → UUID) :
    Rebuilt (recoverAfterLoss config.state restart uuid4) ↔
      (∀ job ∈ config.state.database.jobs, job.state ≠ .processing) ∧
        config.state.database.jobs.rows.countP TelemetryProcessingJob.isOpen ≤ 10000 := by
  have backed := tablesBacked_of_run run
  have recoverable := @isRecoverable_iff config.state.database backed.ledger restart past
  obtain ⟨recovered, after, served, opened, counts⟩ :=
    recoverAfterLoss_serves backed restart uuid4
  obtain ⟨distinct, limited, selected⟩ := recoveredJobs_spec config.state.database restart
  -- The open jobs are the same before and after.
  have rebuilt : Rebuilt (recoverAfterLoss config.state restart uuid4) ↔
      ∀ job ∈ config.state.database.jobs, job.isOpen = true →
        job.jobId ∈ recoveredJobs config.state.database restart := by
    have entries : ∀ jobId, (jobId, true) ∈ openJobs after.database ↔
        (jobId, true) ∈ openJobs config.state.database := fun _ => by rw [opened]
    simp only [openJobs, List.mem_map, Prod.mk.injEq, Table.mem_rows] at entries
    rw [served]
    -- The references are those of the jobs that the query returned.
    constructor
    · rintro ⟨-, references⟩ job stored isOpen
      obtain ⟨row, among, key, still⟩ := (entries job.jobId).mpr ⟨job, stored, rfl, isOpen⟩
      have single := references row among still
      rw [counts, key] at single
      by_contra missing
      rw [if_neg missing] at single
      cases single
    · refine fun brought => ⟨⟨recovered, rfl⟩, fun row among still => ?_⟩
      obtain ⟨job, stored, key, isOpen⟩ := (entries row.jobId).mp ⟨row, among, rfl, still⟩
      rw [counts, if_pos (key ▸ brought job stored isOpen)]
  rw [rebuilt]
  constructor
  · intro brought
    have free : ∀ job ∈ config.state.database.jobs, job.isOpen = true → job.state ≠ .processing := by
      intro job stored isOpen
      obtain ⟨row, among, key, chosen⟩ := selected _ (brought job stored isOpen)
      rw [← Table.eq_of_key among stored key]
      exact ((recoverable among).mp chosen).2
    refine ⟨fun job stored state => ?_, ?_⟩
    · exact free job stored (by simp [TelemetryProcessingJob.isOpen, state]) state
    · -- The identifiers of the open jobs are all among the ones brought back.
      have inside : ((config.state.database.jobs.rows.filter TelemetryProcessingJob.isOpen).map
          (·.jobId)) ⊆ recoveredJobs config.state.database restart := by
        intro jobId member
        obtain ⟨job, kept, rfl⟩ := List.mem_map.mp member
        exact brought job (List.mem_filter.mp kept).1 (List.mem_filter.mp kept).2
      have unique : ((config.state.database.jobs.rows.filter TelemetryProcessingJob.isOpen).map
          (·.jobId)).Nodup :=
        config.state.database.jobs.nodup.sublist (List.filter_sublist.map _)
      have short := (unique.subperm inside).length_le
      rw [List.length_map, ← List.countP_eq_length_filter] at short
      exact short.trans limited
  · rintro ⟨free, few⟩ job stored isOpen
    refine mem_recoveredJobs (le_trans ?_ few) stored
      ((recoverable stored).mpr ⟨isOpen, free job stored⟩)
    refine List.countP_mono_left fun row among chosen => ?_
    exact ((recoverable among).mp chosen).1

/-- A delivered job comes back when the queue is lost. -/
theorem delivered_job_rebuilt :
    Rebuilt (recoverAfterLoss (GroundConfig.after deliverySchedule).state 1784203202000000
      fun _ => 0) := by
  -- The one job of the schedule is in front of no worker, and the deadlines are past.
  have past : PastDeadlines (GroundConfig.after deliverySchedule).state.database
      1784203202000000 := by decide +kernel
  have free : ∀ job ∈ (GroundConfig.after deliverySchedule).state.database.jobs.rows,
      job.state ≠ .processing := by decide +kernel
  have single : (GroundConfig.after deliverySchedule).state.database.jobs.rows.countP
      TelemetryProcessingJob.isOpen = 1 := by decide +kernel
  exact (queue_rebuilt_iff _ (GroundConfig.after_run deliverySchedule) _ past _).mpr
    ⟨free, by omega⟩

/-- A worker claims the delivered job and stops. -/
def abandonedSchedule : List Event :=
  deliverySchedule ++ [.start 1 (.worker "worker-a" 1), .act 1 3 .none, .act 1 3 .none,
    .act 1 3 .none, .crash 1]

/-- A job whose worker has stopped does not come back, however long its lease is over. -/
theorem abandoned_job_lost :
    ¬∀ config, Relation.ReflTransGen GroundStep GroundConfig.initial config → ∀ restart,
      PastDeadlines config.state.database restart → ∀ uuid4,
        Rebuilt (recoverAfterLoss config.state restart uuid4) := by
  intro claimed
  have past : PastDeadlines (GroundConfig.after abandonedSchedule).state.database
      1784203300000000 := by decide +kernel
  have rebuilt := claimed _ (GroundConfig.after_run abandonedSchedule) _ past fun _ => 0
  -- The recovery answers that it brought back nothing, and the job is still open.
  have lost : (recoverAfterLoss (GroundConfig.after abandonedSchedule).state 1784203300000000
      fun _ => 0).2.database.jobs.rows.map (fun job => (job.isOpen, referenceCount job.jobId
        (recoverAfterLoss (GroundConfig.after abandonedSchedule).state 1784203300000000
          fun _ => 0).2.queue.pending)) = [(true, 0)] := by decide +kernel
  obtain ⟨job, stored, pair⟩ := List.mem_map.mp (lost ▸ List.mem_cons_self)
  obtain ⟨isOpen, missing⟩ := Prod.mk.inj pair
  rw [rebuilt.2 job stored isOpen] at missing
  cases missing

end Cislunar
