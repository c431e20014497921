import Cislunar.Proofs.Services.Drain
import Cislunar.Proofs.Services.Recovery

/-!
A restart that is left alone finishes all of the work.

The recovery of the gateway marks what was never queued, and after that every open job can be
claimed; one worker then takes each reference once.
-/

namespace Cislunar

open Foundation Ground

/-- A job is marked as queued, and the others are as they were. -/
structure Ground.Marked (before : Ground) (jobId : UUID) (after : Ground) : Prop where
  jobs : ∀ job ∈ after.database.jobs, job ∈ before.database.jobs ∧ job.jobId ≠ jobId ∨
    job.jobId = jobId ∧ job.state = .queued
  kept : ∀ job ∈ before.database.jobs, job.jobId ≠ jobId → job ∈ after.database.jobs
  count : after.database.jobs.rows.length = before.database.jobs.rows.length
  grows : Extends before.database after.database
  clock : before.clock ≤ after.clock

section Recovery
variable {ground after : Ground} {job : TelemetryProcessingJob}

/-- A reference that is there already is the same reference. -/
theorem CrossStore.enqueue_alone (cross : CrossStore ground) (stored : job ∈ ground.database.jobs)
    {message : QueueMessage} (named : message.jobId = job.jobId)
    (packet : message.packetId = job.packetId) :
    Alone (At ground.database ground.queue ground.clock) (callQueue (.enqueue message))
      fun outcome after => ∃ added, outcome = .ok added ∧
        ∃ queue, after.At ground.database queue ground.clock := by
  refine alone_queue fun after reached => ?_
  have happened := enqueue_outcome ground.queue message
  generalize (QueueCall.enqueue message).exec ground.queue = scripted at happened reached ⊢
  cases happened with
  | added unmarked => exact ⟨true, rfl, _, reached⟩
  | present marked => exact ⟨false, rfl, _, reached⟩
  | @conflict existing marked different text =>
    -- The marked reference leads to the job under the same identifier, and so to the same packet.
    obtain ⟨listed, key⟩ := (cross.queue.marked _ _).mp marked
    obtain ⟨row, among, same, owner⟩ := cross.job existing listed
    obtain rfl : row = job := Table.eq_of_key among stored (same.trans (key.trans named))
    have equal : existing = message := by
      cases existing
      cases message
      cases key
      cases owner.symm.trans packet.symm
      rfl
    exact absurd equal different

/-- Marking a job of a markable row leaves it queued. -/
theorem markJobQueued_alone {queue : TelemetryQueue} (stored : job ∈ ground.database.jobs)
    (markable : Markable job) (held : Held) :
    Alone (At ground.database queue ground.clock)
      (callRepository (.markJobQueued job.jobId job.jobId.str "ground-api") held)
      fun outcome after => ∃ transitioned, outcome = .ok transitioned ∧
        ground.Marked job.jobId after := by
  refine alone_repository fun env after later reached => ?_
  have happened := markJobQueued_exec env ground.database job.jobId job.jobId.str "ground-api"
  have grows := (RepoCall.exec_effect env ground.database
    (.markJobQueued job.jobId job.jobId.str "ground-api")).extends
  obtain ⟨database, -, present⟩ := reached
  rw [← database] at grows
  -- A job that can be marked is queued already or is queued now.
  rcases happened.of_markable stored markable with ⟨status, answered⟩ | ⟨-, answered⟩
  · -- The job was marked before, so nothing changes.
    rw [answered] at database ⊢
    refine ⟨false, rfl, fun row member => ?_, fun row member _ => database ▸ member,
      congrArg (·.jobs.rows.length) database, grows, later.trans present⟩
    rw [database] at member
    by_cases mine : row.jobId = job.jobId
    · exact Or.inr ⟨mine, Table.eq_of_key member stored mine ▸ status⟩
    · exact Or.inl ⟨member, mine⟩
  · rw [answered] at database ⊢
    refine ⟨true, rfl, fun row member => ?_, fun row member different => ?_, ?_, grows,
      later.trans present⟩
    · rw [database] at member
      rcases Table.mem_set.mp member with ⟨rfl, -⟩ | ⟨old, different⟩
      · exact Or.inr ⟨rfl, rfl⟩
      · exact Or.inl ⟨old, different⟩
    · rw [database]
      exact Table.mem_set.mpr (Or.inr ⟨member, different⟩)
    · rw [database]
      exact List.length_map _

/-- A job that the recovery reads is queued. -/
theorem queueOne_alone (cross : CrossStore ground) (stored : job ∈ ground.database.jobs)
    (markable : Markable job) {held : Option TelemetryProcessingJob}
    {outcome : Except Failure Bool}
    (run : Runs ServesFresh (queueOne job.jobId job.packetId held) ground outcome after) :
    ∃ transitioned, outcome = .ok transitioned ∧ ground.Marked job.jobId after := by
  -- The packet of a stored job has a well-formed identifier, so the reference can be built.
  obtain ⟨packet, present, link⟩ := (cross.reachable.ledger.jobs job stored).packet
  obtain ⟨rawBody, -, decoded⟩ := cross.decoded packet present
  have wellFormed : packetIdComplaint job.packetId = none := by
    rw [← link, (cross.reachable.ledger.packets packet present).identifier]
    exact decoded.packetId_wellFormed
  rw [queueOne, QueueMessage.new_eq_ok job.jobId wellFormed] at run
  have marks : Alone (At ground.database ground.queue ground.clock) (do
        let _ ← callQueue (.enqueue ⟨job.jobId, job.packetId, wellFormed⟩)
        callRepository (.markJobQueued job.jobId job.jobId.str "ground-api") { job := held })
      fun outcome after => ∃ transitioned, outcome = .ok transitioned ∧
        ground.Marked job.jobId after := by
    refine (cross.enqueue_alone stored rfl rfl).bind fun added => ?_
    rintro first reply last ⟨queue, reached⟩ follows
    exact markJobQueued_alone stored markable _ first reply last reached follows
  exact marks ground outcome after ⟨rfl, rfl, le_rfl⟩ run

/-- A job that was just read is still the row when it is marked. -/
theorem queueOne_fresh {held : TelemetryProcessingJob} {jobId : UUID} {packetId : String}
    (found : ground.database.jobs.get? held.jobId = some held) {outcome : Except Failure Bool}
    (run : Runs Serves (queueOne jobId packetId (some held)) ground outcome after) :
    Runs ServesFresh (queueOne jobId packetId (some held)) ground outcome after := by
  rw [queueOne] at run ⊢
  split at run
  next => cases run; exact .raise _ _
  next message _ =>
    -- Only the queue has changed in between.
    have enqueues : (callQueue (.enqueue message)).Only Request.HoldsNothing := .call trivial
    rcases run.of_bind with ⟨error, rfl, part⟩ | ⟨added, middle, part, marks⟩
    · exact .bind_error _ (runs_fresh enqueues part)
    · obtain ⟨-, -, kept⟩ := Ground.Serves.queue part.of_call
      have current : middle.isCurrent (.repository (.markJobQueued jobId jobId.str "ground-api")
          { job := some held }) = true := by
        simp [isCurrent, Held.isCurrent, kept, found]
      exact .bind (runs_fresh enqueues part) (.call (marks.of_call.fresh current))

/-- The recovery alone marks what it has just read. -/
theorem recoverJobs_fresh {jobIds : List UUID} {outcome : Except Failure Nat}
    (run : Runs Serves (recoverJobs jobIds) ground outcome after) :
    Runs ServesFresh (recoverJobs jobIds) ground outcome after := by
  -- By induction on the jobs; each of them is read and marked before the next one.
  induction jobIds generalizing ground after outcome with
  | nil =>
    cases run
    exact .done _ _
  | cons jobId rest ih =>
    have reads : (callRepository (.getJob jobId)).Only Request.HoldsNothing := .call rfl
    rcases run.of_bind with ⟨error, rfl, part⟩ | ⟨found, middle, part, later⟩
    · exact .bind_error _ (runs_fresh reads part)
    · refine .bind (runs_fresh reads part) ?_
      obtain ⟨env, answered, kept, -⟩ := Ground.Serves.repository part.of_call
      cases found with
      | none => exact ih later
      | some job =>
        rw [getJob_exec] at answered kept
        have stored := Except.ok.inj (of_mapError_eq_ok answered.symm)
        have own : middle.database.jobs.get? job.jobId = some job := by
          rw [kept, (Table.get?_eq_some.mp stored).2]
          exact stored
        rcases later.of_bind with ⟨error, rfl, queues⟩ | ⟨transitioned, last, queues, follows⟩
        · exact .bind_error _ (queueOne_fresh own queues)
        · refine .bind (queueOne_fresh own queues) ?_
          rcases follows.of_bind with ⟨error, rfl, recovers⟩ | ⟨recovered, _, recovers, ends⟩
          · exact .bind_error _ (ih recovers)
          · cases ends
            exact .bind (ih recovers) (.done _ _)

/-- So does the recovery with its query. -/
theorem recoverPendingJobs_fresh {outcome : Except Failure Nat}
    (run : Runs Serves recoverPendingJobs ground outcome after) :
    Runs ServesFresh recoverPendingJobs ground outcome after := by
  -- The list is read without an object; the recovery of each job reads its own.
  have asks : (callRepository (.recoverableQueueJobs 10000)).Only Request.HoldsNothing := .call rfl
  rcases run.of_bind with ⟨error, rfl, part⟩ | ⟨jobIds, middle, part, recovers⟩
  · exact .bind_error _ (runs_fresh asks part)
  · exact .bind (runs_fresh asks part) (recoverJobs_fresh recovers)

/-- Jobs are marked as queued, and the others are as they were. -/
structure Ground.Requeues (before : Ground) (jobIds : List UUID) (after : Ground) : Prop where
  jobs : ∀ job ∈ after.database.jobs, job ∈ before.database.jobs ∧ job.jobId ∉ jobIds ∨
    job.state = .queued
  count : after.database.jobs.rows.length = before.database.jobs.rows.length
  grows : Extends before.database after.database
  clock : before.clock ≤ after.clock

/-- The loop queues each of its jobs. -/
theorem recoverJobs_alone {jobIds : List UUID} (distinct : jobIds.Nodup) (cross : CrossStore ground)
    (ready : ∀ jobId ∈ jobIds, ∃ job ∈ ground.database.jobs, job.jobId = jobId ∧ Markable job)
    {outcome : Except Failure Nat} (run : Runs ServesFresh (recoverJobs jobIds) ground outcome after) :
    ∃ recovered, outcome = .ok recovered ∧ ground.Requeues jobIds after := by
  -- Each round queues one job and leaves the jobs of the later rounds as they were.
  induction jobIds generalizing ground after outcome with
  | nil =>
    -- Without jobs nothing is requested.
    cases run
    exact ⟨0, rfl, fun job member => Or.inl ⟨member, List.not_mem_nil⟩, rfl, .refl _, le_rfl⟩
  | cons first rest ih =>
    obtain ⟨unique, others⟩ := List.nodup_cons.mp distinct
    obtain ⟨job, stored, rfl, markable⟩ := ready first List.mem_cons_self
    -- The job is read as it is stored.
    obtain ⟨_, start, part, ⟨rfl, database, -, clock⟩, run⟩ := run.of_bind_ok fun reply start =>
      getJob_alone (Table.get?_key stored) ground reply start
        (⟨rfl, rfl, le_rfl⟩ : ground.At ground.database ground.queue ground.clock)
    have agreed := cross.alone (harmless_follows rfl rfl) trivial part
    have present : job ∈ start.database.jobs := database ▸ stored
    dsimp only at run
    -- It is queued, and the jobs of the later rounds can still be marked.
    obtain ⟨transitioned, middle, part, marked, run⟩ :=
      run.of_bind_ok fun _ _ => queueOne_alone agreed present markable
    have still := agreed.alone ((queueOne_answers job.jobId job.packetId _).weaken (fun _ => id)
      fun _ _ _ => trivial) ⟨job, present, rfl, rfl⟩ part
    have later : ∀ jobId ∈ rest, ∃ job ∈ middle.database.jobs,
        job.jobId = jobId ∧ Markable job := by
      intro jobId listed
      obtain ⟨other, among, rfl, fits⟩ := ready jobId (List.mem_cons_of_mem _ listed)
      exact ⟨other, marked.kept other (database ▸ among) fun same => unique (same ▸ listed), rfl,
        fits⟩
    obtain ⟨recovered, last, -, requeues, run⟩ :=
      run.of_bind_ok fun _ _ => ih others still later
    cases run
    refine ⟨_, rfl, fun row member => ?_, ?_, ?_, ?_⟩
    · -- A job that neither this round nor a later one queues is as it was.
      rcases requeues.jobs row member with ⟨old, unlisted⟩ | queued
      · rcases marked.jobs row old with ⟨older, different⟩ | ⟨-, queued⟩
        · refine Or.inl ⟨database ▸ older, ?_⟩
          rw [List.mem_cons, not_or]
          exact ⟨different, unlisted⟩
        · exact Or.inr queued
      · exact Or.inr queued
    · rw [requeues.count, marked.count, database]
    · exact (database ▸ marked.grows).trans requeues.grows
    · exact (clock.trans marked.clock).trans requeues.clock

/-- Past all deadlines the query returns the jobs that it returns later. -/
theorem isRecoverable_later {db : Database} (reachable : Reachable db) {restart now : Time}
    (past : PastDeadlines db restart) (later : restart ≤ now) {job : TelemetryProcessingJob}
    (stored : job ∈ db.jobs) : job.isRecoverable now = job.isRecoverable restart := by
  -- Every deadline had passed at the restart, so the clock decides nothing more.
  have still : PastDeadlines db now := fun row among time held =>
    (past row among time held).trans_le later
  rw [Bool.eq_iff_iff, isRecoverable_iff reachable.looseLedger still stored,
    isRecoverable_iff reachable.looseLedger past stored]

/-- After the recovery every open job can be claimed. -/
theorem recoverPendingJobs_alone (cross : CrossStore ground)
    (named : ∀ job ∈ ground.database.jobs, MessageNamed job)
    (past : PastDeadlines ground.database ground.clock)
    (few : ground.database.jobs.rows.countP
      (TelemetryProcessingJob.isRecoverable ground.clock) ≤ 10000)
    {outcome : Except Failure Nat} (run : Runs ServesFresh recoverPendingJobs ground outcome after) :
    (∃ recovered, outcome = .ok recovered) ∧ ∃ jobIds, ground.Requeues jobIds after ∧
      ∀ job ∈ ground.database.jobs, job.state = .pendingQueue → job.jobId ∈ jobIds := by
  have asks : Alone (At ground.database ground.queue ground.clock)
      (callRepository (.recoverableQueueJobs 10000)) fun outcome after => ∃ jobIds,
        outcome = .ok jobIds ∧ ∃ now, ground.clock ≤ now ∧
          jobIds = recoveredJobs ground.database now ∧
          after.At ground.database ground.queue ground.clock := by
    refine alone_repository fun env after later reached => ?_
    rw [recoverableQueueJobs_exec] at reached ⊢
    exact ⟨_, rfl, env.now, later, rfl, reached.database, reached.queue, later.trans reached.clock⟩
  obtain ⟨jobIds, middle, part, ⟨now, later, same, reached⟩, run⟩ :=
    run.of_bind_ok fun reply middle => asks ground reply middle ⟨rfl, rfl, le_rfl⟩
  have recoverable : ∀ job ∈ ground.database.jobs,
      job.isRecoverable now = job.isRecoverable ground.clock :=
    fun job => isRecoverable_later cross.reachable past later
  obtain ⟨distinct, -, selected⟩ := recoveredJobs_spec ground.database now
  rw [← same] at distinct selected
  have ready : ∀ jobId ∈ jobIds, ∃ job ∈ middle.database.jobs,
      job.jobId = jobId ∧ Markable job := by
    intro jobId listed
    obtain ⟨job, stored, key, chosen⟩ := selected jobId listed
    exact ⟨job, reached.database ▸ stored, key,
      markable_of_recoverable cross.reachable.looseLedger stored (named job stored) chosen⟩
  obtain ⟨recovered, returned, jobs, count, grows, clock⟩ := recoverJobs_alone distinct
    (cross.alone (harmless_follows rfl rfl) trivial part) ready run
  rw [reached.database] at jobs count grows
  refine ⟨⟨recovered, returned⟩, jobIds, ⟨jobs, count, grows, reached.clock.trans clock⟩,
    fun job stored waiting => ?_⟩
  -- The query selects what was never queued, and it returns all that it selects.
  have chosen : job.isRecoverable now = true := by
    simp [TelemetryProcessingJob.isRecoverable, waiting]
  have within : ground.database.jobs.rows.countP
      (TelemetryProcessingJob.isRecoverable now) ≤ 10000 := by
    rwa [List.countP_congr fun row among => by rw [recoverable row among]]
  exact same ▸ mem_recoveredJobs within stored chosen

/-- An open job that was queued can be claimed past all deadlines. -/
theorem isClaimable_of_past {db : Database} (reachable : Reachable db) {restart : Time}
    (past : PastDeadlines db restart) (stored : job ∈ db.jobs) (isOpen : job.isOpen = true)
    (queued : job.state ≠ .pendingQueue) : isClaimable job restart = true := by
  -- A leased or a waiting job stores a deadline, and that has passed.
  have fits := reachable.jobs_fit job stored
  cases state : job.state with
  | queued => simp [isClaimable, state]
  | processing =>
    obtain ⟨time, leased⟩ := Option.isSome_iff_exists.mp (fits.lease.mpr state)
    have due := past job stored time (by simp [leased])
    simp [isClaimable, state, isDue, leased, due.le]
  | retryWait =>
    obtain ⟨time, waits⟩ := Option.isSome_iff_exists.mp (fits.retry.mpr state)
    have due := past job stored time (by simp [waits])
    simp [isClaimable, state, isDue, waits, due.le]
  | pendingQueue => exact absurd state queued
  | complete | failed => simp [TelemetryProcessingJob.isOpen, state] at isOpen

/-- The recovery leaves every open job ready for a worker. -/
theorem recoverPendingJobs_ready (cross : CrossStore ground)
    (past : PastDeadlines ground.database ground.clock) {jobIds : List UUID}
    (requeues : ground.Requeues jobIds after)
    (brought : ∀ job ∈ ground.database.jobs, job.state = .pendingQueue → job.jobId ∈ jobIds) :
    after.AllReady := by
  -- What the recovery has not queued was queued before.
  intro job member isOpen
  rcases requeues.jobs job member with ⟨old, unlisted⟩ | queued
  · exact isClaimable_later (isClaimable_of_past cross.reachable past old isOpen
      fun waiting => unlisted (brought job old waiting)) requeues.clock
  · simp [isClaimable, queued]

end Recovery

/--
A restart that is left alone finishes all of the work.

The services stop in any state that a run reaches in which no call decides on an outdated object,
between any two requests, and the gateway runs its recovery at a time past every stored deadline. A
worker then takes as many iterations as there are jobs; time may pass between any two of the
requests. Nothing that was stored is lost, no reference waits any more, and every job is complete,
or failed before the stop or by evidence that does not compute.
-/
theorem restart_finishes_work (config : GroundConfig)
    (run : Relation.ReflTransGen CurrentStep GroundConfig.initial config) (restart : Time)
    (later : config.state.clock ≤ restart) (past : PastDeadlines config.state.database restart)
    (few : config.state.database.jobs.rows.countP
      (TelemetryProcessingJob.isRecoverable restart) ≤ 10000)
    (recovery : Except Failure Nat) (middle : Ground)
    (recovers : Runs Serves recoverPendingJobs { config.state with clock := restart } recovery
      middle)
    (hostname : String) (id : UUID) (iterations : Nat)
    (enough : config.state.database.jobs.rows.length ≤ iterations)
    (outcome : Except Failure Unit) (after : Ground)
    (works : Runs Serves (runWorker (workerIdentity hostname id) iterations) middle outcome after) :
    (∃ recovered, recovery = .ok recovered) ∧ outcome = .ok () ∧
      Extends config.state.database after.database ∧
      after.queue.pending = [] ∧ after.queue.processing = [] ∧
      ∀ job ∈ after.database.jobs, job.state = .complete ∨ job.state = .failed ∧
        (job ∈ config.state.database.jobs ∨ after.database.Unreadable job.jobId) := by
  -- The stores agree when the services stop, and time alone does not change that.
  have cross := ((crossStore_of_run run).tick ⟨restart, later, rfl⟩).1
  have backed := tablesBacked_of_run (Relation.ReflTransGen.mono (fun _ _ => Step.of_restrict) _ _
    run)
  replace recovers := recoverPendingJobs_fresh recovers
  replace works := runs_fresh ((runWorker_fromWorker _ iterations).mono fun _ =>
    Request.holdsNothing_of_fromWorker) works
  obtain ⟨recovered, jobIds, requeues, brought⟩ :=
    recoverPendingJobs_alone cross backed.named past few recovers
  have ready := recoverPendingJobs_ready cross past requeues brought
  obtain ⟨returned, settled, ended⟩ := runWorker_alone
    (cross.alone (recoverPendingJobs_follows _) trivial recovers) ready
    (workerIdentity_named hostname id) (requeues.count.le.trans enough) works
  refine ⟨recovered, returned, requeues.grows.trans settled.database.grows, settled.pending,
    settled.processing, fun job member => ?_⟩
  -- A job that the worker has not touched was over before the recovery.
  rcases settled.database.jobs job member with old | done | ⟨failed, unreadable⟩
  · have closed := ended job member
    rcases requeues.jobs job old with ⟨older, -⟩ | queued
    · by_cases complete : job.state = .complete
      · exact Or.inl complete
      · have failed : job.state = .failed := by
          simpa [TelemetryProcessingJob.isOpen, complete] using closed
        exact Or.inr ⟨failed, Or.inl older⟩
    · simp [TelemetryProcessingJob.isOpen, queued] at closed
  · exact Or.inl done
  · exact Or.inr ⟨failed, Or.inr unreadable⟩

/-- The gateway recovers and a worker runs, one after the other and alone. -/
def restartAlone (ground : Ground) (restart : Time) (iterations : Nat) : Ground :=
  ((runWorker (workerIdentity "worker" 7) iterations).runAlone (serve fun _ => 0)
    (recoverPendingJobs.runAlone (serve fun _ => 0) { ground with clock := restart }).2).2

/-- A job that its worker left behind is over after a restart. -/
theorem abandoned_job_finished :
    (restartAlone (GroundConfig.after abandonedSchedule).state 1784203300000000 1).Finished := by
  -- One job is open, so one round of the worker is enough. The times and the counts are evaluated.
  have finished : ∀ config, Relation.ReflTransGen CurrentStep GroundConfig.initial config →
      ∀ restart, config.state.clock ≤ restart → PastDeadlines config.state.database restart →
      config.state.database.jobs.rows.countP
        (TelemetryProcessingJob.isRecoverable restart) ≤ 10000 →
      config.state.database.jobs.rows.length ≤ 1 →
      (restartAlone config.state restart 1).Finished := by
    intro config run restart later past few enough
    have recovers := serves_runAlone (fun _ => 0) recoverPendingJobs
      { config.state with clock := restart }
    have works := serves_runAlone (fun _ => 0) (runWorker (workerIdentity "worker" 7) 1)
      (recoverPendingJobs.runAlone (serve fun _ => 0) { config.state with clock := restart }).2
    rw [restartAlone]
    generalize (runWorker (workerIdentity "worker" 7) 1).runAlone (serve fun _ => 0)
      (recoverPendingJobs.runAlone (serve fun _ => 0) { config.state with clock := restart }).2 =
        last at works ⊢
    obtain ⟨-, -, -, -, -, ended⟩ := restart_finishes_work config run restart later past few _ _
      recovers "worker" 7 1 enough _ _ works
    intro job member
    rcases ended job member with complete | ⟨failed, -⟩
    · simp [TelemetryProcessingJob.isOpen, complete]
    · simp [TelemetryProcessingJob.isOpen, failed]
  exact finished (GroundConfig.after abandonedSchedule)
    (GroundConfig.after_run_restrict (by decide +kernel)) 1784203300000000 (by decide +kernel)
    (by decide +kernel) (by decide +kernel) (by decide +kernel)

end Cislunar
