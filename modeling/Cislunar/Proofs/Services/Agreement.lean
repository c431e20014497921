import Cislunar.Proofs.Services.Gateway
import Cislunar.Proofs.Telemetry.Codec

/-!
No processing work is lost or duplicated between the tables and the queue.

The gateway handlers, the recovery at start-up and the workers follow the protocol, so the stores
agree after every step of every run.
-/

namespace Cislunar

open Foundation Ground

section Worker
variable {thread : Nat}

/-- A claimed reference leads to a stored job, and nothing is claimed otherwise. -/
theorem claimReference_answers :
    Answers thread (fun _ => True) claimReference fun claimed ground =>
      ∀ message, claimed = some message → ground.HasJob message.jobId message.packetId := by
  -- A malformed entry and an unavailable queue both count as nothing claimed.
  refine .tryCatch claim_answers fun failure => ?_
  split
  · exact .done fun _ _ _ same => nomatch same
  · exact .done fun _ _ _ same => nomatch same
  · exact .raise

/-- A reference without work is resolved as the state of its job demands. -/
theorem returnOrFinishUnclaimed_follows (message : QueueMessage) :
    Follows thread (HasJob message.jobId message.packetId) (returnOrFinishUnclaimed message) := by
  -- The three branches ask for the state of the job; a job does not leave the states that they rely
  -- on.
  have found : Answers thread (HasJob message.jobId message.packetId)
      (callRepository (.getJob message.jobId)) fun found ground =>
        ∃ job, found = some job ∧ ground.JobIn job.state message.jobId := by
    refine harmless_answers (lasting_hasJob _ _) rfl rfl ?_
    rintro env ground found valid ⟨job, member, key, -⟩ answered
    rw [getJob_exec] at answered ⊢
    refine ⟨job, ?_, job, member, key, rfl⟩
    rw [← Except.ok.inj answered, ← key]
    exact Table.get?_key member
  refine .bind found fun answer => ?_
  cases answer with
  | none => exact (ack_follows message).weaken (fun _ ⟨_, missing, _⟩ => nomatch missing) fun _ _ => id
  | some job =>
    have known : ∀ ground : Ground, (∃ other, some job = some other ∧
        ground.JobIn other.state message.jobId) → ground.JobIn job.state message.jobId := by
      rintro ground ⟨other, same, held⟩
      cases same
      exact held
    dsimp only
    split_ifs with complete failed
    · exact (ack_follows message).weaken (fun ground held => complete ▸ known ground held)
        fun _ _ => id
    · exact (deadLetter_follows message).weaken (fun ground held => failed ▸ known ground held)
        fun _ _ => id
    · exact (retry_follows message).weaken (fun _ _ => trivial) fun _ _ => id

/-- The work item of a claim is about the claimed job. -/
theorem ClaimOutcome.item_jobId {db : Database} {jobId : UUID} {workerId : String}
    {leaseSeconds : Int} {now : Time}
    {outcome : Except StorageError (Option TelemetryWorkItem) × Database}
    (happened : ClaimOutcome db jobId workerId leaseSeconds now outcome) {item : TelemetryWorkItem}
    (answered : outcome.1 = .ok (some item)) : item.jobId = jobId := by
  -- Of the outcomes only the taking of the job answers with work.
  cases happened with
  | missing | closed | finished | unavailable | dangling => cases answered
  | taken found =>
    cases answered
    exact (Table.get?_eq_some.mp found).2

/-- A worker that claims the job of its reference gets work for that job. -/
theorem claimWork_answers (workerId : String) (message : QueueMessage) :
    Answers thread (HasJob message.jobId message.packetId) (claimWork workerId message)
      fun work _ => ∀ item, work = some item → item.jobId = message.jobId := by
  -- Without work the reference is resolved by the state of its job.
  have claims : Answers thread (HasJob message.jobId message.packetId)
      (callRepository (.claimProcessingJob message.jobId workerId 60)) fun work ground =>
        ground.HasJob message.jobId message.packetId ∧
          ∀ item, work = some item → item.jobId = message.jobId := by
    refine harmless_answers (lasting_hasJob _ _) rfl rfl fun env ground work valid held answered => ?_
    refine ⟨(valid.later_call env _).hasJob held, ?_⟩
    rintro item rfl
    rcases claimProcessingJob_exec env ground.database message.jobId workerId 60 with
      ⟨_, failed⟩ | ⟨-, happened⟩
    · cases (congrArg Prod.fst failed).symm.trans answered
    · exact happened.item_jobId answered
  refine .bind claims fun work => ?_
  cases work with
  | none =>
    refine .bind ((returnOrFinishUnclaimed_follows message).weaken (fun _ held => held.1)
      fun _ _ => id) fun _ => ?_
    exact .done fun _ _ _ same => nomatch same
  | some item => exact .done fun _ held => held.2

/-- A reference may always be returned. -/
theorem returnReference_follows (message : QueueMessage) :
    Follows thread (fun _ => True) (returnReference message) := by
  -- A reference that is not in processing is let go, and any other failure is raised again.
  refine .tryCatch (retry_follows message) fun failure => ?_
  split
  · exact .done fun _ _ => trivial
  · exact .raise

/-- A completion that answers leaves a complete job. -/
theorem CompleteOutcome.complete {db : Database} {jobId : UUID} {result : ProcessingResultValues}
    {workerId : String} {completionTime : Time}
    {outcome : Except StorageError ProcessedTelemetry × Database}
    (happened : CompleteOutcome db jobId result workerId completionTime outcome)
    {stored : ProcessedTelemetry} (answered : outcome.1 = .ok stored) :
    ∃ job ∈ outcome.2.jobs, job.jobId = jobId ∧ job.state = .complete := by
  -- The outcomes that answer write the job as complete.
  cases happened with
  | missing | conflicting | refused | integrity => cases answered
  | closed found =>
    obtain ⟨member, key⟩ := Table.get?_eq_some.mp found
    exact ⟨_, (Table.mem_set_of_mem member (by rfl)).mpr (Or.inl rfl), key, rfl⟩
  | completed found =>
    obtain ⟨member, key⟩ := Table.get?_eq_some.mp found
    exact ⟨_, (Table.mem_set_of_mem member (by rfl)).mpr (Or.inl rfl), key, rfl⟩

/-- A processed reference is acknowledged after its job is complete. -/
theorem processWork_follows (workerId : String) {message : QueueMessage} {work : TelemetryWorkItem}
    (same : work.jobId = message.jobId) :
    Follows thread (fun _ => True) (processWork workerId message work) := by
  -- The acknowledgement comes after the completion, whose error is handled elsewhere.
  unfold processWork
  split
  next => exact .raise
  next result computed =>
    have completes : Answers thread (fun _ => True)
        (callRepository (.completeProcessingJob work.jobId result workerId none))
        fun _ ground => ground.JobIn .complete message.jobId := by
      refine harmless_answers Lasting.always rfl rfl fun env ground stored valid _ answered => ?_
      rw [← same]
      exact (completeProcessingJob_exec env ground.database work.jobId result workerId none).complete
        answered
    refine .bind completes fun _ => ?_
    exact .tryCatch (ack_follows message) fun _ => .done fun _ _ => trivial

/-- A failed attempt that ends a job leaves it failed. -/
theorem FailOutcome.failedState {db : Database} {jobId : UUID} {workerId reason : String}
    {temporary : Bool} {baseBackoffSeconds : Int} {failureTime : Time}
    {outcome : Except StorageError ProcessingFailureResult × Database}
    (happened : FailOutcome db jobId workerId reason temporary baseBackoffSeconds failureTime outcome)
    {result : ProcessingFailureResult} (answered : outcome.1 = .ok result)
    (state : result.state = .failed) :
    ∃ job ∈ outcome.2.jobs, job.jobId = jobId ∧ job.state = .failed := by
  -- The state of the answer is the one that is written.
  cases happened with
  | missing | refused => cases answered
  | repeated found status =>
    obtain ⟨member, key⟩ := Table.get?_eq_some.mp found
    exact ⟨_, member, key, status⟩
  | @failed job found status =>
    obtain ⟨member, key⟩ := Table.get?_eq_some.mp found
    cases answered
    have moved := jobAfterFailure_jobId job reason temporary baseBackoffSeconds failureTime
    exact ⟨_, (Table.mem_set_of_mem member moved.symm).mpr (Or.inl rfl), moved.trans key, state⟩

/-- A recorded failure that ends its job leaves it failed. -/
theorem recordFailure_answers (workerId : String) (work : TelemetryWorkItem) (failure : Failure) :
    Answers thread (fun _ => True) (recordFailure workerId work failure) fun recorded ground =>
      ∀ result, recorded = some result → result.state = .failed →
        ground.JobIn .failed work.jobId := by
  -- The failure is classified as temporary or not, and an error of the database is passed over.
  have fails : Answers thread (fun _ => True) (callRepository (.failProcessingAttempt work.jobId
      workerId failure.describe (!failure.isValueError) 1 none)) fun result ground =>
        result.state = .failed → ground.JobIn .failed work.jobId := by
    refine harmless_answers Lasting.always rfl rfl fun env ground result valid _ answered state => ?_
    rcases failProcessingAttempt_exec env ground.database work.jobId workerId failure.describe
      (!failure.isValueError) 1 none with ⟨_, refused⟩ | happened
    · cases (congrArg Prod.fst refused).symm.trans answered
    · exact happened.failedState answered state
  refine .tryCatch (.bind fails fun result => .done ?_) fun storageFailure => ?_
  · intro ground held recorded same
    cases same
    exact held
  · split_ifs
    · exact .done fun _ _ _ same => nomatch same
    · exact .raise

/-- A failed attempt moves its reference as the job demands. -/
theorem failWork_follows (workerId : String) {message : QueueMessage} {work : TelemetryWorkItem}
    (same : work.jobId = message.jobId) (failure : Failure) :
    Follows thread (fun _ => True) (failWork workerId message work failure) := by
  -- Only a job that has failed for good buries its reference.
  refine .bind (recordFailure_answers workerId work failure) fun recorded => ?_
  cases recorded with
  | none => exact .done fun _ _ => trivial
  | some result =>
    dsimp only
    split_ifs with state
    · exact (deadLetter_follows message).weaken (fun _ held => same ▸ held result rfl state)
        fun _ _ => id
    · exact (retry_follows message).weaken (fun _ _ => trivial) fun _ _ => id

/-- One iteration of a worker follows the protocol. -/
theorem workerIteration_follows (workerId : String) :
    Follows thread (fun _ => True) (workerIteration workerId) := by
  refine .bind claimReference_answers fun claimed => ?_
  cases claimed with
  | none => exact .done fun _ _ => trivial
  | some message =>
    refine .bind (.tryCatch ((claimWork_answers workerId message).weaken
      (fun _ held => held message rfl) fun _ _ => id) fun _ => ?_) fun work => ?_
    · exact .bind (returnReference_follows message) fun _ => .done fun _ _ _ same => nomatch same
    · cases work with
      | none => exact .done fun _ _ => trivial
      | some item =>
        -- The item is about the job of the reference, whatever happens to the stores meanwhile.
        intro ground held
        have same := held item rfl
        exact Answers.tryCatch (processWork_follows workerId same)
          (failWork_follows workerId same) ground trivial

/-- A worker follows the protocol in any number of rounds. -/
theorem workerLoop_follows (workerId : String) (iterations : Nat) :
    Follows thread (fun _ => True) (workerLoop workerId iterations) := by
  -- On the number of iterations.
  induction iterations with
  | zero => exact .done fun _ _ => trivial
  | succ iterations ih => exact .bind (workerIteration_follows workerId) fun _ => ih

/-- A worker follows the protocol. -/
theorem runWorker_follows (workerId : String) (iterations : Nat) :
    Follows thread (fun _ => True) (runWorker workerId iterations) :=
  .bind recoverProcessing_follows fun _ => workerLoop_follows workerId iterations

end Worker

/-- What a process owes for its answer. -/
def Process.Answered : Process → Option Response → Ground → Prop
  | gateway _ vendor, some response, ground => AnswerDelivered vendor.body response ground
  -- Only a handler answers.
  | _, _, _ => True

/-- Every process follows the protocol. -/
theorem Process.answers (thread : Nat) (process : Process) :
    Answers thread (fun _ => True) process.program process.Answered := by
  -- By the kind of the process; only the gateway answers a vendor.
  cases process with
  | gateway settings vendor =>
    exact .bind (receivePayloadData_answers settings vendor) fun _ => .done fun _ delivered => delivered
  | startup => exact .bind (recoverPendingJobs_follows _) fun _ => .done fun _ _ => trivial
  | worker workerId iterations =>
    exact .bind (runWorker_follows workerId iterations) fun _ => .done fun _ _ => trivial

/-- Whatever the processes do to the rows, the stores agree. -/
theorem crossStore_of_freshRun {config : GroundConfig}
    (run : Relation.ReflTransGen FreshStep GroundConfig.initial config) :
    CrossStore config.state := by
  -- Every process answers under the agreement, and time keeps it.
  have started : Sound (freshMachine fun _ => True) groundProtocol (fun _ _ _ => True)
      GroundConfig.initial :=
    ⟨CrossStore.empty, fun _ _ running => nomatch running⟩
  refine (Sound.run (fun _ _ _ _ _ _ _ => trivial) ?_ ?_ started run).1
  · rintro thread ground _ valid ⟨process, rfl⟩
    exact (process.answers thread ground trivial).weaken fun _ _ _ => trivial
  · intro before after valid ticks
    obtain ⟨agreed, later⟩ := valid.tick ticks
    exact ⟨agreed, fun _ => later⟩

/-- While no call decides on an outdated object, the stores agree. -/
theorem crossStore_of_run {config : GroundConfig}
    (run : Relation.ReflTransGen CurrentStep GroundConfig.initial config) :
    CrossStore config.state :=
  crossStore_of_freshRun (Relation.ReflTransGen.mono (fun _ _ => Step.fresh) _ _ run)

/-- How many entries of a list refer to a job. -/
def referenceCount (jobId : UUID) (entries : List QueueMessage) : Nat :=
  entries.countP (·.jobId = jobId)

/-- What the references to a job have to do with its state. -/
structure JobReferenced (queue : TelemetryQueue) (job : TelemetryProcessingJob) : Prop where
  /-- Work in play has one reference, and it is not given up. -/
  active : job.state = .queued ∨ job.state = .processing ∨ job.state = .retryWait →
    referenceCount job.jobId (queue.pending ++ queue.processing) = 1 ∧
      referenceCount job.jobId queue.failed = 0
  failed : job.state = .failed →
    referenceCount job.jobId (queue.pending ++ queue.processing ++ queue.failed) = 1
  complete : job.state = .complete →
    referenceCount job.jobId (queue.pending ++ queue.processing ++ queue.failed) ≤ 1
  /-- Work that has not been queued will be found by the recovery. -/
  unqueued : job.state = .pendingQueue →
    referenceCount job.jobId (queue.pending ++ queue.processing ++ queue.failed) ≤ 1 ∧
      ∀ now, job.isRecoverable now = true
  buried : 0 < referenceCount job.jobId queue.failed → job.state = .failed

/-- A consistent queue refers to a job at most once. -/
theorem QueueConsistent.referenceCount_le_one {queue : TelemetryQueue}
    (consistent : QueueConsistent queue) (jobId : UUID) :
    referenceCount jobId queue.references ≤ 1 := by
  rw [referenceCount, List.countP_eq_length_filter]
  cases marked : queue.marker jobId with
  | some message => rw [consistent.filter_eq marked, List.length_singleton]
  | none =>
    -- Without a marker there is no entry.
    have empty : queue.references.filter (·.jobId = jobId) = [] := by
      refine List.filter_eq_nil_iff.mpr fun entry listed same => ?_
      have set := (consistent.marked jobId entry).mpr ⟨listed, of_decide_eq_true same⟩
      rw [marked] at set
      cases set
    rw [empty]
    exact Nat.zero_le _

/-- A listed entry counts. -/
theorem referenceCount_pos {jobId : UUID} {entries : List QueueMessage} {message : QueueMessage}
    (listed : message ∈ entries) (key : message.jobId = jobId) :
    0 < referenceCount jobId entries :=
  List.countP_pos_iff.mpr ⟨message, listed, by simpa using key⟩

/-- Agreeing stores refer to every job as its state demands. -/
theorem CrossStore.referenced {ground : Ground} (cross : CrossStore ground)
    {job : TelemetryProcessingJob} (member : job ∈ ground.database.jobs) :
    JobReferenced ground.queue job := by
  -- A job has one reference at most. Only failed jobs are buried, and a job that is neither in
  -- front of the queue nor complete has one.
  have most := cross.queue.referenceCount_le_one job.jobId
  have buried : 0 < referenceCount job.jobId ground.queue.failed → job.state = .failed := by
    intro positive
    obtain ⟨message, listed, key⟩ := List.countP_pos_iff.mp positive
    obtain ⟨failed, among, same, state⟩ := cross.buried message listed
    rwa [Table.eq_of_key among member (same.trans (by simpa using key))] at state
  have least : job.state ≠ .pendingQueue → job.state ≠ .complete →
      0 < referenceCount job.jobId ground.queue.references := by
    intro queued incomplete
    obtain ⟨message, listed, key⟩ := cross.present job member queued incomplete
    exact referenceCount_pos listed key
  have parts : referenceCount job.jobId ground.queue.references =
      referenceCount job.jobId (ground.queue.pending ++ ground.queue.processing) +
        referenceCount job.jobId ground.queue.failed := List.countP_append
  exact {
    active := by
      intro state
      have there := least (by rcases state with s | s | s <;> simp [s])
        (by rcases state with s | s | s <;> simp [s])
      have unburied : ¬0 < referenceCount job.jobId ground.queue.failed := by
        intro positive
        rw [buried positive] at state
        simp at state
      omega
    failed := fun state =>
      Nat.le_antisymm most (least (by simp [state]) (by simp [state]))
    complete := fun _ => most
    unqueued := fun state => ⟨most, fun now => by simp [TelemetryProcessingJob.isRecoverable, state]⟩
    buried := buried }

/--
No processing work is lost or duplicated between the tables and the queue.

Handlers, recoveries and workers start at any time, interleave in any order, lose their connections
and crash between any two of their steps. As long as no call decides on an object whose row has
changed since it was loaded, the references to each job are what its state demands.
-/
theorem references_agree_with_jobs (config : GroundConfig)
    (run : Relation.ReflTransGen CurrentStep GroundConfig.initial config)
    (job : TelemetryProcessingJob) (member : job ∈ config.state.database.jobs) :
    JobReferenced config.state.queue job :=
  (crossStore_of_run run).referenced member

/-- One handler runs from the delivery of the golden vector to its queued job. -/
def deliverySchedule : List Event :=
  [.tick 1784203201000000, .start 0 (.gateway sampleSettings (sampleRequest goldenFrame)),
    .act 0 1 .none, .act 0 1 .none, .act 0 2 .none, .act 0 2 .none, .act 0 2 .none]

/-- A delivered packet has a queued job, which is referenced as its state demands. -/
theorem delivered_job_referenced :
    ∃ job ∈ (GroundConfig.after deliverySchedule).state.database.jobs, job.state = .queued ∧
      JobReferenced (GroundConfig.after deliverySchedule).state.queue job := by
  -- The schedule is run for the state of its one job; the reference is the theorem's.
  have states : (GroundConfig.after deliverySchedule).state.database.jobs.rows.map (·.state) =
      [.queued] := by decide +kernel
  obtain ⟨job, member, state⟩ := List.mem_map.mp (states ▸ List.mem_cons_self)
  exact ⟨job, member, state,
    references_agree_with_jobs _ (GroundConfig.after_run_restrict (by decide +kernel)) job member⟩

/--
A recovery loads the waiting job of a delivery; the handler and a worker finish the job, and then the
recovery marks what it holds.
-/
def overtakenRecoverySchedule : List Event :=
  [.tick 1784203201000000, .start 0 (.gateway sampleSettings (sampleRequest goldenFrame)),
    .act 0 1 .none, .act 0 1 .none, .act 0 2 .none,
    .start 1 .startup, .act 1 3 .none, .act 1 3 .none,
    .act 0 4 .none, .act 0 4 .none, .act 1 3 .none,
    .start 2 (.worker "w" 1), .act 2 5 .none, .act 2 5 .none, .act 2 5 .none, .act 2 5 .none,
    .act 2 5 .none, .act 2 5 .none, .act 1 3 .none]

/-- A finished job is marked as queued again by a recovery that loaded it before, and has no reference. -/
theorem finished_job_queued_unreferenced :
    ∃ config, Relation.ReflTransGen GroundStep GroundConfig.initial config ∧
      ∃ job ∈ config.state.database.jobs, job.state = .queued ∧
        ¬JobReferenced config.state.queue job := by
  -- The schedule is evaluated; its job is queued without an entry in either list.
  have states : (GroundConfig.after overtakenRecoverySchedule).state.database.jobs.rows.map
      (fun job => (job.jobId, job.state)) = [(2, .queued)] := by decide +kernel
  have unreferenced : referenceCount 2
      ((GroundConfig.after overtakenRecoverySchedule).state.queue.pending ++
        (GroundConfig.after overtakenRecoverySchedule).state.queue.processing) = 0 := by
    decide +kernel
  refine ⟨_, GroundConfig.after_run overtakenRecoverySchedule, ?_⟩
  obtain ⟨job, member, same⟩ := List.mem_map.mp (states ▸ List.mem_cons_self)
  obtain ⟨key, state⟩ := Prod.mk.inj same
  refine ⟨job, member, state, fun referenced => ?_⟩
  have count := (referenced.active (Or.inl state)).1
  rw [key, unreferenced] at count
  cases count

end Cislunar
