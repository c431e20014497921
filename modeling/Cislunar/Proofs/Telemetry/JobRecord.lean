import Cislunar.Proofs.Telemetry.Jobs
import Cislunar.Proofs.Telemetry.Sequence

/-!
The fields of a job row agree with its state, and its attempts are the work items handed out for it.

The number of attempts stays within the stored maximum as long as no expired lease is taken over from
a job that has none left.
-/

namespace Cislunar

open Foundation

/-- The nullable fields and the counters of a job fit its state. -/
structure JobWellFormed (job : TelemetryProcessingJob) : Prop where
  lease : job.leaseExpiresAt.isSome ↔ job.state = .processing
  owner : job.state = .processing → job.claimedBy.isSome ∧ job.claimedAt.isSome
  retry : job.nextAttemptAt.isSome ↔ job.state = .retryWait
  completed : job.completedAt.isSome ↔ job.state = .complete
  failed : job.failedAt.isSome ↔ job.state = .failed
  message : job.queueMessageId = none ↔ job.state = .pendingQueue
  unqueued : job.state = .pendingQueue → job.attemptCount = 0
  waiting : job.state = .retryWait →
    1 ≤ job.attemptCount ∧ (job.attemptCount : Int) < job.maxAttempts
  queued : job.state = .queued → (job.attemptCount : Int) < job.maxAttempts
  working : job.state = .processing → 1 ≤ job.attemptCount
  allowed : 0 < job.maxAttempts

/-- A created job fits its state. -/
theorem newJob_wellFormed (jobId : UUID) (packetId : String) {maxAttempts : Int} (now : Time)
    (positive : 0 < maxAttempts) : JobWellFormed (newJob jobId packetId maxAttempts now) := by
  -- Nothing has happened to the job, so every nullable field is still empty.
  constructor <;> simp [newJob, positive]

section
variable {env : Surroundings} {call : RepoCall} {handed : Option TelemetryWorkItem}
variable {job row : TelemetryProcessingJob}

/-- A job that failed fits its state, whether it is given up or waits. -/
theorem JobWellFormed.afterFailure (fits : JobWellFormed job) (status : job.state = .processing)
    (reason : String) (temporary : Bool) (baseBackoffSeconds : Int) (failureTime : Time) :
    JobWellFormed (jobAfterFailure job reason temporary baseBackoffSeconds failureTime) := by
  have completed := fits.completed
  have failed := fits.failed
  have retry := fits.retry
  have message := fits.message
  have working := fits.working status
  have allowed := fits.allowed
  rw [jobAfterFailure]
  split_ifs with last
  · constructor <;> simp_all [failedJob]
  · -- The failure is temporary and an attempt is left.
    obtain ⟨-, left⟩ := not_or.mp last
    have remaining : (job.attemptCount : Int) < job.maxAttempts := by omega
    constructor <;> simp_all [retryingJob]

/-- A step keeps the fields of a job in agreement with its state. -/
theorem JobStep.wellFormed (step : JobStep env call handed job row) (fits : JobWellFormed job) :
    JobWellFormed row := by
  have lease := fits.lease
  have retry := fits.retry
  have completed := fits.completed
  have failed := fits.failed
  have message := fits.message
  have allowed := fits.allowed
  -- Each step rewrites the fields that its new state asks for.
  cases step with
  | kept => exact fits
  | queued status =>
    -- No attempt has been made, or the retry has at least one left.
    have remaining : (job.attemptCount : Int) < job.maxAttempts := by
      rcases status with state | state
      · have none := fits.unqueued state
        omega
      · exact (fits.waiting state).2
    rcases status with state | state <;> constructor <;> simp_all [queuedJob]
  | closed call status => constructor <;> simp_all [closedJob]
  | claimed free =>
    obtain ⟨unqueued, incomplete, unfailed⟩ := isClaimable_state free
    constructor <;> simp_all [claimedJob]
  | completed status => constructor <;> simp_all [completedJob]
  | failed status => exact fits.afterFailure status _ _ _ _

/-- How the state of a job may change in one call. -/
structure JobTransition (env : Surroundings) (before after : TelemetryProcessingJob) : Prop where
  /-- A finished job stays as it ended. -/
  final : before.state = .complete ∨ before.state = .failed → after.state = before.state
  queued : before.state ≠ .pendingQueue → after.state ≠ .pendingQueue
  /-- Work ends with a result, a retry or a failure, or is taken over when its lease has expired. -/
  working : before.state = .processing → after.state = .complete ∨ after.state = .retryWait ∨
    after.state = .failed ∨ after = before ∨
    after.state = .processing ∧ isDue before.leaseExpiresAt env.now = true

/-- A failed attempt ends in one of two states. -/
theorem jobAfterFailure_state (job : TelemetryProcessingJob) (reason : String) (temporary : Bool)
    (baseBackoffSeconds : Int) (failureTime : Time) :
    (jobAfterFailure job reason temporary baseBackoffSeconds failureTime).state = .failed ∨
      (jobAfterFailure job reason temporary baseBackoffSeconds failureTime).state = .retryWait := by
  -- A permanent failure or the last attempt fails the job; any other one lets it wait.
  rw [jobAfterFailure]
  split_ifs
  · exact Or.inl rfl
  · exact Or.inr rfl

/-- A step changes the state of a job only in these ways. -/
theorem JobStep.transition (step : JobStep env call handed job row) :
    JobTransition env job row := by
  cases step with
  | kept =>
    exact ⟨fun _ => rfl, id, fun _ => Or.inr (Or.inr (Or.inr (Or.inl rfl)))⟩
  | queued status =>
    refine ⟨fun ended => ?_, fun _ => by simp [queuedJob], fun state => ?_⟩
    · rcases status with state | state <;> simp [state] at ended
    · rcases status with other | other <;> simp [state] at other
  | closed call status =>
    exact ⟨fun _ => status.symm, fun _ => by simp [closedJob], fun _ => Or.inl rfl⟩
  | claimed free =>
    refine ⟨fun ended => ?_, fun _ => by simp [claimedJob], fun state => ?_⟩
    · obtain ⟨-, incomplete, unfailed⟩ := isClaimable_state free
      exact absurd ended (by simp [incomplete, unfailed])
    · -- A job that is worked on is claimable only by the lease.
      refine Or.inr (Or.inr (Or.inr (Or.inr ⟨rfl, ?_⟩)))
      simpa [isClaimable, state] using free
  | completed status =>
    exact ⟨fun ended => by simp [status] at ended, fun _ => by simp [completedJob],
      fun _ => Or.inl rfl⟩
  | failed status owned reason temporary baseBackoffSeconds now =>
    have ends := jobAfterFailure_state job reason temporary baseBackoffSeconds (now.getD env.now)
    refine ⟨fun ended => by simp [status] at ended, fun _ => ?_, fun _ => ?_⟩
    · rcases ends with state | state <;> simp [state]
    · rcases ends with state | state
      · exact Or.inr (Or.inr (Or.inl state))
      · exact Or.inr (Or.inl state)

/-- A step counts the work item that is handed out for its job, and no other. -/
theorem JobStep.attemptCount (step : JobStep env call handed job row) :
    row.attemptCount = job.attemptCount + handed.toList.countP (·.jobId = job.jobId) := by
  cases step with
  -- A kept job is not the one that an item is handed out for.
  | kept call other =>
    cases handed with
    | none => rfl
    | some item =>
      have different := other item rfl
      simp [different]
  | queued | closed | completed => rfl
  | claimed free lease packet receipt => simp [claimedJob, workItem]
  | failed =>
    rw [jobAfterFailure]
    split_ifs <;> rfl

end

/-- One call leaves jobs that fit their states. -/
theorem RepoCall.jobs_fit {db : Database} (ledger : Ledger db)
    (fits : ∀ job ∈ db.jobs, JobWellFormed job) (env : Surroundings) (call : RepoCall) :
    ∀ row ∈ (call.exec env db).2.jobs, JobWellFormed row := by
  -- A row is the result of a step from one that fits, or new.
  intro row member
  rcases call.jobStep_of_mem ledger env member with
    ⟨job, stored, step⟩ | ⟨-, _, _, _, positive, new⟩
  · exact step.wellFormed (fits job stored)
  · rw [new]
    exact newJob_wellFormed _ _ _ positive

/-- The jobs of every reachable database fit their states. -/
theorem Reachable.jobs_fit {db : Database} (reachable : Reachable db) :
    ∀ job ∈ db.jobs, JobWellFormed job := by
  -- On the calls.
  induction reachable with
  | empty => exact fun job member => absurd member (Table.not_mem_empty job)
  | call env call before ih => exact call.jobs_fit before.ledger ih env

/-- No call of a history is an event of some kind in the database it is made on. -/
def never (event : Surroundings → Database → RepoCall → Bool) :
    Database → List (Surroundings × RepoCall) → Bool
  | _, [] => true
  | db, (env, call) :: rest => !event env db call && never event (call.exec env db).2 rest

/-- A longer history is checked where the shorter one ends. -/
theorem never_append (event : Surroundings → Database → RepoCall → Bool)
    (first second : List (Surroundings × RepoCall)) (db : Database) :
    never event db (first ++ second) = (never event db first &&
      never event (first.foldl (fun db step => (step.2.exec step.1 db).2) db) second) := by
  -- By induction on the first history.
  induction first generalizing db with
  | nil => rfl
  | cons step rest ih =>
    obtain ⟨env, call⟩ := step
    simp [never, ih, Bool.and_assoc]

/-- The work items that a history of calls hands out from a database on, in order. -/
def itemsFrom : Database → List (Surroundings × RepoCall) → List TelemetryWorkItem
  | _, [] => []
  | db, (env, call) :: rest =>
    (call.workItem? env db).toList ++ itemsFrom (call.exec env db).2 rest

/-- The work items that a history of calls hands out. -/
def handedOut (history : List (Surroundings × RepoCall)) : List TelemetryWorkItem :=
  itemsFrom .empty history

/-- A longer history continues where the shorter one ends. -/
theorem itemsFrom_append (first second : List (Surroundings × RepoCall)) (db : Database) :
    itemsFrom db (first ++ second) = itemsFrom db first ++
      itemsFrom (first.foldl (fun db step => (step.2.exec step.1 db).2) db) second := by
  -- On the first part, from any tables.
  induction first generalizing db with
  | nil => rfl
  | cons step rest ih =>
    obtain ⟨env, call⟩ := step
    simp [itemsFrom, ih]

/-- One more call leads one step further. -/
theorem databaseAfter_snoc (history : List (Surroundings × RepoCall)) (env : Surroundings)
    (call : RepoCall) :
    databaseAfter (history ++ [(env, call)]) = (call.exec env (databaseAfter history)).2 := by
  simp [databaseAfter]

/-- One more call hands out at most one more work item. -/
theorem handedOut_snoc (history : List (Surroundings × RepoCall)) (env : Surroundings)
    (call : RepoCall) :
    handedOut (history ++ [(env, call)]) =
      handedOut history ++ (call.workItem? env (databaseAfter history)).toList := by
  -- The last call adds the item it hands out, if any.
  simp [handedOut, itemsFrom_append, itemsFrom, databaseAfter]

/-- In a well-formed table nothing was handed out for an identifier that is not in use. -/
structure JobsAccounted (db : Database) (items : List TelemetryWorkItem) : Prop where
  fits : ∀ job ∈ db.jobs, JobWellFormed job
  attempts : ∀ job ∈ db.jobs, job.attemptCount = items.countP (·.jobId = job.jobId)
  unused : ∀ jobId, db.jobs.get? jobId = none → items.countP (·.jobId = jobId) = 0

/-- What a handed out work item says about the job it was handed out for. -/
theorem RepoCall.workItem?_claimed {env : Surroundings} {db : Database} {call : RepoCall}
    {item : TelemetryWorkItem} (handed : call.workItem? env db = some item) :
    ∃ jobId workerId leaseSeconds job, call = .claimProcessingJob jobId workerId leaseSeconds ∧
      db.jobs.get? jobId = some job ∧ isClaimable job env.now = true ∧
      item.jobId = job.jobId ∧ item.attemptCount = job.attemptCount + 1 ∧
      item.maxAttempts = job.maxAttempts ∧ workerId.isEmpty = false ∧ 0 < leaseSeconds := by
  -- Only a claim with valid arguments that takes its job answers with an item.
  cases call with
  | claimProcessingJob jobId workerId leaseSeconds =>
    rcases claimProcessingJob_exec env db jobId workerId leaseSeconds with
      ⟨_, failed⟩ | ⟨⟨named, lease⟩, happened⟩
    · cases (congrArg answeredItem (congrArg Prod.fst failed)).symm.trans handed
    · change answeredItem _ = some item at handed
      generalize (RepoCall.claimProcessingJob jobId workerId leaseSeconds).exec env db =
        outcome at happened handed
      cases happened with
      | missing | closed | finished | unavailable | dangling => cases handed
      | @taken job packet receipt found undone free =>
        cases handed
        exact ⟨jobId, workerId, leaseSeconds, job, rfl, found, free, rfl, rfl, rfl, named, lease⟩
  | _ => cases handed

/-- Nothing is handed out for an identifier that is not in use. -/
theorem RepoCall.workItem?_unused {env : Surroundings} {db : Database} {jobId : UUID}
    (unused : db.jobs.get? jobId = none) (call : RepoCall) :
    (call.workItem? env db).toList.countP (·.jobId = jobId) = 0 := by
  -- A work item is handed out for a stored job.
  cases handed : call.workItem? env db with
  | none => rfl
  | some item =>
    obtain ⟨_, _, _, job, -, found, -, key, -⟩ := RepoCall.workItem?_claimed handed
    have stored := (Table.get?_eq_some.mp found).1
    have different : item.jobId ≠ jobId := by
      rw [key]
      exact Table.get?_eq_none.mp unused job stored
    simp [different]

/-- One call keeps the account of the attempts. -/
theorem JobsAccounted.call {db : Database} {items : List TelemetryWorkItem} (ledger : Ledger db)
    (accounted : JobsAccounted db items) (env : Surroundings) (call : RepoCall) :
    JobsAccounted (call.exec env db).2 (items ++ (call.workItem? env db).toList) where
  fits := call.jobs_fit ledger accounted.fits env
  attempts row member := by
    rw [List.countP_append]
    rcases call.jobStep_of_mem ledger env member with ⟨job, stored, step⟩ | ⟨unused, _, _, _, -, new⟩
    · rw [step.attemptCount, step.jobId, accounted.attempts job stored]
    · -- Nothing was or is handed out under the identifier of a new job.
      rw [accounted.unused row.jobId unused, call.workItem?_unused unused, new]
      rfl
  unused jobId absent := by
    have before : db.jobs.get? jobId = none := by
      refine Table.get?_eq_none.mpr fun job stored key => ?_
      -- Jobs are never removed, so the identifier was not in use before either.
      obtain ⟨row, among, step⟩ := call.jobStep ledger env stored
      exact Table.get?_eq_none.mp absent row among (step.jobId.trans key)
    rw [List.countP_append, accounted.unused jobId before, call.workItem?_unused before]

/-- Every history accounts for its attempts. -/
theorem jobsAccounted (history : List (Surroundings × RepoCall)) :
    JobsAccounted (databaseAfter history) (handedOut history) := by
  -- By induction on the history, one call after another.
  induction history using List.reverseRecOn with
  | nil =>
    exact ⟨fun job member => absurd member (Table.not_mem_empty job),
      fun job member => absurd member (Table.not_mem_empty job), fun _ _ => rfl⟩
  | append_singleton history step ih =>
    obtain ⟨env, call⟩ := step
    rw [databaseAfter_snoc, handedOut_snoc]
    exact ih.call (reachable_databaseAfter history).ledger env call

/--
Job records are well formed after every history of calls with any arguments.

The nullable fields say which state the job is in, its attempts are the work items that were handed
out for it, and whatever is called next changes its state only as the life of a job allows.
-/
theorem jobRecords_wellFormed (history : List (Surroundings × RepoCall))
    (job : TelemetryProcessingJob) (member : job ∈ (databaseAfter history).jobs) :
    JobWellFormed job ∧
      job.attemptCount = (handedOut history).countP (·.jobId = job.jobId) ∧
      ∀ env call, ∃ row ∈ (RepoCall.exec env call (databaseAfter history)).2.jobs,
        row.jobId = job.jobId ∧ JobTransition env job row := by
  -- Every part is read off the account of the history or the step of the next call.
  have accounted := jobsAccounted history
  refine ⟨accounted.fits job member, accounted.attempts job member, fun env call => ?_⟩
  obtain ⟨row, among, step⟩ := call.jobStep (reachable_databaseAfter history).ledger env member
  exact ⟨row, among, step.jobId, step.transition⟩

/-- A job with one attempt is claimed, its worker vanishes, and its lease runs out. -/
def takeover : List (Surroundings × RepoCall) :=
  [(surroundingsWith 10, .recordDelivery (anonymousDelivery [1]) (some 1)),
    (surroundingsWith 11, .acceptPacketAndCreateJob 1 fifthValues 1 "ground-api"),
    (surroundingsWith 12, .markJobQueued 11 "11" "ground-api"),
    (surroundingsWith 13, .claimProcessingJob 11 "worker-a" 60),
    ({ surroundingsWith 14 with now := secondsUs 60 }, .claimProcessingJob 11 "worker-b" 60)]

/-- The job of the takeover is being worked on, and its record is well formed. -/
theorem takeover_wellFormed : ∃ job ∈ (databaseAfter takeover).jobs, job.state = .processing ∧
    JobWellFormed job := by
  -- The history is run for the state of its one job; that it is well formed is the theorem's.
  have states : (databaseAfter takeover).jobs.rows.map (·.state) = [.processing] := by
    decide +kernel
  obtain ⟨job, member, state⟩ := List.mem_map.mp (states ▸ List.mem_cons_self)
  exact ⟨job, member, state, (jobRecords_wellFormed takeover job member).1⟩

/-- Work items are handed out as often as the stored maximum allows. -/
structure AttemptsBounded (history : List (Surroundings × RepoCall)) : Prop where
  items : ∀ item ∈ handedOut history, (item.attemptCount : Int) ≤ item.maxAttempts
  jobs : ∀ job ∈ (databaseAfter history).jobs,
    ((handedOut history).countP (·.jobId = job.jobId) : Int) ≤ job.maxAttempts

/-- A claim that takes an expired lease over from a job without an attempt left. -/
def RepoCall.overruns (env : Surroundings) (db : Database) : RepoCall → Bool
  | claimProcessingJob jobId workerId leaseSeconds =>
    -- With other arguments a claim raises before it looks at the job.
    !workerId.isEmpty ∧ 0 < leaseSeconds ∧ (db.jobs.get? jobId).any fun job =>
      job.state = .processing ∧ isDue job.leaseExpiresAt env.now ∧
        job.maxAttempts ≤ job.attemptCount
  | _ => false

section
variable {env : Surroundings} {db : Database} {call : RepoCall} {item : TelemetryWorkItem}

/-- Without an overrun a work item is within the bound. -/
theorem item_bounded (fits : ∀ job ∈ db.jobs, JobWellFormed job)
    (orderly : call.overruns env db = false) (handed : call.workItem? env db = some item) :
    (item.attemptCount : Int) ≤ item.maxAttempts := by
  obtain ⟨jobId, workerId, leaseSeconds, job, rfl, found, free, -, count, most, named, lease⟩ :=
    RepoCall.workItem?_claimed handed
  have stored := (Table.get?_eq_some.mp found).1
  rw [count, most]
  -- A queued job and a waiting one have an attempt left; a lease is taken over only if it has.
  have left : (job.attemptCount : Int) < job.maxAttempts := by
    by_contra exhausted
    -- The state of a claimable job says why an attempt is left.
    cases state : job.state with
    | queued => exact exhausted ((fits job stored).queued state)
    | retryWait => exact exhausted ((fits job stored).waiting state).2
    | processing =>
      have due : isDue job.leaseExpiresAt env.now = true := by
        simpa [isClaimable, state] using free
      have spent : (job.maxAttempts : Int) ≤ job.attemptCount := by omega
      simp [RepoCall.overruns, found, state, due, spent, named, lease] at orderly
    | pendingQueue => exact (isClaimable_state free).1 state
    | complete => exact (isClaimable_state free).2.1 state
    | failed => exact (isClaimable_state free).2.2 state
  push_cast
  omega

/-- A claim of a claimable job hands out its work. -/
theorem ClaimOutcome.takes {jobId : UUID} {workerId : String} {leaseSeconds : Int} {now : Time}
    {outcome : Except StorageError (Option TelemetryWorkItem) × Database} (ledger : Ledger db)
    (happened : ClaimOutcome db jobId workerId leaseSeconds now outcome)
    {job : TelemetryProcessingJob} (found : db.jobs.get? jobId = some job)
    (free : isClaimable job now = true) :
    ∃ packet receipt, outcome.1 =
      .ok (some (workItem (claimedJob job workerId leaseSeconds now) packet receipt)) := by
  have stored := (Table.get?_eq_some.mp found).1
  -- A result exists for complete jobs only, and those are not claimable.
  have undone : ∀ processed, db.processed.get? job.packetId ≠ some processed :=
    fun processed done => (isClaimable_state free).2.1 (ledger.complete_of_result stored done)
  cases happened with
  | missing absent =>
    rw [found] at absent
    cases absent
  | closed again done =>
    cases found.symm.trans again
    exact absurd done (undone _)
  | finished again done =>
    cases found.symm.trans again
    exact absurd done (undone _)
  | unavailable again _ held =>
    cases found.symm.trans again
    rw [free] at held
    cases held
  | dangling again broken =>
    -- The packet of a job and the source of a packet are always there.
    cases found.symm.trans again
    obtain ⟨packet, present, named⟩ := (ledger.jobs job stored).packet
    obtain ⟨source, recorded, link, -⟩ := (ledger.packets packet present).source
    have missing := broken packet (named ▸ Table.get?_key present)
    rw [← link, Table.get?_key recorded] at missing
    cases missing
  | @taken other packet receipt again =>
    cases found.symm.trans again
    exact ⟨packet, receipt, rfl⟩

/-- An overrun hands out a work item beyond the bound. -/
theorem item_of_overrun (ledger : Ledger db) (overran : call.overruns env db = true) :
    ∃ item, call.workItem? env db = some item ∧ item.maxAttempts < (item.attemptCount : Int) := by
  -- A call that overruns is a claim of a job whose lease has run out, and in a consistent database
  -- it succeeds.
  cases call with
  | claimProcessingJob jobId workerId leaseSeconds =>
    simp only [RepoCall.overruns, decide_eq_true_eq, Option.any_eq_true] at overran
    obtain ⟨named, lease, job, found, state, due, exhausted⟩ := overran
    have free : isClaimable job env.now = true := by simp [isClaimable, state, due]
    have happened := claimProcessingJob_valid env db jobId (by simpa using named) lease
    obtain ⟨packet, receipt, answered⟩ := happened.takes ledger found free
    refine ⟨_, congrArg answeredItem answered, ?_⟩
    show job.maxAttempts < ((job.attemptCount + 1 : Nat) : Int)
    push_cast
    omega
  | _ => cases overran

end

/-- One more call stays within the attempts when it does not overrun. -/
theorem never_overruns_snoc (history : List (Surroundings × RepoCall)) (env : Surroundings)
    (call : RepoCall) :
    never RepoCall.overruns .empty (history ++ [(env, call)]) = true ↔
      never RepoCall.overruns .empty history = true ∧
        call.overruns env (databaseAfter history) = false := by
  -- The last call is judged by the tables the others left.
  simp [never_append, never, databaseAfter]

/-- The work items of a history are within their bounds exactly when no claim overruns. -/
theorem items_bounded_iff (history : List (Surroundings × RepoCall)) :
    (∀ item ∈ handedOut history, (item.attemptCount : Int) ≤ item.maxAttempts) ↔
      never RepoCall.overruns .empty history = true := by
  -- By induction on the history; the items of a longer one are the old ones and those of the last
  -- call.
  induction history using List.reverseRecOn with
  | nil => exact ⟨fun _ => rfl, fun _ item among => nomatch among⟩
  | append_singleton history step ih =>
    obtain ⟨env, call⟩ := step
    rw [never_overruns_snoc, handedOut_snoc, ← ih]
    constructor
    · intro bounded
      refine ⟨fun item among => bounded item (List.mem_append_left _ among), ?_⟩
      cases overran : call.overruns env (databaseAfter history) with
      | false => rfl
      | true =>
        -- The item that the overrun hands out is one of those that are bounded.
        obtain ⟨item, handed, beyond⟩ :=
          item_of_overrun (reachable_databaseAfter history).ledger overran
        have within := bounded item (List.mem_append_right _ (by simp [handed]))
        omega
    · rintro ⟨bounded, orderly⟩ item among
      rcases List.mem_append.mp among with old | new
      · exact bounded item old
      · exact item_bounded (jobsAccounted history).fits orderly (Option.mem_toList.mp new)

/-- Where no claim overruns, no job has more attempts than it is allowed. -/
theorem attemptCount_le (history : List (Surroundings × RepoCall))
    (orderly : never RepoCall.overruns .empty history = true) (job : TelemetryProcessingJob)
    (member : job ∈ (databaseAfter history).jobs) : (job.attemptCount : Int) ≤ job.maxAttempts := by
  induction history using List.reverseRecOn generalizing job with
  | nil => exact absurd member (Table.not_mem_empty job)
  | append_singleton history step ih =>
    obtain ⟨env, call⟩ := step
    obtain ⟨before, last⟩ := (never_overruns_snoc history env call).mp orderly
    rw [databaseAfter_snoc] at member
    -- A job is new, or a step has led to it that counts at most the item of the last call.
    rcases call.jobStep_of_mem (reachable_databaseAfter history).ledger env member with
      ⟨old, stored, step⟩ | ⟨-, _, _, _, positive, new⟩
    · have least := ih before old stored
      cases handed : call.workItem? env (databaseAfter history) with
      | none =>
        rw [handed] at step
        cases step with
        | kept | queued | closed | completed => exact least
        | failed =>
          rw [jobAfterFailure]
          split_ifs <;> exact least
      | some item =>
        -- The count of the claimed job is the count in the work item.
        have within := item_bounded (jobsAccounted history).fits last handed
        rw [handed] at step
        cases step with
        | kept => exact least
        | claimed => exact within
    · rw [new]
      exact positive.le

/--
The attempts of every history are bounded exactly when no claim overruns.

Workers crash, leases expire and calls come in any order; only the takeover of an expired lease is
made without looking at the stored maximum.
-/
theorem attemptsBounded_iff (history : List (Surroundings × RepoCall)) :
    AttemptsBounded history ↔ never RepoCall.overruns .empty history = true := by
  -- The items decide both ways; the column of a job counts its items.
  refine ⟨fun bounded => (items_bounded_iff history).mp bounded.items, fun orderly => ?_⟩
  refine ⟨(items_bounded_iff history).mpr orderly, fun job member => ?_⟩
  rw [← (jobsAccounted history).attempts job member]
  exact attemptCount_le history orderly job member

/-- A job that allows one attempt is handed out a second time when its worker has crashed. -/
theorem takeover_unbounded : ¬∀ history, AttemptsBounded history := by
  -- The two work items of the takeover are evaluated; the second one exceeds the bound.
  intro bounded
  have items : (handedOut takeover).map (fun item => (item.attemptCount, item.maxAttempts)) =
      [(1, 1), (2, 1)] := by decide +kernel
  obtain ⟨item, among, same⟩ :=
    List.mem_map.mp (items ▸ List.mem_cons_of_mem _ List.mem_cons_self)
  have within := (bounded takeover).items item among
  obtain ⟨count, most⟩ := Prod.mk.inj same
  omega

end Cislunar
