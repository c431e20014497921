import Cislunar.Proofs.Telemetry.JobRecord

/-!
A lease excludes other workers until it expires, and a worker that lost its lease is fenced off.

The row of a job names its owner and the end of the lease. Nothing but the owner or the clock takes
the work away, and nothing the former owner does reaches the row again.
-/

namespace Cislunar

open Foundation

/-- The database after a history of calls. -/
def databaseFrom (db : Database) (history : List (Surroundings × RepoCall)) : Database :=
  history.foldl (fun db step => (step.2.exec step.1 db).2) db

/-- Histories lead from reachable databases to reachable ones. -/
theorem Reachable.databaseFrom {db : Database} (reachable : Reachable db)
    (history : List (Surroundings × RepoCall)) : Reachable (databaseFrom db history) := by
  -- On the history, from any reachable tables.
  induction history generalizing db with
  | nil => exact reachable
  | cons step rest ih => exact ih (.call step.1 step.2 reachable)

/-- A worker ends its own attempt: it completes or fails the job, and the call returns. -/
def endsAttempt (jobId : UUID) (workerId : String) (env : Surroundings) (db : Database) :
    RepoCall → Bool
  | .completeProcessingJob target result worker processedAt =>
    target = jobId ∧ worker = workerId ∧
      ((RepoCall.completeProcessingJob target result worker processedAt).exec env db).1.isOk
  | .failProcessingAttempt target worker reason temporary baseBackoffSeconds now =>
    target = jobId ∧ worker = workerId ∧
      ((RepoCall.failProcessingAttempt target worker reason temporary baseBackoffSeconds
        now).exec env db).1.isOk
  | _ => false

/-- A call hands out the work of a job. -/
def handsOut (jobId : UUID) (env : Surroundings) (db : Database) (call : RepoCall) : Bool :=
  (call.workItem? env db).any (·.jobId = jobId)

/-- A worker holds a job, at least until some time. -/
def Holds (jobId : UUID) (workerId : String) (expiry : Time) (db : Database) : Prop :=
  ∃ job ∈ db.jobs, job.jobId = jobId ∧ job.state = .processing ∧ job.claimedBy = some workerId ∧
    ∃ expires, job.leaseExpiresAt = some expires ∧ expiry ≤ expires

section Exclusion
variable {db : Database} {jobId : UUID} {workerId : String} {expiry : Time}

/-- A completion that raises leaves everything as it was. -/
theorem CompleteOutcome.eq_of_error {result : ProcessingResultValues} {completionTime : Time}
    {outcome : Except StorageError ProcessedTelemetry × Database}
    (happened : CompleteOutcome db jobId result workerId completionTime outcome)
    (failed : outcome.1.isOk = false) : outcome.2 = db := by
  -- The outcomes with an error roll back.
  cases happened with
  | closed | completed => cases failed
  | missing | conflicting | refused | integrity => rfl

/-- A failed attempt that raises leaves everything as it was. -/
theorem FailOutcome.eq_of_error {reason : String} {temporary : Bool} {baseBackoffSeconds : Int}
    {failureTime : Time} {outcome : Except StorageError ProcessingFailureResult × Database}
    (happened : FailOutcome db jobId workerId reason temporary baseBackoffSeconds failureTime
      outcome) (failed : outcome.1.isOk = false) : outcome.2 = db := by
  -- The outcomes with an error roll back.
  cases happened with
  | repeated | failed => cases failed
  | missing | refused => rfl

/-- A held job stays held until its owner ends the attempt or the time is over. -/
theorem Holds.step (ledger : Ledger db) (holds : Holds jobId workerId expiry db)
    (env : Surroundings) (call : RepoCall)
    (unended : endsAttempt jobId workerId env db call = false) :
    Holds jobId workerId expiry (call.exec env db).2 ∨ expiry ≤ env.now := by
  obtain ⟨job, stored, rfl, state, owner, expires, lease, least⟩ := holds
  obtain ⟨row, among, step⟩ := call.jobStep ledger env stored
  have key := step.jobId
  generalize call.workItem? env db = handed at step
  cases step with
  | kept => exact Or.inl ⟨job, among, rfl, state, owner, expires, lease, least⟩
  | queued status => rcases status with other | other <;> simp [state] at other
  | closed call status => simp [state] at status
  | claimed free =>
    -- A job that is worked on can be claimed only after the end of its lease.
    have due : expires ≤ env.now := by simpa [isClaimable, isDue, state, lease] using free
    exact Or.inr (least.trans due)
  | @completed _ status worker owned result processedAt =>
    -- The completion changed the row, so it returned, and it was the owner's.
    cases owner.symm.trans owned
    have happened := completeProcessingJob_exec env db job.jobId result workerId processedAt
    have raised : ((RepoCall.completeProcessingJob job.jobId result workerId processedAt).exec env
        db).1.isOk = false := by simpa [endsAttempt] using unended
    rw [happened.eq_of_error raised] at among
    have same := Table.eq_of_key stored among rfl
    exact absurd (congrArg (·.state) same) (by simp [state, completedJob])
  | @failed _ status worker owned reason temporary baseBackoffSeconds now =>
    cases owner.symm.trans owned
    have raised : ((RepoCall.failProcessingAttempt job.jobId workerId reason temporary
        baseBackoffSeconds now).exec env db).1.isOk = false := by simpa [endsAttempt] using unended
    have unchanged : ((RepoCall.failProcessingAttempt job.jobId workerId reason temporary
        baseBackoffSeconds now).exec env db).2 = db := by
      rcases failProcessingAttempt_exec env db job.jobId workerId reason temporary
        baseBackoffSeconds now with ⟨_, refused⟩ | happened
      · exact congrArg Prod.snd refused
      · exact happened.eq_of_error raised
    rw [unchanged] at among
    have same := Table.eq_of_key stored among key.symm
    have ended := jobAfterFailure_state job reason temporary baseBackoffSeconds (now.getD env.now)
    rw [← same, state] at ended
    rcases ended with ended | ended <;> cases ended

/-- A claim that hands out a held job comes after the time. -/
theorem Holds.claim (holds : Holds jobId workerId expiry db) {env : Surroundings} {other : String}
    {leaseSeconds : Int} {item : TelemetryWorkItem}
    (answered : ((RepoCall.claimProcessingJob jobId other leaseSeconds).exec env db).1 =
      .ok (some item)) : expiry ≤ env.now := by
  -- The job is in the hands of a worker, so it is claimable only when its lease is due.
  obtain ⟨job, stored, key, state, -, expires, lease, least⟩ := holds
  have handed : (RepoCall.claimProcessingJob jobId other leaseSeconds).workItem? env db = some item :=
    congrArg answeredItem answered
  obtain ⟨_, _, _, claimed, same, found, free, -⟩ := RepoCall.workItem?_claimed handed
  cases same
  obtain rfl : claimed = job := by
    rw [← key, Table.get?_key stored] at found
    exact (Option.some.inj found).symm
  have due : expires ≤ env.now := by simpa [isClaimable, isDue, state, lease] using free
  exact least.trans due

/-- Whoever holds a job keeps every other claim out until the time is over. -/
theorem Holds.excludes (history : List (Surroundings × RepoCall)) (reachable : Reachable db)
    {clock : Time} (held : Holds jobId workerId expiry db ∨ expiry ≤ clock) {env : Surroundings}
    (forward : (clock :: history.map (·.1.now) ++ [env.now]).Pairwise (· ≤ ·))
    (unended : never (endsAttempt jobId workerId) db history = true) {other : String}
    {leaseSeconds : Int} {item : TelemetryWorkItem}
    (answered : ((RepoCall.claimProcessingJob jobId other leaseSeconds).exec env
      (databaseFrom db history)).1 = .ok (some item)) : expiry ≤ env.now := by
  -- Along the history the job is held, or the time is over and stays so.
  induction history generalizing db clock with
  | nil =>
    rcases held with holds | expired
    · exact holds.claim answered
    · exact expired.trans (List.pairwise_cons.mp forward |>.1 _ (by simp))
  | cons step rest ih =>
    obtain ⟨early, later⟩ := List.pairwise_cons.mp forward
    obtain ⟨quiet, unended⟩ := Bool.and_eq_true_iff.mp unended
    have next : Holds jobId workerId expiry (step.2.exec step.1 db).2 ∨ expiry ≤ step.1.now := by
      rcases held with holds | expired
      · exact holds.step reachable.ledger step.1 step.2 (by simpa using quiet)
      · exact Or.inr (expired.trans (early _ (by simp)))
    exact ih (.call step.1 step.2 reachable) next later unended answered

end Exclusion

/-- The errors that derive from `TelemetryStorageError`. -/
def StorageError.isTelemetryStorage : StorageError → Bool
  | valueError _ | integrity | database => false
  | _ => true

/-- Only the given worker may be working on a job. -/
def Fenced (jobId : UUID) (workerId : String) (db : Database) : Prop :=
  ∃ job ∈ db.jobs, job.jobId = jobId ∧
    (job.state = .processing → job.claimedBy = some workerId)

/-- State, owner, lease, attempts and retry time of a job stay, and so do packets and results. -/
structure WorkUnchanged (jobId : UUID) (before after : Database) : Prop where
  row : ∃ job ∈ before.jobs, ∃ row ∈ after.jobs, job.jobId = jobId ∧ row.jobId = jobId ∧
    row.state = job.state ∧ row.claimedBy = job.claimedBy ∧
    row.leaseExpiresAt = job.leaseExpiresAt ∧ row.attemptCount = job.attemptCount ∧
    row.nextAttemptAt = job.nextAttemptAt
  packets : after.packets = before.packets
  processed : after.processed = before.processed

/-- Whatever a worker calls, it does not reach a job that another one has taken over. -/
structure FencedOff (jobId : UUID) (workerId : String) (db : Database) : Prop where
  /-- A completion raises, or finds an equal result that is stored already. -/
  complete : ∀ env result processedAt,
    WorkUnchanged jobId db
      ((RepoCall.completeProcessingJob jobId result workerId processedAt).exec env db).2 ∧
    ((∃ error, ((RepoCall.completeProcessingJob jobId result workerId processedAt).exec env db).1 =
        .error error ∧ error.isTelemetryStorage = true) ∨
      ∃ stored ∈ db.processed,
        ((RepoCall.completeProcessingJob jobId result workerId processedAt).exec env db).1 =
          .ok stored ∧ sameProcessingResult stored result = true ∧
        ∃ job ∈ db.jobs, job.jobId = jobId ∧ job.state = .complete ∧
          stored.packetId = job.packetId)
  /-- A failed attempt raises, or finds the job given up already. -/
  fail : ∀ env reason temporary baseBackoffSeconds now,
    ((RepoCall.failProcessingAttempt jobId workerId reason temporary baseBackoffSeconds now).exec env
      db).2 = db ∧
    ((∃ error, ((RepoCall.failProcessingAttempt jobId workerId reason temporary baseBackoffSeconds
        now).exec env db).1 = .error error) ∨
      ∃ job ∈ db.jobs, job.jobId = jobId ∧ job.state = .failed ∧
        ((RepoCall.failProcessingAttempt jobId workerId reason temporary baseBackoffSeconds
          now).exec env db).1 = .ok (failureResult job none))
  /-- A claim that gets no work leaves the job alone. -/
  claim : ∀ env leaseSeconds,
    (RepoCall.claimProcessingJob jobId workerId leaseSeconds).workItem? env db = none →
    WorkUnchanged jobId db
      ((RepoCall.claimProcessingJob jobId workerId leaseSeconds).exec env db).2

section Fencing
variable {db : Database} {jobId : UUID} {owner : String}

/-- A job stays with its last owner until its work is handed out again. -/
theorem Fenced.step (ledger : Ledger db) (fenced : Fenced jobId owner db) (env : Surroundings)
    (call : RepoCall) (unsuperseded : handsOut jobId env db call = false) :
    Fenced jobId owner (call.exec env db).2 := by
  -- A step that leads into the hands of a worker hands out the work.
  obtain ⟨job, stored, rfl, owned⟩ := fenced
  obtain ⟨row, among, step⟩ := call.jobStep ledger env stored
  refine ⟨row, among, step.jobId, fun working => ?_⟩
  rw [handsOut] at unsuperseded
  generalize call.workItem? env db = handed at step unsuperseded
  cases step with
  | kept => exact owned working
  | queued | closed | completed => cases working
  | claimed free lease packet receipt => simp [workItem, claimedJob] at unsuperseded
  | failed =>
    rcases jobAfterFailure_state job _ _ _ _ with state | state
    · exact absurd (state.symm.trans working) (by simp)
    · exact absurd (state.symm.trans working) (by simp)

/-- A job stays with its last owner over a whole history. -/
theorem Fenced.run (history : List (Surroundings × RepoCall)) (reachable : Reachable db)
    (fenced : Fenced jobId owner db) (unsuperseded : never (handsOut jobId) db history = true) :
    Fenced jobId owner (databaseFrom db history) := by
  -- By induction on the history, from any reachable database.
  induction history generalizing db with
  | nil => exact fenced
  | cons step rest ih =>
    obtain ⟨quiet, unsuperseded⟩ := Bool.and_eq_true_iff.mp unsuperseded
    refine ih (.call step.1 step.2 reachable) ?_ unsuperseded
    exact fenced.step reachable.ledger step.1 step.2 (by simpa using quiet)

/-- Nothing changes where nothing is written. -/
theorem WorkUnchanged.refl {job : TelemetryProcessingJob} (stored : job ∈ db.jobs)
    (key : job.jobId = jobId) : WorkUnchanged jobId db db :=
  ⟨⟨job, stored, job, stored, key, key, rfl, rfl, rfl, rfl, rfl⟩, rfl, rfl⟩

/-- Closing a job that is complete already changes nothing that matters. -/
theorem WorkUnchanged.closed {job : TelemetryProcessingJob} (stored : job ∈ db.jobs)
    (key : job.jobId = jobId) (fits : JobWellFormed job) (status : job.state = .complete)
    (processed : ProcessedTelemetry) :
    WorkUnchanged jobId db (db.move (closedJob job processed) []) := by
  -- A complete job holds no lease, and closing writes the state that it has.
  have unleased : job.leaseExpiresAt = none := by
    rw [← Option.not_isSome_iff_eq_none, fits.lease, status]
    simp
  have among : closedJob job processed ∈ db.jobs.set (closedJob job processed) :=
    (Table.mem_set_of_mem stored (by rfl)).mpr (Or.inl rfl)
  exact ⟨⟨job, stored, _, among, key, key, status.symm, rfl, unleased.symm, rfl, rfl⟩, rfl, rfl⟩

/-- A result under the identifier of a job is the result of its packet. -/
theorem Ledger.admits_result (ledger : Ledger db) {job : TelemetryProcessingJob}
    (stored : job ∈ db.jobs) (undone : db.processed.get? job.packetId = none)
    (result : ProcessingResultValues) (completionTime : Time) :
    db.AdmitsProcessed (processedRow job result completionTime) := by
  -- A result under that job would name its packet, and the packet has none yet.
  refine ⟨undone, fun other member same => ?_⟩
  obtain ⟨worked, among, key, packet, -⟩ := ledger.processed other member
  obtain rfl : worked = job := Table.eq_of_key among stored (key.trans same)
  exact Table.get?_eq_none.mp undone other member packet.symm

/-- A worker that is not the last owner of a job is fenced off. -/
theorem Fenced.fencedOff (reachable : Reachable db) (fenced : Fenced jobId owner db)
    {workerId : String} (other : owner ≠ workerId) : FencedOff jobId workerId db := by
  have ledger := reachable.ledger
  obtain ⟨job, stored, key, owned⟩ := fenced
  -- What a call finds under the identifier is this job, and it is not the worker's.
  have same : ∀ {found : TelemetryProcessingJob}, db.jobs.get? jobId = some found →
      found = job := by
    intro found lookup
    rw [← key, Table.get?_key stored] at lookup
    exact (Option.some.inj lookup).symm
  have foreign : job.state = .processing → job.claimedBy ≠ some workerId := by
    intro working mine
    exact other (Option.some.inj ((owned working).symm.trans mine))
  refine ⟨fun env result processedAt => ?_,
    fun env reason temporary baseBackoffSeconds now => ?_, fun env leaseSeconds unhanded => ?_⟩
  · have happened := completeProcessingJob_exec env db jobId result workerId processedAt
    generalize (RepoCall.completeProcessingJob jobId result workerId processedAt).exec env db =
      outcome at happened ⊢
    cases happened with
    | missing | conflicting | refused => exact ⟨.refl stored key, Or.inl ⟨_, rfl, rfl⟩⟩
    | @closed found existing lookup done equal =>
      cases same lookup
      have status := ledger.complete_of_result stored done
      obtain ⟨member, named⟩ := Table.get?_eq_some.mp done
      exact ⟨.closed stored key (reachable.jobs_fit job stored) status existing,
        Or.inr ⟨existing, member, rfl, equal, job, stored, key, status, named⟩⟩
    | @completed found lookup undone status mine =>
      cases same lookup
      exact absurd mine (foreign status)
    | @integrity found lookup undone refused =>
      cases same lookup
      exact absurd (ledger.admits_result stored undone result _) refused
  · rcases failProcessingAttempt_exec env db jobId workerId reason temporary baseBackoffSeconds now
      with ⟨message, refused⟩ | happened
    · exact ⟨congrArg Prod.snd refused, Or.inl ⟨_, congrArg Prod.fst refused⟩⟩
    · generalize (RepoCall.failProcessingAttempt jobId workerId reason temporary baseBackoffSeconds
        now).exec env db = outcome at happened ⊢
      cases happened with
      | missing | refused => exact ⟨rfl, Or.inl ⟨_, rfl⟩⟩
      | @repeated found lookup status =>
        cases same lookup
        exact ⟨rfl, Or.inr ⟨job, stored, key, status, rfl⟩⟩
      | @failed found lookup status mine =>
        cases same lookup
        exact absurd mine (foreign status)
  · rcases claimProcessingJob_exec env db jobId workerId leaseSeconds with
      ⟨_, failed⟩ | ⟨-, happened⟩
    · rw [congrArg Prod.snd failed]
      exact .refl stored key
    · change answeredItem _ = none at unhanded
      generalize (RepoCall.claimProcessingJob jobId workerId leaseSeconds).exec env db =
        outcome at happened unhanded ⊢
      cases happened with
      | missing | finished | unavailable | dangling => exact .refl stored key
      | @closed found processed lookup done status =>
        cases same lookup
        exact absurd (ledger.complete_of_result stored done) status
      | taken => cases unhanded

end Fencing

/-- A claim that hands out a job leaves it in the hands of the worker, for the time of the lease. -/
theorem holds_of_claim {db : Database} {jobId : UUID} {workerId : String} {leaseSeconds : Int}
    {env : Surroundings} {item : TelemetryWorkItem}
    (answered : ((RepoCall.claimProcessingJob jobId workerId leaseSeconds).exec env db).1 =
      .ok (some item)) :
    Holds jobId workerId (env.now + secondsUs leaseSeconds)
      ((RepoCall.claimProcessingJob jobId workerId leaseSeconds).exec env db).2 := by
  -- Of the outcomes only the taking of the job answers with work.
  rcases claimProcessingJob_exec env db jobId workerId leaseSeconds with
    ⟨_, failed⟩ | ⟨-, happened⟩
  · cases (congrArg Prod.fst failed).symm.trans answered
  · generalize (RepoCall.claimProcessingJob jobId workerId leaseSeconds).exec env db =
      outcome at happened answered ⊢
    cases happened with
    | missing | closed | finished | unavailable | dangling => cases answered
    | @taken job packet receipt found =>
      obtain ⟨stored, key⟩ := Table.get?_eq_some.mp found
      exact ⟨_, (Table.mem_set_of_mem stored (by rfl)).mpr (Or.inl rfl), key, rfl, rfl, _, rfl,
        le_rfl⟩

/--
A lease excludes other workers, and a worker that lost it is fenced off.

Worker A is handed the work of a job, and after any other calls worker B is, without A having ended
its attempt in between; then A's lease had expired. From then on, until the work is handed out once
more, no call of A reaches the job, its packet or its result.
-/
theorem lease_excludes_and_fences (db : Database) (reachable : Reachable db) (jobId : UUID)
    (first : Surroundings) (workerA : String) (leaseA : Int) (itemA : TelemetryWorkItem)
    (answeredA : ((RepoCall.claimProcessingJob jobId workerA leaseA).exec first db).1 =
      .ok (some itemA))
    (between : List (Surroundings × RepoCall))
    (unended : never (endsAttempt jobId workerA)
      ((RepoCall.claimProcessingJob jobId workerA leaseA).exec first db).2 between = true)
    (second : Surroundings) (workerB : String) (other : workerB ≠ workerA) (leaseB : Int)
    (itemB : TelemetryWorkItem)
    (answeredB : ((RepoCall.claimProcessingJob jobId workerB leaseB).exec second
      (databaseFrom ((RepoCall.claimProcessingJob jobId workerA leaseA).exec first db).2
        between)).1 = .ok (some itemB))
    (forward : (first.now :: between.map (·.1.now) ++ [second.now]).Pairwise (· ≤ ·)) :
    first.now + secondsUs leaseA ≤ second.now ∧
      ∀ later, never (handsOut jobId)
          ((RepoCall.claimProcessingJob jobId workerB leaseB).exec second
            (databaseFrom ((RepoCall.claimProcessingJob jobId workerA leaseA).exec first db).2
              between)).2 later = true →
        FencedOff jobId workerA (databaseFrom
          ((RepoCall.claimProcessingJob jobId workerB leaseB).exec second
            (databaseFrom ((RepoCall.claimProcessingJob jobId workerA leaseA).exec first db).2
              between)).2 later) := by
  have claimed : Reachable ((RepoCall.claimProcessingJob jobId workerA leaseA).exec first db).2 :=
    .call first _ reachable
  refine ⟨Holds.excludes between claimed (Or.inl (holds_of_claim answeredA)) forward unended
    answeredB, fun later unsuperseded => ?_⟩
  -- After its claim the job is B's, and stays so until it is handed out again.
  have taken : Reachable ((RepoCall.claimProcessingJob jobId workerB leaseB).exec second
      (databaseFrom ((RepoCall.claimProcessingJob jobId workerA leaseA).exec first db).2
        between)).2 := .call second _ (claimed.databaseFrom between)
  obtain ⟨job, stored, key, -, owner, -⟩ := holds_of_claim answeredB
  have fenced := Fenced.run later taken ⟨job, stored, key, fun _ => owner⟩ unsuperseded
  exact fenced.fencedOff (taken.databaseFrom later) other

/-- In the takeover the first lease has run out, and its owner is fenced off. -/
theorem takeover_fenced :
    (surroundingsWith 13).now + secondsUs 60 ≤ secondsUs 60 ∧
      FencedOff 11 "worker-a" (databaseAfter takeover) := by
  -- Both claims of the takeover are evaluated, and both hand the job out.
  have queued : (answeredItem ((RepoCall.claimProcessingJob 11 "worker-a" 60).exec
      (surroundingsWith 13) (databaseAfter (takeover.take 3))).1).isSome = true := by decide +kernel
  have expired : (answeredItem ((RepoCall.claimProcessingJob 11 "worker-b" 60).exec
      { surroundingsWith 14 with now := secondsUs 60 } (databaseAfter (takeover.take 4))).1).isSome =
        true := by decide +kernel
  obtain ⟨itemA, handedA⟩ := Option.isSome_iff_exists.mp queued
  obtain ⟨itemB, handedB⟩ := Option.isSome_iff_exists.mp expired
  have fenced := lease_excludes_and_fences (databaseAfter (takeover.take 3))
    (reachable_databaseAfter _) 11 (surroundingsWith 13) "worker-a" 60 itemA
    (of_answeredItem handedA) [] rfl { surroundingsWith 14 with now := secondsUs 60 } "worker-b"
    (by decide) 60 itemB (of_answeredItem handedB) (by decide)
  exact ⟨fenced.1, fenced.2 [] rfl⟩

end Cislunar
