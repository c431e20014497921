import Cislunar.Foundation.Runs
import Cislunar.Proofs.Services.Agreement
import Cislunar.Proofs.Services.Loaded

/-!
One iteration of a worker that nothing interrupts.

Every path of the iteration moves the claimed reference to where the state of its job says, except the
path of a reference without a job, which goes back to the queue for ever.
-/

namespace Cislunar

open Foundation

/-- A request of a lone process with both stores reachable; time may pass before it. -/
def Ground.Serves (request : Request) (before : Ground) (reply : Except Failure request.Reply)
    (after : Ground) : Prop :=
  ∃ uuid4 later, Ticks before later ∧ later.serve uuid4 request = (reply, after)

/-- The identity that `run_worker` gives itself. -/
def workerIdentity (hostname : String) (id : UUID) : String := hostname ++ ":" ++ id.str

/-- The reference is in no list and its job is unmarked. -/
def Gone (message : QueueMessage) (queue : TelemetryQueue) : Prop :=
  message ∉ queue.references ∧ queue.marker message.jobId = none

/-- The reference is kept for investigation. -/
def Buried (message : QueueMessage) (queue : TelemetryQueue) : Prop :=
  message ∉ queue.processing ∧ message ∈ queue.failed

/-- The reference waits for another claim. -/
def Returned (message : QueueMessage) (queue : TelemetryQueue) : Prop :=
  message ∉ queue.processing ∧ message ∈ queue.pending ∧
    queue.marker message.jobId = some message

/-- The reference is where the state of its job says. -/
def Resolved (message : QueueMessage) (ground : Ground) : Prop :=
  match ground.database.jobs.get? message.jobId with
  | none => Gone message ground.queue
  | some job =>
    if job.state = .complete then Gone message ground.queue
    else if job.state = .failed then Buried message ground.queue
    else Returned message ground.queue

namespace Resolved
variable {message : QueueMessage} {ground : Ground} {job : TelemetryProcessingJob}

/-- Without a job the reference has to be gone. -/
theorem of_missing (absent : ground.database.jobs.get? message.jobId = none)
    (gone : Gone message ground.queue) : Resolved message ground := by
  -- A reference without a job is resolved by being gone.
  rw [Resolved, absent]
  exact gone

/-- The reference of a complete job has to be gone. -/
theorem of_complete (found : ground.database.jobs.get? message.jobId = some job)
    (complete : job.state = .complete) (gone : Gone message ground.queue) :
    Resolved message ground := by
  -- A reference of a complete job is resolved by being gone.
  rw [Resolved, found]
  exact (if_pos complete).mpr gone

/-- The reference of a failed job has to be kept apart. -/
theorem of_failed (found : ground.database.jobs.get? message.jobId = some job)
    (failed : job.state = .failed) (buried : Buried message ground.queue) :
    Resolved message ground := by
  -- A reference of a failed job is resolved by being among the failed ones.
  have incomplete : job.state ≠ .complete := by simp [failed]
  rw [Resolved, found]
  exact (if_neg incomplete).mpr ((if_pos failed).mpr buried)

/-- The reference of any other job has to wait. -/
theorem of_open (found : ground.database.jobs.get? message.jobId = some job)
    (incomplete : job.state ≠ .complete) (unfailed : job.state ≠ .failed)
    (waiting : Returned message ground.queue) : Resolved message ground := by
  -- A reference of an open job is resolved by waiting again.
  rw [Resolved, found]
  exact (if_neg incomplete).mpr ((if_neg unfailed).mpr waiting)

end Resolved

/-- The reference is claimed and its queue is consistent. -/
structure InHand (message : QueueMessage) (ground : Ground) : Prop where
  consistent : QueueConsistent ground.queue
  claimed : message ∈ ground.queue.processing

/-- The job of a claimed reference is claimed too. -/
structure AtWork (workerId : String) (message : QueueMessage) (ground : Ground) : Prop
    extends InHand message ground where
  job : ∃ job, ground.database.jobs.get? message.jobId = some job ∧ job.state = .processing ∧
    job.claimedBy = some workerId ∧ ground.database.processed.get? job.packetId = none

section
variable {message : QueueMessage} {workerId : String}

/-- A consistent queue has the claimed reference once. -/
theorem InHand.elsewhere {ground : Ground} (held : InHand message ground) :
    message ∉ ground.queue.pending ++ ground.queue.processing.erase message ++ ground.queue.failed := by
  -- References are distinct, so the one in processing is nowhere else.
  have parts := references_perm_of_processing held.claimed
  exact (List.nodup_cons.mp (parts.nodup_iff.mp held.consistent.distinct)).1

/-- A consistent queue marks the claimed reference. -/
theorem InHand.marked {ground : Ground} (held : InHand message ground) :
    ground.queue.marker message.jobId = some message := by
  -- The queue is consistent, so a reference that is listed has its marker.
  apply (held.consistent.marked _ _).mpr
  simp [TelemetryQueue.references, held.claimed]

/-- A repository call of a lone process that holds nothing. -/
theorem Ground.Serves.repository {call : RepoCall} {before after : Ground}
    {reply : Except Failure call.Reply} (served : Serves (.repository call {}) before reply after) :
    ∃ env, reply = (call.exec env before.database).1.mapError .storage ∧
      after.database = (call.exec env before.database).2 ∧ after.queue = before.queue := by
  -- With nothing in hand the call acts on the rows.
  obtain ⟨uuid4, later, ⟨clock, passed, rfl⟩, same⟩ := served
  rw [serve, perform, RepoCall.execHolding_empty] at same
  injection same with answer state
  subst answer state
  exact ⟨⟨uuid4, clock⟩, rfl, rfl, rfl⟩

/-- A queue operation of a lone process. -/
theorem Ground.Serves.queue {call : QueueCall} {before after : Ground}
    {reply : Except Failure call.Reply} (served : Serves (.queue call) before reply after) :
    reply = (call.exec before.queue).1.mapError .queue ∧ after.queue = (call.exec before.queue).2 ∧
      after.database = before.database := by
  -- A queue command leaves the tables and the clock of its surroundings alone.
  obtain ⟨uuid4, later, ⟨clock, passed, rfl⟩, same⟩ := served
  injection same with answer state
  subst answer state
  exact ⟨rfl, rfl, rfl⟩

/-- An acknowledged reference is gone. -/
theorem InHand.ack {before after : Ground} {outcome : Except Failure Unit}
    (held : InHand message before)
    (run : Runs Ground.Serves (callQueue (.ack message)) before outcome after) :
    outcome = .ok () ∧ Gone message after.queue ∧ after.database = before.database := by
  -- The script finds the entry, since the reference is claimed.
  obtain ⟨rfl, moved, kept⟩ := Ground.Serves.queue run.of_call
  have happened := ack_outcome before.queue message
  rw [moved]
  generalize (QueueCall.ack message).exec before.queue = scripted at happened
  cases happened with
  | missing absent text => exact absurd held.claimed absent
  | removed claimed => exact ⟨rfl, ⟨held.elsewhere, Function.update_self ..⟩, kept⟩

/-- A reference that is given back waits again. -/
theorem InHand.retry {before after : Ground} {outcome : Except Failure Unit}
    (held : InHand message before)
    (run : Runs Ground.Serves (callQueue (.retry message)) before outcome after) :
    outcome = .ok () ∧ Returned message after.queue ∧ after.database = before.database := by
  obtain ⟨rfl, moved, kept⟩ := Ground.Serves.queue run.of_call
  have happened := retry_outcome before.queue message
  rw [moved]
  generalize (QueueCall.retry message).exec before.queue = scripted at happened
  cases happened with
  | missing absent text => exact absurd held.claimed absent
  | returned claimed =>
    -- The entry was nowhere else, so it is pending now and no longer processing.
    have elsewhere := held.elsewhere
    simp only [List.mem_append, not_or] at elsewhere
    exact ⟨rfl, ⟨elsewhere.1.2, List.mem_cons_self, held.marked⟩, kept⟩

/-- A dead letter is kept in the failed list. -/
theorem InHand.deadLetter {before after : Ground} {outcome : Except Failure Unit}
    (held : InHand message before)
    (run : Runs Ground.Serves (callQueue (.deadLetter message)) before outcome after) :
    outcome = .ok () ∧ Buried message after.queue ∧ after.database = before.database := by
  obtain ⟨rfl, moved, kept⟩ := Ground.Serves.queue run.of_call
  have happened := deadLetter_outcome before.queue message
  rw [moved]
  generalize (QueueCall.deadLetter message).exec before.queue = scripted at happened
  cases happened with
  | missing absent text => exact absurd held.claimed absent
  | buried claimed =>
    -- The entry was nowhere else, so the failed list alone has it.
    have elsewhere := held.elsewhere
    simp only [List.mem_append, not_or] at elsewhere
    exact ⟨rfl, ⟨elsewhere.1.2, List.mem_cons_self⟩, kept⟩

/-- A job that is moved is found as it was left. -/
theorem get?_moved {db : Database} {job row : TelemetryProcessingJob} {jobId : UUID}
    (found : db.jobs.get? jobId = some job) (same : row.jobId = job.jobId) :
    (db.jobs.set row).get? jobId = some row := by
  -- The row is written under the key it was found under.
  rw [Table.get?_set_of_used found (same.trans (Table.get?_eq_some.mp found).2), if_pos rfl]

/-- An unclaimed reference goes where its job says. -/
theorem InHand.unclaimed {before after : Ground} {outcome : Except Failure Unit}
    (held : InHand message before)
    (run : Runs Ground.Serves (returnOrFinishUnclaimed message) before outcome after) :
    outcome = .ok () ∧ Resolved message after ∧ after.database = before.database := by
  rcases run.of_bind with ⟨error, -, read⟩ | ⟨found, middle, read, rest⟩
  · obtain ⟨env, failed, -⟩ := Ground.Serves.repository read.of_call
    cases failed
  obtain ⟨env, answered, kept, queue⟩ := Ground.Serves.repository read.of_call
  cases answered
  replace kept : middle.database = before.database := kept
  have waits : InHand message middle := ⟨queue ▸ held.consistent, queue ▸ held.claimed⟩
  -- The helper asks for the state of the job, and the job is still as it was read.
  cases known : before.database.jobs.get? message.jobId with
  | none =>
    rw [known] at rest
    obtain ⟨returned, gone, same⟩ := waits.ack rest
    replace same : after.database = before.database := same.trans kept
    exact ⟨returned, .of_missing (same ▸ known) gone, same⟩
  | some job =>
    rw [known] at rest
    dsimp only at rest
    by_cases complete : job.state = .complete
    · rw [if_pos complete] at rest
      obtain ⟨returned, gone, same⟩ := waits.ack rest
      replace same : after.database = before.database := same.trans kept
      exact ⟨returned, .of_complete (same ▸ known) complete gone, same⟩
    · rw [if_neg complete] at rest
      by_cases failed : job.state = .failed
      · rw [if_pos failed] at rest
        obtain ⟨returned, buried, same⟩ := waits.deadLetter rest
        replace same : after.database = before.database := same.trans kept
        exact ⟨returned, .of_failed (same ▸ known) failed buried, same⟩
      · rw [if_neg failed] at rest
        obtain ⟨returned, waiting, same⟩ := waits.retry rest
        replace same : after.database = before.database := same.trans kept
        exact ⟨returned, .of_open (same ▸ known) complete failed waiting, same⟩

/-- The packet of a job and its source receipt are there. -/
theorem LooseLedger.sources {db : Database} (ledger : LooseLedger db) {jobId : UUID}
    {job : TelemetryProcessingJob} (found : db.jobs.get? jobId = some job) :
    ∃ packet, db.packets.get? job.packetId = some packet ∧
      ∃ receipt, db.receipts.get? packet.sourceReceiptId = some receipt := by
  -- The job has a packet and the packet a receipt; both are found under their keys.
  obtain ⟨packet, stored, named⟩ := (ledger.jobs job (Table.get?_eq_some.mp found).1).packet
  obtain ⟨receipt, among, key, -⟩ := (ledger.packets packet stored).source
  exact ⟨packet, Table.get?_eq_some.mpr ⟨stored, named⟩, receipt,
    Table.get?_eq_some.mpr ⟨among, key⟩⟩

/-- What the claim of work can come to. -/
inductive WorkClaimed (workerId : String) (message : QueueMessage) (before : Ground) :
    Except Failure (Option TelemetryWorkItem) → Ground → Prop where
  | resolved {after : Ground} (known : before.database.jobs.get? message.jobId ≠ none)
      (resolved : Resolved message after) : WorkClaimed workerId message before (.ok none) after
  | taken {item : TelemetryWorkItem} {after : Ground}
      (known : before.database.jobs.get? message.jobId ≠ none)
      (same : item.jobId = message.jobId) (works : AtWork workerId message after) :
      WorkClaimed workerId message before (.ok (some item)) after
  | missing {failure : Failure} {after : Ground}
      (unknown : after.database.jobs.get? message.jobId = none)
      (absent : before.database.jobs.get? message.jobId = none) (held : InHand message after) :
      WorkClaimed workerId message before (.error failure) after

/-- A claim takes the job or resolves the reference, unless there is no job. -/
theorem InHand.claimWork {before after : Ground}
    {outcome : Except Failure (Option TelemetryWorkItem)} (held : InHand message before)
    (ledger : LooseLedger before.database) (named : workerId.isEmpty = false)
    (run : Runs Ground.Serves (claimWork workerId message) before outcome after) :
    WorkClaimed workerId message before outcome after := by
  -- What the repository answers and leaves, with the queue it does not touch.
  have called : ∀ {reply middle}, Runs Ground.Serves
      (callRepository (.claimProcessingJob message.jobId workerId 60)) before reply middle →
      ∃ now answer, ClaimOutcome before.database message.jobId workerId 60 now
        (answer, middle.database) ∧ reply = answer.mapError .storage ∧ InHand message middle := by
    intro reply middle part
    obtain ⟨env, answered, database, queue⟩ := Ground.Serves.repository part.of_call
    refine ⟨env.now, _, ?_, answered, queue ▸ held.consistent, queue ▸ held.claimed⟩
    rw [database]
    exact claimProcessingJob_valid env before.database message.jobId named (by decide)
  have complete : ∀ {job}, before.database.jobs.get? message.jobId = some job →
      before.database.jobs.get? message.jobId ≠ none := by
    intro job found
    rw [found]
    exact Option.some_ne_none job
  -- Only a missing job makes the claim raise, since a job has its packet and its source.
  rcases run.of_bind with ⟨error, rfl, part⟩ | ⟨work, middle, part, rest⟩
  · obtain ⟨now, answer, happened, answered, still⟩ := called part
    generalize left : after.database = database at happened
    cases happened with
    | missing absent => exact .missing (left ▸ absent) absent still
    | dangling found broken text =>
      obtain ⟨packet, stored, receipt, source⟩ := ledger.sources found
      exact absurd ((broken packet stored).symm.trans source) nofun
    | closed | finished | unavailable | taken => cases answered
  · obtain ⟨now, answer, happened, answered, still⟩ := called part
    generalize left : middle.database = database at happened
    cases happened with
    | missing | dangling => cases answered
    | closed found done status | finished found done status | unavailable found undone blocked =>
      -- The helper resolves what the claim left to it.
      cases answered
      rcases rest.of_bind with ⟨error, rfl, part⟩ | ⟨value, later, part, rest⟩
      · cases (still.unclaimed part).1
      · cases rest
        exact .resolved (complete found) (still.unclaimed part).2.1
    | taken found undone free stored source =>
      cases answered
      cases rest
      refine .taken (complete found) (Table.get?_eq_some.mp found).2 ⟨still, ?_⟩
      rw [left]
      exact ⟨_, get?_moved found rfl, rfl, rfl, undone⟩

/-- Processing completes the job and acknowledges the reference, or leaves both in hand. -/
theorem AtWork.process {before after : Ground} {outcome : Except Failure Unit}
    {item : TelemetryWorkItem} (works : AtWork workerId message before)
    (same : item.jobId = message.jobId)
    (run : Runs Ground.Serves (processWork workerId message item) before outcome after) :
    outcome = .ok () ∧ Resolved message after ∨
      (∃ failure, outcome = .error failure) ∧ AtWork workerId message after := by
  unfold processWork at run
  split at run
  -- The computation has failed before anything was stored.
  · cases run
    exact .inr ⟨⟨_, rfl⟩, works⟩
  · next result computed =>
    rw [same] at run
    obtain ⟨held, job, found, status, owned, undone⟩ := works
    have called : ∀ {reply middle}, Runs Ground.Serves
        (callRepository (.completeProcessingJob message.jobId result workerId none)) before reply
        middle → ∃ now answer, CompleteOutcome before.database message.jobId result workerId now
          (answer, middle.database) ∧ reply = answer.mapError .storage ∧ InHand message middle := by
      intro reply middle part
      obtain ⟨env, answered, database, queue⟩ := Ground.Serves.repository part.of_call
      refine ⟨env.now, _, ?_, answered, queue ▸ held.consistent, queue ▸ held.claimed⟩
      rw [database]
      exact completeProcessingJob_exec env before.database message.jobId result workerId none
    -- A completion that raises has left the job to the worker.
    rcases run.of_bind with ⟨error, rfl, part⟩ | ⟨row, middle, part, rest⟩
    · obtain ⟨now, answer, happened, answered, still⟩ := called part
      generalize left : after.database = database at happened
      refine .inr ⟨⟨error, rfl⟩, still, job, ?_⟩
      cases happened with
      | closed | completed => cases answered
      | missing | conflicting | refused | integrity =>
        rw [left]
        exact ⟨found, status, owned, undone⟩
    · obtain ⟨now, answer, happened, answered, still⟩ := called part
      generalize left : middle.database = database at happened
      cases happened with
      | missing | conflicting | refused | integrity => cases answered
      | closed other done equal =>
        rw [found] at other
        cases other
        cases undone.symm.trans done
      | @completed row other =>
        -- The job is complete, and its acknowledgement finds the entry.
        have complete : (before.database.jobs.set (completedJob row now)).get? message.jobId =
            some (completedJob row now) := get?_moved other rfl
        have ends : ∀ {reply}, Runs Ground.Serves (callQueue (.ack message)) middle reply after →
            reply = .ok () ∧ Resolved message after := by
          intro reply acknowledged
          obtain ⟨returned, gone, kept⟩ := still.ack acknowledged
          have stored : after.database.jobs.get? message.jobId = some (completedJob row now) := by
            rw [kept, left]
            exact complete
          exact ⟨returned, .of_complete stored rfl gone⟩
        rcases rest.of_tryCatch with ⟨value, rfl, acknowledged⟩ | ⟨error, later, acknowledged, rest⟩
        · exact .inl (ends acknowledged)
        · cases (still.ack acknowledged).1

/-- The state of a job after a failed attempt. -/
theorem jobAfterFailure_open (job : TelemetryProcessingJob) (reason : String) (temporary : Bool)
    (base : Int) (now : Time) : (jobAfterFailure job reason temporary base now).state ≠ .complete := by
  -- A failed attempt ends in FAILED or RETRY_WAIT.
  unfold jobAfterFailure
  split <;> simp [failedJob, retryingJob]

/-- The failure of the job in hand is always stored. -/
theorem AtWork.failProcessingAttempt {before after : Ground} {reason : String} {temporary : Bool}
    {reply : Except Failure ProcessingFailureResult} (works : AtWork workerId message before)
    (run : Runs Ground.Serves (callRepository
      (.failProcessingAttempt message.jobId workerId reason temporary 1 none)) before reply after) :
    ∃ row, reply = .ok (failureResult row row.nextAttemptAt) ∧
      after.database.jobs.get? message.jobId = some row ∧ row.state ≠ .complete ∧
      InHand message after := by
  obtain ⟨held, job, found, status, owned, -⟩ := works
  obtain ⟨env, answered, database, queue⟩ := Ground.Serves.repository run.of_call
  have happened := failProcessingAttempt_valid env before.database message.jobId workerId
    reason temporary none (show (0 : Int) < 1 by decide)
  rw [answered, database]
  generalize (RepoCall.failProcessingAttempt message.jobId workerId reason temporary 1 none).exec env
    before.database = stored at happened
  -- The job is being processed by this worker, so its failure is neither refused nor a repetition.
  cases happened with
  | missing absent => cases absent.symm.trans found
  | repeated other failed =>
    cases found.symm.trans other
    cases status.symm.trans failed
  | refused other lost =>
    cases found.symm.trans other
    exact absurd lost (not_or.mpr ⟨not_not.mpr status, not_not.mpr owned⟩)
  | failed other =>
    refine ⟨_, rfl, get?_moved other ?_, jobAfterFailure_open _ _ _ _ _,
      queue ▸ held.consistent, queue ▸ held.claimed⟩
    unfold jobAfterFailure
    split <;> rfl

/-- The handler for an unreachable database is not needed. -/
theorem AtWork.recordFailure {before after : Ground} {item : TelemetryWorkItem} {failure : Failure}
    {outcome : Except Failure (Option ProcessingFailureResult)}
    (works : AtWork workerId message before) (same : item.jobId = message.jobId)
    (run : Runs Ground.Serves (recordFailure workerId item failure) before outcome after) :
    ∃ row, outcome = .ok (some (failureResult row row.nextAttemptAt)) ∧
      after.database.jobs.get? message.jobId = some row ∧ row.state ≠ .complete ∧
      InHand message after := by
  unfold Cislunar.recordFailure at run
  dsimp only at run
  rw [same] at run
  -- The handler would have to catch an error, and the call has none.
  rcases run.of_tryCatch with ⟨value, rfl, part⟩ | ⟨error, later, part, -⟩
  · rcases part.of_bind with ⟨error, failed, -⟩ | ⟨value, later, part, rest⟩
    · cases failed
    · obtain ⟨row, answered, stored⟩ := works.failProcessingAttempt part
      cases answered
      cases rest
      exact ⟨row, rfl, stored⟩
  · rcases part.of_bind with ⟨error, -, part⟩ | ⟨value, later, -, rest⟩
    · obtain ⟨row, answered, -⟩ := works.failProcessingAttempt part
      cases answered
    · cases rest

/-- A failed attempt is recorded and its reference follows. -/
theorem AtWork.fail {before after : Ground} {outcome : Except Failure Unit}
    {item : TelemetryWorkItem} {failure : Failure} (works : AtWork workerId message before)
    (same : item.jobId = message.jobId)
    (run : Runs Ground.Serves (failWork workerId message item failure) before outcome after) :
    Resolved message after := by
  rcases run.of_bind with ⟨error, -, part⟩ | ⟨result, middle, part, rest⟩
  · obtain ⟨row, answered, -⟩ := works.recordFailure same part
    cases answered
  · obtain ⟨row, answered, stored, incomplete, still⟩ := works.recordFailure same part
    cases answered
    dsimp only [failureResult] at rest
    -- The reference follows the new state of its job.
    by_cases failed : row.state = .failed
    · rw [if_pos failed] at rest
      obtain ⟨-, buried, kept⟩ := still.deadLetter rest
      exact .of_failed (kept ▸ stored) failed buried
    · rw [if_neg failed] at rest
      obtain ⟨-, waiting, kept⟩ := still.retry rest
      exact .of_open (kept ▸ stored) incomplete failed waiting

/-- A claim that answers a message has it in hand. -/
theorem InHand.of_claim {before after : Ground} {outcome : Except Failure (Option QueueMessage)}
    (consistent : QueueConsistent before.queue)
    (claimed : (QueueCall.claim.exec before.queue).1 = .ok (some message))
    (run : Runs Ground.Serves claimReference before outcome after) :
    outcome = .ok (some message) ∧ after.database = before.database ∧ InHand message after := by
  have happened := claim_outcome before.queue
  have kept := happened.rearranged.1.consistent consistent
  have held : message ∈ (QueueCall.claim.exec before.queue).2.processing := by
    generalize QueueCall.claim.exec before.queue = scripted at happened claimed
    cases happened with
    | idle empty => cases claimed
    | claimed oldest =>
      cases claimed
      exact List.mem_cons_self
  -- The handler only catches an error, and the claim has answered.
  rcases run.of_tryCatch with ⟨value, rfl, part⟩ | ⟨error, later, part, -⟩
  · obtain ⟨answered, queue, database⟩ := Ground.Serves.queue part.of_call
    rw [claimed] at answered
    cases answered
    exact ⟨rfl, database, queue ▸ kept, queue ▸ held⟩
  · obtain ⟨answered, -⟩ := Ground.Serves.queue part.of_call
    rw [claimed] at answered
    cases answered

/-- A worker has a name. -/
theorem workerIdentity_named (hostname : String) (id : UUID) :
    (workerIdentity hostname id).isEmpty = false := by
  -- The separator alone makes the name non-empty.
  simp [workerIdentity]

/-- The reference of a job that cannot be claimed for an error waits again. -/
theorem InHand.returnReference {before after : Ground} {outcome : Except Failure Unit}
    (held : InHand message before)
    (run : Runs Ground.Serves (returnReference message) before outcome after) :
    outcome = .ok () ∧ Returned message after.queue ∧ after.database = before.database := by
  -- A reference in hand is in processing, so its return never raises.
  rcases run.of_tryCatch with ⟨value, rfl, part⟩ | ⟨error, later, part, -⟩
  · exact held.retry part
  · cases (held.retry part).1

/-- A reference that waits is not resolved while it has no job. -/
theorem Returned.unresolved {ground : Ground} (waiting : Returned message ground.queue)
    (absent : ground.database.jobs.get? message.jobId = none) : ¬Resolved message ground := by
  -- The reference is listed although there is no job for it.
  intro resolved
  rw [Resolved, absent] at resolved
  apply resolved.1
  simp [TelemetryQueue.references, waiting.2.1]

/-- The claim of work with its handler. -/
theorem InHand.guardedClaim {before after : Ground}
    {outcome : Except Failure (Option TelemetryWorkItem)} (held : InHand message before)
    (ledger : LooseLedger before.database) (named : workerId.isEmpty = false)
    (run : Runs Ground.Serves ((Cislunar.claimWork workerId message).tryCatch fun _ => do
      Cislunar.returnReference message
      return none) before outcome after) :
    (outcome = .ok none ∧
      (Resolved message after ↔ before.database.jobs.get? message.jobId ≠ none)) ∨
    ∃ item, outcome = .ok (some item) ∧ item.jobId = message.jobId ∧
      AtWork workerId message after ∧ before.database.jobs.get? message.jobId ≠ none := by
  rcases run.of_tryCatch with ⟨value, rfl, part⟩ | ⟨error, later, part, rest⟩
  · have claim := held.claimWork ledger named part
    generalize answer : (Except.ok value : Except Failure (Option TelemetryWorkItem)) = outcome
      at claim
    cases claim with
    | resolved known resolved => exact .inl ⟨rfl, iff_of_true resolved known⟩
    | taken known same works => exact .inr ⟨_, rfl, same, works, known⟩
    | missing => cases answer
  · have claim := held.claimWork ledger named part
    generalize answer : (Except.error error : Except Failure (Option TelemetryWorkItem)) = raised
      at claim
    cases claim with
    | resolved | taken => cases answer
    | missing unknown absent still =>
      -- The job is missing here, and the handler gives the reference back.
      rcases rest.of_bind with ⟨error, -, part⟩ | ⟨value, last, part, rest⟩
      · cases (still.returnReference part).1
      · obtain ⟨-, waiting, kept⟩ := still.returnReference part
        cases rest
        exact .inl ⟨rfl, iff_of_false (waiting.unresolved (kept ▸ unknown))
          (not_not.mpr absent)⟩

/--
An iteration moves the claimed reference to where the state of its job says, unless there is no job.

Without a job the helper would acknowledge the reference, but the claim of work raises first and the
reference goes back to the pending entries.
-/
theorem iteration_resolves_reference {before after : Ground} {hostname : String} {id : UUID}
    {outcome : Except Failure Unit} (ledger : LooseLedger before.database)
    (consistent : QueueConsistent before.queue)
    (claimed : (QueueCall.claim.exec before.queue).1 = .ok (some message))
    (run : Runs Ground.Serves (workerIteration (workerIdentity hostname id)) before outcome after) :
    Resolved message after ↔ before.database.jobs.get? message.jobId ≠ none := by
  -- The iteration claims a reference, then its job, then works on it.
  rcases run.of_bind with ⟨error, -, part⟩ | ⟨found, middle, part, rest⟩
  · obtain ⟨answered, -⟩ := InHand.of_claim consistent claimed part
    cases answered
  obtain ⟨answered, database, held⟩ := InHand.of_claim consistent claimed part
  cases answered
  have named := workerIdentity_named hostname id
  rw [← database] at ledger ⊢
  rcases rest.of_bind with ⟨error, -, part⟩ | ⟨work, later, part, rest⟩
  · rcases held.guardedClaim ledger named part with ⟨answered, -⟩ | ⟨item, answered, -⟩
    · cases answered
    · cases answered
  · rcases held.guardedClaim ledger named part with
      ⟨answered, resolved⟩ | ⟨item, answered, same, works, known⟩
    · cases answered
      cases rest
      exact resolved
    · -- A job in hand is completed, or its failure is recorded.
      cases answered
      apply iff_of_true _ known
      rcases rest.of_tryCatch with ⟨value, rfl, part⟩ | ⟨error, last, part, rest⟩
      · rcases works.process same part with ⟨-, resolved⟩ | ⟨⟨failure, failed⟩, -⟩
        · exact resolved
        · cases failed
      · rcases works.process same part with ⟨returned, -⟩ | ⟨-, still⟩
        · cases returned
        · exact still.fail same rest

end

/-- A program that is served without delay runs alone. -/
theorem Ground.serves_runAlone {α : Type} (uuid4 : Nat → UUID) (program : Service α)
    (ground : Ground) : Runs Serves program ground (program.runAlone (serve uuid4) ground).1
      (program.runAlone (serve uuid4) ground).2 := by
  -- Every request is served at an unmoved clock.
  apply Runs.of_runAlone
  intro request state
  exact ⟨uuid4, state, ⟨state.clock, le_refl _, rfl⟩, rfl⟩

/-- The reference of the delivered golden vector. -/
def goldenReference : QueueMessage := ⟨2, "TLM-P01-B0000002A-S00000001", by decide⟩

/-- The delivered packet is processed and its reference is gone. -/
theorem delivered_reference_resolved :
    Resolved goldenReference ((workerIteration (workerIdentity "worker" 5)).runAlone
      (Ground.serve fun _ => 9) (GroundConfig.after deliverySchedule).state).2 := by
  -- The schedule has queued the reference, which the worker claims.
  have backed := storesBacked_of_run (GroundConfig.after_run deliverySchedule)
  have known : (GroundConfig.after deliverySchedule).state.database.jobs.get?
      goldenReference.jobId ≠ none := by decide +kernel
  have claimed : (QueueCall.claim.exec (GroundConfig.after deliverySchedule).state.queue).1 =
      .ok (some goldenReference) := by decide +kernel
  have run := Ground.serves_runAlone (fun _ => 9) (workerIteration (workerIdentity "worker" 5))
    (GroundConfig.after deliverySchedule).state
  have resolved := iteration_resolves_reference backed.tables.ledger backed.queue claimed run
  rw [resolved]
  exact known

/-- A ground system whose queue refers to a job that its database has lost. -/
def orphanedGround : Ground where
  queue := (TelemetryQueue.empty.enqueueScript goldenReference).2

/-- The reference of a missing job is not resolved. -/
theorem orphaned_reference_unresolved :
    ¬∀ (message : QueueMessage) (before after : Ground) (hostname : String) (id : UUID)
      (outcome : Except Failure Unit), LooseLedger before.database → QueueConsistent before.queue →
      (QueueCall.claim.exec before.queue).1 = .ok (some message) →
      Runs Ground.Serves (workerIteration (workerIdentity hostname id)) before outcome after →
        Resolved message after := by
  intro claimed
  have consistent : QueueConsistent orphanedGround.queue :=
    (enqueue_outcome .empty goldenReference).consistent .empty
  have resolved := claimed goldenReference orphanedGround _ "worker" 5 _ LooseLedger.empty
    consistent (by decide +kernel) (Ground.serves_runAlone (fun _ => 9) _ _)
  -- The reference is pending again, and its job is still missing.
  have absent : ((workerIteration (workerIdentity "worker" 5)).runAlone (Ground.serve fun _ => 9)
      orphanedGround).2.database.jobs.get? goldenReference.jobId = none := by decide +kernel
  have waits : goldenReference ∈ ((workerIteration (workerIdentity "worker" 5)).runAlone
      (Ground.serve fun _ => 9) orphanedGround).2.queue.pending := by decide +kernel
  rw [Resolved, absent] at resolved
  exact resolved.1 (List.mem_append_left _ (List.mem_append_left _ waits))

end Cislunar
