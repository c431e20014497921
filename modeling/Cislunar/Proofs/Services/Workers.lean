import Cislunar.Foundation.Role
import Cislunar.Proofs.Services.Agreement
import Cislunar.Proofs.Services.Requests
import Cislunar.Proofs.Telemetry.JobRecord

/-!
Whether the loop of a worker survives the other workers.

A worker claims an entry and deals with it until it has acknowledged, returned or buried it. The
recovery at the start of another worker puts back every claimed entry, whoever deals with it.
-/

namespace Cislunar

open Foundation Ground

/-- The job whose entry a worker deals with when it makes a request. -/
def Request.entry : Request → Option UUID
  | .queue (.ack message) | .queue (.retry message) | .queue (.deadLetter message) =>
    some message.jobId
  | .repository (.claimProcessingJob jobId _ _) _ | .repository (.getJob jobId) _
  | .repository (.completeProcessingJob jobId _ _ _) _
  | .repository (.failProcessingAttempt jobId _ _ _ _ _) _ => some jobId
  | _ => none

/-- Each place runs the process it is assigned to. -/
def startsAssigned (assign : Nat → Process) (thread : Nat) (_ : Ground)
    (program : Service (Option Response)) : Prop :=
  program = (assign thread).program

/-- A worker deals with an entry whose job is not complete. -/
def Busy (assign : Nat → Process) (config : GroundConfig) (thread : Nat) : Prop :=
  (∃ workerId iterations, assign thread = .worker workerId iterations) ∧
    ∃ request next jobId, config.threads thread = some (.request request next) ∧
      request.entry = some jobId ∧ ¬config.state.JobIn .complete jobId

/-- Entries are put back only while no other worker deals with one. -/
def RecoversAlone (assign : Nat → Process) (config : GroundConfig) (thread : Nat)
    (request : Request) : Prop :=
  request = .queue .recoverProcessing → ∀ other, other ≠ thread → ¬Busy assign config other

/--
Steps with both stores reachable in which no worker puts back the entries of another and no call
decides on an object whose row has changed.
-/
abbrev DisciplinedStep (assign : Nat → Process) : GroundConfig → GroundConfig → Prop :=
  GuardedStep (Ground.machine (· = .none)) (startsAssigned assign) Ground.Ticks
    fun config thread request =>
      RecoversAlone assign config thread request ∧ config.state.isCurrent request = true

/-- What a worker has in hand. -/
inductive WorkerNote where
  | idle
  /-- The reference is claimed. -/
  | holding (message : QueueMessage)
  /-- The job is claimed too. -/
  | working (message : QueueMessage)
  /-- A failed attempt is recorded and the reference has to follow. -/
  | failing (message : QueueMessage)
  /-- The job is complete, wherever the reference is. -/
  | spent (message : QueueMessage)

namespace WorkerNote

/-- The requests of a worker, by what it has in hand. -/
def permits (workerId : String) : WorkerNote → Request → Prop
  | idle, .queue .claim => True
  | spent _, .queue .claim => True
  | idle, .queue .recoverProcessing => True
  | holding message, .repository (.claimProcessingJob jobId worker _) _ =>
    jobId = message.jobId ∧ worker = workerId
  | holding message, .repository (.getJob jobId) _ => jobId = message.jobId
  | working message, .repository (.completeProcessingJob jobId _ worker _) _ =>
    jobId = message.jobId ∧ worker = workerId
  | working message, .repository (.failProcessingAttempt jobId worker _ _ backoff _) _ =>
    jobId = message.jobId ∧ worker = workerId ∧ 0 < backoff
  | holding message, .queue (.ack entry) => entry = message
  | spent message, .queue (.ack entry) => entry = message
  | holding message, .queue (.retry entry) => entry = message
  | failing message, .queue (.retry entry) => entry = message
  | spent message, .queue (.retry entry) => entry = message
  | holding message, .queue (.deadLetter entry) => entry = message
  | failing message, .queue (.deadLetter entry) => entry = message
  | _, _ => False

/-- A script that looks for an entry finds it, unless the job was over. -/
def resolves (note : WorkerNote) (message : QueueMessage) (reply : Except Failure Unit)
    (later : WorkerNote) : Prop :=
  reply = .ok () ∧ later = idle ∨
    note ≠ failing message ∧ ∃ text, reply = .error (.queue (.state text)) ∧ later = spent message

/-- What a worker has in hand after a reply. -/
def moves : WorkerNote → (request : Request) → Except Failure request.Reply → WorkerNote → Prop
  | _, .queue .recoverProcessing, reply, later => (∃ count, reply = .ok count) ∧ later = idle
  | _, .queue .claim, reply, later =>
    reply = .ok none ∧ later = idle ∨
      ∃ message, reply = .ok (some message) ∧ later = holding message
  | note, .queue (.ack message), reply, later => note.resolves message reply later
  | note, .queue (.retry message), reply, later => note.resolves message reply later
  | note, .queue (.deadLetter message), reply, later => note.resolves message reply later
  | holding message, .repository (.claimProcessingJob _ _ _) _, reply, later =>
    (∃ item : TelemetryWorkItem, reply = .ok (some item) ∧ item.jobId = message.jobId ∧
      later = working message) ∨
    (∀ item, reply ≠ .ok (some item)) ∧ later = holding message
  | holding message, .repository (.getJob _) _, reply, later =>
    (∃ found, reply = .ok found) ∧ later = holding message
  | working message, .repository (.completeProcessingJob _ _ _ _) _, reply, later =>
    (∃ row, reply = .ok row) ∧ later = spent message ∨
      (∃ failure, reply = .error failure) ∧ later = working message
  | working message, .repository (.failProcessingAttempt _ _ _ _ _ _) _, reply, later =>
    (∃ result, reply = .ok result) ∧ later = failing message
  | _, _, _, _ => False

/-- A worker that may claim the next reference. -/
def Free : WorkerNote → Prop
  | idle | spent _ => True
  | _ => False

end WorkerNote

/-- The role of a worker. -/
def workerRole (workerId : String) : Role Failure Request Request.Reply WorkerNote where
  permits := WorkerNote.permits workerId
  moves := WorkerNote.moves

section Walks
variable {workerId : String} {message : QueueMessage} {work : TelemetryWorkItem}

open WorkerNote

/-- A reference that is given back is off the hands of the worker. -/
theorem returnReference_plays {note : WorkerNote}
    (held : note = holding message ∨ note = spent message) :
    Plays (workerRole workerId) (fun outcome later => outcome = .ok () ∧ later.Free)
      (returnReference message) note := by
  -- The reference goes back, or the script finds the job over and drops the exception.
  refine .tryCatch (.call ?_ fun reply later moved => ?_)
  · rcases held with rfl | rfl <;> exact rfl
  · have outcome : note.resolves message reply later := by rcases held with rfl | rfl <;> exact moved
    rcases outcome with ⟨rfl, rfl⟩ | ⟨-, text, rfl, rfl⟩
    · exact ⟨rfl, trivial⟩
    · exact ⟨rfl, trivial⟩

/-- A repository call under a note. -/
theorem plays_repository (call : RepoCall) {held : Held} {note : WorkerNote}
    {post : Except Failure call.Reply → WorkerNote → Prop}
    (permitted : note.permits workerId (.repository call held))
    (reached : ∀ reply later, note.moves (.repository call held) reply later → post reply later) :
    Plays (workerRole workerId) post (callRepository call held) note :=
  .call permitted reached

/-- A queue operation under a note. -/
theorem plays_queue (call : QueueCall) {note : WorkerNote}
    {post : Except Failure call.Reply → WorkerNote → Prop}
    (permitted : note.permits workerId (.queue call))
    (reached : ∀ reply later, note.moves (.queue call) reply later → post reply later) :
    Plays (workerRole workerId) post (callQueue call) note :=
  .call permitted reached

/-- An unclaimed reference is resolved, or its job was over. -/
theorem returnOrFinishUnclaimed_plays :
    Plays (workerRole workerId) (fun outcome later =>
      outcome = .ok () ∧ later.Free ∨ ∃ failure, outcome = .error failure ∧ later = spent message)
      (returnOrFinishUnclaimed message) (holding message) := by
  -- All three scripts end alike, so the state of the job decides only which one is called.
  have resolved : ∀ {reply : Except Failure Unit} {later : WorkerNote},
      (holding message).resolves message reply later →
        reply = .ok () ∧ later.Free ∨ ∃ failure, reply = .error failure ∧ later = spent message := by
    rintro _ _ (⟨rfl, rfl⟩ | ⟨-, text, rfl, rfl⟩)
    · exact Or.inl ⟨rfl, trivial⟩
    · exact Or.inr ⟨_, rfl, rfl⟩
  refine .bind (plays_repository _ rfl ?_)
  rintro _ _ ⟨⟨found, rfl⟩, rfl⟩
  cases found with
  | none => exact plays_queue (.ack message) rfl fun _ _ => resolved
  | some job =>
    dsimp only
    split_ifs
    · exact plays_queue (.ack message) rfl fun _ _ => resolved
    · exact plays_queue (.deadLetter message) rfl fun _ _ => resolved
    · exact plays_queue (.retry message) rfl fun _ _ => resolved

/-- A claim of work hands out an item of the job, resolves the reference or raises. -/
theorem claimWork_plays :
    Plays (workerRole workerId) (fun outcome later =>
      match outcome with
      | .ok none => later.Free
      | .ok (some item) => item.jobId = message.jobId ∧ later = working message
      | .error _ => later = holding message ∨ later = spent message)
      (claimWork workerId message) (holding message) := by
  -- A claim that hands out nothing leaves the reference in hand, to be returned or resolved.
  refine .bind (plays_repository _ ⟨rfl, rfl⟩ ?_)
  rintro reply later (⟨item, rfl, same, rfl⟩ | ⟨nothing, rfl⟩)
  · exact ⟨same, rfl⟩
  · rcases reply with failure | work
    · exact Or.inl rfl
    · cases work with
      | some item => exact absurd rfl (nothing item)
      | none =>
        -- The job was not due, so the reference is dealt with by the state of the job.
        refine .bind (returnOrFinishUnclaimed_plays.weaken ?_)
        rintro _ _ (⟨rfl, free⟩ | ⟨failure, rfl, rfl⟩)
        · exact free
        · exact Or.inr rfl

/-- Processing completes the job, or leaves it in hand. -/
theorem processWork_plays (same : work.jobId = message.jobId) :
    Plays (workerRole workerId) (fun outcome later =>
      match outcome with
      | .ok _ => later.Free
      | .error _ => later = working message)
      (processWork workerId message work) (working message) := by
  -- Bytes that do not decode and a refused result leave the job in hand.
  unfold processWork
  split
  · exact rfl
  · refine .bind (plays_repository _ ⟨same, rfl⟩ ?_)
    rintro _ _ (⟨⟨row, rfl⟩, rfl⟩ | ⟨⟨failure, rfl⟩, rfl⟩)
    -- The job is complete, so it no longer matters whether the reference is still there.
    · refine .tryCatch (plays_queue (.ack message) rfl ?_)
      rintro _ _ (⟨rfl, rfl⟩ | ⟨-, text, rfl, rfl⟩) <;> trivial
    · rfl

/-- A failed attempt is recorded and its reference follows. -/
theorem failWork_plays (same : work.jobId = message.jobId) (failure : Failure) :
    Plays (workerRole workerId) (fun outcome later => outcome = .ok () ∧ later.Free)
      (failWork workerId message work failure) (working message) := by
  -- Both stores answer, so the failure is recorded and the reference has to follow it.
  have recorded : Plays (workerRole workerId) (fun outcome later =>
      ∃ result, outcome = .ok (some result) ∧ later = failing message)
      (recordFailure workerId work failure) (working message) := by
    refine .tryCatch (.bind (plays_repository _ ⟨same, rfl, by decide⟩ ?_))
    rintro _ _ ⟨⟨result, rfl⟩, rfl⟩
    exact ⟨result, rfl, rfl⟩
  -- The job cannot be over while its failed attempt has just been recorded.
  have followed : ∀ {reply : Except Failure Unit} {later : WorkerNote},
      (failing message).resolves message reply later → reply = .ok () ∧ later.Free := by
    rintro _ _ (⟨rfl, rfl⟩ | ⟨never, -⟩)
    · exact ⟨rfl, trivial⟩
    · exact absurd rfl never
  refine .bind (recorded.weaken ?_)
  rintro _ _ ⟨result, rfl, rfl⟩
  dsimp only
  split_ifs
  · exact plays_queue (.deadLetter message) rfl fun _ _ => followed
  · exact plays_queue (.retry message) rfl fun _ _ => followed

/-- An iteration ends without an exception, and with nothing in hand. -/
theorem workerIteration_plays {note : WorkerNote} (free : note.Free) :
    Plays (workerRole workerId) (fun outcome later => outcome = .ok () ∧ later.Free)
      (workerIteration workerId) note := by
  -- What a worker holds when it claims is spent, so each branch begins with one reference in hand.
  have permitted : note.permits workerId (.queue .claim) := by
    cases note <;> trivial
  refine .bind (.tryCatch (plays_queue .claim permitted ?_))
  have outcomes : ∀ reply later, note.moves (.queue .claim) reply later →
      reply = .ok none ∧ later = idle ∨
        ∃ message, reply = .ok (some message) ∧ later = holding message := by
    intro reply later moved
    cases note <;> exact moved
  intro reply later moved
  rcases outcomes reply later moved with ⟨rfl, rfl⟩ | ⟨message, rfl, rfl⟩
  · exact ⟨rfl, trivial⟩
  -- An exception gives the reference back; without work the iteration is over.
  · refine .bind (.tryCatch (claimWork_plays.weaken ?_))
    rintro (failure | _ | item) later reached
    · refine .bind ((returnReference_plays reached).weaken ?_)
      rintro _ _ ⟨rfl, free⟩
      exact ⟨rfl, free⟩
    · exact ⟨rfl, reached⟩
    · obtain ⟨same, rfl⟩ := reached
      -- An exception of the processing counts as a failed attempt.
      refine .tryCatch ((processWork_plays same).weaken ?_)
      rintro (failure | done) later reached
      · subst reached
        exact failWork_plays same failure
      · exact ⟨rfl, reached⟩

/-- A worker plays its role from the start, and never raises. -/
theorem worker_plays (workerId : String) (iterations : Nat) :
    Plays (workerRole workerId) (fun outcome later => ∃ answer, outcome = .ok answer ∧ later.Free)
      (Process.worker workerId iterations).program idle := by
  -- Each iteration begins free, whatever the one before it has left behind.
  have loops : ∀ iterations note, note.Free → Plays (workerRole workerId)
      (fun outcome later => outcome = .ok () ∧ later.Free) (workerLoop workerId iterations) note := by
    intro iterations
    induction iterations with
    | zero => exact fun note free => ⟨rfl, free⟩
    | succ iterations ih =>
      intro note free
      refine .bind ((workerIteration_plays free).weaken ?_)
      rintro _ later ⟨rfl, reached⟩
      exact ih later reached
  refine .bind (.bind (plays_queue .recoverProcessing trivial ?_))
  rintro _ _ ⟨⟨count, rfl⟩, rfl⟩
  refine (loops iterations idle trivial).weaken ?_
  rintro _ later ⟨rfl, reached⟩
  exact ⟨none, rfl, reached⟩

end Walks

namespace WorkerNote

/-- The entry that a worker has to resolve. -/
def Holds : WorkerNote → QueueMessage → Prop
  | holding message, entry | working message, entry | failing message, entry => entry = message
  | _, _ => False

/-- What a note says about the stores. -/
def Backed (workerId : String) : WorkerNote → Ground → Prop
  | idle, _ => True
  | holding message, ground =>
    message ∈ ground.queue.processing ∨ ground.JobIn .complete message.jobId
  | working message, ground => message ∈ ground.queue.processing ∧
    ∃ job ∈ ground.database.jobs, job.jobId = message.jobId ∧ job.state = .processing ∧
      job.claimedBy = some workerId
  | failing message, ground =>
    message ∈ ground.queue.processing ∧ ¬ground.JobIn .complete message.jobId
  | spent message, ground => ground.JobIn .complete message.jobId

end WorkerNote

section Own
variable {workerId : String} {note : WorkerNote} {ground after : Ground} {uuid4 : Nat → UUID}
variable {held : Held}

open WorkerNote

/-- A worker can go on from what it has in hand. -/
def Advances (workerId : String) (note : WorkerNote) (ground : Ground) (request : Request)
    (reply : Except Failure request.Reply) (after : Ground) : Prop :=
  ∃ later, note.moves request reply later ∧ later.Backed workerId after ∧
    ∀ entry, later.Holds entry → note.Holds entry ∨ entry ∈ ground.queue.pending

/-- What a script that looks for an entry answers. -/
def Looks (queue : TelemetryQueue) (message : QueueMessage) (reply : Except QueueError Unit) : Prop :=
  message ∈ queue.processing ∧ reply = .ok () ∨
    message ∉ queue.processing ∧ ∃ text, reply = .error (.state text)

/-- An acknowledgement looks for its reference. -/
theorem AckOutcome.looks {queue : TelemetryQueue} {message : QueueMessage}
    {outcome : Except QueueError Unit × TelemetryQueue}
    (happened : AckOutcome queue message outcome) : Looks queue message outcome.1 := by
  -- By whether the reference was in processing.
  cases happened with
  | removed held => exact Or.inl ⟨held, rfl⟩
  | missing absent text => exact Or.inr ⟨absent, text, rfl⟩

/-- A retry looks for its reference. -/
theorem RetryOutcome.looks {queue : TelemetryQueue} {message : QueueMessage}
    {outcome : Except QueueError Unit × TelemetryQueue}
    (happened : RetryOutcome queue message outcome) : Looks queue message outcome.1 := by
  -- By whether the reference was in processing.
  cases happened with
  | returned held => exact Or.inl ⟨held, rfl⟩
  | missing absent text => exact Or.inr ⟨absent, text, rfl⟩

/-- A dead letter looks for its reference. -/
theorem DeadLetterOutcome.looks {queue : TelemetryQueue} {message : QueueMessage}
    {outcome : Except QueueError Unit × TelemetryQueue}
    (happened : DeadLetterOutcome queue message outcome) : Looks queue message outcome.1 := by
  -- By whether the reference was in processing.
  cases happened with
  | buried held => exact Or.inl ⟨held, rfl⟩
  | missing absent text => exact Or.inr ⟨absent, text, rfl⟩

/-- A script that looks for an entry finds it, or the job is complete. -/
theorem resolves_of_looks {message : QueueMessage} {reply : Except QueueError Unit}
    (looks : Looks ground.queue message reply) (backed : note.Backed workerId ground)
    (held : note = holding message ∨ note = failing message ∨ note = spent message)
    (queue : TelemetryQueue) :
    ∃ later, note.resolves message (reply.mapError .queue) later ∧
      later.Backed workerId { ground with queue := queue } ∧
      ∀ entry, later.Holds entry → note.Holds entry ∨ entry ∈ ground.queue.pending := by
  -- Without the entry, the note tells why: its job is complete, whoever has resolved it.
  rcases looks with ⟨-, rfl⟩ | ⟨missing, text, rfl⟩
  · exact ⟨idle, Or.inl ⟨rfl, rfl⟩, trivial, fun _ => False.elim⟩
  · have complete : note ≠ failing message ∧ ground.JobIn .complete message.jobId := by
      rcases held with rfl | rfl | rfl
      · exact ⟨nofun, backed.resolve_left missing⟩
      · exact absurd backed.1 missing
      · exact ⟨nofun, backed⟩
    exact ⟨spent message, Or.inr ⟨complete.1, text, rfl, rfl⟩, complete.2, fun _ => False.elim⟩

/-- A worker resolves an entry that it has in hand, or whose job it has completed. -/
theorem held_of_permits {message : QueueMessage}
    (permitted : note.permits workerId (.queue (.ack message)) ∨
      note.permits workerId (.queue (.retry message)) ∨
      note.permits workerId (.queue (.deadLetter message))) :
    note = holding message ∨ note = failing message ∨ note = spent message := by
  -- By the note: only three of them allow a reference to be given up.
  cases note <;> simp_all [permits]

/-- A worker goes on from a queue operation. -/
theorem advances_queue {call : QueueCall} (backed : note.Backed workerId ground)
    (permitted : note.permits workerId (.queue call)) :
    Advances workerId note ground (.queue call) ((call.exec ground.queue).1.mapError .queue)
      { ground with queue := (call.exec ground.queue).2 } := by
  -- The three scripts that resolve a reference share one argument; the others are read off their
  -- outcomes.
  cases call with
  | enqueue message => cases note <;> exact permitted.elim
  | recoverProcessing =>
    rw [recoverProcessing_eq]
    cases note with
    | idle => exact ⟨idle, ⟨⟨_, rfl⟩, rfl⟩, trivial, fun _ => False.elim⟩
    | holding | working | failing | spent => exact permitted.elim
  | claim =>
    have happened := claim_outcome ground.queue
    generalize QueueCall.claim.exec ground.queue = outcome at happened
    have claims : ∀ reply later, (reply = .ok none ∧ later = idle ∨
        ∃ message, reply = .ok (some message) ∧ later = holding message) →
          note.moves (.queue .claim) reply later := by
      cases note <;> exact fun _ _ => id
    cases happened with
    | idle => exact ⟨idle, claims _ _ (Or.inl ⟨rfl, rfl⟩), trivial, fun _ => False.elim⟩
    | @claimed rest message oldest =>
      refine ⟨holding message, claims _ _ (Or.inr ⟨message, rfl, rfl⟩),
        Or.inl List.mem_cons_self, ?_⟩
      rintro _ rfl
      exact Or.inr (by simp [oldest])
  | ack message =>
    obtain ⟨later, resolved, rest⟩ := resolves_of_looks (ack_outcome ground.queue message).looks
      backed (held_of_permits (Or.inl permitted)) _
    exact ⟨later, by cases note <;> exact resolved, rest⟩
  | retry message =>
    obtain ⟨later, resolved, rest⟩ := resolves_of_looks (retry_outcome ground.queue message).looks
      backed (held_of_permits (Or.inr (Or.inl permitted))) _
    exact ⟨later, by cases note <;> exact resolved, rest⟩
  | deadLetter message =>
    obtain ⟨later, resolved, rest⟩ := resolves_of_looks (deadLetter_outcome ground.queue message).looks
      backed (held_of_permits (Or.inr (Or.inr permitted))) _
    exact ⟨later, by cases note <;> exact resolved, rest⟩

/-- A worker that holds a reference goes on from the claim of the job. -/
theorem ClaimOutcome.advances {message : QueueMessage} {leaseSeconds : Int} {now : Time}
    {outcome : Except StorageError (Option TelemetryWorkItem) × Database}
    (happened : ClaimOutcome ground.database message.jobId workerId leaseSeconds now outcome)
    (backed : (holding message).Backed workerId ground)
    (still : (holding message).Backed workerId { ground with database := outcome.2 }) :
    Advances workerId (holding message) ground
      (.repository (.claimProcessingJob message.jobId workerId leaseSeconds) held)
      (outcome.1.mapError .storage) { ground with database := outcome.2 } := by
  cases happened with
  | missing | closed | finished | unavailable | dangling =>
    exact ⟨holding message, Or.inr ⟨(fun _ same => nomatch same), rfl⟩, still, fun _ => Or.inl⟩
  | @taken job packet receipt found undone free stored source =>
    obtain ⟨among, key⟩ := Table.get?_eq_some.mp found
    -- A claimable job is not complete, so the reference is still in the list.
    have processing : message ∈ ground.queue.processing := by
      exact backed.resolve_right (not_jobIn_of_mem among key (isClaimable_state free).2.1)
    refine ⟨working message, Or.inl ⟨_, rfl, key, rfl⟩, ⟨processing, ?_⟩, fun _ => Or.inl⟩
    exact ⟨_, (Table.mem_set_of_mem among (by rfl)).mpr (Or.inl rfl), key, rfl, rfl⟩

/-- A worker that has claimed a job goes on from its completion. -/
theorem CompleteOutcome.advances {message : QueueMessage} {result : ProcessingResultValues}
    {completionTime : Time} {outcome : Except StorageError ProcessedTelemetry × Database}
    (happened : CompleteOutcome ground.database message.jobId result workerId completionTime outcome)
    (backed : (working message).Backed workerId ground) (processedAt : Option Time) :
    Advances workerId (working message) ground
      (.repository (.completeProcessingJob message.jobId result workerId processedAt) held)
      (outcome.1.mapError .storage) { ground with database := outcome.2 } := by
  -- Either way of being answered means a complete job, and an error leaves the tables as they were.
  cases answered : outcome.1 with
  | ok row =>
    exact ⟨spent message, Or.inl ⟨⟨row, rfl⟩, rfl⟩, happened.complete answered,
      fun _ => False.elim⟩
  | error error =>
    have same : outcome.2 = ground.database := by
      cases happened with
      | missing | conflicting | refused | integrity => rfl
      | closed | completed => cases answered
    rw [same]
    exact ⟨working message, Or.inr ⟨⟨_, rfl⟩, rfl⟩, backed, fun _ => Or.inl⟩

/-- A worker that owns its job goes on from a failed attempt. -/
theorem FailOutcome.advances {message : QueueMessage} {reason : String} {temporary : Bool}
    {backoff : Int} {failureTime : Time}
    {outcome : Except StorageError ProcessingFailureResult × Database}
    (happened : FailOutcome ground.database message.jobId workerId reason temporary backoff
      failureTime outcome)
    (backed : (working message).Backed workerId ground) (now : Option Time) :
    Advances workerId (working message) ground
      (.repository (.failProcessingAttempt message.jobId workerId reason temporary backoff now) held)
      (outcome.1.mapError .storage) { ground with database := outcome.2 } := by
  obtain ⟨listed, job, member, key, state, owned⟩ := backed
  have row : ground.database.jobs.get? message.jobId = some job :=
    Table.get?_eq_some.mpr ⟨member, key⟩
  -- The worker owns the row, so the attempt is not refused.
  cases happened with
  | missing absent =>
    rw [row] at absent
    cases absent
  | repeated found status =>
    cases row.symm.trans found
    simp [state] at status
  | refused found lost =>
    cases row.symm.trans found
    exact absurd lost (by simp [state, owned])
  | failed found =>
    cases row.symm.trans found
    refine ⟨failing message, ⟨⟨_, rfl⟩, rfl⟩, ⟨listed, ?_⟩, fun _ => Or.inl⟩
    rintro ⟨done, among, same, complete⟩
    have ends := jobAfterFailure_state job reason temporary backoff failureTime
    rcases mem_set_jobs row (jobAfterFailure_jobId _ _ _ _ _) among with rfl | ⟨-, other⟩
    · rcases ends with ended | ended <;> simp [ended] at complete
    · exact other same

/-- A worker goes on from a repository call. -/
theorem advances_repository (cross : CrossStore ground) (env : Surroundings) {call : RepoCall}
    (backed : note.Backed workerId ground) (permitted : note.permits workerId (.repository call held)) :
    Advances workerId note ground (.repository call held)
      ((call.exec env ground.database).1.mapError .storage)
      { ground with database := (call.exec env ground.database).2 } := by
  -- The note leaves only its own calls, and each has one outcome lemma.
  have later := cross.later_call env call
  cases call with
  | claimProcessingJob jobId worker leaseSeconds =>
    cases note with
    | idle | working | failing | spent => exact permitted.elim
    | holding message =>
      obtain ⟨rfl, rfl⟩ := permitted
      rcases claimProcessingJob_exec env ground.database message.jobId worker leaseSeconds with
        ⟨_, failed⟩ | ⟨-, happened⟩
      · rw [failed]
        exact ⟨holding message, Or.inr ⟨(fun _ same => nomatch same), rfl⟩, backed, fun _ => Or.inl⟩
      · exact happened.advances backed (backed.imp_right later.complete)
  | getJob jobId =>
    cases note with
    | idle | working | failing | spent => exact permitted.elim
    | holding message =>
      rw [getJob_exec]
      exact ⟨holding message, ⟨⟨_, rfl⟩, rfl⟩, backed, fun _ => Or.inl⟩
  | completeProcessingJob jobId result worker processedAt =>
    cases note with
    | idle | holding | failing | spent => exact permitted.elim
    | working message =>
      obtain ⟨rfl, rfl⟩ := permitted
      exact (completeProcessingJob_exec env ground.database _ result worker processedAt).advances
        backed processedAt
  | failProcessingAttempt jobId worker reason temporary backoff now =>
    cases note with
    | idle | holding | failing | spent => exact permitted.elim
    | working message =>
      obtain ⟨rfl, rfl, positive⟩ := permitted
      exact (failProcessingAttempt_valid env ground.database _ worker reason temporary now
        positive).advances backed now
  | recordDelivery | rejectDelivery | acceptPacketAndCreateJob | markJobQueued | pendingQueueJobs
  | recoverableQueueJobs | getDelivery | getPacket | getProcessed | getJobForPacket
  | recordAuditEvent | listAuditEvents | processingQueueDepth => cases note <;> exact permitted.elim

end Own

/-- What the others leave of an entry and its job. -/
structure Spares (message : QueueMessage) (before after : Ground) : Prop where
  complete : before.JobIn .complete message.jobId → after.JobIn .complete message.jobId
  incomplete : ¬before.JobIn .complete message.jobId → ¬after.JobIn .complete message.jobId
  entry : ¬before.JobIn .complete message.jobId →
    message ∈ before.queue.processing → message ∈ after.queue.processing
  row : ∀ job ∈ before.database.jobs, job.jobId = message.jobId → job.state = .processing →
    job ∈ after.database.jobs

section Others
variable {message : QueueMessage} {ground after : Ground}

/-- Doing nothing spares every reference. -/
theorem Spares.refl (message : QueueMessage) : Spares message ground ground :=
  ⟨id, id, fun _ => id, fun _ member _ _ => member⟩

/-- Steps that leave the tables alone. -/
theorem Spares.of_queue {queue : TelemetryQueue}
    (entry : ¬ground.JobIn .complete message.jobId →
      message ∈ ground.queue.processing → message ∈ queue.processing) :
    Spares message ground { ground with queue := queue } where
  complete := id
  incomplete := id
  entry := entry
  row _ member _ _ := member

/-- Time spares every reference. -/
theorem Spares.of_ticks (ticks : Ticks ground after) : Spares message ground after := by
  -- Only the clock moves.
  obtain ⟨clock, -, rfl⟩ := ticks
  exact ⟨id, id, fun _ => id, fun _ member _ _ => member⟩

/-- What a worker has in hand stays in its hand when the others spare it. -/
theorem WorkerNote.Backed.spared {workerId : String} {note : WorkerNote}
    (backed : note.Backed workerId ground)
    (spares : ∀ message, note.Holds message ∨ note = .spent message → Spares message ground after) :
    note.Backed workerId after := by
  -- Complete jobs stay complete; before that the entry stays in the list.
  cases note with
  | idle => trivial
  | holding message =>
    have spared := spares message (Or.inl rfl)
    by_cases done : ground.JobIn .complete message.jobId
    · exact Or.inr (spared.complete done)
    · exact Or.inl (spared.entry done (backed.resolve_right done))
  | working message =>
    have spared := spares message (Or.inl rfl)
    obtain ⟨listed, job, member, key, state, owned⟩ := backed
    have unfinished := not_jobIn_of_mem member key
      (state.trans_ne (show ProcessingJobState.processing ≠ .complete by decide))
    exact ⟨spared.entry unfinished listed, job, spared.row job member key state, key, state, owned⟩
  | failing message =>
    have spared := spares message (Or.inl rfl)
    exact ⟨spared.entry backed.2 backed.1, spared.incomplete backed.2⟩
  | spent message => exact (spares message (Or.inr rfl)).complete backed

/-- A request that another process makes with an entry in somebody's hands. -/
def Request.Avoids (request : Request) (ground : Ground) (message : QueueMessage) : Prop :=
  request.fromGateway = true ∨ ground.JobIn .complete message.jobId ∨
    request ≠ .queue .recoverProcessing ∧ request.entry ≠ some message.jobId

/-- A call that avoids an entry keeps its job, or marks it as queued. -/
theorem JobStep.avoided {env : Surroundings} {call : RepoCall} {handed : Option TelemetryWorkItem}
    {job row : TelemetryProcessingJob} (step : JobStep env call handed job row)
    (key : job.jobId = message.jobId) (unfinished : job.state ≠ .complete) (held : Held)
    (avoids : (Request.repository call held).fromGateway = true ∨
      (Request.repository call held).entry ≠ some message.jobId) :
    row = job ∨ job.state ≠ .processing ∧ row.state = .queued := by
  cases step with
  | kept => exact Or.inl rfl
  | queued status =>
    refine Or.inr ⟨?_, rfl⟩
    rcases status with state | state <;> simp [state]
  | closed call status => exact absurd status unfinished
  | claimed | completed | failed =>
    -- Only a worker makes such a call, and it names the job.
    rcases avoids with gateway | other
    · cases gateway
    · exact absurd (congrArg some key) other

/-- A call that avoids an entry spares it. -/
theorem spares_call (cross : CrossStore ground) (env : Surroundings) {call : RepoCall} {held : Held}
    (avoids : (Request.repository call held).Avoids ground message) :
    Spares message ground { ground with database := (call.exec env ground.database).2 } := by
  -- A job that is not complete is kept or, if it is not in processing, marked as queued.
  have ledger := cross.reachable.ledger
  have moves : ∀ {job row handed}, JobStep env call handed job row → job ∈ ground.database.jobs →
      job.jobId = message.jobId → ¬ground.JobIn .complete message.jobId →
        row = job ∨ job.state ≠ .processing ∧ row.state = .queued := by
    intro job row handed step member key unfinished
    refine step.avoided key (fun state => unfinished ⟨job, member, key, state⟩) held ?_
    rcases avoids with gateway | done | ⟨-, other⟩
    · exact Or.inl gateway
    · exact absurd done unfinished
    · exact Or.inr other
  -- A new row is not complete either, so no job becomes complete.
  refine ⟨(cross.later_call env call).complete, fun unfinished => ?_, fun _ => id,
    fun job member key state => ?_⟩
  · rintro ⟨row, among, same, complete⟩
    rcases call.jobStep_of_mem ledger env among with ⟨job, member, step⟩ | ⟨-, _, _, _, -, new⟩
    · have key := step.jobId.symm.trans same
      rcases moves step member key unfinished with rfl | ⟨-, queued⟩
      · exact unfinished ⟨row, member, key, complete⟩
      · rw [queued] at complete
        cases complete
    · rw [new] at complete
      cases complete
  · have unfinished := not_jobIn_of_mem member key
      (state.trans_ne (show ProcessingJobState.processing ≠ .complete by decide))
    obtain ⟨row, among, step⟩ := call.jobStep ledger env member
    rcases moves step member key unfinished with rfl | ⟨other, -⟩
    · exact among
    · exact absurd state other

/-- A queue operation that avoids an entry spares it. -/
theorem spares_queue {call : QueueCall} (avoids : (Request.queue call).Avoids ground message) :
    Spares message ground { ground with queue := (call.exec ground.queue).2 } := by
  -- Only the scripts that resolve a reference take entries out, and they name another entry.
  refine .of_queue fun unfinished listed => ?_
  have erased : ∀ {entry : QueueMessage}, (Request.queue call).fromGateway = false →
      (Request.queue call).entry = some entry.jobId →
        message ∈ ground.queue.processing.erase entry := by
    intro entry worker about
    rcases avoids with gateway | done | ⟨-, other⟩
    · rw [worker] at gateway
      cases gateway
    · exact absurd done unfinished
    · refine (List.mem_erase_of_ne ?_).mpr listed
      rintro rfl
      exact other about
  cases call with
  | enqueue entry =>
    have happened := enqueue_outcome ground.queue entry
    generalize (QueueCall.enqueue entry).exec ground.queue = outcome at happened ⊢
    cases happened <;> exact listed
  | claim =>
    have happened := claim_outcome ground.queue
    generalize QueueCall.claim.exec ground.queue = outcome at happened ⊢
    cases happened with
    | idle => exact listed
    | claimed => exact List.mem_cons_of_mem _ listed
  | ack entry =>
    have happened := ack_outcome ground.queue entry
    generalize (QueueCall.ack entry).exec ground.queue = outcome at happened ⊢
    cases happened with
    | removed => exact erased rfl rfl
    | missing => exact listed
  | retry entry =>
    have happened := retry_outcome ground.queue entry
    generalize (QueueCall.retry entry).exec ground.queue = outcome at happened ⊢
    cases happened with
    | returned => exact erased rfl rfl
    | missing => exact listed
  | deadLetter entry =>
    have happened := deadLetter_outcome ground.queue entry
    generalize (QueueCall.deadLetter entry).exec ground.queue = outcome at happened ⊢
    cases happened with
    | buried => exact erased rfl rfl
    | missing => exact listed
  | recoverProcessing =>
    rcases avoids with gateway | done | ⟨other, -⟩
    · cases gateway
    · exact absurd done unfinished
    · exact absurd rfl other

end Others

/-- What a worker reports at its end. -/
def Unharmed (outcome : Except Failure (Option Response)) (note : WorkerNote) : Prop :=
  ∃ answer, outcome = .ok answer ∧ note.Free

/-- What a process is up to, with what it has in hand. -/
def Employed (process : Process) (program : Service (Option Response)) (note : WorkerNote)
    (ground : Ground) : Prop :=
  match process with
  | .worker workerId _ =>
    Plays (workerRole workerId) Unharmed program note ∧ note.Backed workerId ground
  | .gateway _ _ | .startup => FromGateway program ∧ note = .idle

/-- What everybody has in hand. -/
structure Shift (assign : Nat → Process) (config : GroundConfig) (notes : Nat → WorkerNote) : Prop where
  employed : ∀ thread program, config.threads thread = some program →
    Employed (assign thread) program (notes thread) config.state
  absent : ∀ thread, config.threads thread = none → notes thread = .idle
  /-- Nobody deals with the entry of another, except when the job is over. -/
  apart : ∀ first second message entry, first ≠ second → (notes first).Holds message →
    (notes second).Holds entry → message.jobId = entry.jobId →
      config.state.JobIn .complete message.jobId

section Notes
variable {workerId : String} {note : WorkerNote} {message : QueueMessage} {ground : Ground}

/-- The requests that a note permits are about the entry in hand, if there is one. -/
theorem WorkerNote.entry_of_permits {request : Request} (permitted : note.permits workerId request) :
    (∀ message, note.Holds message → request.entry = some message.jobId) ∧
      ∀ jobId, request.entry = some jobId →
        ∃ message, (note.Holds message ∨ note = .spent message) ∧ message.jobId = jobId := by
  -- A table of the requests against the notes; most pairs are not permitted.
  cases request with
  | clock => cases note <;> exact permitted.elim
  | repository call held => cases call <;> cases note <;> simp_all [permits, Request.entry, Holds]
  | queue call => cases call <;> cases note <;> simp_all [permits, Request.entry, Holds]

/-- A worker with an entry in hand is about to make a request for it. -/
theorem request_of_holds {program : Service (Option Response)}
    (plays : Plays (workerRole workerId) Unharmed program note) (holds : note.Holds message) :
    ∃ request next, program = .request request next ∧ request.entry = some message.jobId := by
  -- A process that ends is free, so one that holds an entry has a request to make.
  have busy : ¬note.Free := by cases note <;> simp_all [WorkerNote.Holds, WorkerNote.Free]
  cases program with
  | done value =>
    obtain ⟨_, -, free⟩ := plays
    exact absurd free busy
  | raise failure =>
    obtain ⟨_, -, free⟩ := plays
    exact absurd free busy
  | request request next =>
    exact ⟨request, next, rfl, (WorkerNote.entry_of_permits plays.1).1 message holds⟩

/-- An entry in hand is in the processing list while its job is not over. -/
theorem WorkerNote.Backed.listed (backed : note.Backed workerId ground) (holds : note.Holds message) :
    message ∈ ground.queue.processing ∨ ground.JobIn .complete message.jobId := by
  -- By the note: a worker that holds a reference found it in processing.
  cases note with
  | idle | spent => exact holds.elim
  | holding => exact holds ▸ backed
  | working | failing => exact Or.inl (holds ▸ backed.1)

end Notes

section Shifts
variable {assign : Nat → Process} {config : GroundConfig} {notes : Nat → WorkerNote}

/-- Only a running worker has something in hand. -/
theorem Shift.worker (shift : Shift assign config notes) {thread : Nat} {message : QueueMessage}
    (held : (notes thread).Holds message ∨ notes thread = .spent message) :
    ∃ workerId iterations program, assign thread = .worker workerId iterations ∧
      config.threads thread = some program ∧
      Plays (workerRole workerId) Unharmed program (notes thread) ∧
      (notes thread).Backed workerId config.state := by
  have busy : notes thread ≠ .idle := by
    intro idle
    rw [idle] at held
    rcases held with holds | same
    · exact holds
    · cases same
  -- An absent process and a process of the gateway are idle by the invariant.
  cases running : config.threads thread with
  | none => exact absurd (shift.absent thread running) busy
  | some program =>
    have employed := shift.employed thread program running
    cases assigned : assign thread with
    | gateway | startup =>
      rw [assigned] at employed
      exact absurd employed.2 busy
    | worker workerId iterations =>
      rw [assigned] at employed
      exact ⟨workerId, iterations, program, rfl, rfl, employed⟩

/-- A request of one process avoids what the others have in hand. -/
theorem Shift.avoids (shift : Shift assign config notes) {thread other : Nat} {request : Request}
    {next : Except Failure request.Reply → Service (Option Response)} {message : QueueMessage}
    (running : config.threads thread = some (.request request next))
    (alone : RecoversAlone assign config thread request) (different : other ≠ thread)
    (held : (notes other).Holds message ∨ notes other = .spent message) :
    request.Avoids config.state message := by
  obtain ⟨workerId, iterations, program, assigned, present, plays, backed⟩ := shift.worker held
  have employed := shift.employed thread _ running
  by_cases done : config.state.JobIn .complete message.jobId
  · exact Or.inr (Or.inl done)
  -- A spent reference is one of a complete job, so the other worker still holds it.
  · have holds : (notes other).Holds message := by
      refine held.resolve_right fun spent => done ?_
      rw [spent] at backed
      exact backed
    cases acting : assign thread with
    | gateway | startup =>
      rw [acting] at employed
      exact Or.inl employed.1.1
    | worker actor rounds =>
      rw [acting] at employed
      refine Or.inr (Or.inr ⟨fun recovers => ?_, fun about => ?_⟩)
      · -- The other worker is busy, so this is not the time to put entries back.
        obtain ⟨pending, rest, rfl, entry⟩ := request_of_holds plays holds
        exact alone recovers other different
          ⟨⟨workerId, iterations, assigned⟩, pending, rest, message.jobId, present, entry, done⟩
      · -- Both workers would deal with the same job.
        obtain ⟨mine, own, same⟩ := (WorkerNote.entry_of_permits employed.1.1).2 _ about
        rcases own with own | spent
        · exact done (same ▸ shift.apart thread other mine message different.symm own holds same)
        · have complete := employed.2
          rw [spent] at complete
          exact done (same ▸ complete)

/-- A process goes on, whatever its request does. -/
theorem Shift.advances (shift : Shift assign config notes) (cross : CrossStore config.state)
    {thread : Nat} {request : Request}
    {next : Except Failure request.Reply → Service (Option Response)}
    (running : config.threads thread = some (.request request next)) (uuid4 : Nat → UUID) :
    ∃ later, Employed (assign thread) (next (serveFresh uuid4 request config.state).1) later
        (serveFresh uuid4 request config.state).2 ∧
      ∀ entry, later.Holds entry →
        (notes thread).Holds entry ∨ entry ∈ config.state.queue.pending := by
  -- A process of the gateway keeps its empty hands, and a worker plays on by its role.
  have employed := shift.employed thread _ running
  cases acting : assign thread with
  | gateway | startup =>
    rw [acting] at employed
    exact ⟨.idle, ⟨employed.1.2 _, rfl⟩, fun _ => False.elim⟩
  | worker workerId iterations =>
    rw [acting] at employed
    obtain ⟨⟨permitted, continues⟩, backed⟩ := employed
    have advanced : Advances workerId (notes thread) config.state request
        (serveFresh uuid4 request config.state).1 (serveFresh uuid4 request config.state).2 := by
      cases request with
      | clock => cases note : notes thread <;> rw [note] at permitted <;> exact permitted.elim
      | repository call held => exact advances_repository cross _ backed permitted
      | queue call => exact advances_queue backed permitted
    obtain ⟨later, moved, after, origin⟩ := advanced
    exact ⟨later, ⟨continues _ later moved, after⟩, origin⟩

/-- What the others have in hand is spared by a request that avoids it. -/
theorem spares_serve {ground : Ground} {message : QueueMessage} (cross : CrossStore ground)
    (uuid4 : Nat → UUID) {request : Request} (avoids : request.Avoids ground message) :
    Spares message ground (serveFresh uuid4 request ground).2 := by
  cases request with
  | clock => exact .of_queue fun _ => id
  | repository call held => exact spares_call cross _ avoids
  | queue call => exact spares_queue avoids

/-- A job that is complete stays complete. -/
theorem complete_serve {ground : Ground} (cross : CrossStore ground) (uuid4 : Nat → UUID)
    (request : Request) {jobId : UUID} (done : ground.JobIn .complete jobId) :
    (serveFresh uuid4 request ground).2.JobIn .complete jobId := by
  -- Only a repository call can touch a job.
  cases request with
  | clock | queue => exact done
  | repository call held => exact (cross.later_call _ call).complete done

/-- Nobody has an entry in hand that is still pending, except when the job is over. -/
theorem Shift.complete_of_pending (shift : Shift assign config notes)
    (cross : CrossStore config.state) {thread : Nat} {message entry : QueueMessage}
    (holds : (notes thread).Holds message) (pending : entry ∈ config.state.queue.pending)
    (same : message.jobId = entry.jobId) : config.state.JobIn .complete message.jobId := by
  -- The references are distinct, so a pending one is not the one in the processing list.
  obtain ⟨_, _, _, _, _, _, backed⟩ := shift.worker (Or.inl holds)
  rcases backed.listed holds with listed | done
  -- References are determined by their job.
  · have equal := cross.queue.eq_of_jobId (by simp [TelemetryQueue.references, listed])
      (by simp [TelemetryQueue.references, pending]) same
    have distinct := cross.queue.distinct
    rw [TelemetryQueue.references, List.nodup_append, List.nodup_append] at distinct
    exact absurd equal.symm (distinct.1.2.2 entry pending message listed)
  · exact done

/-- A process goes on with its note while what it has in hand is spared. -/
theorem Employed.spared {process : Process} {program : Service (Option Response)}
    {note : WorkerNote} {before after : Ground} (employed : Employed process program note before)
    (spares : ∀ message, note.Holds message ∨ note = .spent message →
      Spares message before after) : Employed process program note after := by
  -- Only a worker holds a reference.
  cases process with
  | gateway | startup => exact employed
  | worker workerId iterations => exact ⟨employed.1, employed.2.spared spares⟩

/-- The shift goes on when one process changes and spares what the others have in hand. -/
theorem Shift.update (shift : Shift assign config notes) {after : Ground} {thread : Nat}
    {here : Option (Service (Option Response))} {later : WorkerNote}
    (own : ∀ program, here = some program → Employed (assign thread) program later after)
    (absent : here = none → later = .idle)
    (spares : ∀ other message, other ≠ thread →
      (notes other).Holds message ∨ notes other = .spent message →
        Spares message config.state after)
    (complete : ∀ jobId, config.state.JobIn .complete jobId → after.JobIn .complete jobId)
    (taken : ∀ other message entry, other ≠ thread → (notes other).Holds message →
      later.Holds entry → message.jobId = entry.jobId →
        config.state.JobIn .complete message.jobId) :
    Shift assign ⟨after, Function.update config.threads thread here⟩
      (Function.update notes thread later) := by
  -- Every field asks about the process that changes and about the others apart.
  refine ⟨fun place program present => ?_, fun place missing => ?_, ?_⟩
  · dsimp only at present
    by_cases same : place = thread
    · subst same
      rw [Function.update_self] at present ⊢
      exact own program present
    · rw [Function.update_of_ne same] at present ⊢
      exact (shift.employed place program present).spared fun message =>
        spares place message same
  · dsimp only at missing
    by_cases same : place = thread
    · subst same
      rw [Function.update_self] at missing ⊢
      exact absent missing
    · rw [Function.update_of_ne same] at missing ⊢
      exact shift.absent place missing
  · intro first second message entry different left right same
    refine complete _ ?_
    by_cases one : first = thread
    · subst one
      rw [Function.update_self] at left
      rw [Function.update_of_ne different.symm] at right
      rw [same]
      exact taken second entry message different.symm right left same.symm
    · rw [Function.update_of_ne one] at left
      by_cases two : second = thread
      · subst two
        rw [Function.update_self] at right
        exact taken first message entry one left right same
      · rw [Function.update_of_ne two] at right
        exact shift.apart first second message entry different left right same

/-- The shift goes on when one process makes a request. -/
theorem Shift.act (shift : Shift assign config notes) (cross : CrossStore config.state)
    {thread : Nat} {request : Request}
    {next : Except Failure request.Reply → Service (Option Response)}
    (running : config.threads thread = some (.request request next))
    (alone : RecoversAlone assign config thread request) (uuid4 : Nat → UUID) :
    ∃ later, Shift assign ⟨(serveFresh uuid4 request config.state).2, Function.update config.threads thread
      (some (next (serveFresh uuid4 request config.state).1))⟩ (Function.update notes thread later) := by
  obtain ⟨later, employed, origin⟩ := shift.advances cross running uuid4
  refine ⟨later, shift.update (fun program same => Option.some.inj same ▸ employed) nofun
    (fun other message different held =>
      spares_serve cross uuid4 (shift.avoids running alone different held))
    (fun jobId => complete_serve cross uuid4 request) ?_⟩
  -- An entry that the acting process takes up was pending, so nobody else has it.
  intro other message entry different holds mine same
  rcases origin entry mine with before | pending
  · exact shift.apart other thread message entry different holds before same
  · exact shift.complete_of_pending cross holds pending same

/-- The shift goes on when a process starts with empty hands. -/
theorem Shift.start (shift : Shift assign config notes) (thread : Nat) :
    Shift assign ⟨config.state, Function.update config.threads thread
      (some (assign thread).program)⟩ (Function.update notes thread .idle) := by
  -- A process starts with no reference in its hands, and a gateway never has one.
  refine shift.update (fun program same => ?_) nofun (fun _ message _ _ => .refl message)
    (fun _ => id) fun _ _ _ _ _ => False.elim
  cases same
  cases assign thread with
  | gateway settings vendor =>
    exact ⟨.bind (receivePayloadData_fromGateway settings vendor) fun _ => trivial, rfl⟩
  | startup => exact ⟨.bind (recoverPendingJobs_fromGateway _) fun _ => trivial, rfl⟩
  | worker workerId iterations => exact ⟨worker_plays workerId iterations, trivial⟩

/-- The shift goes on when a process disappears with what it has in hand. -/
theorem Shift.crash (shift : Shift assign config notes) (thread : Nat) :
    Shift assign ⟨config.state, Function.update config.threads thread none⟩
      (Function.update notes thread .idle) :=
  shift.update nofun (fun _ => rfl) (fun _ message _ _ => .refl message) (fun _ => id)
    fun _ _ _ _ _ => False.elim

/-- The shift goes on while time passes. -/
theorem Shift.tick (shift : Shift assign config notes) {after : Ground}
    (ticks : Ticks config.state after) : Shift assign ⟨after, config.threads⟩ notes where
  employed place program present :=
    (shift.employed place program present).spared fun _ _ => .of_ticks ticks
  absent := shift.absent
  apart first second message entry different left right same :=
    (Spares.of_ticks ticks).complete (shift.apart first second message entry different left right same)

/-- Disciplined steps are steps in which no call decides on an outdated object. -/
theorem DisciplinedStep.ground {before after : GroundConfig}
    (step : DisciplinedStep assign before after) :
    CurrentStep before after := by
  -- The guard of the step asks for current objects, and the step loses no connection.
  cases step with
  | @act thread request next choice reply state running guarded performed =>
    have possible : currentMachine.exec (choice.1, ⟨choice.2, trivial⟩) thread before.state request =
        some (reply, state) := (if_pos guarded.2).trans performed
    exact .act running possible
  | start idle begins => exact .start idle ⟨assign _, begins.symm⟩
  | crash thread => exact .crash thread
  | environment moved => exact .environment moved

/-- In a disciplined run everybody has their own entries in hand. -/
theorem shift_of_run (run : Relation.ReflTransGen (DisciplinedStep assign) GroundConfig.initial config) :
    ∃ notes, Shift assign config notes := by
  -- By induction on the run: each kind of step keeps the shift.
  induction run with
  | refl => exact ⟨fun _ => .idle, fun _ _ present => (nomatch present), fun _ _ => rfl,
      fun _ _ _ _ _ holds => holds.elim⟩
  | @tail reached _ before step ih =>
    obtain ⟨notes, shift⟩ := ih
    have cross := crossStore_of_run
      (Relation.ReflTransGen.mono (fun _ _ step => DisciplinedStep.ground step) _ _ before)
    cases step with
    | @act thread request next choice reply state running guarded performed =>
      obtain ⟨alone, current⟩ := guarded
      obtain ⟨uuid4, fault, rfl⟩ := choice
      have served : serveFresh uuid4 request reached.state = (reply, state) :=
        (perform_current current).symm.trans (Option.some.inj performed)
      obtain ⟨later, goesOn⟩ := shift.act cross running alone uuid4
      rw [served] at goesOn
      exact ⟨_, goesOn⟩
    | start idle begins =>
      subst begins
      exact ⟨_, shift.start _⟩
    | crash thread => exact ⟨_, shift.crash thread⟩
    | environment ticks => exact ⟨notes, shift.tick ticks⟩

/--
The loop of a worker survives the other workers when none of them puts back its entries.

Workers, request handlers and recoveries start and disappear at any time and interleave in any order
while leases expire. As long as a worker that starts finds no other worker dealing with an entry
whose job is not complete, and nobody marks a job that has changed since it was loaded, no worker ends
with an exception.
-/
theorem worker_loop_survives (assign : Nat → Process) (config : GroundConfig)
    (run : Relation.ReflTransGen (DisciplinedStep assign) GroundConfig.initial config)
    (thread : Nat) (workerId : String) (iterations : Nat)
    (working : assign thread = .worker workerId iterations) (failure : Failure) :
    config.threads thread ≠ some (.raise failure) := by
  -- A worker that raises would play its role, but the role ends with an answer.
  intro raised
  obtain ⟨notes, shift⟩ := shift_of_run run
  have employed := shift.employed thread _ raised
  rw [working] at employed
  obtain ⟨⟨answer, never, -⟩, -⟩ := employed
  cases never

end Shifts

namespace GroundConfig

/-- A process puts entries back next. -/
def recovers (config : GroundConfig) (thread : Nat) : Bool :=
  match config.threads thread with
  | some (.request (.queue .recoverProcessing) _) => true
  | _ => false

/-- A process deals with an entry. -/
def deals (config : GroundConfig) (thread : Nat) : Bool :=
  match config.threads thread with
  | some (.request request _) => request.entry.isSome
  | _ => false

/-- A process decides next on no object whose row has changed. -/
def current (config : GroundConfig) (thread : Nat) : Bool :=
  match config.threads thread with
  | some (.request request _) => config.state.isCurrent request
  | _ => true

/--
Entries are put back only while nobody among the workers deals with one, and nobody decides on an
outdated object.
-/
def calm (workers : List Nat) (config : GroundConfig) : List Event → Bool
  | [] => true
  | event :: rest =>
    (match event with
      | .act thread _ _ =>
        (!config.recovers thread || workers.all fun other => !config.deals other) &&
          config.current thread
      | _ => true) && (config.perform event).calm workers rest

section
variable {assign : Nat → Process} {config : GroundConfig} {event : Event}

/-- An undisturbed event that starts assigned processes only is a step under a condition. -/
theorem perform_guarded {allowed : GroundConfig → Nat → Request → Prop}
    (undisturbed : event.undisturbed = true)
    (assigned : ∀ thread process, event = .start thread process → process = assign thread)
    (permitted : ∀ thread id fault request next, event = .act thread id fault →
      config.threads thread = some (.request request next) → allowed config thread request) :
    Relation.ReflTransGen (GuardedStep (Ground.machine (· = .none)) (startsAssigned assign)
      Ground.Ticks allowed) config (config.perform event) := by
  -- An event that meets no process to act on changes nothing.
  cases event with
  | start thread process =>
    rw [perform]
    split
    next idle => exact .single (.start idle (congrArg Process.program (assigned _ _ rfl)))
    next => exact .refl
  | act thread id fault =>
    rw [perform]
    unfold Config.act
    split
    next request next running =>
      cases of_decide_eq_true undisturbed
      have performed : (Ground.machine (· = .none)).exec (fun _ => id, ⟨.none, rfl⟩) thread
          config.state request = some (serve (fun _ => id) request config.state) := rfl
      exact .single (.act running (permitted _ _ _ _ _ rfl running) performed)
    next => exact .refl
  | crash thread => exact .single (.crash thread)
  | tick duration =>
    have forward : config.state.clock ≤ config.state.clock + duration :=
      Int.le_add_of_nonneg_right (Int.natCast_nonneg duration)
    exact .single (.environment ⟨_, forward, rfl⟩)

/-- An undisturbed schedule of assigned processes is a run with both stores reachable. -/
theorem assigned_run (assign : Nat → Process) {schedule : List Event}
    (undisturbed : schedule.all Event.undisturbed = true)
    (assigned : ∀ thread process, .start thread process ∈ schedule → process = assign thread) :
    Relation.ReflTransGen (GuardedStep (Ground.machine (· = .none)) (startsAssigned assign)
      Ground.Ticks fun _ _ _ => True) initial (after schedule) := by
  -- By induction on the schedule, from any state the events before it lead to.
  have continued : ∀ config : GroundConfig, Relation.ReflTransGen (GuardedStep
      (Ground.machine (· = .none)) (startsAssigned assign) Ground.Ticks fun _ _ _ => True) config
        (schedule.foldl perform config) := by
    induction schedule with
    | nil => exact fun _ => .refl
    | cons event rest ih =>
      obtain ⟨now, later⟩ := Bool.and_eq_true_iff.mp undisturbed
      intro config
      refine (perform_guarded now ?_ fun _ _ _ _ _ _ _ => trivial).trans
        (ih later (fun thread process begun => assigned thread process (List.mem_cons_of_mem _ begun)) _)
      rintro thread process rfl
      exact assigned thread process List.mem_cons_self
  exact continued initial

/-- A calm schedule is a disciplined run. -/
theorem disciplined_run {schedule : List Event} (workers : List Nat)
    (undisturbed : schedule.all Event.undisturbed = true)
    (assigned : ∀ thread process, .start thread process ∈ schedule → process = assign thread)
    (known : ∀ thread workerId iterations, assign thread = .worker workerId iterations →
      thread ∈ workers)
    (quiet : initial.calm workers schedule = true) :
    Relation.ReflTransGen (DisciplinedStep assign) initial (after schedule) := by
  -- The check of the schedule is made state by state, so the induction carries the state along.
  have continued : ∀ config : GroundConfig, config.calm workers schedule = true →
      Relation.ReflTransGen (DisciplinedStep assign) config (schedule.foldl perform config) := by
    clear quiet
    induction schedule with
    | nil => exact fun _ _ => .refl
    | cons event rest ih =>
      obtain ⟨now, later⟩ := Bool.and_eq_true_iff.mp undisturbed
      intro config quiet
      obtain ⟨here, after⟩ := Bool.and_eq_true_iff.mp quiet
      refine (perform_guarded now ?_ ?_).trans
        (ih later (fun thread process begun => assigned thread process (List.mem_cons_of_mem _ begun))
          _ after)
      · rintro thread process rfl
        exact assigned thread process List.mem_cons_self
      · rintro thread id fault request next rfl running
        dsimp only at here
        obtain ⟨here, current⟩ := Bool.and_eq_true_iff.mp here
        refine ⟨?_, by rwa [GroundConfig.current, running] at current⟩
        rintro rfl other -
          ⟨⟨workerId, iterations, named⟩, pending, rest, jobId, present, about, -⟩
        -- The schedule is calm here, so no worker deals with an entry.
        have recovering : config.recovers thread = true := by rw [recovers, running]
        have dealing : config.deals other = true := by
          rw [deals, present]
          simp [about]
        rw [recovering, Bool.not_true, Bool.false_or] at here
        have idle := List.all_eq_true.mp here other (known other workerId iterations named)
        rw [dealing] at idle
        cases idle
  exact continued initial quiet

end

end GroundConfig

/-- One handler and two workers. -/
def twoWorkers : Nat → Process
  | 0 => .gateway sampleSettings (sampleRequest goldenFrame)
  | 1 => .worker "worker-a" 1
  | 2 => .worker "worker-b" 1
  | _ => .startup

/-- Two workers start before either of them takes the delivered reference. -/
def calmSchedule : List Event :=
  deliverySchedule ++ [.start 1 (twoWorkers 1), .start 2 (twoWorkers 2),
    .act 1 3 .none, .act 2 3 .none, .act 1 3 .none, .act 2 3 .none, .act 1 3 .none,
    .act 1 3 .none, .act 1 3 .none]

/-- Of two workers that start in time one processes the delivered packet, and neither raises. -/
theorem started_workers_survive :
    (GroundConfig.after calmSchedule).state.database.jobs.rows.map (·.state) = [.complete] ∧
      ∀ failure, (GroundConfig.after calmSchedule).threads 1 ≠ some (.raise failure) ∧
        (GroundConfig.after calmSchedule).threads 2 ≠ some (.raise failure) := by
  have run : Relation.ReflTransGen (DisciplinedStep twoWorkers) GroundConfig.initial
      (GroundConfig.after calmSchedule) := by
    refine GroundConfig.disciplined_run [1, 2] (by decide) ?_ ?_ (by decide +kernel)
    · intro thread process started
      simp only [calmSchedule, deliverySchedule, List.mem_append, List.mem_cons, Event.start.injEq,
        reduceCtorEq, List.not_mem_nil, or_false, false_or] at started
      rcases started with ⟨rfl, rfl⟩ | ⟨rfl, rfl⟩ | ⟨rfl, rfl⟩ <;> rfl
    · intro thread workerId iterations assigned
      -- Only the places 1 and 2 are those of workers.
      match thread with
      | 0 => cases assigned
      | 1 | 2 => decide
      | _ + 3 => cases assigned
  exact ⟨by decide +kernel, fun failure =>
    ⟨worker_loop_survives twoWorkers _ run 1 "worker-a" 1 rfl failure,
      worker_loop_survives twoWorkers _ run 2 "worker-b" 1 rfl failure⟩⟩

/-- A worker starts, and takes the job over after a minute, while another one is at work. -/
def overtakingSchedule : List Event :=
  deliverySchedule ++ [.start 1 (twoWorkers 1), .act 1 3 .none, .act 1 3 .none, .act 1 3 .none,
    .start 2 (twoWorkers 2), .act 2 3 .none, .act 2 3 .none, .tick 61000000, .act 2 3 .none,
    .act 1 3 .none, .act 1 3 .none]

/-- The exception of a process that has ended with one. -/
def raisedBy (config : GroundConfig) (thread : Nat) : Option Failure :=
  match config.threads thread with
  | some (.raise failure) => some failure
  | _ => none

/-- What was raised is what the process has ended with. -/
theorem threads_of_raisedBy {config : GroundConfig} {thread : Nat} {failure : Failure}
    (raised : raisedBy config thread = some failure) :
    config.threads thread = some (.raise failure) := by
  -- Only a thread that has ended with an exception raised one.
  rw [raisedBy] at raised
  split at raised
  next ended =>
    cases raised
    exact ended
  next => cases raised

/-- The loop of a worker can end with an exception when another worker starts. -/
theorem overtaken_worker_raises :
    ¬∀ (assign : Nat → Process) (config : GroundConfig),
      Relation.ReflTransGen (Step (Ground.machine (· = .none)) (startsAssigned assign) Ground.Ticks)
        GroundConfig.initial config →
      ∀ thread workerId iterations, assign thread = .worker workerId iterations →
        ∀ failure, config.threads thread ≠ some (.raise failure) := by
  -- Two workers run; the first one raises after the second one has taken its job over.
  intro claimed
  have run : Relation.ReflTransGen
      (Step (Ground.machine (· = .none)) (startsAssigned twoWorkers) Ground.Ticks)
        GroundConfig.initial (GroundConfig.after overtakingSchedule) := by
    refine Relation.ReflTransGen.mono (fun _ _ step => step.step)
      _ _ (GroundConfig.assigned_run twoWorkers (by decide) ?_)
    intro thread process started
    simp only [overtakingSchedule, deliverySchedule, List.mem_append, List.mem_cons,
      Event.start.injEq, reduceCtorEq, List.not_mem_nil, or_false, false_or] at started
    rcases started with ⟨rfl, rfl⟩ | ⟨rfl, rfl⟩ | ⟨rfl, rfl⟩ <;> rfl
  have raised : raisedBy (GroundConfig.after overtakingSchedule) 1 = some (.storage
      (.invalidDeliveryState "processing job is owned by another worker")) := by
    decide +kernel
  exact claimed twoWorkers _ run 1 "worker-a" 1 rfl _ (threads_of_raisedBy raised)

end Cislunar
