import Cislunar.Foundation.Solo
import Cislunar.Proofs.Services.Iteration
import Cislunar.Proofs.Services.Results
import Cislunar.Proofs.Services.VendorFrames
import Cislunar.Proofs.Telemetry.Leases

/-!
A worker that is left alone empties the queue.

It takes one reference after the other. The job of a reference is over already, or it can be claimed
and is brought to its end in the same iteration, so no reference goes back to the queue.
-/

namespace Cislunar

open Foundation Ground

/-- The stores are in a given state, and it is a given time or later. -/
structure Ground.At (db : Database) (queue : TelemetryQueue) (time : Time)
    (ground : Ground) : Prop where
  database : ground.database = db
  queue : ground.queue = queue
  clock : time ≤ ground.clock

/-- A request of a lone process that reads its rows anew; time may pass before it. -/
def Ground.ServesFresh (request : Request) (before : Ground) (reply : Except Failure request.Reply)
    (after : Ground) : Prop :=
  ∃ uuid4 later, Ticks before later ∧ later.serveFresh uuid4 request = (reply, after)

/-- What a service does while nothing else happens and both stores are reachable. -/
abbrev Alone {α : Type} (pre : Ground → Prop) (service : Service α)
    (post : Except Failure α → Ground → Prop) : Prop :=
  Solo ServesFresh pre service post

/-- A request that decides on no object that was loaded before. -/
def Request.HoldsNothing : Request → Prop
  | .repository _ held => held = {}
  | .clock | .queue _ => True

/-- A worker holds nothing. -/
theorem Request.holdsNothing_of_fromWorker {request : Request}
    (worker : request.fromWorker = true) : request.HoldsNothing := by
  -- The filter of a worker asks for it in every call that could hold something.
  cases request with
  | clock | queue => trivial
  | repository call held =>
    cases call with
    | claimProcessingJob => exact (of_decide_eq_true worker).2
    | completeProcessingJob | failProcessingAttempt | getJob =>
      exact @of_decide_eq_true (held = {}) _ worker
    | _ => cases worker

/-- A request that decides on current objects reads its rows anew, as it were. -/
theorem Ground.Serves.fresh {request : Request} {before after : Ground}
    {reply : Except Failure request.Reply} (served : Serves request before reply after)
    (current : before.isCurrent request = true) : ServesFresh request before reply after := by
  -- The clock moves between two requests; the object held is current before and after.
  obtain ⟨uuid4, later, ⟨clock, passed, rfl⟩, same⟩ := served
  refine ⟨uuid4, _, ⟨clock, passed, rfl⟩, ?_⟩
  rw [serveFresh, ← perform_current]
  · exact same
  · cases request <;> exact current

/-- A lone process that holds nothing reads all of its rows anew. -/
theorem runs_fresh {α : Type} {service : Service α} {before after : Ground}
    {outcome : Except Failure α} (requests : service.Only Request.HoldsNothing)
    (run : Runs Serves service before outcome after) :
    Runs ServesFresh service before outcome after := by
  -- By induction on the run; without objects nothing can be outdated.
  induction run with
  | done value state => exact .done value state
  | raise error state => exact .raise error state
  | @request request next before middle after reply outcome served rest ih =>
    refine .request (served.fresh ?_) (ih (requests.2 reply))
    cases request with
    | clock | queue => rfl
    | repository call held =>
      obtain rfl : held = {} := requests.1
      rfl

section Requests
variable {db : Database} {queue : TelemetryQueue} {time : Time}

/-- A lone repository call leads from a known database to the one that it computes. -/
theorem alone_repository {call : RepoCall} {held : Held}
    {post : Except Failure call.Reply → Ground → Prop}
    (each : ∀ env ground, time ≤ env.now → ground.At (call.exec env db).2 queue env.now →
      post ((call.exec env db).1.mapError .storage) ground) :
    Alone (At db queue time) (callRepository call held) post := by
  -- Time passes first, and the call sees the later time as its own.
  refine Solo.call fun before reply after known served => ?_
  obtain ⟨uuid4, later, ⟨clock, passed, rfl⟩, same⟩ := served
  obtain ⟨rfl, rfl, present⟩ := known
  injection same with answer state
  subst answer state
  exact each ⟨uuid4, clock⟩ _ (present.trans passed) ⟨rfl, rfl, le_rfl⟩

/-- A lone queue operation leads from a known queue to the one that it computes. -/
theorem alone_queue {call : QueueCall} {post : Except Failure call.Reply → Ground → Prop}
    (each : ∀ ground, ground.At db (call.exec queue).2 time →
      post ((call.exec queue).1.mapError .queue) ground) :
    Alone (At db queue time) (callQueue call) post := by
  -- Nobody else acts, so the queue is the one that was known.
  refine Solo.call fun before reply after held served => ?_
  obtain ⟨uuid4, later, ⟨clock, passed, rfl⟩, same⟩ := served
  obtain ⟨rfl, rfl, present⟩ := held
  injection same with answer state
  subst answer state
  exact each _ ⟨rfl, rfl, present.trans passed⟩

/-- A job is read as it is stored. -/
theorem getJob_alone {jobId : UUID} {job : TelemetryProcessingJob}
    (found : db.jobs.get? jobId = some job) :
    Alone (At db queue time) (callRepository (.getJob jobId)) fun outcome ground =>
      ∃ read, outcome = .ok read ∧ read = some job ∧ ground.At db queue time := by
  -- The job is read from the tables of the moment, and nothing else moves.
  refine alone_repository fun env ground later reached => ?_
  rw [getJob_exec, found] at reached ⊢
  exact ⟨_, rfl, rfl, reached.database, reached.queue, later.trans reached.clock⟩

end Requests

/-- Nothing is being processed, and given entries are pending. -/
structure Ground.Cleared (db : Database) (pending : List QueueMessage) (time : Time)
    (ground : Ground) : Prop where
  database : ground.database = db
  pending : ground.queue.pending = pending
  processing : ground.queue.processing = []
  clock : time ≤ ground.clock

section References
variable {db : Database} {queue : TelemetryQueue} {time : Time} {message : QueueMessage}

/-- The oldest reference is taken. -/
theorem claimReference_alone {rest : List QueueMessage}
    (oldest : queue.pending = rest ++ [message]) :
    Alone (At db queue time) claimReference fun outcome ground => ∃ claimed, outcome = .ok claimed ∧
      claimed = some message ∧ ground.At db { queue with
        pending := rest
        processing := message :: queue.processing } time := by
  -- The script takes the last entry of the list.
  refine Solo.unhandled _ (alone_queue fun ground reached => ?_)
  have happened := claim_outcome queue
  generalize QueueCall.claim.exec queue = scripted at happened reached ⊢
  cases happened with
  | idle empty =>
    rw [empty] at oldest
    exact absurd oldest (by simp)
  | claimed other =>
    obtain ⟨rfl, same⟩ := List.append_inj' (oldest.symm.trans other) rfl
    cases same
    exact ⟨_, rfl, rfl, reached⟩

/-- Nothing is taken from an empty queue. -/
theorem claimReference_idle (empty : queue.pending = []) :
    Alone (At db queue time) claimReference fun outcome ground => ∃ claimed, outcome = .ok claimed ∧
      claimed = none ∧ ground.At db queue time := by
  -- The script finds no last entry.
  refine Solo.unhandled _ (alone_queue fun ground reached => ?_)
  have happened := claim_outcome queue
  generalize QueueCall.claim.exec queue = scripted at happened reached ⊢
  cases happened with
  | idle empty => exact ⟨_, rfl, rfl, reached⟩
  | claimed oldest =>
    rw [empty] at oldest
    exact absurd oldest (by simp)

/-- The queue is cleared where the only reference in hand is taken out. -/
theorem Ground.At.cleared {left : TelemetryQueue} {ground : Ground}
    (reached : ground.At db left time) (held : queue.processing = [message])
    (pending : left.pending = queue.pending)
    (processing : left.processing = queue.processing.erase message) :
    ground.Cleared db queue.pending time := by
  -- What is left of a list of one entry is empty.
  refine ⟨reached.database, ?_, ?_, reached.clock⟩
  · rw [reached.queue, pending]
  · rw [reached.queue, processing, held]
    exact List.erase_cons_head message []

/-- The only reference in hand is acknowledged. -/
theorem ack_alone (held : queue.processing = [message]) :
    Alone (At db queue time) (callQueue (.ack message)) fun outcome ground =>
      ∃ value, outcome = .ok value ∧ ground.Cleared db queue.pending time := by
  -- The reference is in hand, so it is found.
  refine alone_queue fun ground reached => ?_
  have happened := ack_outcome queue message
  generalize (QueueCall.ack message).exec queue = scripted at happened reached ⊢
  cases happened with
  | missing absent => exact absurd (held ▸ List.mem_singleton_self message) absent
  | removed => exact ⟨_, rfl, reached.cleared held rfl rfl⟩

/-- The only reference in hand is put aside. -/
theorem deadLetter_alone (held : queue.processing = [message]) :
    Alone (At db queue time) (callQueue (.deadLetter message)) fun outcome ground =>
      ∃ value, outcome = .ok value ∧ ground.Cleared db queue.pending time := by
  -- The reference is in hand, so it is found.
  refine alone_queue fun ground reached => ?_
  have happened := deadLetter_outcome queue message
  generalize (QueueCall.deadLetter message).exec queue = scripted at happened reached ⊢
  cases happened with
  | missing absent => exact absurd (held ▸ List.mem_singleton_self message) absent
  | buried => exact ⟨_, rfl, reached.cleared held rfl rfl⟩

/-- The reference of a job that is over leaves the queue. -/
theorem returnOrFinishUnclaimed_alone {job : TelemetryProcessingJob}
    (found : db.jobs.get? message.jobId = some job) (closed : job.isOpen = false)
    (held : queue.processing = [message]) :
    Alone (At db queue time) (returnOrFinishUnclaimed message) fun outcome ground =>
      ∃ value, outcome = .ok value ∧ ground.Cleared db queue.pending time := by
  -- A complete job has its reference acknowledged, and a failed one has it put aside.
  refine (getJob_alone found).bind fun read => ?_
  intro before outcome after known run
  obtain ⟨rfl, reached⟩ := known
  dsimp only at run
  by_cases complete : job.state = .complete
  · rw [if_pos complete] at run
    exact ack_alone held before outcome after reached run
  · have failed : job.state = .failed := by
      simpa [TelemetryProcessingJob.isOpen, complete] using closed
    rw [if_neg complete, if_pos failed] at run
    exact deadLetter_alone held before outcome after reached run

end References

/-- The evidence of a job that does not compute. -/
def Database.Unreadable (db : Database) (jobId : UUID) : Prop :=
  ∃ rawBody receivedAt values failure, db.WorkOf jobId rawBody receivedAt values ∧
    computeResult rawBody receivedAt values = .error failure

/-- One job is brought to its end, and it fails only where its evidence does not compute. -/
structure Database.Finishes (before : Database) (jobId : UUID) (after : Database) : Prop where
  grows : Extends before after
  jobs : ∀ job ∈ after.jobs, job ∈ before.jobs ∧ job.jobId ≠ jobId ∨
    job.jobId = jobId ∧ (job.state = .complete ∨ job.state = .failed ∧ before.Unreadable jobId)

/-- A job is taken by a worker. -/
structure Database.Taken (before : Database) (job : TelemetryProcessingJob) (workerId : String)
    (item : TelemetryWorkItem) (after : Database) : Prop where
  reachable : Reachable after
  grows : Extends before after
  named : item.jobId = job.jobId
  work : before.WorkOf job.jobId item.rawBody item.receivedAt item.values
  claimed : ∃ row, after.jobs.get? job.jobId = some row ∧ row.packetId = job.packetId ∧
    row.state = .processing ∧ row.claimedBy = some workerId
  undone : after.processed.get? job.packetId = none
  /-- The other jobs are as they were. -/
  others : ∀ other ∈ after.jobs, other ∈ before.jobs ∨ other.jobId = job.jobId

/-- A later time makes no job unclaimable. -/
theorem isClaimable_later {job : TelemetryProcessingJob} {first second : Time}
    (claimable : isClaimable job first = true) (later : first ≤ second) :
    isClaimable job second = true := by
  -- Each of the deadlines that had passed has still passed.
  have due : ∀ instant : Option Time, isDue instant first = true → isDue instant second = true := by
    intro instant passed
    cases instant with
    | none => cases passed
    | some time => exact decide_eq_true ((of_decide_eq_true passed).trans later)
  simp only [isClaimable, Bool.decide_or, Bool.decide_and, Bool.or_eq_true, Bool.and_eq_true,
    decide_eq_true_eq] at claimable ⊢
  rcases claimable with queued | ⟨processing, expired⟩ | ⟨waiting, passed⟩
  · exact Or.inl queued
  · exact Or.inr (Or.inl ⟨processing, due _ expired⟩)
  · exact Or.inr (Or.inr ⟨waiting, due _ passed⟩)

section Work
variable {db : Database} {queue : TelemetryQueue} {time : Time} {message : QueueMessage}
variable {workerId : String} {job : TelemetryProcessingJob}

/-- A job that is over is left to its end, and an open one is taken. -/
theorem claimWork_alone (reachable : Reachable db) (named : workerId.isEmpty = false)
    (found : db.jobs.get? message.jobId = some job) (held : queue.processing = [message])
    (ready : job.isOpen = true → isClaimable job time = true) :
    Alone (At db queue time) (claimWork workerId message) fun outcome ground =>
      ∃ work, outcome = .ok work ∧
        ((work = none ∧ job.isOpen = false ∧ ground.Cleared db queue.pending time) ∨
          ∃ item after, work = some item ∧ db.Taken job workerId item after ∧
            ground.At after queue time) := by
  obtain ⟨stored, key⟩ := Table.get?_eq_some.mp found
  have ledger := reachable.ledger
  have claims : Alone (At db queue time)
      (callRepository (.claimProcessingJob message.jobId workerId 60)) fun outcome ground =>
        ∃ work, outcome = .ok work ∧
          ((work = none ∧ job.isOpen = false ∧ ground.At db queue time) ∨
            ∃ item after, work = some item ∧ db.Taken job workerId item after ∧
              ground.At after queue time) := by
    refine alone_repository fun env ground later reached => ?_
    have happened := claimProcessingJob_valid env db message.jobId named (by decide : (0 : Int) < 60)
    have next := Reachable.call env (.claimProcessingJob message.jobId workerId 60) reachable
    have grows := (RepoCall.exec_effect env db
      (.claimProcessingJob message.jobId workerId 60)).extends
    generalize (RepoCall.claimProcessingJob message.jobId workerId 60).exec env db = scripted
      at happened reached next grows ⊢
    have work : ∀ item, scripted.1 = .ok (some item) →
        db.WorkOf item.jobId item.rawBody item.receivedAt item.values :=
      fun item => happened.workOf
    -- A stored result belongs to a complete job, so only a complete job is passed over for one.
    cases happened with
    | missing absent => cases absent.symm.trans found
    | dangling other broken text =>
      obtain ⟨packet, present, receipt, source⟩ := reachable.looseLedger.sources other
      exact absurd ((broken packet present).symm.trans source) nofun
    | @closed row result other done status =>
      -- The result was stored by the worker that completed the job.
      obtain rfl : row = job := Option.some.inj (other.symm.trans found)
      obtain ⟨member, owner⟩ := Table.get?_eq_some.mp done
      obtain ⟨worker, among, -, same, complete⟩ := ledger.processed result member
      obtain rfl := ledger.jobUnique worker among row stored (same.trans owner)
      exact absurd complete status
    | @finished row result other done status =>
      obtain rfl : row = job := Option.some.inj (other.symm.trans found)
      refine ⟨none, rfl, Or.inl ⟨rfl, ?_, reached.database, reached.queue,
        later.trans reached.clock⟩⟩
      simp [TelemetryProcessingJob.isOpen, status]
    | @unavailable row other undone blocked =>
      obtain rfl : row = job := Option.some.inj (other.symm.trans found)
      refine ⟨none, rfl, Or.inl ⟨rfl, ?_, reached.database, reached.queue,
        later.trans reached.clock⟩⟩
      -- An open job can be claimed, and it can be claimed later too.
      refine eq_false_of_ne_true fun opened => ?_
      rw [isClaimable_later (ready opened) later] at blocked
      cases blocked
    | @taken row packet receipt other undone free present source =>
      obtain rfl : row = job := Option.some.inj (other.symm.trans found)
      refine ⟨_, rfl, Or.inr ⟨_, _, rfl, ⟨next, grows, rfl, work _ rfl, ?_, undone, ?_⟩,
        reached.database, reached.queue, later.trans reached.clock⟩⟩
      · rw [key]
        exact ⟨_, get?_moved found rfl, rfl, rfl, rfl⟩
      · intro job member
        rcases Table.mem_set.mp member with ⟨rfl, -⟩ | ⟨old, -⟩
        · exact Or.inr rfl
        · exact Or.inl old
  refine claims.bind fun work => ?_
  cases work with
  | none =>
    -- Nothing was claimed, so the job is over and its reference is removed.
    intro before outcome after known run
    rcases known with ⟨-, closed, reached⟩ | ⟨item, taken, same, -⟩
    · have resolves : Alone (At db queue time) (do
            returnOrFinishUnclaimed message
            return (none : Option TelemetryWorkItem))
          fun outcome ground => outcome = .ok none ∧ ground.Cleared db queue.pending time :=
        (returnOrFinishUnclaimed_alone found closed held).bind fun _ =>
          Solo.done fun _ cleared => ⟨rfl, cleared⟩
      obtain ⟨rfl, cleared⟩ := resolves before outcome after reached run
      exact ⟨none, rfl, Or.inl ⟨rfl, closed, cleared⟩⟩
    · cases same
  | some item =>
    refine Solo.done fun ground known => ⟨some item, rfl, Or.inr ?_⟩
    rcases known with ⟨absent, -⟩ | taken
    · cases absent
    · exact taken

variable {before : Database} {item : TelemetryWorkItem}

/-- The job in hand is brought to its end. -/
theorem Database.Taken.finishes (taken : before.Taken job workerId item db) {after : Database}
    {row : TelemetryProcessingJob} (grows : Extends db after) (jobs : after.jobs = db.jobs.set row)
    (same : row.jobId = job.jobId)
    (ended : row.state = .complete ∨ row.state = .failed ∧ before.Unreadable job.jobId) :
    before.Finishes job.jobId after := by
  -- Only the row of the job has changed.
  refine ⟨taken.grows.trans grows, fun other member => ?_⟩
  rw [jobs] at member
  rcases Table.mem_set.mp member with ⟨rfl, -⟩ | ⟨old, different⟩
  · exact Or.inr ⟨same, ended⟩
  · -- Every other job is as it was before the claim.
    rcases taken.others other old with kept | mine
    · exact Or.inl ⟨kept, fun mine => different (mine.trans same.symm)⟩
    · exact absurd (mine.trans same.symm) different

/-- A computed result is stored and completes the job. -/
theorem completeWork_alone (taken : before.Taken job workerId item db)
    (result : ProcessingResultValues) :
    Alone (At db queue time)
      (callRepository (.completeProcessingJob item.jobId result workerId none))
      fun outcome ground => ∃ stored, outcome = .ok stored ∧
        ∃ after, before.Finishes job.jobId after ∧ ground.At after queue time := by
  refine alone_repository fun env ground later reached => ?_
  obtain ⟨row, found, packet, status, owned⟩ := taken.claimed
  have undone : db.processed.get? row.packetId = none := packet ▸ taken.undone
  obtain ⟨stored, key⟩ := Table.get?_eq_some.mp found
  rw [taken.named] at reached ⊢
  have happened := completeProcessingJob_exec env db job.jobId result workerId none
  have grows := (RepoCall.exec_effect env db
    (.completeProcessingJob job.jobId result workerId none)).extends
  generalize (RepoCall.completeProcessingJob job.jobId result workerId none).exec env db = scripted
    at happened reached grows ⊢
  -- The job is in the hands of this worker and has no result.
  cases happened with
  | missing absent => cases absent.symm.trans found
  | conflicting other done | closed other done =>
    obtain rfl := Option.some.inj (other.symm.trans found)
    cases undone.symm.trans done
  | refused other undone lost =>
    obtain rfl := Option.some.inj (other.symm.trans found)
    exact absurd lost (not_or.mpr ⟨not_not.mpr status, not_not.mpr owned⟩)
  | integrity other undone refused =>
    obtain rfl := Option.some.inj (other.symm.trans found)
    exact absurd (taken.reachable.ledger.admits_result stored undone result _) refused
  | completed other =>
    obtain rfl := Option.some.inj (other.symm.trans found)
    exact ⟨_, rfl, _, taken.finishes grows rfl key (Or.inl rfl), reached.database, reached.queue,
      later.trans reached.clock⟩

/-- An item that computes is brought to its end, and one that does not is left as it is. -/
theorem processWork_alone (taken : before.Taken job workerId item db)
    (held : queue.processing = [message]) :
    Alone (At db queue time) (processWork workerId message item) fun outcome ground =>
      (∀ value, outcome = .ok value →
        ∃ after, before.Finishes job.jobId after ∧ ground.Cleared after queue.pending time) ∧
      ∀ failure, outcome = .error failure →
        computeResult item.rawBody item.receivedAt item.values = .error failure ∧
          ground.At db queue time := by
  unfold processWork
  split
  next failure fails =>
    -- Nothing has been called when the computation fails.
    refine Solo.raise fun ground reached => ⟨fun _ same => (by cases same), fun other same => ?_⟩
    cases same
    exact ⟨fails, reached⟩
  next result computes =>
    have finishes : Alone (At db queue time) (do
          let _ ← callRepository (.completeProcessingJob item.jobId result workerId none)
          (callQueue (.ack message)).tryCatch fun _ => return ())
        fun outcome ground => ∃ value, outcome = .ok value ∧
          ∃ after, before.Finishes job.jobId after ∧ ground.Cleared after queue.pending time := by
      refine (completeWork_alone taken result).bind fun stored => ?_
      rintro first outcome last ⟨after, finishes, reached⟩ run
      obtain ⟨value, returned, cleared⟩ := Solo.unhandled _ (ack_alone held) first outcome last
        reached run
      exact ⟨value, returned, after, finishes, cleared⟩
    refine finishes.weaken (fun _ => id) ?_
    rintro _ ground ⟨value, rfl, finished⟩
    exact ⟨fun _ _ => finished, fun _ same => (by cases same)⟩

/-- Evidence that was decoded once fails to compute with a `ValueError` only. -/
theorem computeResult_valueError {rawBody : Bytes} {decodedAt receivedAt : Time}
    {frame : TelemetryFrame OperatingMode} {values : DecodedTelemetryValues} {failure : Failure}
    (decoded : decodeTelemetry zlibCrc32 rawBody (.utc decodedAt) = .ok frame)
    (fails : computeResult rawBody receivedAt values = .error failure) :
    failure.isValueError = true := by
  -- A frame that decodes can also be assessed, so only the comparison or the decoding can fail.
  unfold computeResult at fails
  rcases decodeTelemetry_encoded (encodeTelemetry_of_decodeTelemetry decoded) receivedAt with
    again | ⟨-, detail, early⟩
  · rw [again] at fails
    dsimp only at fails
    split_ifs at fails with different
    · cases fails
      rfl
    · obtain ⟨assessment, assessed⟩ := @assessHealth_of_decoded _ _ receivedAt _ decoded
      rw [assessed] at fails
      cases fails
  · rw [early] at fails
    cases fails
    rfl

/-- An item that does not compute fails its job for good. -/
theorem failWork_alone (taken : before.Taken job workerId item db)
    (held : queue.processing = [message]) {failure : Failure}
    (fails : computeResult item.rawBody item.receivedAt item.values = .error failure)
    (permanent : failure.isValueError = true) :
    Alone (At db queue time) (failWork workerId message item failure) fun outcome ground =>
      ∃ value, outcome = .ok value ∧
        ∃ after, before.Finishes job.jobId after ∧ ground.Cleared after queue.pending time := by
  have stores : Alone (At db queue time) (callRepository (.failProcessingAttempt item.jobId workerId
        failure.describe (!failure.isValueError) 1 none)) fun outcome ground =>
      ∃ result, outcome = .ok result ∧ result.state = .failed ∧
        ∃ after, before.Finishes job.jobId after ∧ ground.At after queue time := by
    refine alone_repository fun env ground later reached => ?_
    obtain ⟨row, found, packet, status, owned⟩ := taken.claimed
    rw [taken.named, permanent] at reached ⊢
    have happened := failProcessingAttempt_valid env db job.jobId workerId failure.describe
      (!true) none (show (0 : Int) < 1 by decide)
    have grows := (RepoCall.exec_effect env db (.failProcessingAttempt job.jobId workerId
      failure.describe (!true) 1 none)).extends
    generalize (RepoCall.failProcessingAttempt job.jobId workerId failure.describe (!true) 1
      none).exec env db = scripted at happened reached grows ⊢
    cases happened with
    | missing absent => cases absent.symm.trans found
    | repeated other failed =>
      obtain rfl := Option.some.inj (other.symm.trans found)
      cases status.symm.trans failed
    | refused other lost =>
      obtain rfl := Option.some.inj (other.symm.trans found)
      exact absurd lost (not_or.mpr ⟨not_not.mpr status, not_not.mpr owned⟩)
    | failed other =>
      obtain rfl := Option.some.inj (other.symm.trans found)
      -- A permanent failure ends the job, however many attempts it has left.
      have finishes := taken.finishes grows rfl (Table.get?_eq_some.mp found).2
        (Or.inr ⟨rfl, _, _, _, failure, taken.work, fails⟩)
      exact ⟨_, rfl, rfl, _, finishes, reached.database, reached.queue,
        later.trans reached.clock⟩
  have records : Alone (At db queue time) (recordFailure workerId item failure)
      fun outcome ground => ∃ recorded, outcome = .ok recorded ∧
        ∃ result, recorded = some result ∧ result.state = .failed ∧
          ∃ after, before.Finishes job.jobId after ∧ ground.At after queue time :=
    Solo.unhandled _ (stores.bind fun result => Solo.done fun ground known =>
      ⟨some result, rfl, result, rfl, known⟩)
  refine records.bind fun recorded => ?_
  rintro first outcome last ⟨result, rfl, failed, after, finishes, reached⟩ run
  dsimp only at run
  rw [if_pos failed] at run
  obtain ⟨value, returned, cleared⟩ := deadLetter_alone held first outcome last reached run
  exact ⟨value, returned, after, finishes, cleared⟩

/-- An item in hand is brought to its end, whether it computes or not. -/
theorem finishWork_alone (taken : before.Taken job workerId item db)
    (held : queue.processing = [message])
    (decoded : ∃ decodedAt frame,
      decodeTelemetry zlibCrc32 item.rawBody (.utc decodedAt) = .ok frame) :
    Alone (At db queue time)
      ((processWork workerId message item).tryCatch (failWork workerId message item))
      fun outcome ground => ∃ value, outcome = .ok value ∧
        ∃ after, before.Finishes job.jobId after ∧ ground.Cleared after queue.pending time := by
  -- What fails in the computation is what the handler is given.
  refine Solo.tryCatch ((processWork_alone taken held).weaken (fun _ => id)
    fun outcome ground known => ⟨fun value same => ⟨value, rfl, known.1 value same⟩, known.2⟩)
    fun failure => ?_
  rintro first outcome last ⟨fails, reached⟩ run
  obtain ⟨decodedAt, frame, decodes⟩ := decoded
  exact failWork_alone taken held fails (computeResult_valueError decodes fails) first outcome last
    reached run

end Work

/-- Jobs are brought to their ends and otherwise left as they were. -/
structure Database.Settles (before after : Database) : Prop where
  grows : Extends before after
  jobs : ∀ job ∈ after.jobs,
    job ∈ before.jobs ∨ job.state = .complete ∨ job.state = .failed ∧ after.Unreadable job.jobId

section Settling
variable {first second third : Database} {jobId : UUID}

/-- Evidence that does not compute stays so. -/
theorem Database.Unreadable.later (unreadable : first.Unreadable jobId)
    (grows : Extends first second) : second.Unreadable jobId := by
  -- The work of a job is read from evidence, which stays.
  obtain ⟨rawBody, receivedAt, values, failure, work, fails⟩ := unreadable
  exact ⟨rawBody, receivedAt, values, failure, grows.sustains.workOf work, fails⟩

/-- Doing nothing settles nothing wrongly. -/
theorem Database.Settles.refl (db : Database) : db.Settles db :=
  ⟨.refl db, fun _ => Or.inl⟩

/-- Settling twice settles. -/
theorem Database.Settles.trans (early : first.Settles second) (late : second.Settles third) :
    first.Settles third := by
  -- What the second part has left alone was left alone or ended by the first.
  refine ⟨early.grows.trans late.grows, fun job member => ?_⟩
  rcases late.jobs job member with old | ended
  · rcases early.jobs job old with older | done | ⟨failed, unreadable⟩
    · exact Or.inl older
    · exact Or.inr (Or.inl done)
    · exact Or.inr (Or.inr ⟨failed, unreadable.later late.grows⟩)
  · exact Or.inr ended

/-- To finish a job is to settle it. -/
theorem Database.Finishes.settles (finishes : first.Finishes jobId second) :
    first.Settles second := by
  -- A job that has failed stays unreadable while the tables grow.
  refine ⟨finishes.grows, fun job member => ?_⟩
  rcases finishes.jobs job member with ⟨old, -⟩ | ⟨rfl, done | ⟨failed, unreadable⟩⟩
  · exact Or.inl old
  · exact Or.inr (Or.inl done)
  · exact Or.inr (Or.inr ⟨failed, unreadable.later finishes.grows⟩)

end Settling

/-- The evidence of every job was decoded at some time. -/
theorem CrossStore.work_decoded {ground : Ground} (cross : CrossStore ground) {jobId : UUID}
    {rawBody : Bytes} {receivedAt : Time} {values : DecodedTelemetryValues}
    (work : ground.database.WorkOf jobId rawBody receivedAt values) :
    ∃ time frame, decodeTelemetry zlibCrc32 rawBody (.utc time) = .ok frame := by
  -- The receipt of the packet is the one whose body was decoded when it was accepted.
  obtain ⟨job, -, -, packet, stored, -, -, source, recorded, link, rfl, -⟩ := work
  obtain ⟨body, ⟨receipt, among, key, rfl⟩, time, frame, -, decodes, -⟩ :=
    cross.decoded packet stored
  obtain rfl : receipt = source := Table.eq_of_key among recorded (key.trans link.symm)
  exact ⟨time, frame, decodes⟩

/-- What a lone service does keeps the agreement of the stores. -/
theorem CrossStore.alone {α : Type} {service : Service α} {pre : Ground → Prop}
    {before after : Ground} {outcome : Except Failure α} (cross : CrossStore before)
    (follows : Follows 0 pre service) (held : pre before)
    (run : Runs ServesFresh service before outcome after) : CrossStore after := by
  refine (Safe.alone ?_ (follows before held) cross run).1
  -- Time passes before each request, and then the request is performed without a fault.
  rintro request before reply after agreed ⟨uuid4, middle, ticks, served⟩
  obtain ⟨still, later⟩ := agreed.tick ticks
  exact ⟨middle, (uuid4, ⟨.none, trivial⟩), later, still, congrArg some served⟩

section Iterations
variable {ground after : Ground} {workerId : String} {outcome : Except Failure Unit}

/-- Every open job can be claimed. -/
def Ground.AllReady (ground : Ground) : Prop :=
  ∀ job ∈ ground.database.jobs, job.isOpen = true → isClaimable job ground.clock = true

/-- No job is left to be worked on. -/
def Ground.Finished (ground : Ground) : Prop :=
  ∀ job ∈ ground.database.jobs, job.isOpen = false

/-- Work is brought to its end, and given entries are left of the queue. -/
structure Ground.Drained (before : Ground) (pending : List QueueMessage) (after : Ground) : Prop where
  database : before.database.Settles after.database
  pending : after.queue.pending = pending
  processing : after.queue.processing = []
  clock : before.clock ≤ after.clock

/-- A queue that was cleared over settled tables is drained. -/
theorem Ground.Cleared.drained {before after : Ground} {db : Database} {pending : List QueueMessage}
    (cleared : after.Cleared db pending before.clock) (settles : before.database.Settles db) :
    before.Drained pending after := by
  -- The tables are those the drain was to reach.
  obtain ⟨rfl, left, idle, later⟩ := cleared
  exact ⟨settles, left, idle, later⟩

/-- One iteration brings the job of the oldest reference to its end. -/
theorem workerIteration_alone (cross : CrossStore ground) (ready : ground.AllReady)
    (named : workerId.isEmpty = false) {rest : List QueueMessage} {message : QueueMessage}
    (oldest : ground.queue.pending = rest ++ [message]) (idle : ground.queue.processing = [])
    (run : Runs ServesFresh (workerIteration workerId) ground outcome after) :
    outcome = .ok () ∧ ground.Drained rest after := by
  -- The reference leads to a job, which is open and can be claimed, or over.
  obtain ⟨job, stored, key, -⟩ := cross.job message (by
    simp [TelemetryQueue.references, oldest])
  have found : ground.database.jobs.get? message.jobId = some job :=
    Table.get?_eq_some.mpr ⟨stored, key⟩
  have iterates : Alone (At ground.database ground.queue ground.clock) (workerIteration workerId)
      fun outcome after => outcome = .ok () ∧ ground.Drained rest after := by
    refine (claimReference_alone oldest).bind fun claimed => ?_
    rintro first reply last ⟨rfl, reached⟩ follows
    rw [idle] at reached
    have takes := Solo.unhandled (fun _ => do
        returnReference message
        return none)
      (@claimWork_alone _ { ground.queue with pending := rest, processing := [message] } _ _ _ _
        cross.reachable named found rfl (ready job stored))
    refine (show Alone _ _ fun outcome after => outcome = .ok () ∧ ground.Drained rest after from
      takes.bind fun work => ?_) first reply last reached follows
    cases work with
    | none =>
      -- The job was over, so the iteration ends with its reference.
      refine Solo.done fun ground known => ⟨rfl, ?_⟩
      rcases known with ⟨-, -, cleared⟩ | ⟨item, db, taken, -⟩
      · exact cleared.drained (.refl _)
      · cases taken
    | some item =>
      rintro first reply last (⟨absent, -⟩ | ⟨_, db, same, taken, reached⟩) follows
      · cases absent
      · cases same
        obtain ⟨value, rfl, done, finishes, cleared⟩ := finishWork_alone taken (by rfl)
          (cross.work_decoded taken.work) first reply last reached follows
        exact ⟨rfl, cleared.drained finishes.settles⟩
  exact iterates ground outcome after ⟨rfl, rfl, le_rfl⟩ run

/-- An iteration on an empty queue leaves everything as it is. -/
theorem workerIteration_idle (empty : ground.queue.pending = [])
    (idle : ground.queue.processing = [])
    (run : Runs ServesFresh (workerIteration workerId) ground outcome after) :
    outcome = .ok () ∧ ground.Drained [] after := by
  -- The round ends where it finds no reference.
  have iterates : Alone (At ground.database ground.queue ground.clock) (workerIteration workerId)
      fun outcome after => outcome = .ok () ∧ ground.Drained [] after := by
    refine (claimReference_idle empty).bind fun claimed => ?_
    rintro first reply last ⟨rfl, reached⟩ follows
    cases follows
    refine ⟨rfl, ?_, reached.queue ▸ empty, reached.queue ▸ idle, reached.clock⟩
    exact reached.database ▸ .refl _
  exact iterates ground outcome after ⟨rfl, rfl, le_rfl⟩ run

/-- Work that is brought to its end in two parts is brought to its end. -/
theorem Ground.Drained.trans {middle : Ground} {first second : List QueueMessage}
    (early : ground.Drained first middle) (late : middle.Drained second after) :
    ground.Drained second after :=
  ⟨early.database.trans late.database, late.pending, late.processing, early.clock.trans late.clock⟩

/-- A job that is still open is as it was, so it can still be claimed. -/
theorem Ground.Drained.ready {pending : List QueueMessage} (drained : ground.Drained pending after)
    (ready : ground.AllReady) : after.AllReady := by
  -- An open job after the drain is one from before it: the others are complete or failed.
  intro job stored isOpen
  rcases drained.database.jobs job stored with old | done | ⟨failed, -⟩
  · exact isClaimable_later (ready job old isOpen) drained.clock
  · simp [TelemetryProcessingJob.isOpen, done] at isOpen
  · simp [TelemetryProcessingJob.isOpen, failed] at isOpen

/-- As many iterations as there are entries empty the queue. -/
theorem workerLoop_alone {iterations : Nat} (cross : CrossStore ground) (ready : ground.AllReady)
    (named : workerId.isEmpty = false) (idle : ground.queue.processing = [])
    (enough : ground.queue.pending.length ≤ iterations)
    (run : Runs ServesFresh (workerLoop workerId iterations) ground outcome after) :
    outcome = .ok () ∧ ground.Drained [] after := by
  -- By induction on the iterations: each takes the oldest entry off, if there is one.
  induction iterations generalizing ground with
  | zero =>
    have empty := List.eq_nil_of_length_eq_zero (Nat.le_zero.mp enough)
    cases run
    exact ⟨rfl, .refl _, empty, idle, le_rfl⟩
  | succ iterations ih =>
    -- Whether or not an entry is there, fewer are left than iterations.
    obtain ⟨pending, short, iterates⟩ : ∃ pending : List QueueMessage,
        pending.length ≤ iterations ∧ ∀ reply middle,
          Runs ServesFresh (workerIteration workerId) ground reply middle →
            ∃ value, reply = .ok value ∧ ground.Drained pending middle := by
      rcases List.eq_nil_or_concat ground.queue.pending with empty | ⟨rest, message, oldest⟩
      · exact ⟨[], Nat.zero_le _, fun _ _ part => ⟨(), workerIteration_idle empty idle part⟩⟩
      · rw [List.concat_eq_append] at oldest
        refine ⟨rest, ?_, fun _ _ part =>
          ⟨(), workerIteration_alone cross ready named oldest idle part⟩⟩
        rw [oldest, List.length_append, List.length_singleton] at enough
        omega
    obtain ⟨_, middle, part, drained, rest⟩ := run.of_bind_ok iterates
    obtain ⟨returned, done⟩ := ih (cross.alone (workerIteration_follows workerId) trivial part)
      (drained.ready ready) drained.processing (drained.pending ▸ short) rest
    exact ⟨returned, drained.trans done⟩

/-- Where no reference waits, no job does either. -/
theorem CrossStore.all_over (cross : CrossStore ground) (ready : ground.AllReady)
    (empty : ground.queue.pending = []) (idle : ground.queue.processing = []) :
    ground.Finished := by
  refine fun job stored => eq_false_of_ne_true fun isOpen => ?_
  have claimable := ready job stored isOpen
  -- A job that can be claimed has been queued, so its reference must be a dead letter.
  have queued : job.state ≠ .pendingQueue := by
    intro waiting
    simp [isClaimable, waiting] at claimable
  have incomplete : job.state ≠ .complete := by
    intro done
    simp [TelemetryProcessingJob.isOpen, done] at isOpen
  obtain ⟨message, listed, key⟩ := cross.present job stored queued incomplete
  rw [TelemetryQueue.references, empty, idle] at listed
  obtain ⟨row, among, same, failed⟩ := cross.buried message listed
  obtain rfl : row = job := Table.eq_of_key among stored (same.trans key)
  simp [TelemetryProcessingJob.isOpen, failed] at isOpen

/-- There are no more references than jobs. -/
theorem CrossStore.references_le (cross : CrossStore ground) :
    ground.queue.references.length ≤ ground.database.jobs.rows.length := by
  -- Every reference leads to a job, and no two lead to the same one.
  have distinct : (ground.queue.references.map (·.jobId)).Nodup :=
    (List.nodup_map_iff_inj_on cross.queue.distinct).mpr
      fun _ left _ right same => cross.queue.eq_of_jobId left right same
  have known : ground.queue.references.map (·.jobId) ⊆
      ground.database.jobs.rows.map (·.jobId) := by
    intro jobId listed
    obtain ⟨message, among, rfl⟩ := List.mem_map.mp listed
    obtain ⟨job, stored, key, -⟩ := cross.job message among
    exact List.mem_map.mpr ⟨job, stored, key⟩
  have bounded := (distinct.subperm known).length_le
  rwa [List.length_map, List.length_map] at bounded

/-- A lone worker with as many iterations as there are jobs finishes all of them. -/
theorem runWorker_alone {iterations : Nat} (cross : CrossStore ground) (ready : ground.AllReady)
    (named : workerId.isEmpty = false)
    (enough : ground.database.jobs.rows.length ≤ iterations)
    (run : Runs ServesFresh (runWorker workerId iterations) ground outcome after) :
    outcome = .ok () ∧ ground.Drained [] after ∧ after.Finished := by
  -- What an earlier worker had in hand comes back first.
  have recovers : Alone (At ground.database ground.queue ground.clock)
      (callQueue .recoverProcessing) fun outcome middle => ∃ value, outcome = .ok value ∧
        ground.Drained (ground.queue.processing ++ ground.queue.pending) middle := by
    refine alone_queue fun middle reached => ?_
    rw [recoverProcessing_eq] at reached ⊢
    refine ⟨_, rfl, reached.database ▸ .refl _, ?_, ?_, reached.clock⟩
    · rw [reached.queue]
    · rw [reached.queue]
  have entries : (ground.queue.processing ++ ground.queue.pending).length ≤ iterations := by
    have bounded := cross.references_le
    simp only [TelemetryQueue.references, List.length_append] at bounded ⊢
    omega
  have agreed := cross.alone (runWorker_follows workerId iterations) trivial run
  obtain ⟨_, middle, part, drained, rest⟩ :=
    run.of_bind_ok fun reply middle => recovers ground reply middle ⟨rfl, rfl, le_rfl⟩
  obtain ⟨returned, done⟩ := workerLoop_alone (cross.alone recoverProcessing_follows trivial part)
    (drained.ready ready) named drained.processing (drained.pending ▸ entries) rest
  have finished := drained.trans done
  exact ⟨returned, finished,
    agreed.all_over (finished.ready ready) finished.pending finished.processing⟩

end Iterations

end Cislunar
