import Cislunar.Foundation.Triple
import Cislunar.Proofs.Services.Loaded
import Cislunar.Proofs.Telemetry.Health

/-!
Every packet has at most one result, and the result is what its evidence computes to.

A late worker may complete a job that others have reclaimed, completed or failed. Its result agrees
with theirs because all of them compute from rows that never change.
-/

namespace Cislunar

open Foundation Ground

/-- The bytes, the time of receipt and the decoded values that a packet stands for. -/
def Database.EvidenceOf (db : Database) (packetId : String) (rawBody : Bytes) (receivedAt : Time)
    (values : DecodedTelemetryValues) : Prop :=
  ∃ packet ∈ db.packets, packet.packetId = packetId ∧ packet.values = values ∧
    ∃ source ∈ db.receipts, source.receiptId = packet.sourceReceiptId ∧
      source.rawBody = rawBody ∧ source.receivedAt = receivedAt

/-- What a worker that claims a job is given to work on. -/
def Database.WorkOf (db : Database) (jobId : UUID) (rawBody : Bytes) (receivedAt : Time)
    (values : DecodedTelemetryValues) : Prop :=
  ∃ job ∈ db.jobs, job.jobId = jobId ∧ db.EvidenceOf job.packetId rawBody receivedAt values

/-- What work depends on is still there: the evidence of receipts, the packets, and their jobs. -/
structure Sustains (before after : Database) : Prop where
  receipts : ∀ receipt ∈ before.receipts, ∃ later ∈ after.receipts,
    later.evidence = receipt.evidence
  packets : ∀ packet ∈ before.packets, packet ∈ after.packets
  jobs : ∀ job ∈ before.jobs, ∃ later ∈ after.jobs,
    later.jobId = job.jobId ∧ later.packetId = job.packetId

/-- Every stored result is the computation on the evidence of its packet. -/
def ResultsComputed (db : Database) : Prop :=
  ∀ row ∈ db.processed, ∃ rawBody receivedAt values,
    db.EvidenceOf row.packetId rawBody receivedAt values ∧
      computeResult rawBody receivedAt values = .ok row.values

section Evidence
variable {db after : Database} {packetId : String} {jobId : UUID} {rawBody rawBody' : Bytes}
variable {receivedAt receivedAt' : Time} {values values' : DecodedTelemetryValues}

/-- Rows that develop keep what work depends on. -/
theorem Extends.sustains (grows : Extends db after) : Sustains db after where
  receipts receipt member := by
    -- Receipts keep their evidence, and jobs their identity.
    obtain ⟨later, among, develops⟩ := grows.receipts receipt member
    exact ⟨later, among, develops.evidence⟩
  packets := grows.packets
  jobs job member := by
    obtain ⟨later, among, develops⟩ := grows.jobs job member
    exact ⟨later, among, develops.jobId, develops.packetId⟩

/-- Rows that retain what they have keep what work depends on. -/
theorem Retains.sustains (grows : Retains db after) : Sustains db after where
  receipts receipt member := by
    -- Receipts keep their evidence, and jobs their identity.
    obtain ⟨later, among, kept⟩ := grows.receipts receipt member
    exact ⟨later, among, kept.evidence⟩
  packets := grows.packets
  jobs job member := by
    obtain ⟨later, among, kept⟩ := grows.jobs job member
    exact ⟨later, among, kept.jobId, kept.packetId⟩

/-- The evidence of a packet is the same at all times. -/
theorem Sustains.evidenceOf (sustains : Sustains db after)
    (evidence : db.EvidenceOf packetId rawBody receivedAt values) :
    after.EvidenceOf packetId rawBody receivedAt values := by
  -- The packet stays as it is, and its source keeps its bytes and its time.
  obtain ⟨packet, stored, named, carried, source, recorded, link, body, time⟩ := evidence
  obtain ⟨later, among, same⟩ := sustains.receipts source recorded
  have key : later.receiptId = source.receiptId := congrArg (·.receiptId) same
  have bytes : later.rawBody = source.rawBody := congrArg (·.rawBody) same
  have received : later.receivedAt = source.receivedAt := congrArg (·.receivedAt) same
  exact ⟨packet, sustains.packets packet stored, named, carried, later, among, key.trans link,
    bytes.trans body, received.trans time⟩

/-- The work on a job is the same at all times. -/
theorem Sustains.workOf (sustains : Sustains db after)
    (work : db.WorkOf jobId rawBody receivedAt values) :
    after.WorkOf jobId rawBody receivedAt values := by
  -- The job keeps its packet, and the packet its evidence.
  obtain ⟨job, member, key, evidence⟩ := work
  obtain ⟨later, among, same, named⟩ := sustains.jobs job member
  exact ⟨later, among, same.trans key, named.symm ▸ sustains.evidenceOf evidence⟩

/-- A packet has one evidence. -/
theorem Database.EvidenceOf.unique (first : db.EvidenceOf packetId rawBody receivedAt values)
    (second : db.EvidenceOf packetId rawBody' receivedAt' values') :
    rawBody = rawBody' ∧ receivedAt = receivedAt' ∧ values = values' := by
  obtain ⟨packet, stored, named, rfl, source, recorded, link, rfl, rfl⟩ := first
  obtain ⟨packet', stored', named', rfl, source', recorded', link', rfl, rfl⟩ := second
  -- The packet is found by its key, and its source by the key that the packet carries.
  obtain rfl : packet = packet' := Table.eq_of_key stored stored' (named.trans named'.symm)
  obtain rfl : source = source' := Table.eq_of_key recorded recorded' (link.trans link'.symm)
  exact ⟨rfl, rfl, rfl⟩

/-- Results that were computed stay so while the database grows without new ones. -/
theorem ResultsComputed.grow (computed : ResultsComputed db) (grows : Retains db after)
    (kept : after.processed = db.processed) : ResultsComputed after := by
  -- No result is added, and the evidence of each stays.
  intro row member
  obtain ⟨rawBody, receivedAt, values, evidence, result⟩ := computed row (kept ▸ member)
  exact ⟨rawBody, receivedAt, values, grows.sustains.evidenceOf evidence, result⟩

end Evidence

/-- The test on seven fields accepts a result that is stored already. -/
theorem sameProcessingResult_of_eq {stored : ProcessedTelemetry}
    {candidate : ProcessingResultValues} (same : stored.values = candidate) :
    sameProcessingResult stored candidate = true := by
  -- Every column that is compared is one of the values.
  rw [sameProcessingResult, same]
  simp

/-- The work item of a claim is what its job stands for. -/
theorem ClaimOutcome.workOf {db : Database} {jobId : UUID} {workerId : String} {leaseSeconds : Int}
    {now : Time} {outcome : Except StorageError (Option TelemetryWorkItem) × Database}
    (happened : ClaimOutcome db jobId workerId leaseSeconds now outcome) {item : TelemetryWorkItem}
    (answered : outcome.1 = .ok (some item)) :
    db.WorkOf item.jobId item.rawBody item.receivedAt item.values := by
  -- Only a claim that takes the job answers with an item, which it has put together from three
  -- reads.
  cases happened with
  | missing | closed | finished | unavailable | dangling => cases answered
  | @taken job packet source found undone free stored recorded =>
    cases answered
    obtain ⟨member, key⟩ := Table.get?_eq_some.mp found
    obtain ⟨among, named⟩ := Table.get?_eq_some.mp stored
    obtain ⟨present, link⟩ := Table.get?_eq_some.mp recorded
    exact ⟨job, member, rfl, packet, among, named, rfl, source, present, link, rfl, rfl⟩

section Completion
variable {db : Database} {jobId : UUID} {result : ProcessingResultValues} {workerId : String}
variable {completionTime : Time} {outcome : Except StorageError ProcessedTelemetry × Database}
variable {rawBody : Bytes} {receivedAt : Time} {values : DecodedTelemetryValues}

/-- A completion with the computed result stores a computed result, if any. -/
theorem CompleteOutcome.resultsComputed
    (happened : CompleteOutcome db jobId result workerId completionTime outcome)
    (grows : Retains db outcome.2) (computed : ResultsComputed db)
    (work : db.WorkOf jobId rawBody receivedAt values)
    (computes : computeResult rawBody receivedAt values = .ok result) :
    ResultsComputed outcome.2 := by
  -- Only a first completion adds a row; the rows that are there keep their evidence.
  cases happened with
  | missing | conflicting | closed | refused | integrity => exact computed.grow grows rfl
  | @completed job found undone status owned admitted =>
    intro row member
    rcases (Table.mem_insert admitted.1).mp member with old | rfl
    · obtain ⟨rawBody, receivedAt, values, evidence, same⟩ := computed row old
      exact ⟨rawBody, receivedAt, values, grows.sustains.evidenceOf evidence, same⟩
    · -- The job of the new row is the job whose work was computed.
      obtain ⟨worked, among, key, evidence⟩ := work
      obtain ⟨stored, named⟩ := Table.get?_eq_some.mp found
      obtain rfl : worked = job := Table.eq_of_key among stored (key.trans named.symm)
      exact ⟨rawBody, receivedAt, values, grows.sustains.evidenceOf evidence, computes⟩

/-- A completion with the computed result meets no other result. -/
theorem CompleteOutcome.ne_conflict
    (happened : CompleteOutcome db jobId result workerId completionTime outcome)
    (computed : ResultsComputed db) (work : db.WorkOf jobId rawBody receivedAt values)
    (computes : computeResult rawBody receivedAt values = .ok result) (message : String) :
    outcome.1 ≠ .error (.processingResultConflict message) := by
  cases happened with
  | missing | closed | refused | completed | integrity => simp
  | @conflicting job existing found done different =>
    obtain ⟨worked, among, key, evidence⟩ := work
    obtain ⟨member, named⟩ := Table.get?_eq_some.mp found
    obtain ⟨stored, owner⟩ := Table.get?_eq_some.mp done
    obtain rfl : worked = job := Table.eq_of_key among member (key.trans named.symm)
    -- The stored result was computed from the same evidence.
    obtain ⟨rawBody', receivedAt', values', evidence', same⟩ := computed existing stored
    replace evidence' : db.EvidenceOf worked.packetId rawBody' receivedAt' values' :=
      owner ▸ evidence'
    obtain ⟨rfl, rfl, rfl⟩ := evidence.unique evidence'
    have equal : existing.values = result := Except.ok.inj (same.symm.trans computes)
    rw [sameProcessingResult_of_eq equal] at different
    cases different

/-- A completion raises no `ValueError`. -/
theorem CompleteOutcome.ne_valueError
    (happened : CompleteOutcome db jobId result workerId completionTime outcome)
    {error : StorageError} (failed : outcome.1 = .error error) :
    (Failure.storage error).isValueError = false := by
  -- The errors of a completion are of other kinds.
  cases happened with
  | closed | completed => cases failed
  | missing | conflicting | refused | integrity =>
    cases failed
    rfl

end Completion

/-- A request that stores a result or records a failed attempt. -/
def Request.endsWork : Request → Bool
  | .repository (.completeProcessingJob _ _ _ _) _ => true
  | .repository (.failProcessingAttempt _ _ _ _ _ _) _ => true
  | _ => false

/-- What a worker owes for the requests that end its work. -/
def WorkEnded (before : Ground) : (request : Request) → Except Failure request.Reply → Prop
  -- Its result never contradicts a stored one.
  | .repository (.completeProcessingJob _ _ _ _) _, reply =>
    ∀ message, reply ≠ .error (.storage (.processingResultConflict message))
  -- It reports a permanent failure only where the evidence does not compute.
  | .repository (.failProcessingAttempt jobId _ _ false _ _) _, _ =>
    ∃ rawBody receivedAt values failure, before.database.WorkOf jobId rawBody receivedAt values ∧
      computeResult rawBody receivedAt values = .error failure
  | _, _ => True

/-- Results are computed from evidence, and evidence is never taken away. -/
def resultProtocol : Protocol Nat Failure Request Request.Reply Ground where
  invariant ground := ResultsComputed ground.database
  rely _ before after := Retains before.database after.database
  action _ before request reply _ := WorkEnded before request reply
  rely_refl _ ground := .refl ground.database
  rely_trans _ _ _ _ := .trans

/-- No justified request loses evidence, and one that ends no work keeps the results. -/
theorem TablesBacked.perform_tables {vendors : VendorRequest → Prop} {ground after : Ground}
    (backed : TablesBacked ground)
    {uuid4 : Nat → UUID} {fault : Fault} {request : Request} {reply : Except Failure request.Reply}
    (justified : ground.Justifies vendors request)
    (performed : ground.perform uuid4 fault request = (reply, after)) :
    Retains ground.database after.database ∧
      (request.endsWork = false → after.database.processed = ground.database.processed) := by
  refine ⟨(backed.perform justified performed).2.1, fun other => ?_⟩
  -- Time and the queue leave the tables alone, and a repository call does what it does.
  cases request with
  | clock =>
    obtain ⟨-, rfl⟩ := Prod.mk.inj performed
    rfl
  | queue call => rcases (perform_queue performed).1 with rfl | rfl <;> rfl
  | repository call held =>
    rcases (perform_repository performed).1 with same | same
    · rw [same]
    · rw [same]
      refine (RepoCall.heldTables_kept justified.1 justified.2.1).2 ?_
      cases call with
      | completeProcessingJob => cases other
      | _ => rfl

section Requests
variable {thread : Nat}

/-- Nothing is owed for a request that ends no work. -/
theorem workEnded_of_other {before : Ground} {request : Request}
    (other : request.endsWork = false) (reply : Except Failure request.Reply) :
    WorkEnded before request reply := by
  -- Only the two requests that end a piece of work owe anything.
  unfold WorkEnded
  split
  · cases other
  · cases other
  · trivial

/-- A request that ends no work is permitted at any time. -/
theorem permitted_of_other {before after : Ground} {request : Request}
    {choice : justifiedMachine.Choice} {reply : Except Failure request.Reply}
    (computed : ResultsComputed before.database) (other : request.endsWork = false)
    (performed : justifiedMachine.exec choice thread before request = some (reply, after)) :
    Permitted resultProtocol thread before request reply after := by
  -- A request that ends no work adds no result.
  obtain ⟨backed, justified, reached⟩ := of_justified performed
  obtain ⟨grows, kept⟩ := backed.perform_tables justified (Option.some.inj reached)
  exact ⟨computed.grow grows (kept other), fun _ _ => grows, workEnded_of_other other reply⟩

/-- A program that ends no work follows the protocol. -/
theorem computes_of_only {α : Type} {service : Service α} {pre : Ground → Prop}
    (requests : service.Only fun request => request.endsWork = false) :
    Triple resultProtocol justifiedMachine thread pre service fun _ _ => True := by
  -- A request that ends no work is permitted by any tables.
  intro ground _
  refine Safe.of_only requests fun before computed request other choice reply after performed => ?_
  obtain ⟨kept, tolerated, owed⟩ := permitted_of_other computed other performed
  exact ⟨kept, tolerated, owed⟩

/-- The work on a job cannot be taken away from a worker. -/
theorem kept_workOf (jobId : UUID) (rawBody : Bytes) (receivedAt : Time)
    (values : DecodedTelemetryValues) : Kept resultProtocol thread fun ground =>
      ground.database.WorkOf jobId rawBody receivedAt values :=
  fun _ _ work grows _ => grows.sustains.workOf work

end Requests

/-- A service that neither stores results nor records failed attempts. -/
abbrev EndsNoWork {α : Type} (service : Service α) : Prop :=
  service.Only fun request => request.endsWork = false

/-- The gateway only ever hands work over. -/
theorem endsWork_of_fromGateway {request : Request} (gateway : request.fromGateway = true) :
    request.endsWork = false := by
  -- Both requests that end a piece of work are the worker's.
  unfold Request.endsWork
  split
  · cases gateway
  · cases gateway
  · rfl

section Worker
variable {thread : Nat}

/-- Claiming a reference ends no work. -/
theorem claimReference_endsNoWork : EndsNoWork claimReference := by
  -- The one request is to Redis.
  refine .tryCatch (.call rfl) fun failure => ?_
  split <;> trivial

/-- Giving an unclaimed reference back ends no work. -/
theorem returnOrFinishUnclaimed_endsNoWork (message : QueueMessage) :
    EndsNoWork (returnOrFinishUnclaimed message) := by
  -- It looks the job up and finishes or returns the reference.
  refine .bind (.call rfl) fun found => ?_
  split
  · exact .call rfl
  · split_ifs <;> exact .call rfl

/-- Returning a reference ends no work. -/
theorem returnReference_endsNoWork (message : QueueMessage) :
    EndsNoWork (returnReference message) := by
  -- The one request is to Redis.
  refine .tryCatch (.call rfl) fun failure => ?_
  split <;> trivial

/-- The evidence in a work item is the evidence in the tables. -/
def WorkKnown (work : TelemetryWorkItem) (ground : Ground) : Prop :=
  ground.database.WorkOf work.jobId work.rawBody work.receivedAt work.values

/-- A worker that claims a job knows its evidence. -/
theorem claimWork_computes (workerId : String) (message : QueueMessage) :
    Triple resultProtocol justifiedMachine thread (fun _ => True) (claimWork workerId message)
      fun outcome ground => ∀ item, outcome = .ok (some item) → WorkKnown item ground := by
  have claims : Triple resultProtocol justifiedMachine thread (fun _ => True)
      (callRepository (.claimProcessingJob message.jobId workerId 60)) fun outcome ground =>
        ∀ item, outcome = .ok (some item) → WorkKnown item ground := by
    refine Triple.call (Kept.const True) fun before computed _ choice reply after performed => ?_
    refine ⟨permitted_of_other computed rfl performed, ?_⟩
    rintro item rfl
    -- The item was read before the claim, and the claim leaves the evidence where it is.
    obtain ⟨backed, justified, served⟩ := of_justified performed
    have answered := exec_of_perform (Option.some.inj served)
    rw [RepoCall.execHolding_empty] at answered
    refine (backed.perform_tables justified (Option.some.inj served)).1.sustains.workOf ?_
    rcases claimProcessingJob_exec ⟨choice.1, before.clock⟩ before.database message.jobId
      workerId 60 with ⟨_, failed⟩ | ⟨-, happened⟩
    · cases failed.symm.trans answered
    · rw [answered] at happened
      exact happened.workOf rfl
  -- A claim without an item only returns the reference, so nothing has to be known after it.
  refine Triple.bind (claims.weaken (fun _ => id) fun outcome ground known =>
    ⟨fun value same item equal => known item (same.trans (congrArg _ equal)),
      fun _ _ _ same => nomatch same⟩) fun work => ?_
  cases work with
  | none =>
    refine Triple.andThen (computes_of_only (returnOrFinishUnclaimed_endsNoWork message))
      (fun _ _ _ same => nomatch same) fun _ => ?_
    exact Triple.done fun _ _ _ same => nomatch same
  | some item =>
    refine Triple.done fun ground known other same => ?_
    cases same
    exact known item rfl

/-- A failure that a worker reports as permanent is a failure of the computation. -/
def FailureKnown (work : TelemetryWorkItem) (failure : Failure) : Prop :=
  failure.isValueError = true →
    ∃ error, computeResult work.rawBody work.receivedAt work.values = .error error

/-- A worker stores what it computed from known evidence. -/
theorem completeWork_computes (workerId : String) {work : TelemetryWorkItem}
    {result : ProcessingResultValues}
    (computes : computeResult work.rawBody work.receivedAt work.values = .ok result) :
    Triple resultProtocol justifiedMachine thread (WorkKnown work)
      (callRepository (.completeProcessingJob work.jobId result workerId none))
      fun outcome ground => ∀ failure, outcome = .error failure →
        WorkKnown work ground ∧ failure.isValueError = false := by
  refine Triple.call (kept_workOf _ _ _ _) fun before computed known choice reply after performed => ?_
  have happened := completeProcessingJob_exec ⟨choice.1, before.clock⟩ before.database work.jobId
    result workerId none
  obtain ⟨backed, justified, served⟩ := of_justified performed
  have grows := (backed.perform_tables justified (Option.some.inj served)).1
  have completes := (backed.call ⟨choice.1, before.clock⟩ justified).2.1
  obtain ⟨moved, answered⟩ := perform_repository (Option.some.inj served)
  rw [RepoCall.execHolding_empty] at moved answered completes
  -- The result is that of the known evidence, so the invariant is kept and no conflict arises.
  refine ⟨⟨?_, fun _ _ => grows, ?_⟩, ?_⟩
  · show ResultsComputed after.database
    rcases moved with same | same
    · exact same ▸ computed
    · exact same ▸ happened.resultsComputed completes computed known computes
  · show WorkEnded before _ reply
    intro message
    rcases answered with rfl | ⟨-, rfl⟩
    · simp
    · intro conflict
      obtain ⟨error, failed, same⟩ := of_mapError_eq_error conflict
      cases same
      exact happened.ne_conflict computed known computes message failed
  · rintro failure rfl
    refine ⟨grows.sustains.workOf known, ?_⟩
    rcases answered with lost | ⟨-, replied⟩
    · cases lost
      rfl
    · obtain ⟨error, failed, rfl⟩ := of_mapError_eq_error replied.symm
      exact happened.ne_valueError failed

/-- Where the work on an item fails, the failure and the evidence are known. -/
theorem processWork_computes (workerId : String) (message : QueueMessage)
    (work : TelemetryWorkItem) :
    Triple resultProtocol justifiedMachine thread (WorkKnown work) (processWork workerId message work)
      fun outcome ground => ∀ failure, outcome = .error failure →
        WorkKnown work ground ∧ FailureKnown work failure := by
  unfold processWork
  -- A computation that fails raises its error at once; a result is completed and acknowledged.
  split
  next failure fails =>
    refine Triple.raise fun ground known other same => ?_
    cases same
    exact ⟨known, fun _ => ⟨failure, fails⟩⟩
  next result computes =>
    refine Triple.bind ((completeWork_computes workerId computes).weaken (fun _ => id)
      fun outcome ground reached => ⟨fun _ _ => trivial, fun failure same other equal => ?_⟩)
      fun _ => ?_
    · obtain ⟨known, other⟩ := reached failure same
      cases equal
      exact ⟨known, fun value => by rw [other] at value; cases value⟩
    · -- The acknowledgement cannot fail the work: its handler swallows every error.
      refine Triple.tryCatch ((computes_of_only (.call rfl)).weaken (fun _ => id)
        fun _ _ _ => ⟨fun _ _ _ same => (nomatch same), fun _ _ => trivial⟩) fun _ => ?_
      exact Triple.done fun _ _ _ same => nomatch same

/-- A worker reports what it knows about a failure. -/
theorem failWork_computes (workerId : String) (message : QueueMessage) (work : TelemetryWorkItem)
    (failure : Failure) :
    Triple resultProtocol justifiedMachine thread
      (fun ground => WorkKnown work ground ∧ FailureKnown work failure)
      (failWork workerId message work failure) fun _ _ => True := by
  have reports : Triple resultProtocol justifiedMachine thread
      (fun ground => WorkKnown work ground ∧ FailureKnown work failure)
      (callRepository (.failProcessingAttempt work.jobId workerId failure.describe
        (!failure.isValueError) 1 none)) fun _ _ => True := by
    refine Triple.call ((kept_workOf _ _ _ _).and (Kept.const _))
      fun before computed known choice reply after performed => ⟨?_, trivial⟩
    obtain ⟨backed, justified, served⟩ := of_justified performed
    have reached : before.perform choice.1 choice.2 _ = (reply, after) := Option.some.inj served
    obtain ⟨grows, -⟩ := backed.perform_tables justified reached
    have kept : after.database.processed = before.database.processed := by
      rcases (perform_repository reached).1 with same | same
      · rw [same]
      · rw [same]
        exact (RepoCall.heldTables_kept justified.1 justified.2.1).2 rfl
    refine ⟨computed.grow grows kept, fun _ _ => grows, ?_⟩
    show WorkEnded before _ reply
    -- A permanent failure is reported for a ValueError alone, which is known to be a failure of the
    -- computation.
    cases permanent : failure.isValueError with
    | false => trivial
    | true =>
      obtain ⟨error, fails⟩ := known.2 permanent
      exact ⟨_, _, _, error, known.1, fails⟩
  -- What follows the report asks for nothing that the protocol speaks of.
  refine Triple.andThen (Triple.tryCatch (Triple.andThen reports
    (fun _ _ => ⟨fun _ _ => trivial, fun _ _ => trivial⟩)
    fun _ => Triple.done fun _ _ => ⟨fun _ _ => trivial, fun _ _ => trivial⟩) fun error => ?_)
    (fun _ _ => trivial) fun recorded => ?_
  · split_ifs
    · exact Triple.done fun _ _ => trivial
    · exact Triple.raise fun _ _ => trivial
  · refine computes_of_only ?_
    cases recorded with
    | none => trivial
    | some result =>
      dsimp only
      split_ifs <;> exact .call rfl

/-- A worker has work with known evidence, or has returned the reference. -/
theorem takeWork_computes (workerId : String) (message : QueueMessage) :
    Triple resultProtocol justifiedMachine thread (fun _ => True)
      ((claimWork workerId message).tryCatch fun _ => do
        returnReference message
        return none)
      fun outcome ground => ∀ item, outcome = .ok (some item) → WorkKnown item ground := by
  -- An error on the way returns the reference, and then there is no work.
  refine Triple.tryCatch ((claimWork_computes workerId message).weaken (fun _ => id)
    fun outcome ground known => ⟨fun value same => same ▸ known, fun _ _ => trivial⟩) fun _ => ?_
  refine Triple.andThen (computes_of_only (returnReference_endsNoWork message))
    (fun _ _ _ same => nomatch same) fun _ => ?_
  exact Triple.done fun _ _ _ same => nomatch same

/-- One iteration of a worker follows the protocol. -/
theorem workerIteration_computes (workerId : String) :
    Triple resultProtocol justifiedMachine thread (fun _ => True) (workerIteration workerId)
      fun _ _ => True := by
  refine Triple.andThen (computes_of_only claimReference_endsNoWork) (fun _ _ => trivial)
    fun claimed => ?_
  cases claimed with
  | none => exact Triple.done fun _ _ => trivial
  | some message =>
    refine Triple.bind ((takeWork_computes workerId message).weaken (fun _ => id)
      fun outcome ground known => ⟨fun value same item equal =>
        known item (same.trans (congrArg _ equal)), fun _ _ => trivial⟩) fun work => ?_
    cases work with
    | none => exact Triple.done fun _ _ => trivial
    | some item =>
      -- The work is known when it is processed, and still when its failure is reported.
      exact Triple.tryCatch ((processWork_computes workerId message item).weaken
        (fun _ known => known item rfl) fun _ _ reached => ⟨fun _ _ => trivial, reached⟩)
        (failWork_computes workerId message item)

/-- A worker follows the protocol. -/
theorem runWorker_computes (workerId : String) (iterations : Nat) :
    Triple resultProtocol justifiedMachine thread (fun _ => True) (runWorker workerId iterations)
      fun _ _ => True := by
  -- By induction on the number of rounds.
  have loops : Triple resultProtocol justifiedMachine thread (fun _ => True)
      (workerLoop workerId iterations) fun _ _ => True := by
    induction iterations with
    | zero => exact Triple.done fun _ _ => trivial
    | succ iterations ih =>
      exact Triple.andThen (workerIteration_computes workerId) (fun _ _ => trivial) fun _ => ih
  exact Triple.andThen (computes_of_only (.call rfl)) (fun _ _ => trivial) fun _ => loops

end Worker

/-- Every process computes its results from evidence. -/
theorem Process.computes (thread : Nat) (process : Process) :
    Triple resultProtocol justifiedMachine thread (fun _ => True) process.program
      fun _ _ => True := by
  -- The gateway and the start of the service end no work.
  cases process with
  | gateway settings vendor =>
    exact computes_of_only (.bind ((receivePayloadData_fromGateway settings vendor).mono
      fun _ => endsWork_of_fromGateway) fun _ => trivial)
  | startup =>
    exact computes_of_only (.bind ((recoverPendingJobs_fromGateway _).mono
      fun _ => endsWork_of_fromGateway) fun _ => trivial)
  | worker workerId iterations =>
    exact Triple.andThen (runWorker_computes workerId iterations) (fun _ _ => trivial)
      fun _ => Triple.done fun _ _ => trivial

/-- Time passes, and the queue may lose references or deliver them again. -/
def Ground.Redelivers (before after : Ground) : Prop :=
  ∃ queue clock, before.clock ≤ clock ∧ after = { before with queue := queue, clock := clock }

/-- The steps of the ground system with a queue that may do anything. -/
abbrev ResultStep : GroundConfig → GroundConfig → Prop :=
  Step groundMachine startsProcess Ground.Redelivers

/-- Nothing is redelivered while only time passes. -/
theorem resultRun_of_groundRun {first second : GroundConfig}
    (run : Relation.ReflTransGen GroundStep first second) :
    Relation.ReflTransGen ResultStep first second := by
  -- A tick is a redelivery that leaves the queue as it is.
  refine run.lift id fun _ _ step => Step.mono ?_ step
  rintro before after ⟨clock, forward, rfl⟩
  exact ⟨before.queue, clock, forward, rfl⟩

/-- The requests of the processes are justified, whatever happens to the queue. -/
theorem loading_resultStep :
    Loading (fun _ => True) groundMachine startsProcess Redelivers := by
  -- A redelivery touches neither the tables nor the order of time.
  refine .ground (fun _ _ _ => presents_of_starts) ?_
  rintro before _ ⟨queue, clock, forward, rfl⟩
  exact ⟨rfl, forward⟩

/-- In every run the stored results are computed and every process follows the protocol. -/
theorem resultSound_of_run {config : GroundConfig}
    (run : Relation.ReflTransGen ResultStep GroundConfig.initial config) :
    Sound justifiedMachine resultProtocol (fun _ _ _ => True) config := by
  have started : Sound justifiedMachine resultProtocol (fun _ _ _ => True) GroundConfig.initial :=
    ⟨fun row member => absurd member (Table.not_mem_empty row), fun _ _ running => nomatch running⟩
  refine Sound.run (fun _ _ _ _ _ _ _ => trivial) ?_ ?_ started (loading_resultStep.run run).2
  -- A process asks for nothing when it starts.
  · rintro thread ground _ valid ⟨process, rfl⟩
    exact process.computes thread ground trivial
  -- Whatever happens to the queue, the tables stay.
  · rintro before _ computed ⟨queue, clock, forward, rfl⟩
    exact ⟨computed, fun _ => .refl before.database⟩

/-- In every run a process owes what it is about to do. -/
theorem workEnded_of_run {config : GroundConfig}
    (run : Relation.ReflTransGen ResultStep GroundConfig.initial config) {thread : Nat}
    {request : Request} {next : Except Failure request.Reply → Service (Option Response)}
    (running : config.threads thread = some (.request request next)) {choice : groundMachine.Choice}
    {reply : Except Failure request.Reply} {after : Ground}
    (performed : groundMachine.exec choice thread config.state request = some (reply, after)) :
    WorkEnded config.state request reply := by
  -- The request is justified, so the protocol speaks of it.
  have loaded := (loading_resultStep.run run).1
  have permitted := Ground.isJustified_iff.mpr ⟨loaded.1, loaded.action running performed⟩
  exact (resultSound_of_run run).action running ((if_pos permitted).trans performed)

/-- A run loses no evidence. -/
theorem retains_of_run {first second : GroundConfig}
    (reached : Relation.ReflTransGen ResultStep GroundConfig.initial first)
    (run : Relation.ReflTransGen ResultStep first second) :
    Retains first.state.database second.state.database := by
  -- By induction on the run; of all steps only a request can touch the database.
  induction run with
  | refl => exact .refl _
  | @tail middle last onward step ih =>
    refine ih.trans ?_
    have sound := (loading_resultStep.run (reached.trans onward)).1
    cases step with
    | @act thread request next choice reply state running performed =>
      exact (sound.1.perform_tables (sound.action running performed) (Option.some.inj performed)).1
    | start => exact .refl _
    | crash => exact .refl _
    | environment moved =>
      obtain ⟨queue, clock, _, rfl⟩ := moved
      exact .refl _

/-- A result that follows from the packet it belongs to and the source of that packet. -/
def ResultReproduced (db : Database) (row : ProcessedTelemetry) : Prop :=
  ∃ packet ∈ db.packets, packet.packetId = row.packetId ∧
    ∃ source ∈ db.receipts, source.receiptId = packet.sourceReceiptId ∧
      computeResult source.rawBody source.receivedAt packet.values = .ok row.values ∧
      ∃ frame, decodeTelemetry zlibCrc32 source.rawBody (.utc source.receivedAt) = .ok frame ∧
        Reproduces frame source.receivedAt row.values

/--
Every packet has exactly one, immutable and reproducible result, if any.

Handlers and workers start at any time, interleave in any order, lose their connections and crash
between any two of their steps, leases expire, and references are delivered again and again. In
every state that a run reaches, no packet has two results, no later step changes or removes one,
each is computed from the bytes and the time of the source receipt, and no completion that a
worker is about to make raises `ProcessingResultConflictError`.
-/
theorem results_immutable_and_reproducible (config : GroundConfig)
    (run : Relation.ReflTransGen ResultStep GroundConfig.initial config) :
    (∀ first ∈ config.state.database.processed, ∀ second ∈ config.state.database.processed,
      first.packetId = second.packetId → first = second) ∧
    (∀ later, Relation.ReflTransGen ResultStep config later →
      ∀ row ∈ config.state.database.processed, row ∈ later.state.database.processed ∧
        ∀ other ∈ later.state.database.processed, other.packetId = row.packetId → other = row) ∧
    (∀ row ∈ config.state.database.processed, ResultReproduced config.state.database row) ∧
    (∀ thread jobId result workerId processedAt held next,
      config.threads thread = some (.request (.repository
        (.completeProcessingJob jobId result workerId processedAt) held) next) →
      ∀ uuid4 fault message, (config.state.perform uuid4 fault (.repository
        (.completeProcessingJob jobId result workerId processedAt) held)).1 ≠
          .error (.storage (.processingResultConflict message))) := by
  have sound := resultSound_of_run run
  refine ⟨fun first left second right => Table.eq_of_key left right, ?_, ?_, ?_⟩
  -- A row is never removed, and its key excludes another.
  · intro later onward row member
    have kept := (retains_of_run run onward).processed row member
    exact ⟨kept, fun other among same => Table.eq_of_key among kept same⟩
  -- The evidence of a computed result is its packet and the source of that packet.
  · intro row member
    obtain ⟨rawBody, receivedAt, values, evidence, computed⟩ := sound.1 row member
    obtain ⟨packet, stored, named, rfl, source, recorded, link, rfl, rfl⟩ := evidence
    obtain ⟨frame, decodes, _, reproduces⟩ := computeResult_eq_ok computed
    exact ⟨packet, stored, named, source, recorded, link, computed, frame, decodes, reproduces⟩
  -- A pending completion is about to act, so the protocol speaks of its answer.
  · intro thread jobId result workerId processedAt held next running uuid4 fault message
    have performed : groundMachine.exec (uuid4, ⟨fault, trivial⟩) thread config.state
        (.repository (.completeProcessingJob jobId result workerId processedAt) held) =
          some (config.state.perform uuid4 fault
            (.repository (.completeProcessingJob jobId result workerId processedAt) held)) := rfl
    exact workEnded_of_run run running performed message

/-- A handler queues the golden vector and a worker processes it. -/
def processingSchedule : List Event :=
  [.tick 1784203201000000, .start 0 (.gateway sampleSettings (sampleRequest goldenFrame)),
    .act 0 1 .none, .act 0 1 .none, .act 0 2 .none, .act 0 2 .none, .act 0 2 .none,
    .start 1 (.worker "worker-a" 1), .act 1 3 .none, .act 1 3 .none, .act 1 3 .none,
    .act 1 3 .none, .act 1 3 .none]

/-- A processed packet has a result, which is what its source computes to. -/
theorem processed_packet_reproduced :
    ∃ row ∈ (GroundConfig.after processingSchedule).state.database.processed,
      ResultReproduced (GroundConfig.after processingSchedule).state.database row := by
  -- The schedule is run for the number of its results only.
  have stored : (GroundConfig.after processingSchedule).state.database.processed.rows.length = 1 := by
    decide +kernel
  obtain ⟨row, member⟩ := List.exists_mem_of_length_pos (stored ▸ Nat.one_pos)
  have run := resultRun_of_groundRun (GroundConfig.after_run processingSchedule)
  exact ⟨row, member, (results_immutable_and_reproducible _ run).2.2.1 row member⟩

end Cislunar
