import Cislunar.Proofs.Telemetry.AuditEntries

/-!
The audit log determines the state: read event by event it gives the life of every job and the
verdict on every receipt.

One call continues the account of each row, and the account of a history follows by induction.
-/

namespace Cislunar

open Foundation

/-- One change of a job: the call that made it and the state it left. -/
structure JobChange where
  call : RepoCall
  state : ProcessingJobState

/-- The change that a call makes to a job, if it touches the row. -/
def jobChange (jobId : UUID) (call : RepoCall) (db after : Database) : List JobChange :=
  if after.jobs.get? jobId = db.jobs.get? jobId then []
  else ((after.jobs.get? jobId).map fun row => ⟨call, row.state⟩).toList

/-- The changes that a history of calls makes to a job from a database on, in order. -/
def changesFrom (jobId : UUID) : Database → List (Surroundings × RepoCall) → List JobChange
  | _, [] => []
  | db, (env, call) :: rest =>
    jobChange jobId call db (call.exec env db).2 ++ changesFrom jobId (call.exec env db).2 rest

/-- The sequence of changes of a job in a history of calls. -/
def jobChanges (history : List (Surroundings × RepoCall)) (jobId : UUID) : List JobChange :=
  changesFrom jobId .empty history

/-- A longer history continues where the shorter one ends. -/
theorem changesFrom_append (jobId : UUID) (first second : List (Surroundings × RepoCall))
    (db : Database) : changesFrom jobId db (first ++ second) = changesFrom jobId db first ++
      changesFrom jobId (first.foldl (fun db step => (step.2.exec step.1 db).2) db) second := by
  -- By induction on the first history.
  induction first generalizing db with
  | nil => rfl
  | cons step rest ih =>
    obtain ⟨env, call⟩ := step
    simp [changesFrom, ih]

/-- One more call changes a job once at most. -/
theorem jobChanges_snoc (history : List (Surroundings × RepoCall)) (env : Surroundings)
    (call : RepoCall) (jobId : UUID) :
    jobChanges (history ++ [(env, call)]) jobId = jobChanges history jobId ++
      jobChange jobId call (databaseAfter history) (call.exec env (databaseAfter history)).2 := by
  -- The last call adds the change it makes.
  simp [jobChanges, changesFrom_append, changesFrom, databaseAfter]

/-- A path through the states of a job, from its creation on, each change made by its operation. -/
inductive Life : List JobChange → Option ProcessingJobState → Prop where
  | unborn : Life [] none
  | change {changes : List JobChange} {state : Option ProcessingJobState} {next : JobChange}
      (before : Life changes state) (made : Moves next.call state next.state) :
      Life (changes ++ [next]) (some next.state)

namespace Life
variable {changes : List JobChange} {state : Option ProcessingJobState}

/-- A life ends in the state it has reached. -/
theorem getLast? (life : Life changes state) : (changes.map (·.state)).getLast? = state := by
  -- The state after a change is the one it made.
  cases life with
  | unborn => rfl
  | change before made => simp

/-- A life begins in front of the queue. -/
theorem head? (life : Life changes state) (born : state ≠ none) :
    (changes.map (·.state)).head? = some .pendingQueue := by
  -- By induction on the life: the first change makes the job, every later one appends.
  induction life with
  | unborn => exact absurd rfl born
  | @change changes state next before made ih =>
    cases state with
    | none =>
      obtain ⟨call, next⟩ := next
      cases before
      cases made
      rfl
    | some current =>
      rw [List.map_append, List.head?_append, ih (by simp)]
      rfl

end Life

/-- The log and the row of a job agree with the sequence of its changes. -/
structure JobAccount (job : Option TelemetryProcessingJob) (changes : List JobChange)
    (told : List String) : Prop where
  outcomes : told = changes.map (·.state.value)
  life : Life changes (job.map (·.state))
  attempts : told.count "PROCESSING" = (job.map (·.attemptCount)).getD 0

/-- Only one state is called `PROCESSING`. -/
theorem ProcessingJobState.value_eq_processing {state : ProcessingJobState} :
    state.value = "PROCESSING" ↔ state = .processing := by
  -- The values are different texts.
  cases state <;> decide

/-- One call continues the account of a job. -/
theorem JobAccount.entry {call : RepoCall} {db after : Database} {jobId : UUID}
    {changes : List JobChange} {told news : List String}
    (account : JobAccount (db.jobs.get? jobId) changes told)
    (entry : JobEntry call (db.jobs.get? jobId) (after.jobs.get? jobId) news) :
    JobAccount (after.jobs.get? jobId) (changes ++ jobChange jobId call db after)
      (told ++ news) := by
  -- A silent call adds nothing on either side, a change adds its event.
  rw [jobChange]
  generalize db.jobs.get? jobId = before at account entry
  generalize after.jobs.get? jobId = later at entry
  cases entry with
  | silent => simpa using account
  | moved made attempts changed =>
    rw [if_neg (Ne.symm changed)]
    refine ⟨?_, account.life.change made, ?_⟩
    · simp [account.outcomes]
    · rw [List.count_append, account.attempts, List.count_singleton]
      simp [attempts, ProcessingJobState.value_eq_processing]

/-- The log of a history agrees with the state that the history leads to. -/
structure LogSound (history : List (Surroundings × RepoCall)) : Prop where
  jobs : ∀ jobId, JobAccount ((databaseAfter history).jobs.get? jobId) (jobChanges history jobId)
    (outcomesOf (·.reportsJob jobId) (databaseAfter history).auditEvents)
  receipts : ∀ receiptId, (outcomesOf (·.reportsReceipt receiptId)
    (databaseAfter history).auditEvents).getLast? =
      ((databaseAfter history).statusOf receiptId).map (·.reported)

/-- Every history without events of the callers' own has a sound log. -/
theorem logSound (history : List (Surroundings × RepoCall))
    (operates : ∀ step ∈ history, step.2.isAudit = false) : LogSound history := by
  -- By induction on the history from its end, as events are appended; each call accounts for the
  -- change it makes.
  induction history using List.reverseRecOn with
  | nil => exact ⟨fun _ => ⟨rfl, .unborn, rfl⟩, fun _ => rfl⟩
  | append_singleton history step ih =>
    obtain ⟨env, call⟩ := step
    have sound := ih fun step member => operates step (List.mem_append_left _ member)
    obtain ⟨news, logged⟩ := RepoCall.logged (reachable_databaseAfter history) env
      (operates (env, call) (by simp))
    refine ⟨fun jobId => ?_, fun receiptId => ?_⟩
    · rw [jobChanges_snoc, databaseAfter_snoc, logged.auditEvents, outcomesOf_append]
      exact (sound.jobs jobId).entry (logged.jobs jobId)
    · have entry := logged.receipts receiptId
      rw [databaseAfter_snoc, logged.auditEvents, outcomesOf_append]
      have last := sound.receipts receiptId
      generalize (databaseAfter history).statusOf receiptId = before at entry last
      generalize (call.exec env (databaseAfter history)).2.statusOf receiptId = later at entry ⊢
      generalize outcomesOf (·.reportsReceipt receiptId) news = told at entry
      cases entry with
      | silent => rw [List.append_nil, last]
      | settled => simp

/-- A call whose effect the database holds already. -/
inductive RepoCall.Repeats (db : Database) : RepoCall → Prop where
  /-- The body has been recorded under its request identifier. -/
  | recorded {delivery : Delivery} {owner : TelemetryRequestIdentity}
      {original : TelemetryDeliveryReceipt}
      (named : delivery.canonicalRequestId = some owner.requestId) (owned : owner ∈ db.identities)
      (present : db.receipts.get? owner.firstReceiptId = some original)
      (same : original.rawBody = delivery.rawBody) (receiptId : Option UUID) :
      Repeats db (.recordDelivery delivery receiptId)
  | rejected {receiptId : UUID} {receipt : TelemetryDeliveryReceipt}
      (found : db.receipts.get? receiptId = some receipt)
      (status : receipt.validationStatus = .rejected) (reason : String)
      (parsedIdentifiers : Option JsonObject) (actorIdentity : String) :
      Repeats db (.rejectDelivery receiptId reason parsedIdentifiers actorIdentity)
  | accepted {receiptId : UUID} {receipt : TelemetryDeliveryReceipt}
      (found : db.receipts.get? receiptId = some receipt)
      (status : receipt.validationStatus = .accepted ∨ receipt.validationStatus = .duplicate)
      (values : DecodedTelemetryValues) (maxAttempts : Int) (actorIdentity : String) :
      Repeats db (.acceptPacketAndCreateJob receiptId values maxAttempts actorIdentity)
  | queued {jobId : UUID} {job : TelemetryProcessingJob} (found : db.jobs.get? jobId = some job)
      (status : job.state = .queued) (queueMessageId actorIdentity : String) :
      Repeats db (.markJobQueued jobId queueMessageId actorIdentity)
  | completed {jobId : UUID} {job : TelemetryProcessingJob} {processed : ProcessedTelemetry}
      (found : db.jobs.get? jobId = some job)
      (done : db.processed.get? job.packetId = some processed) (result : ProcessingResultValues)
      (workerId : String) (processedAt : Option Time) :
      Repeats db (.completeProcessingJob jobId result workerId processedAt)

section Silence
variable {db : Database}

/-- A delivery that raises, or whose body is recorded already, leaves everything as it was. -/
theorem RecordOutcome.eq_of_silent {delivery : Delivery} {receiptId : UUID}
    {outcome : Except StorageError DeliveryRecordResult × Database} (ledger : Ledger db)
    (happened : RecordOutcome db delivery receiptId outcome)
    (silent : outcome.1.isOk = false ∨ ∃ owner ∈ db.identities, ∃ original,
      delivery.canonicalRequestId = some owner.requestId ∧
      db.receipts.get? owner.firstReceiptId = some original ∧
      original.rawBody = delivery.rawBody) : outcome.2 = db := by
  cases happened with
  | replay | integrity | dangling => rfl
  | anonymous unnamed =>
    rcases silent with failed | ⟨owner, -, -, named, -⟩
    · cases failed
    · cases unnamed.symm.trans named
  | first named admitted unowned =>
    rcases silent with failed | ⟨owner, owned, -, again, -⟩
    · cases failed
    · cases named.symm.trans again
      exact absurd rfl (Table.get?_eq_none.mp unowned.1 owner owned)
  | @reused owner original named owned present link different =>
    rcases silent with failed | ⟨other, among, body, again, found, same⟩
    · cases failed
    · -- The identifier has one owner, and the digest of the owner is that of its body.
      cases Table.eq_of_key owned among (Option.some.inj (named.symm.trans again))
      cases (link ▸ Table.get?_key present).symm.trans found
      obtain ⟨first, recorded, key, -, digest⟩ := ledger.identities owner owned
      cases Table.eq_of_key recorded present (key.trans link.symm)
      refine absurd ⟨?_, same⟩ different
      rw [← digest, (ledger.receipts _ present).digest, same]

/-- A rejection that raises or repeats one leaves everything as it was. -/
theorem RejectOutcome.eq_of_silent {receiptId : UUID} {reason : String}
    {parsedIdentifiers : Option JsonObject} {actorIdentity : String}
    {outcome : Except StorageError DeliveryRecordResult × Database}
    (happened : RejectOutcome db receiptId reason parsedIdentifiers actorIdentity outcome)
    (silent : outcome.1.isOk = false ∨ ∃ receipt, db.receipts.get? receiptId = some receipt ∧
      receipt.validationStatus = .rejected) : outcome.2 = db := by
  -- The only outcome that writes succeeds on a pending receipt.
  cases happened with
  | missing | repeated | refused => rfl
  | rejected found status =>
    rcases silent with failed | ⟨receipt, again, rejected⟩
    · cases failed
    · cases found.symm.trans again
      simp [status] at rejected

/-- An acceptance that raises or repeats one leaves everything as it was. -/
theorem AcceptOutcome.eq_of_silent {receiptId jobId : UUID} {values : DecodedTelemetryValues}
    {options : AcceptanceOptions} {outcome : Except StorageError PacketAcceptanceResult × Database}
    (happened : AcceptOutcome db receiptId values jobId options outcome)
    (silent : outcome.1.isOk = false ∨ ∃ receipt, db.receipts.get? receiptId = some receipt ∧
      (receipt.validationStatus = .accepted ∨ receipt.validationStatus = .duplicate)) :
    outcome.2 = db := by
  -- A receipt that is settled was pending, and of the ways to settle it only the refusal raises.
  cases happened with
  | missing | replayed | refused => rfl
  | settled found status settles =>
    rcases silent with failed | ⟨receipt, again, settled⟩
    · cases settles with
      | integrity => rfl
      | duplicated | conflicted | stateConflicted | accepted => cases failed
    · cases found.symm.trans again
      simp [status] at settled

/-- A mark that raises or repeats one leaves everything as it was. -/
theorem QueueOutcome.eq_of_silent {jobId : UUID} {queueMessageId actorIdentity : String}
    {outcome : Except StorageError Bool × Database}
    (happened : QueueOutcome db jobId queueMessageId actorIdentity outcome)
    (silent : outcome.1.isOk = false ∨ ∃ job, db.jobs.get? jobId = some job ∧
      job.state = .queued) : outcome.2 = db := by
  -- The only outcome that writes finds the job in front of the queue.
  cases happened with
  | missing | repeated | renamed | refused => rfl
  | queued found status =>
    rcases silent with failed | ⟨job, again, queued⟩
    · cases failed
    · cases found.symm.trans again
      simp [queued] at status

/-- A claim that raises leaves everything as it was. -/
theorem ClaimOutcome.eq_of_error {jobId : UUID} {workerId : String} {leaseSeconds : Int} {now : Time}
    {outcome : Except StorageError (Option TelemetryWorkItem) × Database}
    (happened : ClaimOutcome db jobId workerId leaseSeconds now outcome)
    (failed : outcome.1.isOk = false) : outcome.2 = db := by
  -- The outcomes that write return a value.
  cases happened with
  | closed | taken => cases failed
  | missing | finished | unavailable | dangling => rfl

/-- A completion that raises or repeats one appends nothing. -/
theorem CompleteOutcome.auditEvents_of_silent {jobId : UUID} {result : ProcessingResultValues}
    {workerId : String} {completionTime : Time}
    {outcome : Except StorageError ProcessedTelemetry × Database}
    (happened : CompleteOutcome db jobId result workerId completionTime outcome)
    (silent : outcome.1.isOk = false ∨ ∃ job processed, db.jobs.get? jobId = some job ∧
      db.processed.get? job.packetId = some processed) :
    outcome.2.auditEvents = db.auditEvents := by
  -- Closing a job whose result is stored writes its row but no event.
  cases happened with
  | missing | conflicting | refused | integrity => rfl
  | closed => exact List.append_nil _
  | completed found undone =>
    rcases silent with failed | ⟨job, processed, again, done⟩
    · cases failed
    · cases found.symm.trans again
      cases undone.symm.trans done

/-- Calls that raise and calls that repeat an effect append no event. -/
theorem RepoCall.auditEvents_of_silent (ledger : Ledger db) (env : Surroundings) (call : RepoCall)
    (silent : (call.exec env db).1.isOk = false ∨ call.Repeats db) :
    (call.exec env db).2.auditEvents = db.auditEvents := by
  -- One case per call. A repetition is what the definition names for it, so claims and failures
  -- have none.
  cases call with
  | recordDelivery delivery receiptId =>
    rcases recordDelivery_serially delivery receiptId env.uuid4 db with ⟨_, failed⟩ | ⟨_, happened⟩
    · exact congrArg (·.2.auditEvents) failed
    · apply congrArg (·.auditEvents) (happened.eq_of_silent ledger (silent.imp id _))
      rintro (@⟨_, owner, original, named, owned, present, same⟩)
      exact ⟨owner, owned, original, named, present, same⟩
  | rejectDelivery receiptId reason parsedIdentifiers actorIdentity =>
    have happened := rejectDelivery_exec env db receiptId reason parsedIdentifiers actorIdentity
    apply congrArg (·.auditEvents) (happened.eq_of_silent (silent.imp id _))
    intro repeats
    cases repeats with
    | rejected found status => exact ⟨_, found, status⟩
  | acceptPacketAndCreateJob receiptId values maxAttempts actorIdentity =>
    rcases acceptPacketAndCreateJob_serially receiptId values
      { maxAttempts := maxAttempts, actorIdentity := actorIdentity, now := env.now } env.uuid4 db
      with ⟨_, failed⟩ | ⟨-, -, _, happened⟩
    · exact congrArg (·.2.auditEvents) failed
    · apply congrArg (·.auditEvents) (happened.eq_of_silent (silent.imp id _))
      intro repeats
      cases repeats with
      | accepted found status => exact ⟨_, found, status⟩
  | markJobQueued jobId queueMessageId actorIdentity =>
    have happened := markJobQueued_exec env db jobId queueMessageId actorIdentity
    apply congrArg (·.auditEvents) (happened.eq_of_silent (silent.imp id _))
    intro repeats
    cases repeats with
    | queued found status => exact ⟨_, found, status⟩
  | claimProcessingJob jobId workerId leaseSeconds =>
    rcases claimProcessingJob_exec env db jobId workerId leaseSeconds with
      ⟨_, failed⟩ | ⟨-, happened⟩
    · exact congrArg (·.2.auditEvents) failed
    · rcases silent with failed | repeats
      · exact congrArg (·.auditEvents) (happened.eq_of_error failed)
      · cases repeats
  | completeProcessingJob jobId result workerId processedAt =>
    apply (completeProcessingJob_exec env db jobId result workerId
      processedAt).auditEvents_of_silent (silent.imp id _)
    intro repeats
    cases repeats with
    | completed found done => exact ⟨_, _, found, done⟩
  | failProcessingAttempt jobId workerId reason temporary baseBackoffSeconds now =>
    rcases failProcessingAttempt_exec env db jobId workerId reason temporary baseBackoffSeconds now
      with ⟨_, failed⟩ | happened
    · exact congrArg (·.2.auditEvents) failed
    · rcases silent with failed | repeats
      · exact congrArg (·.auditEvents) (happened.eq_of_error failed)
      · cases repeats
  | recordAuditEvent =>
    rcases silent with failed | repeats
    · cases failed
    · cases repeats
  | pendingQueueJobs | recoverableQueueJobs | getDelivery | getPacket | getProcessed | getJob
  | getJobForPacket | listAuditEvents | processingQueueDepth =>
    rw [RepoCall.read_exec]
    rfl

end Silence

/-- What the audit log of a history says about the state that the history leads to. -/
structure AuditLogAgrees (history : List (Surroundings × RepoCall)) : Prop where
  /-- The outcomes told about a job are the states its changes leave, in order. -/
  outcomes : ∀ job ∈ (databaseAfter history).jobs,
    outcomesOf (·.reportsJob job.jobId) (databaseAfter history).auditEvents =
      (jobChanges history job.jobId).map (·.state.value)
  /-- Each of the changes is made by its operation from the state that the last one left. -/
  life : ∀ job ∈ (databaseAfter history).jobs,
    Life (jobChanges history job.jobId) (some job.state)
  created : ∀ job ∈ (databaseAfter history).jobs,
    ((jobChanges history job.jobId).map (·.state)).head? = some .pendingQueue
  current : ∀ job ∈ (databaseAfter history).jobs,
    ((jobChanges history job.jobId).map (·.state)).getLast? = some job.state
  attempts : ∀ job ∈ (databaseAfter history).jobs,
    (outcomesOf (·.reportsJob job.jobId) (databaseAfter history).auditEvents).count "PROCESSING" =
      job.attemptCount
  /-- The last outcome the gateway tells about a receipt is that of its status. -/
  verdicts : ∀ receipt ∈ (databaseAfter history).receipts,
    (outcomesOf (·.reportsReceipt receipt.receiptId) (databaseAfter history).auditEvents).getLast? =
      some receipt.validationStatus.reported
  /-- A call that raises, or repeats what the database holds already, adds nothing. -/
  silent : ∀ env call, (RepoCall.exec env call (databaseAfter history)).1.isOk = false ∨
    call.Repeats (databaseAfter history) →
      (call.exec env (databaseAfter history)).2.auditEvents = (databaseAfter history).auditEvents

/--
The audit log determines the state after every history of the operations that change it.

Callers may read in between; events they record themselves are left out.
-/
theorem audit_log_determines_state (history : List (Surroundings × RepoCall))
    (operates : ∀ step ∈ history, step.2.isAudit = false) : AuditLogAgrees history := by
  -- Each part reads one component of the account of a job or of the status of a receipt.
  have sound := logSound history operates
  have account : ∀ job ∈ (databaseAfter history).jobs, JobAccount (some job)
      (jobChanges history job.jobId)
      (outcomesOf (·.reportsJob job.jobId) (databaseAfter history).auditEvents) := by
    intro job member
    have counted := sound.jobs job.jobId
    rwa [Table.get?_key member] at counted
  constructor
  · exact fun job member => (account job member).outcomes
  · exact fun job member => (account job member).life
  · exact fun job member => (account job member).life.head? (by simp)
  · exact fun job member => (account job member).life.getLast?
  · exact fun job member => (account job member).attempts
  · intro receipt member
    rw [sound.receipts, Database.statusOf, Table.get?_key member]
    rfl
  · exact fun env call silent =>
      call.auditEvents_of_silent (reachable_databaseAfter history).ledger env silent

/-- The log of the takeover shows two attempts at the job, the second after the first. -/
theorem takeover_logged : AuditLogAgrees takeover ∧
    outcomesOf (·.reportsJob 11) (databaseAfter takeover).auditEvents =
      ["PENDING_QUEUE", "QUEUED", "PROCESSING", "PROCESSING"] :=
  ⟨audit_log_determines_state takeover (by decide), by decide +kernel⟩

/-- Two histories with one log lead to jobs in the same states and receipts with the same status. -/
theorem state_of_log {first second : List (Surroundings × RepoCall)}
    (left : ∀ step ∈ first, step.2.isAudit = false)
    (right : ∀ step ∈ second, step.2.isAudit = false)
    (same : (databaseAfter first).auditEvents = (databaseAfter second).auditEvents) :
    (∀ jobId, ((databaseAfter first).jobs.get? jobId).map (·.state) =
      ((databaseAfter second).jobs.get? jobId).map (·.state)) ∧
    ∀ receiptId, (databaseAfter first).statusOf receiptId =
      (databaseAfter second).statusOf receiptId := by
  have one := logSound first left
  have other := logSound second right
  refine ⟨fun jobId => ?_, fun receiptId => ?_⟩
  · -- States have different names, so equal outcomes are equal states.
    have named : Function.Injective ProcessingJobState.value := by
      intro before after
      cases before <;> cases after <;> decide
    have told := (one.jobs jobId).outcomes.symm.trans
      ((congrArg _ same).trans (other.jobs jobId).outcomes)
    have states : (jobChanges first jobId).map (·.state) =
        (jobChanges second jobId).map (·.state) := by
      apply List.map_injective_iff.mpr named
      rw [List.map_map, List.map_map]
      exact told
    rw [← (one.jobs jobId).life.getLast?, ← (other.jobs jobId).life.getLast?, states]
  · have named : Function.Injective DeliveryValidationStatus.reported := by
      intro before after
      cases before <;> cases after <;> decide
    apply Option.map_injective named
    rw [← one.receipts, ← other.receipts, same]

end Cislunar
