import Cislunar.Foundation.Role
import Cislunar.Proofs.Services.Marking

/-!
Runs in which no worker is in the way of a process that queues a job.

As long as no worker takes a job while a process is on its way to mark it, no mark finds a job that
a worker has, neither in its row nor in the object that the process holds.
-/

namespace Cislunar

open Foundation Ground

section Calls
variable {origin : JobOrigin} {ground after : Ground} {call : RepoCall} {held : Held}
variable {reply : Except Failure call.Reply}

/-- A result after a call was there before, or has just completed a job that a worker had. -/
theorem Justly.resultStep (justly : Justly ground (.repository call held) reply after)
    {result : ProcessedTelemetry} (member : result ∈ after.database.processed) :
    result ∈ ground.database.processed ∨ ∃ job ∈ ground.database.jobs, job.state = .processing ∧
      job.packetId = result.packetId ∧
      ∀ row ∈ after.database.jobs, row.jobId = job.jobId → row.state = .complete := by
  -- Only a completion adds a result, and it closes the job with it.
  obtain ⟨-, -, ⟨allowed, loaded, -⟩, uuid4, fault, performed⟩ := justly
  rcases (perform_repository performed).1 with same | same
  · exact Or.inl (same ▸ member)
  rw [same] at member ⊢
  by_cases other : call.isComplete = false
  · exact Or.inl ((RepoCall.heldTables_kept allowed loaded).2 other ▸ member)
  cases call with
  | completeProcessingJob jobId result workerId processedAt =>
    obtain rfl : held = {} := allowed
    rw [RepoCall.execHolding_empty] at member ⊢
    have happened := completeProcessingJob_exec ⟨uuid4, ground.clock⟩ ground.database jobId result
      workerId processedAt
    generalize (RepoCall.completeProcessingJob jobId result workerId processedAt).exec
      ⟨uuid4, ground.clock⟩ ground.database = outcome at happened member ⊢
    cases happened with
    | missing | conflicting | closed | refused | integrity => exact Or.inl member
    | @completed job found _ status _ admitted =>
      obtain ⟨stored, -⟩ := Table.get?_eq_some.mp found
      rcases (Table.mem_insert admitted.1).mp member with old | rfl
      · exact Or.inl old
      · refine Or.inr ⟨job, stored, status, rfl, fun row among key => ?_⟩
        rcases Table.mem_set.mp among with ⟨rfl, -⟩ | ⟨-, different⟩
        · rfl
        · exact absurd key different
  | _ => exact absurd rfl other

/-- Where no mark misses anything, the jobs of results stay complete. -/
theorem ResultsClosed.perform (justly : Justly ground (.repository call held) reply after)
    (finds : ∀ origin, (Request.repository call held).Finds origin ground) :
    ResultsClosed after.database := by
  obtain ⟨still, onward⟩ := justly.onward
  intro result stored row member named
  rcases justly.resultStep stored with old | ⟨job, among, -, owner, completes⟩
  · rcases justly.jobStep member with ⟨env, job, earlier, step⟩ | waiting
    · have packetId : job.packetId = result.packetId := by
        obtain ⟨later, among, retains⟩ := onward.1.jobs job earlier
        obtain rfl : later = row :=
          Table.eq_of_key among member (retains.jobId.trans step.jobId.symm)
        exact retains.packetId.symm.trans named
      have complete := justly.closed result old job earlier packetId
      -- A complete job is neither claimed nor failed, and nobody finds it to be markable.
      cases step with
      | kept => exact complete
      | closed | completed => rfl
      | queued =>
        obtain ⟨origin, key, among, sincere⟩ := exists_sincere justly.backed.ledger earlier
        have untaken := (finds origin key.symm sincere).1 among job earlier key.symm
        exact absurd packetId.symm (untaken.unresolved result old)
      | claimed free => simp [isClaimable, complete] at free
      | failed status => cases complete.symm.trans status
    · exact absurd named.symm
        ((untaken_of_pending still.ledger member waiting).unresolved result stored)
  · obtain ⟨later, present, retains⟩ := onward.1.jobs job among
    obtain rfl : later = row := still.ledger.jobUnique later present row member
      (retains.packetId.trans (owner.trans named.symm))
    exact completes later member retains.jobId

/-- A job that may be marked may be marked after a call that does not take it. -/
theorem MayMark.perform (justly : Justly ground (.repository call held) reply after)
    (spared : ¬origin.Taken ground.database after.database) (ready : MayMark origin ground) :
    MayMark origin after := by
  obtain ⟨still, onward⟩ := justly.onward
  intro stored row member key
  rcases justly.jobStep member with ⟨env, job, earlier, step⟩ | waiting
  · have owned : job.jobId = origin.jobId := step.jobId.symm.trans key
    have before := stored.earlier onward.1 justly.backed.ledger earlier owned
    have untaken := ready before job earlier owned
    have free := untaken.markable.not_taken
    have named : row.packetId = job.packetId :=
      (stored.fits member key).trans (before.fits earlier owned).symm
    -- A result could only come from a worker that has the job.
    have unresolved : ∀ result ∈ after.database.processed, result.packetId ≠ row.packetId := by
      intro result present same
      rcases justly.resultStep present with old | ⟨other, among, taken, owner, -⟩
      · exact untaken.unresolved result old (same.trans named)
      · obtain rfl := justly.backed.ledger.jobUnique other among job earlier
          (owner.trans (same.trans named))
        exact free (Or.inl taken)
    refine ⟨?_, unresolved⟩
    have complete : row.state ≠ .complete := fun done => by
      obtain ⟨result, present, same⟩ := (still.ledger.jobs row member).result done
      exact unresolved result present same
    have marked := still.named row member
    have backed := still.ledger.jobs row member
    cases step with
    | kept => exact untaken.markable
    | queued _ status queueMessageId =>
      have state := @requeue_state job (held.seeJob job) status queueMessageId
      have waits : (job.requeue (held.seeJob job) queueMessageId).state ≠ .pendingQueue := by
        simp [state]
      exact Or.inr (Or.inr ⟨state, marked.resolve_left (backed.marked waits)⟩)
    | claimed =>
      -- A claim would take the job from under its process.
      exact absurd ⟨before, ⟨job, earlier, owned, fun taken => free (Or.inl taken)⟩, _, member, key,
        rfl⟩ spared
    | closed | completed => exact absurd rfl complete
    | failed status => exact absurd (Or.inl status) free
  · exact untaken_of_pending still.ledger member waiting

/-- A mark that finds what it needs finds it after a call that does not take its job. -/
theorem Request.Finds.perform (justly : Justly ground (.repository call held) reply after)
    (spared : ¬origin.Taken ground.database after.database) {request : Request}
    (finds : request.Finds origin ground) : request.Finds origin after := by
  -- A mark asks only that its job is still markable.
  unfold Request.Finds at finds ⊢
  split at finds
  · intro same sincere
    obtain ⟨ready, holds⟩ := finds same
      (sincere.earlier justly.onward.2.1 justly.backed.ledger)
    exact ⟨ready.perform justly spared, holds⟩
  · trivial

/-- What a request finds depends on the tables alone. -/
theorem Request.Finds.of_same (same : after.database = ground.database) {request : Request}
    (finds : request.Finds origin ground) : request.Finds origin after := by
  -- What a request finds is read from the tables alone.
  unfold Request.Finds MayMark at finds ⊢
  rwa [same]

end Calls

section Runs
variable {config config' : GroundConfig}

/-- A considerate step whose request is justified. -/
def CarefulStep (config config' : GroundConfig) : Prop :=
  Step justifiedMachine startsProcess Ground.Ticks config config' ∧ ConsiderateStep config config'

/-- Considerate steps are steps. -/
theorem groundRun_of_considerate
    (run : Relation.ReflTransGen ConsiderateStep GroundConfig.initial config) :
    Relation.ReflTransGen GroundStep GroundConfig.initial config :=
  Relation.ReflTransGen.mono (fun _ _ step => step.1) _ _ run

/-- In a considerate run every request is justified. -/
theorem carefulRun_of_considerate
    (run : Relation.ReflTransGen ConsiderateStep GroundConfig.initial config) :
    Relation.ReflTransGen CarefulStep GroundConfig.initial config := by
  -- By induction on the run: what the processes rest on before a step justifies their requests.
  induction run with
  | refl => exact .refl
  | tail before step ih =>
    have sound := (loading_groundStep.run (groundRun_of_considerate before)).1
    exact ih.tail ⟨step.1.restrict (fun _ _ _ _ _ backed justified =>
      Ground.isJustified_iff.mpr ⟨backed, justified⟩) sound, step⟩

/-- A careful step leaves the tables alone or makes one justified call of a running process. -/
theorem CarefulStep.database (step : CarefulStep config config')
    (closed : ResultsClosed config.state.database) :
    config'.state.database = config.state.database ∨ ∃ thread call held next reply,
      config.threads thread = some (.request (.repository call held) next) ∧
      Justly config.state (.repository call held) reply config'.state := by
  -- A request is a call, a queue operation or a look at the clock.
  cases step.1 with
  | @act actor request next choice reply state running performed =>
    obtain ⟨backed, justified, reached⟩ := of_justified performed
    have happened := Option.some.inj reached
    cases request with
    | clock =>
      cases happened
      exact Or.inl rfl
    | queue call =>
      rcases (perform_queue happened).1 with rfl | rfl <;> exact Or.inl rfl
    | repository call held =>
      exact Or.inr ⟨actor, call, held, next, reply, running, closed, backed, justified, _, _,
        happened⟩
  | start | crash => exact Or.inl rfl
  | environment ticks => exact Or.inl ticks.tables.1

/-- Who misses something is on the way to a mark. -/
theorem goesOnToMark_of_ahead {origin : JobOrigin} {ground : Ground}
    {process : Service (Option Response)} (ahead : process.Ahead (Request.Passes origin)
      fun wanted => ¬wanted.Finds origin ground) : GoesOnToMark origin process := by
  -- The request ahead looks for the origin, so it is the mark.
  refine ahead.mono fun wanted misses => ?_
  unfold Request.Finds at misses
  split at misses
  · exact (Classical.not_imp.mp misses).1
  · exact absurd trivial misses

/-- Where no mark misses anything, none comes to miss anything in a careful step. -/
theorem CarefulStep.keepsFinding (step : CarefulStep config config')
    (closed : ResultsClosed config.state.database)
    (finds : ∀ (origin : JobOrigin) thread program, config.threads thread = some program →
      ¬program.Ahead (Request.Passes origin) fun wanted => ¬wanted.Finds origin config.state) :
    ResultsClosed config'.state.database ∧
      ∀ (origin : JobOrigin) thread program, config.threads thread = some program →
        (program.Ahead (Request.Passes origin) fun wanted => ¬wanted.Finds origin config'.state) →
          ∀ request : Request, request.Finds origin config.state →
            request.Finds origin config'.state := by
  -- A step that takes a job leaves alone the processes that go on to a mark of it.
  rcases step.database closed with same | ⟨actor, call, held, next, reply, acting, justly⟩
  · exact ⟨same ▸ closed, fun _ _ _ _ _ _ => .of_same same⟩
  · refine ⟨.perform justly fun origin => ?_, fun origin thread program running missing _ => ?_⟩
    · by_contra misses
      exact finds origin actor _ acting (Or.inl misses)
    · exact .perform justly fun taken =>
        step.2.2 origin taken thread program running (goesOnToMark_of_ahead missing)

/-- In a considerate run the jobs of results are complete, and no mark misses anything. -/
theorem finds_of_run (run : Relation.ReflTransGen ConsiderateStep GroundConfig.initial config) :
    ResultsClosed config.state.database ∧ ∀ origin thread process,
      config.threads thread = some process → ¬process.Ahead (Request.Passes origin)
        fun wanted => ¬wanted.Finds origin config.state := by
  -- Every process provides for its jobs and starts with none, so the rule for runs applies.
  have acts : ∀ {choice : justifiedMachine.Choice} {thread before request reply after},
      ResultsClosed (Ground.database before) →
      justifiedMachine.exec choice thread before request = some (reply, after) →
      Justly before request reply after := fun closed performed => by
    obtain ⟨backed, justified, reached⟩ := of_justified performed
    exact ⟨closed, backed, justified, _, _, Option.some.inj reached⟩
  have starting : ∀ (origin : JobOrigin) (thread : Nat) (ground : Ground) program,
      startsProcess thread ground program → Considers origin (fun _ _ => True) program ∧
        ∀ later, ¬program.Ahead (Request.Passes origin) fun wanted =>
          ¬wanted.Finds origin later := fun origin thread ground program starting => by
    obtain ⟨process, rfl⟩ := starting
    exact ⟨process.considers, fun later => process.finds.ahead⟩
  obtain ⟨closed, provided⟩ := provided_of_run (fun step => step.1) acts (fun _ => rfl)
    (fun result member => absurd member (Table.not_mem_empty result)) starting
    (fun first second _ step closed finds => step.keepsFinding closed finds)
    (carefulRun_of_considerate run)
  exact ⟨closed, fun origin thread process running => (provided origin thread process running).2⟩

/--
No marking of a job collides with a worker in a run whose steps are considerate.

`mark_job_queued` is the only part of `_queue_one` that raises `InvalidDeliveryStateError`; here its
next execution does not, whatever object the process holds, in any state of the run and for any
behaviour of the connection.
-/
theorem queueing_never_collides (config : GroundConfig)
    (run : Relation.ReflTransGen ConsiderateStep GroundConfig.initial config) (thread : Nat)
    (jobId : UUID) (queueMessageId actorIdentity : String) (held : Held)
    (next : Except Failure Bool → Service (Option Response))
    (running : config.threads thread =
      some (.request (.repository (.markJobQueued jobId queueMessageId actorIdentity) held) next))
    (uuid4 : Nat → UUID) (fault : Fault) (message : String) :
    (config.state.perform uuid4 fault
      (.repository (.markJobQueued jobId queueMessageId actorIdentity) held)).1 ≠
        .error (.storage (.invalidDeliveryState message)) := by
  intro raised
  have sound := (loading_groundStep.run (groundRun_of_considerate run)).1
  have ledger := sound.1.ledger
  -- The process names the message after the job, and holds at most the job.
  obtain ⟨free, -, named⟩ := sound.action running
    (show groundMachine.exec (uuid4, ⟨fault, trivial⟩) thread _ _ = _ from rfl)
  -- The process is about to mark the job, so the run has kept it markable.
  have markable : ∀ job, config.state.database.jobs.get? jobId = some job →
      Markable (held.seeJob job) := by
    intro job found
    obtain ⟨stored, key⟩ := Table.get?_eq_some.mp found
    obtain ⟨origin, same, among, sincere⟩ := exists_sincere ledger stored
    have finds : (Request.repository (.markJobQueued jobId queueMessageId actorIdentity)
        held).Finds origin config.state := by
      by_contra misses
      exact (finds_of_run run).2 origin thread _ running (Or.inl misses)
    obtain ⟨ready, holds⟩ := finds (key.symm.trans same.symm) sincere
    unfold Held.seeJob
    split
    next object loaded =>
      split_ifs with own
      · exact holds object loaded (own.trans key)
      · exact (ready among job stored same.symm).markable
    next => exact (ready among job stored same.symm).markable
  -- A lost connection raises another error.
  obtain ⟨-, failed | ⟨-, answered⟩⟩ := perform_repository
    (Prod.eta (config.state.perform uuid4 fault
      (.repository (.markJobQueued jobId queueMessageId actorIdentity) held))).symm
  · cases failed.symm.trans raised
  rw [answered] at raised
  rcases markJobQueued_held ⟨uuid4, config.state.clock⟩ config.state.database free jobId
    queueMessageId actorIdentity with ⟨-, missing⟩ | ⟨job, found, happened⟩
  · rw [missing] at raised
    cases raised
  · generalize (RepoCall.markJobQueued jobId queueMessageId actorIdentity).execHolding
      ⟨uuid4, config.state.clock⟩ held config.state.database = outcome at happened raised
    -- The process sees the job as markable, so the mark is made or was made before.
    cases happened with
    | repeated | queued => cases raised
    | renamed status different =>
      obtain ⟨-, key⟩ := Table.get?_eq_some.mp found
      rcases markable job found with state | state | ⟨-, same⟩
      · cases state.symm.trans status
      · cases state.symm.trans status
      · rw [held.seeJob_jobId, key] at same
        exact different (same.trans (congrArg some named.symm))
    | refused status =>
      rcases markable job found with state | state | ⟨state, -⟩
      · exact status.2.1 state
      · exact status.2.2 state
      · exact status.1 state

end Runs

section Once
variable {α : Type} {free : Bool}

/-- A request to mark a job. -/
def Request.isMark : Request → Bool
  | .repository (.markJobQueued _ _ _) _ => true
  | _ => false

/-- Whether a mark is still to be made; the first one is the only one. -/
def markRole : Role Failure Request Request.Reply Bool where
  permits free request := request.isMark = true → free = true
  moves free request _ later := later = (free && !request.isMark)

/-- A service that marks one job at most, or none if it is not free to. -/
abbrev MarksOnce (service : Service α) (free : Bool) : Prop :=
  Plays markRole (fun _ _ => True) service free

/-- A service without marks leaves the mark to be made. -/
theorem plays_of_unmarked {service : Service α}
    (unmarked : service.Only fun request => request.isMark = false) :
    Plays markRole (fun _ later => later = free) service free := by
  -- By induction on the service: no request uses up the permission.
  induction service with
  | done value => rfl
  | raise failure => rfl
  | request request next ih =>
    have plain : request.isMark = false := unmarked.1
    have barred : request.isMark = true → free = true := fun marks =>
      absurd (plain.symm.trans marks) Bool.false_ne_true
    refine ⟨barred, fun reply later moved => ?_⟩
    obtain rfl : later = free := by rw [moved, plain, Bool.not_false, Bool.and_true]
    exact ih reply (unmarked.2 reply)

/-- Before what marks once there is room for what does not mark. -/
theorem MarksOnce.after {β : Type} {first : Service α} {second : α → Service β}
    (unmarked : first.Only fun request => request.isMark = false)
    (marks : ∀ value, MarksOnce (second value) free) : MarksOnce (first >>= second) free := by
  -- The head marks nothing, so what was free before it is free after it.
  refine Plays.bind ((plays_of_unmarked unmarked).weaken fun outcome later same => ?_)
  cases outcome with
  | ok value => exact same ▸ marks value
  | error failure => trivial

/-- A service without marks marks once at most. -/
theorem MarksOnce.of_unmarked {service : Service α}
    (unmarked : service.Only fun request => request.isMark = false) : MarksOnce service free :=
  (plays_of_unmarked unmarked).weaken fun _ _ _ => trivial

/-- Nothing but an answer comes after a mark. -/
theorem MarksOnce.answer {β : Type} {service : Service α} {answer : α → β}
    (marks : MarksOnce service free) : MarksOnce (do return answer (← service)) free := by
  -- Naming the answer makes no request.
  refine Plays.bind (marks.weaken fun outcome _ _ => ?_)
  cases outcome <;> trivial

/-- Whoever is not free to mark does not go on to a mark. -/
theorem MarksOnce.not_ahead {service : Service α} (marks : MarksOnce service false)
    (origin : JobOrigin) : ¬GoesOnToMark origin service := by
  -- By induction on the service: without the permission no request is a mark.
  induction service with
  | done value => exact id
  | raise failure => exact id
  | request request next ih =>
    rintro (now | ⟨reply, -, later⟩)
    · unfold Request.Marks at now
      split at now
      · cases marks.1 rfl
      · exact now
    · exact ih reply (marks.2 reply false rfl) later

/-- Queueing a job marks it once. -/
theorem queueOne_marksOnce (jobId : UUID) (packetId : String)
    (object : Option TelemetryProcessingJob) : MarksOnce (queueOne jobId packetId object) true := by
  -- It enqueues first and marks last.
  unfold queueOne
  split
  · trivial
  · exact .after (.call rfl) fun _ => Plays.call (fun _ => rfl) fun _ _ _ => trivial

/-- An answer to an acceptance marks its job once at most. -/
theorem answerAcceptance_marksOnce (accepted : PacketAcceptanceResult) :
    MarksOnce (answerAcceptance accepted) true := by
  -- The job is queued under one disposition.
  rw [answerAcceptance]
  dsimp only
  split_ifs
  · trivial
  · split
    · exact .answer (queueOne_marksOnce _ _ _)
    · trivial
  · split
    · exact .answer (queueOne_marksOnce _ _ _)
    · trivial

/-- A handler marks one job at most. -/
theorem deliver_marksOnce (settings : GroundSettings) (vendor : VendorRequest) (rawBody : Bytes)
    (receivedAt : Time) : MarksOnce (deliver settings vendor rawBody receivedAt) true := by
  -- Each branch rejects the delivery, queues a replayed receipt, or accepts the packet.
  have rejects : ∀ receiptId reason existing (response : DeliveryRecordResult → Response),
      MarksOnce (do
        let rejected ← callRepository (.rejectDelivery receiptId reason none "ground-api")
          { receipt := existing }
        return response rejected : Service Response) true := fun _ _ _ _ =>
    .of_unmarked (.bind (.call rfl) fun _ => trivial)
  have checks : ∀ receiptId existing,
      MarksOnce (checkDelivery settings vendor rawBody receivedAt receiptId existing) true := by
    intro receiptId existing
    unfold checkDelivery
    split_ifs
    · exact rejects _ _ _ _
    · exact rejects _ _ _ _
    · split
      · refine .after (.call rfl) fun found => ?_
        cases found with
        | none => trivial
        | some job => exact .answer (queueOne_marksOnce _ _ _)
      · unfold validateDelivery
        split
        · exact rejects _ _ _ _
        · trivial
        · exact .after (.call rfl) answerAcceptance_marksOnce
  refine .after (.call rfl) fun delivery => ?_
  split_ifs
  · trivial
  · refine .after ?_ fun existing => ?_
    · unfold replayedReceipt
      split_ifs
      · exact .bind (.call rfl) fun found => (by cases found <;> trivial)
      · trivial
    · split
      · trivial
      · exact checks _ _

/-- A process of the gateway that handles a request marks one job at most. -/
theorem gateway_marksOnce (settings : GroundSettings) (vendor : VendorRequest) :
    MarksOnce (Process.gateway settings vendor).program true := by
  -- Refusals mark nothing, and a failure is answered without a mark.
  refine .answer ?_
  have refuses : ∀ event (response : Response),
      MarksOnce (do auditSafely event; return response : Service Response) true := by
    refine fun event response => .of_unmarked (.bind (.tryCatch (.bind (.call rfl) fun _ => trivial)
      fun failure => ?_) fun _ => trivial)
    split_ifs <;> trivial
  rw [receivePayloadData]
  split
  · exact refuses _ _
  · split
    · trivial
    · rw [receiveAuthenticated]
      split
      · exact refuses _ _
      · refine .after (.call rfl) fun receivedAt => Plays.tryCatch
          ((deliver_marksOnce _ _ _ _).weaken fun outcome later _ => ?_)
        cases outcome with
        | ok response => trivial
        | error failure =>
          dsimp only
          rw [answerUnavailable]
          split_ifs <;> trivial
    · exact refuses _ _

/-- A worker marks no job. -/
theorem worker_marksOnce (workerId : String) (iterations : Nat) :
    MarksOnce (Process.worker workerId iterations).program free := by
  -- No request of a worker is a mark.
  refine .of_unmarked (.bind ((runWorker_fromWorker workerId iterations).mono ?_) fun _ => trivial)
  intro request worker
  unfold Request.isMark
  split
  · cases worker
  · rfl

end Once

namespace GroundConfig

/-- No job is in `PROCESSING` after any event of a schedule. -/
def unclaimed (config : GroundConfig) : List Event → Bool
  | [] => true
  | event :: rest =>
    (config.perform event).state.database.jobs.rows.all (·.state ≠ .processing) &&
      (config.perform event).unclaimed rest

/-- A schedule in which no job is claimed is considerate. -/
theorem considerate_of_unclaimed {schedule : List Event}
    (free : initial.unclaimed schedule = true) :
    Relation.ReflTransGen ConsiderateStep initial (after schedule) := by
  -- A step takes a job only if some job is in processing after it.
  have continued : ∀ config : GroundConfig, config.unclaimed schedule = true →
      Relation.ReflTransGen ConsiderateStep config (schedule.foldl perform config) := by
    clear free
    induction schedule with
    | nil => exact fun _ _ => .refl
    | cons event rest ih =>
      intro config free
      obtain ⟨now, later⟩ := Bool.and_eq_true_iff.mp free
      refine .trans ?_ (ih _ later)
      rcases config.perform_step event with same | step
      · rw [same]
      · refine .single ⟨step, ?_⟩
        rintro origin ⟨-, -, row, member, -, claimed⟩
        exact absurd claimed (of_decide_eq_true (List.all_eq_true.mp now row member))
  exact continued initial free

/-- A program that runs after an event ran before it, has just acted or has just been started. -/
theorem perform_threads {config : GroundConfig} {event : Event} {thread : Nat}
    {program : Service (Option Response)}
    (running : (config.perform event).threads thread = some program) :
    config.threads thread = some program ∨
      (∃ request next reply, config.threads thread = some (.request request next) ∧
        program = next reply) ∨
      ∃ process, event = .start thread process ∧ program = process.program := by
  -- A thread changes when it is started, when it acts and when it crashes.
  cases event with
  | start place process =>
    rw [perform] at running
    split at running
    · rcases update_eq_some.mp running with ⟨rfl, started⟩ | ⟨-, before⟩
      · exact Or.inr (Or.inr ⟨process, rfl, (Option.some.inj started).symm⟩)
      · exact Or.inl before
    · exact Or.inl running
  | act place id fault =>
    rw [perform] at running
    unfold Config.act at running
    split at running
    next request next acting =>
      rcases update_eq_some.mp running with ⟨rfl, continued⟩ | ⟨-, before⟩
      · exact Or.inr (Or.inl ⟨request, next, _, acting, (Option.some.inj continued).symm⟩)
      · exact Or.inl before
    next => exact Or.inl running
  | crash place =>
    rcases update_eq_some.mp running with ⟨-, gone⟩ | ⟨-, before⟩
    · cases gone
    · exact Or.inl before
  | tick duration => exact Or.inl running

/-- What the processes of a schedule have when they start, and keep at each request, they have. -/
theorem threads_after {holds : Nat → Service (Option Response) → Prop} {schedule : List Event}
    (starts : ∀ thread process, .start thread process ∈ schedule → holds thread process.program)
    (acts : ∀ thread (request : Request) next reply, holds thread (.request request next) →
      holds thread (next reply)) {thread : Nat} {program : Service (Option Response)}
    (running : (after schedule).threads thread = some program) : holds thread program := by
  -- By induction on the schedule, from any configuration whose processes have it.
  have continued : ∀ config : GroundConfig,
      (∀ thread program, config.threads thread = some program → holds thread program) →
      ∀ thread program, (schedule.foldl perform config).threads thread = some program →
        holds thread program := by
    clear running
    induction schedule with
    | nil => exact fun _ kept => kept
    | cons event rest ih =>
      intro config kept
      refine ih (fun thread process started => starts thread process (.tail _ started)) _ ?_
      intro thread program running
      rcases perform_threads running with
        before | ⟨request, next, reply, acting, rfl⟩ | ⟨process, rfl, rfl⟩
      · exact kept thread program before
      · exact acts thread request next reply (kept thread _ acting)
      · exact starts thread process List.mem_cons_self
  exact continued initial (fun _ _ running => by cases running) thread program running

end GroundConfig

/-- The arguments of `mark_job_queued` in a place where that is requested next, and what is held. -/
def pendingMark (config : GroundConfig) (thread : Nat) :
    Option (UUID × String × String × Held) :=
  match config.threads thread with
  | some (.request (.repository (.markJobQueued jobId queueMessageId actorIdentity) held) _) =>
    some (jobId, queueMessageId, actorIdentity, held)
  | _ => none

/-- A pending mark is the next request of its process. -/
theorem running_of_pendingMark {config : GroundConfig} {thread : Nat} {jobId : UUID}
    {queueMessageId actorIdentity : String} {held : Held}
    (pending : pendingMark config thread = some (jobId, queueMessageId, actorIdentity, held)) :
    ∃ next, config.threads thread = some
      (.request (.repository (.markJobQueued jobId queueMessageId actorIdentity) held) next) := by
  -- A mark is pending only in front of the next request.
  rw [pendingMark] at pending
  split at pending
  next running =>
    cases pending
    exact ⟨_, running⟩
  next => cases pending

/-- The job that a process is about to claim. -/
def pendingClaim (config : GroundConfig) (thread : Nat) : Option UUID :=
  match config.threads thread with
  | some (.request (.repository (.claimProcessingJob jobId _ _) _) _) => some jobId
  | _ => none

/-- Who claims a job next does not go on to mark one. -/
theorem not_ahead_of_pendingClaim {config : GroundConfig} {thread : Nat} {jobId : UUID}
    (pending : pendingClaim config thread = some jobId) (origin : JobOrigin)
    {process : Service (Option Response)} (running : config.threads thread = some process) :
    ¬GoesOnToMark origin process := by
  -- A claim is a request of a worker, which never passes on to a mark.
  rw [pendingClaim, running] at pending
  split at pending
  next claims =>
    cases claims
    rintro (now | ⟨reply, passed, -⟩)
    · exact now
    · exact passed
  next => cases pending

/-- The frame that follows the golden vector. -/
def nextFrame : Bytes :=
  [0x01, 0x01, 0x00, 0x00, 0x00, 0x2a, 0x00, 0x00, 0x00, 0x02, 0x00, 0x06, 0x56, 0xb9,
    0x2d, 0xf1, 0x70, 0x00, 0x0b, 0x19, 0x6d, 0xc4, 0x02, 0x00, 0xe0, 0x70, 0x41, 0xcc]

/-- The request that delivers it. -/
def nextRequest : VendorRequest :=
  { sampleRequest nextFrame with requestId := some "00000000-0000-4000-8000-000000000002" }

/-- A second job is about to be marked when a worker is about to claim the first one. -/
def enqueuedSchedule : List Event :=
  deliverySchedule ++ [.crash 0, .start 1 (.gateway sampleSettings nextRequest),
    .act 1 3 .none, .act 1 3 .none, .act 1 4 .none, .act 1 4 .none,
    .start 2 (.worker "worker-a" 1), .act 2 5 .none, .act 2 5 .none]

/-- The claim of the first job takes none that the second handler goes on to mark. -/
theorem considerate_claim :
    Relation.ReflTransGen ConsiderateStep GroundConfig.initial
      ((GroundConfig.after enqueuedSchedule).perform (.act 2 5 .none)) := by
  have before := GroundConfig.considerate_of_unclaimed
    (show GroundConfig.initial.unclaimed enqueuedSchedule = true by decide +kernel)
  rcases (GroundConfig.after enqueuedSchedule).perform_step (.act 2 5 .none) with same | step
  · rw [same]
    exact before
  refine before.tail ⟨step, ?_⟩
  rintro origin ⟨-, -, row, member, key, claimed⟩ thread process running
  -- Only the first job is claimed.
  have first : ((GroundConfig.after enqueuedSchedule).perform
      (.act 2 5 .none)).state.database.jobs.rows.all
        (fun row => row.state = .processing → row.jobId = 2) = true := by decide +kernel
  have own : origin.jobId = 2 :=
    key.symm.trans (of_decide_eq_true (List.all_eq_true.mp first row member) claimed)
  -- The first handler is gone, the second one marks its job and no other, and the worker none.
  have places : thread < 3 ∧ ∃ free, MarksOnce process free := by
    refine @GroundConfig.threads_after (fun thread process => thread < 3 ∧ ∃ free,
      MarksOnce process free) enqueuedSchedule ?_ ?_ thread process running
    · intro thread process started
      simp only [enqueuedSchedule, deliverySchedule, List.mem_append, List.mem_cons,
        Event.start.injEq, reduceCtorEq, List.not_mem_nil, or_false, false_or] at started
      rcases started with ⟨rfl, rfl⟩ | ⟨rfl, rfl⟩ | ⟨rfl, rfl⟩
      · exact ⟨by decide, true, gateway_marksOnce _ _⟩
      · exact ⟨by decide, true, gateway_marksOnce _ _⟩
      · exact ⟨by decide, true, worker_marksOnce _ _⟩
    · rintro thread request next reply ⟨place, free, marks⟩
      exact ⟨place, _, marks.2 reply _ rfl⟩
  obtain ⟨place, free, once⟩ := places
  have gone : ((GroundConfig.after enqueuedSchedule).threads 0).isNone = true := by decide +kernel
  have marks : pendingMark (GroundConfig.after enqueuedSchedule) 1 =
      some (4, UUID.str 4, "ground-api", {}) := by decide +kernel
  have claims : pendingClaim (GroundConfig.after enqueuedSchedule) 2 = some 2 := by decide +kernel
  obtain rfl | rfl | rfl : thread = 0 ∨ thread = 1 ∨ thread = 2 := by omega
  · rw [running] at gone
    cases gone
  · obtain ⟨next, acting⟩ := running_of_pendingMark marks
    cases running.symm.trans acting
    rintro (now | ⟨reply, -, later⟩)
    · cases (show (4 : UUID) = origin.jobId from now).trans own
    · have used : MarksOnce (next reply) (free && false) := once.2 reply _ rfl
      rw [Bool.and_false] at used
      exact used.not_ahead origin later
  · exact not_ahead_of_pendingClaim claims origin running

/-- A handler marks its job while a worker takes another one that was marked before. -/
theorem enqueued_job_marked :
    ((GroundConfig.after enqueuedSchedule).perform (.act 2 5 .none)).state.database.jobs.rows.map
        (·.state) = [.processing, .pendingQueue] ∧
      pendingMark ((GroundConfig.after enqueuedSchedule).perform (.act 2 5 .none)) 1 =
        some (4, UUID.str 4, "ground-api", {}) ∧
      ∀ message, (((GroundConfig.after enqueuedSchedule).perform (.act 2 5 .none)).state.perform
        (fun _ => 9) .none (.repository (.markJobQueued 4 (UUID.str 4) "ground-api") {})).1 ≠
          .error (.storage (.invalidDeliveryState message)) := by
  -- The jobs and the pending mark are evaluated.
  have pending : pendingMark ((GroundConfig.after enqueuedSchedule).perform (.act 2 5 .none)) 1 =
      some (4, UUID.str 4, "ground-api", {}) := by decide +kernel
  obtain ⟨next, running⟩ := running_of_pendingMark pending
  exact ⟨by decide +kernel, pending, queueing_never_collides _ considerate_claim 1 4 (UUID.str 4)
    "ground-api" {} next running (fun _ => 9) .none⟩

/-- A recovery at start-up finds the delivered job queued, and a worker takes the job. -/
def overtakenSchedule : List Event :=
  deliverySchedule ++ [.start 1 .startup, .act 1 3 .none, .start 2 (.worker "worker-a" 1),
    .act 2 3 .none, .act 2 3 .none, .act 2 3 .none, .act 1 3 .none, .act 1 3 .none]

/-- A worker that takes a job from under the recovery makes the start-up fail. -/
theorem overtaken_recovery_collides :
    ¬∀ schedule, schedule.all Event.undisturbed = true →
      ∀ thread jobId queueMessageId actorIdentity held,
      pendingMark (GroundConfig.after schedule) thread =
        some (jobId, queueMessageId, actorIdentity, held) → ∀ uuid4 message,
      ((GroundConfig.after schedule).state.perform uuid4 .none
        (.repository (.markJobQueued jobId queueMessageId actorIdentity) held)).1 ≠
          .error (.storage (.invalidDeliveryState message)) := by
  -- The recovery has listed the job before the worker claims it, and reads and marks it after that.
  intro claimed
  let marked (mark : UUID × String × String × Held) : Except Failure Bool :=
    ((GroundConfig.after overtakenSchedule).state.perform (fun _ => 9) .none
      (.repository (.markJobQueued mark.1 mark.2.1 mark.2.2.1) mark.2.2.2)).1
  have raised : (pendingMark (GroundConfig.after overtakenSchedule) 1).map marked =
      some (.error (.storage (.invalidDeliveryState "cannot queue a PROCESSING processing job"))) :=
    by decide +kernel
  obtain ⟨_, pending, refused⟩ := Option.map_eq_some_iff.mp raised
  exact claimed overtakenSchedule (by decide) 1 _ _ _ _ pending (fun _ => 9) _ refused

end Cislunar
