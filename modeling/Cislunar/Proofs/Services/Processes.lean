import Cislunar.Foundation.Triple
import Cislunar.Proofs.Services.CrossStore

/-!
Every process of the ground system keeps the tables and the queue in agreement.

Each request is examined once with what it relies on; the programs then follow from the rules for
sequences and handlers.
-/

namespace Cislunar

open Foundation Ground

/-- The stores agree between any two steps, and every process moves them forward only. -/
def groundProtocol : Protocol Nat Failure Request Request.Reply Ground where
  invariant := CrossStore
  rely _ := Later
  action _ _ _ _ _ := True
  rely_refl _ := Later.refl
  rely_trans _ _ _ _ := Later.trans

section Rules
variable {α β : Type} {thread : Nat} {pre : Ground → Prop}

/-- A service keeps the agreement; where it returns, its value satisfies a condition. -/
def Answers (thread : Nat) (pre : Ground → Prop) (service : Service α)
    (post : α → Ground → Prop) : Prop :=
  Triple groundProtocol (freshMachine fun _ => True) thread pre service fun outcome ground =>
    ∀ value, outcome = .ok value → post value ground

/-- A service keeps the agreement, whatever it returns. -/
abbrev Follows (thread : Nat) (pre : Ground → Prop) (service : Service α) : Prop :=
  Answers thread pre service fun _ _ => True

namespace Answers

/-- A result that is there answers. -/
theorem done {value : α} {post : α → Ground → Prop}
    (reached : ∀ ground, pre ground → post value ground) :
    Answers thread pre (Prog.done value) post := by
  -- A program that has ended returns its value.
  intro ground held result same
  cases same
  exact reached ground held

/-- An exception answers nothing. -/
theorem raise {error : Failure} {post : α → Ground → Prop} :
    Answers thread pre (Prog.raise error) post := by
  -- A program that raised returns nothing.
  intro ground held result same
  cases same

/-- Services answer one after the other. -/
theorem bind {service : Service α} {next : α → Service β} {middle : α → Ground → Prop}
    {post : β → Ground → Prop} (first : Answers thread pre service middle)
    (second : ∀ value, Answers thread (middle value) (next value) post) :
    Answers thread pre (service >>= next) post :=
  Triple.bind (first.weaken (fun _ => id) fun _ _ reached => ⟨reached, nofun⟩) second

/-- A handler may rely on nothing but the agreement. -/
theorem tryCatch {service : Service α} {handler : Failure → Service α} {post : α → Ground → Prop}
    (body : Answers thread pre service post)
    (handled : ∀ failure, Answers thread (fun _ => True) (handler failure) post) :
    Answers thread pre (service.tryCatch handler) post :=
  Triple.tryCatch (body.weaken (fun _ => id) fun _ _ reached =>
    ⟨fun value same result equal => by cases same; cases equal; exact reached _ rfl,
      fun _ _ => trivial⟩) handled

/-- Less may be asked of a service that starts with more. -/
theorem weaken {stronger : Ground → Prop} {service : Service α} {post weaker : α → Ground → Prop}
    (answers : Answers thread pre service post) (before : ∀ ground, stronger ground → pre ground)
    (after : ∀ value ground, post value ground → weaker value ground) :
    Answers thread stronger service weaker :=
  Triple.weaken answers before fun _ ground reached value same =>
    after value ground (reached value same)

/-- A lasting fact can be carried over any service. -/
theorem frame {fact : Ground → Prop} {service : Service α} {post : α → Ground → Prop}
    (lasting : Lasting Later fact) (answers : Answers thread pre service post) :
    Answers thread (fun ground => pre ground ∧ fact ground) service
      fun value ground => post value ground ∧ fact ground := by
  -- No process breaks the fact, neither this one nor another.
  have kept : ∀ other, Kept groundProtocol other fact :=
    fun _ before after held later _ => lasting before after held later
  refine Triple.weaken (Triple.frame (Nat.succ_ne_self thread) (kept _) (kept _) answers)
    (fun _ => id) fun outcome ground reached value same => ?_
  exact ⟨reached.1 value same, reached.2⟩

/-- A request that keeps the agreement, whether its connection holds or not. -/
theorem request {request : Request}
    {outcome : (Nat → UUID) → Ground → Except Failure request.Reply × Ground}
    {unreachable : Failure} {post : request.Reply → Ground → Prop} (lasting : Lasting Later pre)
    (performs : ∀ uuid4 fault ground, Ground.performFresh uuid4 fault ground request =
      fault.apply unreachable (outcome uuid4 ground) ground)
    (keeps : ∀ uuid4 ground, CrossStore ground → pre ground →
      CrossStore (outcome uuid4 ground).2 ∧ Later ground (outcome uuid4 ground).2)
    (answered : ∀ uuid4 ground value, CrossStore ground → pre ground →
      (outcome uuid4 ground).1 = .ok value → post value (outcome uuid4 ground).2) :
    Answers thread pre (Prog.call request) post := by
  refine Triple.call (fun before after held later _ => lasting before after held later)
    fun before valid held choice reply after performed => ?_
  obtain ⟨uuid4, fault, possible⟩ := choice
  obtain ⟨agreed, later⟩ := keeps uuid4 before valid held
  replace performed : fault.apply unreachable (outcome uuid4 before) before = (reply, after) :=
    (performs uuid4 fault before).symm.trans (Option.some.inj performed)
  -- A failed connection answers with an error, before or after the effect.
  cases fault with
  | none =>
    change outcome uuid4 before = (reply, after) at performed
    obtain ⟨rfl, rfl⟩ := Prod.ext_iff.mp performed
    exact ⟨⟨agreed, fun _ _ => later, trivial⟩, fun value => answered uuid4 before value valid held⟩
  | before =>
    obtain ⟨rfl, rfl⟩ := Prod.mk.inj performed
    exact ⟨⟨valid, fun _ _ => Later.refl _, trivial⟩, nofun⟩
  | after =>
    obtain ⟨rfl, rfl⟩ := Prod.mk.inj performed
    exact ⟨⟨agreed, fun _ _ => later, trivial⟩, nofun⟩

/-- A call that keeps the agreement, and what its answer tells. -/
theorem repository {call : RepoCall} {held : Held} {post : call.Reply → Ground → Prop}
    (lasting : Lasting Later pre)
    (keeps : ∀ env ground, CrossStore ground → pre ground →
      CrossStore { ground with database := (call.exec env ground.database).2 })
    (answered : ∀ env ground value, CrossStore ground → pre ground →
      (call.exec env ground.database).1 = .ok value →
      post value { ground with database := (call.exec env ground.database).2 }) :
    Answers thread pre (callRepository call held) post := by
  -- The call decides on the rows, whatever it is given to hold.
  refine request lasting (fun _ _ _ => rfl)
    (fun uuid4 ground valid held => ⟨keeps ⟨uuid4, ground.clock⟩ ground valid held,
      valid.later_call _ call⟩) fun uuid4 ground value valid held same => ?_
  exact answered ⟨uuid4, ground.clock⟩ ground value valid held (of_mapError_eq_ok same)

/-- A queue operation that keeps the agreement, and what its answer tells. -/
theorem queue {call : QueueCall} {post : call.Reply → Ground → Prop} (lasting : Lasting Later pre)
    (keeps : ∀ ground, CrossStore ground → pre ground →
      CrossStore { ground with queue := (call.exec ground.queue).2 } ∧
        Later ground { ground with queue := (call.exec ground.queue).2 })
    (answered : ∀ ground value, CrossStore ground → pre ground →
      (call.exec ground.queue).1 = .ok value →
      post value { ground with queue := (call.exec ground.queue).2 }) :
    Answers thread pre (callQueue call) post := by
  -- A value of the command is a value of the request.
  refine request lasting (fun _ _ _ => rfl) (fun _ ground valid held => keeps ground valid held)
    fun _ ground value valid held same => ?_
  exact answered ground value valid held (of_mapError_eq_ok same)

end Answers

end Rules

section Requests
variable {thread : Nat} {pre : Ground → Prop}

/-- Jobs stay. -/
theorem lasting_hasJob (jobId : UUID) (packetId : String) : Lasting Later (HasJob jobId packetId) :=
  fun _ _ held later => later.hasJob held

/-- The clock shows a time that has passed once it is used. -/
theorem utcNow_answers :
    Answers thread (fun _ => True) utcNow fun time ground => time ≤ ground.clock := by
  -- The time that is read is the clock itself, which later steps only move on.
  refine Triple.call (fun _ _ _ _ _ => trivial) fun before valid _ choice reply after performed => ?_
  obtain ⟨rfl, rfl⟩ := Prod.mk.inj (Option.some.inj performed)
  refine ⟨⟨valid, fun _ _ => Later.refl _, trivial⟩, fun value same => ?_⟩
  cases same
  exact le_rfl

/-- A call that neither queues a job nor accepts a packet. -/
theorem harmless_answers {call : RepoCall} {held : Held} {post : call.Reply → Ground → Prop}
    (lasting : Lasting Later pre) (unmarked : call.isMark = false) (unaccepting : call.isAccept = false)
    (answered : ∀ env ground value, CrossStore ground → pre ground →
      (call.exec env ground.database).1 = .ok value →
      post value { ground with database := (call.exec env ground.database).2 }) :
    Answers thread pre (callRepository call held) post := by
  -- Jobs leave the front of the queue only by a mark, and packets come only with an acceptance.
  refine .repository lasting (fun env ground valid _ => valid.call env call ?_ ?_) answered
  · intro job member status
    exact Or.inl (RepoCall.unqueued_kept env unmarked valid.reachable.ledger member status)
  · intro packet member
    rw [(RepoCall.tables_kept env call).1 unaccepting] at member
    exact Or.inl member

/-- A harmless call whose answer does not matter. -/
theorem harmless_follows {call : RepoCall} {held : Held} (unmarked : call.isMark = false)
    (unaccepting : call.isAccept = false) :
    Follows thread (fun _ => True) (callRepository call held) :=
  harmless_answers Lasting.always unmarked unaccepting fun _ _ _ _ _ _ => trivial

/-- An acceptance without a conflict stands: its receipt is settled and its packet has a job. -/
def Stands (rawBody : Bytes) (accepted : PacketAcceptanceResult) (ground : Ground) : Prop :=
  ∃ packetId jobId, accepted.packetId = some packetId ∧ accepted.jobId = some jobId ∧
    ground.SettledAs rawBody packetId ∧ ground.HasJob jobId packetId ∧
    (accepted.queueStatus ≠ .pendingQueue → ground.QueuedFor packetId)

/-- An acceptance that answers without a conflict stands. -/
theorem AcceptOutcome.stands {ground after : Ground} {receiptId newId : UUID} {rawBody : Bytes}
    {values : DecodedTelemetryValues} {options : AcceptanceOptions}
    {outcome : Except StorageError PacketAcceptanceResult × Database}
    (happened : AcceptOutcome ground.database receiptId values newId options outcome)
    (ledger : Ledger ground.database) (recorded : ground.HasReceipt receiptId rawBody)
    (reached : after.database = outcome.2) {accepted : PacketAcceptanceResult}
    (answered : outcome.1 = .ok accepted) (agrees : accepted.conflict = false) :
    Stands rawBody accepted after := by
  obtain ⟨original, present, identified, rfl⟩ := recorded
  -- The receipt under the identifier is the one whose body is known.
  have found : ground.database.receipts.get? receiptId = some original :=
    Table.get?_eq_some.mpr ⟨present, identified⟩
  cases happened with
  | missing | refused => cases answered
  | @replayed receipt lookup status =>
    obtain rfl : original = receipt := Option.some.inj (found.symm.trans lookup)
    obtain ⟨packet, stored, named, -⟩ := ledger.packetOfReceipt present status
    obtain ⟨job, member, owner, search⟩ := ledger.jobOfPacket stored
    cases answered
    have jobs : original.logicalPacketId.bind ground.database.jobByPacket = some job := by
      rw [named]
      exact search
    refine ⟨packet.packetId, job.jobId, named, ?_, ⟨original, reached ▸ present, rfl, status, named⟩,
      ⟨job, reached ▸ member, rfl, owner⟩, fun queued => ⟨job, reached ▸ member, owner, ?_⟩⟩
    · rw [jobs]
      rfl
    · rw [jobs] at queued
      exact mt jobStateToQueueStatus_eq_pendingQueue.mpr queued
  | @settled receipt lookup status _ settles =>
    obtain rfl : original = receipt := Option.some.inj (found.symm.trans lookup)
    cases settles with
    | @duplicated existing origin stored key source digest same =>
      obtain ⟨job, member, owner, search⟩ := ledger.jobOfPacket stored
      cases answered
      have kept : job ∈ after.database.jobs := reached ▸ member
      have settled : duplicateReceipt original values existing ∈ after.database.receipts :=
        reached ▸ (Table.mem_set_of_mem present (by rfl)).mpr (Or.inl rfl)
      refine ⟨existing.packetId, job.jobId, rfl, ?_, ⟨_, settled, rfl, Or.inr rfl, rfl⟩,
        ⟨job, kept, rfl, owner⟩, fun queued => ⟨job, kept, owner, ?_⟩⟩
      · rw [search]
        rfl
      · rw [search] at queued
        exact mt jobStateToQueueStatus_eq_pendingQueue.mpr queued
    | conflicted | stateConflicted =>
      cases answered
      cases agrees
    | integrity => cases answered
    | accepted unused tracked position packetAdmitted stateAdmitted jobAdmitted =>
      cases answered
      have settled : acceptedReceipt original values ∈ after.database.receipts :=
        reached ▸ (Table.mem_set_of_mem present (by rfl)).mpr (Or.inl rfl)
      have created : newJob newId values.packetId options.maxAttempts options.now ∈
          after.database.jobs := reached ▸ (Table.mem_insert jobAdmitted.1).mpr (Or.inr rfl)
      exact ⟨values.packetId, newId, rfl, rfl, ⟨_, settled, rfl, Or.inl rfl, rfl⟩,
        ⟨_, created, rfl, rfl⟩, fun queued => absurd rfl queued⟩

/-- An acceptance of decoded bytes keeps the agreement, and what its answer tells. -/
theorem acceptance_answers {receiptId : UUID} {rawBody : Bytes} {values : DecodedTelemetryValues}
    (maxAttempts : Int) (actorIdentity : String) (held : Held)
    (post : PacketAcceptanceResult → Ground → Prop)
    (answered : ∀ env ground result, CrossStore ground → ground.HasReceipt receiptId rawBody →
      ((RepoCall.acceptPacketAndCreateJob receiptId values maxAttempts actorIdentity).exec env
        ground.database).1 = .ok result →
      post result { ground with
        database := ((RepoCall.acceptPacketAndCreateJob receiptId values maxAttempts
          actorIdentity).exec env ground.database).2 }) :
    Answers thread (fun ground => ground.HasReceipt receiptId rawBody ∧ ground.Decoded rawBody values)
      (callRepository (.acceptPacketAndCreateJob receiptId values maxAttempts actorIdentity) held)
      post := by
  -- The new packet was decoded from the bytes of its receipt.
  refine .repository (fun _ _ held later => ⟨later.hasReceipt held.1, later.decoded held.2⟩)
    (fun env ground valid held => valid.call env _ ?_ ?_)
    fun env ground result valid held => answered env ground result valid held.1
  · intro job member status
    exact Or.inl (RepoCall.unqueued_kept env rfl valid.reachable.ledger member status)
  · intro packet member
    rcases acceptPacketAndCreateJob_serially receiptId values
      { maxAttempts := maxAttempts, actorIdentity := actorIdentity, now := env.now } env.uuid4
      ground.database with ⟨_, failed⟩ | ⟨-, -, _, happened⟩
    · exact Or.inl (congrArg (·.2.packets) failed ▸ member)
    · rcases happened.packet_origin member with old | ⟨source, same, _⟩
      · exact Or.inl old
      · exact Or.inr ⟨rawBody, source.symm ▸ held.1, same.symm ▸ held.2⟩

/-- An acceptance that answers without a conflict stands. -/
theorem accept_stands {env : Surroundings} {ground : Ground} {receiptId : UUID} {rawBody : Bytes}
    {values : DecodedTelemetryValues} {maxAttempts : Int} {actorIdentity : String}
    {result : PacketAcceptanceResult} (valid : CrossStore ground)
    (recorded : ground.HasReceipt receiptId rawBody)
    (answered : ((RepoCall.acceptPacketAndCreateJob receiptId values maxAttempts
      actorIdentity).exec env ground.database).1 = .ok result) (agrees : result.conflict = false) :
    Stands rawBody result { ground with
      database := ((RepoCall.acceptPacketAndCreateJob receiptId values maxAttempts
        actorIdentity).exec env ground.database).2 } := by
  -- An acceptance that does not raise has an outcome.
  rcases acceptPacketAndCreateJob_serially receiptId values
    { maxAttempts := maxAttempts, actorIdentity := actorIdentity, now := env.now } env.uuid4
    ground.database with ⟨_, failed⟩ | ⟨-, -, _, happened⟩
  · cases (congrArg Prod.fst failed).symm.trans answered
  · exact happened.stands valid.reachable.ledger recorded rfl answered agrees

/-- An acceptance of decoded bytes stands unless it conflicts. -/
theorem accept_answers (receiptId : UUID) (rawBody : Bytes) (values : DecodedTelemetryValues)
    (maxAttempts : Int) (actorIdentity : String) (held : Held) :
    Answers thread (fun ground => ground.HasReceipt receiptId rawBody ∧ ground.Decoded rawBody values)
      (callRepository (.acceptPacketAndCreateJob receiptId values maxAttempts actorIdentity) held)
      fun result ground => result.conflict = false → Stands rawBody result ground :=
  acceptance_answers _ _ _ _ fun _ _ _ valid recorded answered agrees =>
    accept_stands valid recorded answered agrees

/-- A job may be marked as queued while its reference is there, and has been queued then. -/
theorem mark_answers (jobId : UUID) (packetId queueMessageId actorIdentity : String)
    (held : Held) :
    Answers thread (fun ground => ground.Listed jobId ∧ ground.HasJob jobId packetId)
      (callRepository (.markJobQueued jobId queueMessageId actorIdentity) held)
      fun _ ground => ground.QueuedFor packetId := by
  refine .repository
    (fun _ _ held later => ⟨later.listed held.1, later.hasJob held.2⟩)
    (fun env ground valid held => valid.call env _ ?_ ?_) ?_
  · obtain ⟨listed, -⟩ := held
    intro job member status
    by_cases same : job.jobId = jobId
    · -- A complete job is not waiting, so the reference of this one is listed.
      rcases listed with ⟨message, listed, key⟩ | ⟨done, among, key, state⟩
      · exact Or.inr ⟨message, listed, key.trans same.symm⟩
      · rw [Table.eq_of_key among member (key.trans same.symm), status] at state
        cases state
    · have happened := markJobQueued_exec env ground.database jobId queueMessageId actorIdentity
      generalize (RepoCall.markJobQueued jobId queueMessageId actorIdentity).exec env
        ground.database = outcome at happened ⊢
      cases happened with
      | missing | repeated | renamed | refused => exact Or.inl member
      | queued found before =>
        refine Or.inl (Table.mem_set.mpr (Or.inr ⟨member, fun key => same ?_⟩))
        exact key.trans (Table.get?_eq_some.mp found).2
  · intro packet member
    rw [(RepoCall.tables_kept env _).1 rfl] at member
    exact Or.inl member
  · rintro env ground value valid ⟨-, job, member, rfl, named⟩ answered
    have happened := markJobQueued_exec env ground.database job.jobId queueMessageId actorIdentity
    generalize (RepoCall.markJobQueued job.jobId queueMessageId actorIdentity).exec env
      ground.database = outcome at happened answered ⊢
    have same : ∀ {row}, ground.database.jobs.get? job.jobId = some row → row = job :=
      fun lookup => Option.some.inj (lookup.symm.trans (Table.get?_key member))
    cases happened with
    | missing | renamed | refused => cases answered
    | repeated found status =>
      obtain rfl := same found
      exact ⟨_, member, named, by simp [status]⟩
    | queued found status =>
      obtain rfl := same found
      exact ⟨_, (Table.mem_set_of_mem member (by rfl)).mpr (Or.inl rfl), named, by simp [queuedJob]⟩

/-- A reference to a stored job may be enqueued, and is listed then. -/
theorem enqueue_answers (message : QueueMessage) :
    Answers thread (HasJob message.jobId message.packetId) (callQueue (.enqueue message))
      fun _ ground => ground.Listed message.jobId ∧
        ground.HasJob message.jobId message.packetId := by
  -- The script adds the reference, or finds its marker; either way it is listed.
  refine .queue (lasting_hasJob _ _) (fun ground valid held => ?_)
    fun ground value valid held answered => ⟨?_, held⟩
  · have happened := enqueue_outcome ground.queue message
    obtain ⟨failed, references⟩ := happened.references
    refine valid.requeue (happened.consistent valid.queue) (fun entry listed => ?_)
      (fun entry listed => Or.inl ((references entry).mpr (Or.inl listed)))
      (fun entry listed => Or.inl (failed ▸ listed))
    rcases (references entry).mp listed with old | ⟨rfl, -⟩
    · exact Or.inl old
    · exact Or.inr held
  · exact Or.inl ⟨message, (enqueue_outcome ground.queue message).listed valid.queue answered, rfl⟩

/-- A claimed reference leads to a stored job. -/
theorem claim_answers :
    Answers thread (fun _ => True) (callQueue .claim) fun claimed ground =>
      ∀ message, claimed = some message → ground.HasJob message.jobId message.packetId := by
  -- The oldest entry is moved and stays a reference.
  refine .queue Lasting.always (fun ground valid _ => ?_) fun ground value valid _ answered => ?_
  · obtain ⟨moved, failed⟩ := (claim_outcome ground.queue).rearranged
    exact valid.rearrange moved fun entry listed => Or.inl (failed ▸ listed)
  · rintro message rfl
    have happened := claim_outcome ground.queue
    generalize QueueCall.claim.exec ground.queue = outcome at happened answered
    cases happened with
    | idle empty => cases answered
    | @claimed rest oldest place =>
      cases answered
      refine valid.job message ?_
      rw [TelemetryQueue.references, place]
      simp

/-- A reference may be acknowledged once its job is complete. -/
theorem ack_follows (message : QueueMessage) :
    Follows thread (JobIn .complete message.jobId) (callQueue (.ack message)) := by
  -- The only reference that may be dropped is that of the complete job.
  refine .queue (fun _ _ held later => later.complete held) (fun ground valid held => ?_)
    fun _ _ _ _ _ => trivial
  have happened := ack_outcome ground.queue message
  obtain ⟨failed, within, kept⟩ := happened.references
  refine valid.requeue (happened.consistent valid.queue)
    (fun entry listed => Or.inl (within entry listed)) (fun entry listed => ?_)
    (fun entry listed => Or.inl (failed ▸ listed))
  rcases kept entry listed with still | rfl
  · exact Or.inl still
  · exact Or.inr held

/-- A reference may be buried once its job has failed. -/
theorem deadLetter_follows (message : QueueMessage) :
    Follows thread (JobIn .failed message.jobId) (callQueue (.deadLetter message)) := by
  -- The only entry that may be buried is that of the failed job.
  refine .queue (fun _ _ held later => later.failed _ held) (fun ground valid held => ?_)
    fun _ _ _ _ _ => trivial
  obtain ⟨moved, buried⟩ := (deadLetter_outcome ground.queue message).rearranged
  refine valid.rearrange moved fun entry listed => ?_
  rcases buried entry listed with old | ⟨rfl, -⟩
  · exact Or.inl old
  · exact Or.inr held

/-- A reference may go back to the pending list at any time. -/
theorem retry_follows (message : QueueMessage) :
    Follows thread (fun _ => True) (callQueue (.retry message)) := by
  -- A retry only rearranges the references.
  refine .queue Lasting.always (fun ground valid _ => ?_) fun _ _ _ _ _ => trivial
  obtain ⟨moved, failed⟩ := (retry_outcome ground.queue message).rearranged
  exact valid.rearrange moved fun entry listed => Or.inl (failed ▸ listed)

/-- The recovery may run at any time, whoever holds the entries. -/
theorem recoverProcessing_follows :
    Follows thread (fun _ => True) (callQueue .recoverProcessing) := by
  -- A recovery only rearranges the references.
  refine .queue Lasting.always (fun ground valid _ => ?_) fun _ _ _ _ _ => trivial
  obtain ⟨moved, failed⟩ := recoverProcessing_rearranged ground.queue
  exact valid.rearrange moved fun entry listed => Or.inl (failed ▸ listed)

end Requests

end Cislunar
