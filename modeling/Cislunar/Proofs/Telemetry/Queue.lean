import Cislunar.Telemetry.Queue
import Mathlib.Data.List.Perm.Subperm

/-!
What the queue operations do to the entries as a whole.

An operation adds one entry, removes one entry or moves entries between the lists; the markers always
tell where an entry belongs.
-/

namespace Cislunar

namespace TelemetryQueue

/-- The entries of all three lists. -/
def references (queue : TelemetryQueue) : List QueueMessage :=
  queue.pending ++ queue.processing ++ queue.failed

end TelemetryQueue

/-- A message can be made for every well-formed packet identifier. -/
theorem QueueMessage.new_eq_ok (jobId : UUID) {packetId : String}
    (wellFormed : packetIdComplaint packetId = none) :
    QueueMessage.new jobId packetId = .ok ⟨jobId, packetId, wellFormed⟩ := by
  -- The constructor asks for the complaint once more.
  unfold QueueMessage.new
  split
  next complaint =>
    rw [wellFormed] at complaint
    cases complaint
  next => rfl

/-- A marker is set exactly for the entries in the lists, and no entry stands twice. -/
structure QueueConsistent (queue : TelemetryQueue) : Prop where
  distinct : queue.references.Nodup
  marked : ∀ jobId message, queue.marker jobId = some message ↔
    message ∈ queue.references ∧ message.jobId = jobId

/-- Entries under one job identifier are one entry. -/
theorem QueueConsistent.eq_of_jobId {queue : TelemetryQueue} (consistent : QueueConsistent queue)
    {first second : QueueMessage} (left : first ∈ queue.references)
    (right : second ∈ queue.references) (same : first.jobId = second.jobId) : first = second := by
  -- The marker of the job names one reference.
  have one := (consistent.marked second.jobId first).mpr ⟨left, same⟩
  have other := (consistent.marked second.jobId second).mpr ⟨right, rfl⟩
  exact Option.some.inj (one.symm.trans other)

/-- An empty queue is consistent. -/
theorem QueueConsistent.empty : QueueConsistent .empty where
  distinct := List.nodup_nil
  marked := by simp [TelemetryQueue.empty, TelemetryQueue.references]

/-- The same entries in other places. -/
structure Rearranged (before after : TelemetryQueue) : Prop where
  references : after.references.Perm before.references
  marker : after.marker = before.marker

/-- Entries that only change their places stay consistent. -/
theorem Rearranged.consistent {before after : TelemetryQueue} (moved : Rearranged before after)
    (consistent : QueueConsistent before) : QueueConsistent after where
  distinct := moved.references.nodup_iff.mpr consistent.distinct
  marked jobId message := by
    -- The references are the same up to order, and the markers are the same.
    rw [moved.marker, consistent.marked, moved.references.mem_iff]

section
variable {queue : TelemetryQueue} {message : QueueMessage}

/-- An entry that leaves the processing list leaves the rest of the entries behind. -/
theorem references_perm_of_processing (held : message ∈ queue.processing) :
    queue.references.Perm
      (message :: (queue.pending ++ queue.processing.erase message ++ queue.failed)) := by
  -- The entry is taken out of processing and moved to the front.
  rw [TelemetryQueue.references]
  have taken := (List.perm_cons_erase held).append_left queue.pending
  exact ((taken.trans List.perm_middle).append_right queue.failed)

/-- `lrem` of an entry that is there. -/
theorem lrem_of_mem {list : List QueueMessage} (held : message ∈ list) :
    Redis.lrem message list = (1, list.erase message) := if_pos held

/-- `lrem` of an entry that is not there. -/
theorem lrem_of_not_mem {list : List QueueMessage} (missing : message ∉ list) :
    Redis.lrem message list = (0, list) := if_neg missing

/-- What `enqueue` can do. -/
inductive EnqueueOutcome (queue : TelemetryQueue) (message : QueueMessage) :
    Except QueueError Bool × TelemetryQueue → Prop where
  | added (unmarked : queue.marker message.jobId = none) :
      EnqueueOutcome queue message (.ok true, { queue with
        marker := Function.update queue.marker message.jobId (some message)
        pending := message :: queue.pending })
  | present (marked : queue.marker message.jobId = some message) :
      EnqueueOutcome queue message (.ok false, queue)
  | conflict {existing : QueueMessage} (marked : queue.marker message.jobId = some existing)
      (different : existing ≠ message) (text : String) :
      EnqueueOutcome queue message (.error (.conflict text), queue)

/-- What `enqueue` does and answers. -/
theorem enqueue_outcome (queue : TelemetryQueue) (message : QueueMessage) :
    EnqueueOutcome queue message ((QueueCall.enqueue message).exec queue) := by
  -- The script branches on the marker of the job.
  rw [QueueCall.exec, TelemetryQueue.enqueueScript]
  cases marked : queue.marker message.jobId with
  | none => exact .added marked
  | some existing =>
    by_cases same : existing = message
    · subst same
      simp only [if_true]
      exact .present marked
    · simp only [if_neg same]
      exact .conflict marked same _

/-- What `claim` can do. -/
inductive ClaimReferenceOutcome (queue : TelemetryQueue) :
    Except QueueError (Option QueueMessage) × TelemetryQueue → Prop where
  | idle (empty : queue.pending = []) : ClaimReferenceOutcome queue (.ok none, queue)
  | claimed {rest : List QueueMessage} {message : QueueMessage}
      (oldest : queue.pending = rest ++ [message]) :
      ClaimReferenceOutcome queue (.ok (some message), { queue with
        pending := rest
        processing := message :: queue.processing })

/-- What `claim` does and answers. -/
theorem claim_outcome (queue : TelemetryQueue) :
    ClaimReferenceOutcome queue (QueueCall.claim.exec queue) := by
  -- The oldest entry is the last one of the list.
  rw [QueueCall.exec]
  rcases List.eq_nil_or_concat queue.pending with empty | ⟨rest, message, oldest⟩
  · rw [empty]
    exact .idle empty
  · rw [List.concat_eq_append] at oldest
    rw [oldest, Redis.rpoplpush_append]
    exact .claimed oldest

/-- What `ack` can do. -/
inductive AckOutcome (queue : TelemetryQueue) (message : QueueMessage) :
    Except QueueError Unit × TelemetryQueue → Prop where
  | removed (held : message ∈ queue.processing) :
      AckOutcome queue message (.ok (), { queue with
        processing := queue.processing.erase message
        marker := Function.update queue.marker message.jobId none })
  | missing (absent : message ∉ queue.processing) (text : String) :
      AckOutcome queue message (.error (.state text), queue)

/-- What `ack` does and answers. -/
theorem ack_outcome (queue : TelemetryQueue) (message : QueueMessage) :
    AckOutcome queue message ((QueueCall.ack message).exec queue) := by
  -- The script removes the entry from processing first, and gives up where it is not there.
  rw [QueueCall.exec, TelemetryQueue.ackScript]
  by_cases held : message ∈ queue.processing
  · rw [lrem_of_mem held]
    exact .removed held
  · rw [lrem_of_not_mem held]
    exact .missing held _

/-- What `retry` can do. -/
inductive RetryOutcome (queue : TelemetryQueue) (message : QueueMessage) :
    Except QueueError Unit × TelemetryQueue → Prop where
  | returned (held : message ∈ queue.processing) :
      RetryOutcome queue message (.ok (), { queue with
        processing := queue.processing.erase message
        pending := message :: queue.pending })
  | missing (absent : message ∉ queue.processing) (text : String) :
      RetryOutcome queue message (.error (.state text), queue)

/-- What `retry` does and answers. -/
theorem retry_outcome (queue : TelemetryQueue) (message : QueueMessage) :
    RetryOutcome queue message ((QueueCall.retry message).exec queue) := by
  -- The script removes the entry from processing first, and gives up where it is not there.
  rw [QueueCall.exec, TelemetryQueue.retryScript]
  by_cases held : message ∈ queue.processing
  · rw [lrem_of_mem held]
    exact .returned held
  · rw [lrem_of_not_mem held]
    exact .missing held _

/-- What `dead_letter` can do. -/
inductive DeadLetterOutcome (queue : TelemetryQueue) (message : QueueMessage) :
    Except QueueError Unit × TelemetryQueue → Prop where
  | buried (held : message ∈ queue.processing) :
      DeadLetterOutcome queue message (.ok (), { queue with
        processing := queue.processing.erase message
        failed := message :: queue.failed })
  | missing (absent : message ∉ queue.processing) (text : String) :
      DeadLetterOutcome queue message (.error (.state text), queue)

/-- What `dead_letter` does and answers. -/
theorem deadLetter_outcome (queue : TelemetryQueue) (message : QueueMessage) :
    DeadLetterOutcome queue message ((QueueCall.deadLetter message).exec queue) := by
  -- The script removes the entry from processing first, and gives up where it is not there.
  rw [QueueCall.exec, TelemetryQueue.deadLetterScript]
  by_cases held : message ∈ queue.processing
  · rw [lrem_of_mem held]
    exact .buried held
  · rw [lrem_of_not_mem held]
    exact .missing held _

/-- `recover_processing` puts the processing entries in front of the pending ones. -/
theorem recoverProcessing_eq (queue : TelemetryQueue) :
    QueueCall.recoverProcessing.exec queue = (.ok queue.processing.length,
      { queue with processing := [], pending := queue.processing ++ queue.pending }) := by
  -- The script moves as many entries as there are.
  rw [QueueCall.exec, TelemetryQueue.recoverProcessingScript,
    Redis.moveAll_eq _ _ _ (Nat.le_refl _), Nat.zero_add]

/-- A claim moves one entry. -/
theorem ClaimReferenceOutcome.rearranged
    {outcome : Except QueueError (Option QueueMessage) × TelemetryQueue}
    (happened : ClaimReferenceOutcome queue outcome) :
    Rearranged queue outcome.2 ∧ outcome.2.failed = queue.failed := by
  -- The entry goes from the end of one list to the front of the other.
  cases happened with
  | idle empty => exact ⟨⟨List.Perm.refl _, rfl⟩, rfl⟩
  | @claimed rest message oldest =>
    refine ⟨⟨?_, rfl⟩, rfl⟩
    simp only [TelemetryQueue.references, oldest, List.append_assoc, List.cons_append,
      List.nil_append, List.Perm.refl]

/-- A retry moves one entry. -/
theorem RetryOutcome.rearranged {outcome : Except QueueError Unit × TelemetryQueue}
    (happened : RetryOutcome queue message outcome) :
    Rearranged queue outcome.2 ∧ outcome.2.failed = queue.failed := by
  -- A reference moves from processing to ready, so the references are permuted.
  cases happened with
  | missing absent text => exact ⟨⟨List.Perm.refl _, rfl⟩, rfl⟩
  | returned held =>
    refine ⟨⟨?_, rfl⟩, rfl⟩
    exact (references_perm_of_processing held).symm

/-- A dead letter moves one entry to the failed list. -/
theorem DeadLetterOutcome.rearranged {outcome : Except QueueError Unit × TelemetryQueue}
    (happened : DeadLetterOutcome queue message outcome) :
    Rearranged queue outcome.2 ∧ ∀ entry ∈ outcome.2.failed, entry ∈ queue.failed ∨
      entry = message ∧ message ∈ queue.processing := by
  -- The entry leaves the processing list for the front of the failed one.
  cases happened with
  | missing absent text => exact ⟨⟨List.Perm.refl _, rfl⟩, fun _ => Or.inl⟩
  | buried held =>
    refine ⟨⟨?_, rfl⟩, fun entry among => ?_⟩
    · rw [TelemetryQueue.references]
      exact List.perm_middle.trans (references_perm_of_processing held).symm
    · rcases List.mem_cons.mp among with rfl | old
      · exact Or.inr ⟨rfl, held⟩
      · exact Or.inl old

/-- The recovery moves the processing entries. -/
theorem recoverProcessing_rearranged (queue : TelemetryQueue) :
    Rearranged queue (QueueCall.recoverProcessing.exec queue).2 ∧
      (QueueCall.recoverProcessing.exec queue).2.failed = queue.failed := by
  -- All of processing moves to ready, and nothing is added or lost.
  rw [recoverProcessing_eq]
  refine ⟨⟨?_, rfl⟩, rfl⟩
  simp only [TelemetryQueue.references, List.append_nil]
  exact List.perm_append_comm.append_right queue.failed

/-- An addition makes one entry, and nothing else changes. -/
theorem EnqueueOutcome.references {outcome : Except QueueError Bool × TelemetryQueue}
    (happened : EnqueueOutcome queue message outcome) :
    outcome.2.failed = queue.failed ∧ ∀ entry, entry ∈ outcome.2.references ↔
      entry ∈ queue.references ∨
        entry = message ∧ queue.marker message.jobId = none := by
  -- The marker tells whether there is an entry of the job already.
  cases happened with
  | added unmarked =>
    refine ⟨rfl, fun entry => ?_⟩
    simp only [TelemetryQueue.references, List.cons_append, List.mem_cons, unmarked, and_true]
    exact or_comm
  | present marked => exact ⟨rfl, fun entry => by simp [marked]⟩
  | conflict marked different text => exact ⟨rfl, fun entry => by simp [marked]⟩

/-- An addition keeps the queue consistent. -/
theorem EnqueueOutcome.consistent {outcome : Except QueueError Bool × TelemetryQueue}
    (happened : EnqueueOutcome queue message outcome) (consistent : QueueConsistent queue) :
    QueueConsistent outcome.2 := by
  cases happened with
  | present marked => exact consistent
  | conflict marked different text => exact consistent
  | added unmarked =>
    -- An unmarked job has no entry, so the new entry stands alone under its identifier.
    have unlisted : ∀ entry ∈ queue.references, entry.jobId ≠ message.jobId := by
      intro entry listed same
      have marked := (consistent.marked message.jobId entry).mpr ⟨listed, same⟩
      rw [unmarked] at marked
      cases marked
    refine ⟨List.nodup_cons.mpr ⟨fun listed => unlisted message listed rfl, consistent.distinct⟩,
      fun jobId entry => ?_⟩
    have listed : entry ∈ message :: queue.references ↔
        entry = message ∨ entry ∈ queue.references := List.mem_cons
    show Function.update queue.marker message.jobId (some message) jobId = some entry ↔
      entry ∈ message :: queue.references ∧ entry.jobId = jobId
    rw [listed]
    by_cases same : jobId = message.jobId
    · subst same
      rw [Function.update_self]
      constructor
      · intro equal
        cases equal
        exact ⟨Or.inl rfl, rfl⟩
      · rintro ⟨rfl | old, key⟩
        · rfl
        · exact absurd key (unlisted entry old)
    · rw [Function.update_of_ne same, consistent.marked]
      constructor
      · rintro ⟨old, key⟩
        exact ⟨Or.inr old, key⟩
      · rintro ⟨rfl | old, key⟩
        · exact absurd key.symm same
        · exact ⟨old, key⟩

/-- An enqueued message is in one of the lists afterwards. -/
theorem EnqueueOutcome.listed {outcome : Except QueueError Bool × TelemetryQueue} {added : Bool}
    (happened : EnqueueOutcome queue message outcome) (consistent : QueueConsistent queue)
    (answered : outcome.1 = .ok added) : message ∈ outcome.2.references := by
  -- A marker that is present stands for a reference that is listed.
  cases happened with
  | added unmarked => exact List.mem_cons_self
  | present marked => exact ((consistent.marked _ _).mp marked).1
  | conflict marked different text => cases answered

/-- An acknowledgement removes its own entry at most. -/
theorem AckOutcome.references {outcome : Except QueueError Unit × TelemetryQueue}
    (happened : AckOutcome queue message outcome) :
    outcome.2.failed = queue.failed ∧
      (∀ entry ∈ outcome.2.references, entry ∈ queue.references) ∧
      ∀ entry ∈ queue.references, entry ∈ outcome.2.references ∨ entry = message := by
  -- The entry is removed once, and nothing else with it.
  cases happened with
  | missing absent text => exact ⟨rfl, fun _ => id, fun _ => Or.inl⟩
  | removed held =>
    have parts := references_perm_of_processing held
    refine ⟨rfl, fun entry listed => parts.mem_iff.mpr (List.mem_cons_of_mem _ listed),
      fun entry listed => ?_⟩
    rcases List.mem_cons.mp (parts.mem_iff.mp listed) with rfl | rest
    · exact Or.inr rfl
    · exact Or.inl rest

/-- An acknowledgement keeps the queue consistent. -/
theorem AckOutcome.consistent {outcome : Except QueueError Unit × TelemetryQueue}
    (happened : AckOutcome queue message outcome) (consistent : QueueConsistent queue) :
    QueueConsistent outcome.2 := by
  -- The marker that is cleared is that of the entry that is gone, which was the only one of its
  -- job.
  cases happened with
  | missing absent text => exact consistent
  | removed held =>
    have parts := references_perm_of_processing held
    obtain ⟨gone, distinct⟩ := List.nodup_cons.mp (parts.nodup_iff.mp consistent.distinct)
    have listed : message ∈ queue.references := parts.mem_iff.mpr List.mem_cons_self
    refine ⟨distinct, fun jobId entry => ?_⟩
    show Function.update queue.marker message.jobId none jobId = some entry ↔
      entry ∈ queue.pending ++ queue.processing.erase message ++ queue.failed ∧
        entry.jobId = jobId
    by_cases same : jobId = message.jobId
    · subst same
      rw [Function.update_self]
      constructor
      · intro unmarked
        cases unmarked
      · rintro ⟨rest, key⟩
        have old : entry ∈ queue.references := parts.mem_iff.mpr (List.mem_cons_of_mem _ rest)
        exact absurd (consistent.eq_of_jobId old listed key ▸ rest) gone
    · rw [Function.update_of_ne same, consistent.marked, parts.mem_iff, List.mem_cons]
      constructor
      · rintro ⟨rfl | rest, key⟩
        · exact absurd key.symm same
        · exact ⟨rest, key⟩
      · rintro ⟨rest, key⟩
        exact ⟨Or.inr rest, key⟩

end

/-- A marked job has one entry, which is its marker. -/
theorem QueueConsistent.filter_eq {queue : TelemetryQueue} (consistent : QueueConsistent queue)
    {jobId : UUID} {message : QueueMessage} (marked : queue.marker jobId = some message) :
    queue.references.filter (·.jobId = jobId) = [message] := by
  obtain ⟨listed, key⟩ := (consistent.marked jobId message).mp marked
  -- Every entry under the identifier is the marked one, and no entry stands twice.
  have same : ∀ entry ∈ queue.references.filter (·.jobId = jobId), entry = message := by
    intro entry among
    obtain ⟨old, equal⟩ := List.mem_filter.mp among
    exact consistent.eq_of_jobId old listed ((of_decide_eq_true equal).trans key.symm)
  have distinct : (queue.references.filter (·.jobId = jobId)).Nodup := consistent.distinct.filter _
  have present : message ∈ queue.references.filter (·.jobId = jobId) :=
    List.mem_filter.mpr ⟨listed, decide_eq_true key⟩
  refine List.perm_singleton.mp
    ((List.perm_ext_iff_of_nodup distinct (List.nodup_singleton message)).mpr fun entry => ?_)
  rw [List.mem_singleton]
  constructor
  · exact same entry
  · rintro rfl
    exact present

/-- What a queue operation can do to a consistent queue. -/
structure QueueStepped (queue : TelemetryQueue) (call : QueueCall) : Prop where
  consistent : QueueConsistent (call.exec queue).2
  /-- Entries leave the lists only through `ack`. -/
  kept : ∀ message ∈ queue.references,
    message ∈ (call.exec queue).2.references ∨ call = .ack message
  /-- An operation that raises changes nothing. -/
  raised : ∀ error, (call.exec queue).1 = .error error → (call.exec queue).2 = queue
  /-- An entry that is there already is not added again. -/
  present : ∀ message, call = .enqueue message →
    (QueueCall.exec (.enqueue message) queue).1 = .ok false →
    (QueueCall.exec (.enqueue message) queue).2 = queue

/-- Every entry after an operation was there before, unless the operation has added it. -/
theorem QueueCall.references_origin {queue : TelemetryQueue} (call : QueueCall)
    {entry : QueueMessage} (listed : entry ∈ (call.exec queue).2.references) :
    entry ∈ queue.references ∨ call = .enqueue entry := by
  -- Only an addition makes an entry; an acknowledgement removes one and the others move them.
  cases call with
  | enqueue message =>
    rcases ((enqueue_outcome queue message).references.2 entry).mp listed with old | ⟨rfl, -⟩
    · exact Or.inl old
    · exact Or.inr rfl
  | claim => exact Or.inl ((claim_outcome queue).rearranged.1.references.mem_iff.mp listed)
  | ack message => exact Or.inl ((ack_outcome queue message).references.2.1 entry listed)
  | retry message =>
    exact Or.inl ((retry_outcome queue message).rearranged.1.references.mem_iff.mp listed)
  | deadLetter message =>
    exact Or.inl ((deadLetter_outcome queue message).rearranged.1.references.mem_iff.mp listed)
  | recoverProcessing =>
    exact Or.inl ((recoverProcessing_rearranged queue).1.references.mem_iff.mp listed)

/-- Every queue operation keeps the queue consistent. -/
theorem QueueConsistent.step {queue : TelemetryQueue} (consistent : QueueConsistent queue)
    (call : QueueCall) : QueueStepped queue call := by
  -- One case per operation: its outcome keeps the queue consistent, drops at most what was
  -- acknowledged, and raises only where it changes nothing.
  cases call with
  | enqueue message =>
    have happened := enqueue_outcome queue message
    refine ⟨happened.consistent consistent, fun entry listed =>
      Or.inl ((happened.references.2 entry).mpr (Or.inl listed)), fun error raised => ?_, ?_⟩
    · generalize QueueCall.exec (.enqueue message) queue = outcome at happened raised ⊢
      cases happened with
      | added | present => cases raised
      | conflict => rfl
    · intro other same answered
      cases same
      generalize QueueCall.exec (.enqueue message) queue = outcome at happened answered ⊢
      cases happened with
      | added | conflict => cases answered
      | present => rfl
  | claim =>
    have happened := claim_outcome queue
    obtain ⟨moved, -⟩ := happened.rearranged
    refine ⟨moved.consistent consistent, fun entry listed =>
      Or.inl (moved.references.mem_iff.mpr listed), fun error raised => ?_, nofun⟩
    generalize QueueCall.exec .claim queue = outcome at happened raised ⊢
    cases happened with
    | idle | claimed => cases raised
  | ack message =>
    have happened := ack_outcome queue message
    refine ⟨happened.consistent consistent, fun entry listed =>
      (happened.references.2.2 entry listed).imp_right (congrArg QueueCall.ack ·.symm),
      fun error raised => ?_, nofun⟩
    generalize QueueCall.exec (.ack message) queue = outcome at happened raised ⊢
    cases happened with
    | removed => cases raised
    | missing => rfl
  | retry message =>
    have happened := retry_outcome queue message
    obtain ⟨moved, -⟩ := happened.rearranged
    refine ⟨moved.consistent consistent, fun entry listed =>
      Or.inl (moved.references.mem_iff.mpr listed), fun error raised => ?_, nofun⟩
    generalize QueueCall.exec (.retry message) queue = outcome at happened raised ⊢
    cases happened with
    | returned => cases raised
    | missing => rfl
  | deadLetter message =>
    have happened := deadLetter_outcome queue message
    obtain ⟨moved, -⟩ := happened.rearranged
    refine ⟨moved.consistent consistent, fun entry listed =>
      Or.inl (moved.references.mem_iff.mpr listed), fun error raised => ?_, nofun⟩
    generalize QueueCall.exec (.deadLetter message) queue = outcome at happened raised ⊢
    cases happened with
    | buried => cases raised
    | missing => rfl
  | recoverProcessing =>
    obtain ⟨moved, -⟩ := recoverProcessing_rearranged queue
    refine ⟨moved.consistent consistent, fun entry listed =>
      Or.inl (moved.references.mem_iff.mpr listed), fun error raised => ?_, nofun⟩
    rw [recoverProcessing_eq] at raised
    cases raised

/-- The keys after a sequence of operations on empty ones. -/
def queueAfter (history : List QueueCall) : TelemetryQueue :=
  history.foldl (fun queue call => (call.exec queue).2) .empty

/-- Every sequence of operations leaves a consistent queue. -/
theorem queueAfter_consistent (history : List QueueCall) : QueueConsistent (queueAfter history) := by
  -- On the history, from any consistent queue.
  have continued : ∀ queue, QueueConsistent queue →
      QueueConsistent (history.foldl (fun queue call => (call.exec queue).2) queue) := by
    induction history with
    | nil => exact fun _ consistent => consistent
    | cons call rest ih => exact fun queue consistent => ih _ (consistent.step call).consistent
  exact continued .empty .empty

/-- How the keys represent the queue, now and after whatever is called next. -/
structure QueueRepresented (queue : TelemetryQueue) : Prop where
  /-- A marker is set exactly for the jobs that have an entry. -/
  marked : ∀ jobId, (queue.marker jobId).isSome ↔
    ∃ message ∈ queue.references, message.jobId = jobId
  /-- Such a job has exactly one entry, and it is the marked one. -/
  single : ∀ jobId message, queue.marker jobId = some message →
    queue.references.filter (·.jobId = jobId) = [message]
  next : ∀ call, QueueStepped queue call

/--
The keys represent the queue after every sequence of operations.

Any caller may make any operation with any valid message at any time, whether it succeeds or raises:
acknowledging work that was never claimed, reusing a job identifier for another packet, recovering in
the middle of the work of others.
-/
theorem queue_represented (history : List QueueCall) : QueueRepresented (queueAfter history) := by
  -- A marker stands for exactly one listed message of its job.
  have consistent := queueAfter_consistent history
  refine ⟨fun jobId => ?_, fun jobId message => consistent.filter_eq, consistent.step⟩
  rw [Option.isSome_iff_exists]
  constructor
  · rintro ⟨message, marked⟩
    exact ⟨message, (consistent.marked jobId message).mp marked⟩
  · rintro ⟨message, listed⟩
    exact ⟨message, (consistent.marked jobId message).mpr listed⟩

end Cislunar
