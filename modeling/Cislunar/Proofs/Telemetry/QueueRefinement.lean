import Cislunar.Proofs.Telemetry.Queue
import Cislunar.Proofs.Telemetry.QueueEntries

/-!
The raw entries of a namespace represent a queue of messages.

Every operation on the raw entries answers what the operation on the messages answers and leaves their
representation, so what holds of queues of messages holds of the entries that the system writes.
-/

namespace Cislunar

/-- The keys of a namespace hold the serializations of a queue. -/
structure Represents (keys : QueueKeys) (store : RedisStore) (queue : TelemetryQueue) : Prop where
  pending : store.lists keys.pending = queue.pending.map QueueMessage.toJsonBytes
  processing : store.lists keys.processing = queue.processing.map QueueMessage.toJsonBytes
  failed : store.lists keys.failed = queue.failed.map QueueMessage.toJsonBytes
  marker : ∀ jobId, store.strings (keys.marker jobId) =
    (queue.marker jobId).map QueueMessage.toJsonBytes

/-- An outcome over raw entries is that over messages. -/
def Refines {α : Type} (keys : QueueKeys) (raw : Except EntryError α × RedisStore)
    (outcome : Except QueueError α × TelemetryQueue) : Prop :=
  raw.1 = outcome.1.mapError .queue ∧ Represents keys raw.2 outcome.2

/-- Jobs have markers of their own. -/
theorem QueueKeys.marker_injective (keys : QueueKeys) {first second : UUID}
    (same : keys.marker first = keys.marker second) : first = second := by
  -- The text of a UUID follows the prefix, and it is read back as the UUID.
  have texts := congrArg String.toList same
  simp only [QueueKeys.marker, String.toList_append, UUID.str, String.toList_ofList] at texts
  have text := List.append_cancel_left texts
  have parsed := parseUuid_toText first
  rw [text, parseUuid_toText] at parsed
  exact (Option.some.inj parsed).symm

/-- `lrem` finds a value under an injective map where it finds the value. -/
theorem Redis.lrem_map {α β : Type} [DecidableEq α] [DecidableEq β] {f : α → β}
    (injective : Function.Injective f) (value : α) (list : List α) :
    Redis.lrem (f value) (list.map f) =
      ((Redis.lrem value list).1, (Redis.lrem value list).2.map f) := by
  -- Erasing commutes with an injective map.
  have listed : f value ∈ list.map f ↔ value ∈ list := List.mem_map_of_injective injective
  rw [Redis.lrem, Redis.lrem]
  by_cases member : value ∈ list
  · rw [if_pos member, if_pos (listed.mpr member), List.map_erase injective]
  · rw [if_neg member, if_neg fun other => member (listed.mp other)]

namespace Represents
variable {keys : QueueKeys} {store : RedisStore} {queue : TelemetryQueue} {message : QueueMessage}

/-- A marker that is set or deleted is that of its own job. -/
theorem marker_update (represents : Represents keys store queue) (jobId : UUID)
    {raw : Option Bytes} {entry : Option QueueMessage}
    (same : raw = entry.map QueueMessage.toJsonBytes) (other : UUID) :
    Function.update store.strings (keys.marker jobId) raw (keys.marker other) =
      (Function.update queue.marker jobId entry other).map QueueMessage.toJsonBytes := by
  -- Another job has another marker.
  by_cases own : other = jobId
  · rw [own, Function.update_self, Function.update_self, same]
  · have apart : keys.marker other ≠ keys.marker jobId := fun equal =>
      own (keys.marker_injective equal)
    rw [Function.update_of_ne apart, Function.update_of_ne own, represents.marker]

/-- A scan for an entry finds the message that it stands for. -/
theorem lrem (represents : Represents keys store queue) (message : QueueMessage) :
    store.lrem keys.processing message.toJsonBytes =
      ((Redis.lrem message queue.processing).1, { store with
        lists := Function.update store.lists keys.processing
          ((Redis.lrem message queue.processing).2.map QueueMessage.toJsonBytes) }) := by
  -- Messages are determined by their serialization.
  have injective : Function.Injective QueueMessage.toJsonBytes :=
    fun _ _ => QueueMessage.toJsonBytes_injective
  rw [RedisStore.lrem, represents.processing, Redis.lrem_map injective]

/-- `enqueue` over raw entries is `enqueue` over messages. -/
theorem enqueue (represents : Represents keys store queue) (distinct : keys.Distinct)
    (message : QueueMessage) :
    Refines keys (store.enqueue keys message) ((QueueCall.enqueue message).exec queue) := by
  -- The script branches on the marker: there is none, it is that of the message, or of another one.
  have injective : ∀ existing : QueueMessage,
      existing.toJsonBytes = message.toJsonBytes ↔ existing = message :=
    fun _ => ⟨QueueMessage.toJsonBytes_injective, congrArg _⟩
  have marked := represents.marker_update message.jobId
    (show some message.toJsonBytes = (some message).map QueueMessage.toJsonBytes from rfl)
  have pushed : message.toJsonBytes :: store.lists keys.pending =
      (message :: queue.pending).map QueueMessage.toJsonBytes := by
    rw [represents.pending, List.map_cons]
  rw [RedisStore.enqueue, RedisStore.enqueueScript, QueueCall.exec, TelemetryQueue.enqueueScript,
    represents.marker]
  generalize message.toJsonBytes = entry at marked pushed injective
  cases queue.marker message.jobId with
  | none =>
    dsimp only [Option.map_none]
    rw [if_neg (by decide), if_neg (by decide)]
    refine ⟨rfl, ?_, ?_, ?_, marked⟩
    · exact (Function.update_self ..).trans pushed
    · exact (Function.update_of_ne distinct.pending_processing.symm _ _).trans represents.processing
    · exact (Function.update_of_ne distinct.pending_failed.symm _ _).trans represents.failed
  | some existing =>
    dsimp only [Option.map_some]
    by_cases same : existing = message
    · rw [if_pos ((injective existing).mpr same), if_pos same, if_neg (by simp), if_neg (by simp)]
      exact ⟨rfl, represents⟩
    · rw [if_neg fun equal => same ((injective existing).mp equal), if_neg same, if_pos rfl,
        if_pos rfl]
      exact ⟨rfl, represents⟩

/-- `claim` over raw entries is `claim` over messages, and nothing is quarantined. -/
theorem claim (represents : Represents keys store queue) (distinct : keys.Distinct)
    (spareLevels : Nat) :
    Refines keys (store.claim keys spareLevels) (QueueCall.claim.exec queue) := by
  -- The oldest entry is the last one of the list, and it is the serialization of a message.
  have happened := claim_outcome queue
  generalize QueueCall.claim.exec queue = outcome at happened
  cases happened with
  | idle empty =>
    have nothing : store.lists keys.pending = [] := by rw [represents.pending, empty, List.map_nil]
    rw [RedisStore.claim_empty spareLevels nothing]
    exact ⟨rfl, represents⟩
  | @claimed rest message oldest =>
    have ends : store.lists keys.pending =
        rest.map QueueMessage.toJsonBytes ++ [message.toJsonBytes] := by
      rw [represents.pending, oldest, List.map_append, List.map_singleton]
    rw [RedisStore.claim_message distinct ends (QueueMessage.fromJsonBytes_toJsonBytes ..)]
    refine ⟨rfl, RedisStore.held_pending distinct, ?_, ?_, represents.marker⟩
    · rw [RedisStore.held_processing, represents.processing]
      rfl
    · rw [RedisStore.held_failed distinct, represents.failed]

/-- A script that has to find its entry answers as over messages. -/
theorem requireRemoved {removed : Nat} {after : RedisStore} {later : TelemetryQueue}
    (represented : Represents keys after later) :
    Refines keys (RedisStore.requireRemoved message (removed, after))
      (QueueCall.requireRemoved message (removed, later)) := by
  -- Both sides ask whether an entry was removed.
  rw [RedisStore.requireRemoved, QueueCall.requireRemoved]
  dsimp only
  split
  · exact ⟨rfl, represented⟩
  · exact ⟨rfl, represented⟩

/-- An entry fewer in the processing list is represented. -/
theorem scanned (represents : Represents keys store queue) (distinct : keys.Distinct)
    (processing : List QueueMessage) :
    Represents keys
      { store with
        lists := Function.update store.lists keys.processing
          (processing.map QueueMessage.toJsonBytes) }
      { queue with processing := processing } where
  pending := (Function.update_of_ne distinct.pending_processing _ _).trans represents.pending
  processing := Function.update_self ..
  failed := (Function.update_of_ne distinct.processing_failed.symm _ _).trans represents.failed
  marker := represents.marker

/-- `ack` over raw entries is `ack` over messages. -/
theorem ack (represents : Represents keys store queue) (distinct : keys.Distinct)
    (message : QueueMessage) :
    Refines keys (store.ack keys message) ((QueueCall.ack message).exec queue) := by
  -- The processing list is scanned on both sides; only an entry that was found clears its marker.
  rw [RedisStore.ack, RedisStore.ackScript, represents.lrem, QueueCall.exec,
    TelemetryQueue.ackScript]
  have rest := represents.scanned distinct (Redis.lrem message queue.processing).2
  have cleared := represents.marker_update message.jobId
    (show (none : Option Bytes) = (none : Option QueueMessage).map QueueMessage.toJsonBytes from rfl)
  generalize Redis.lrem message queue.processing = outcome at rest
  obtain ⟨removed, processing⟩ := outcome
  dsimp only at rest ⊢
  split
  · apply requireRemoved
    exact ⟨rest.pending, rest.processing, rest.failed, cleared⟩
  · exact requireRemoved rest

/-- `retry` over raw entries is `retry` over messages. -/
theorem retry (represents : Represents keys store queue) (distinct : keys.Distinct)
    (message : QueueMessage) :
    Refines keys (store.retry keys message) ((QueueCall.retry message).exec queue) := by
  -- Only an entry that was found is put in front of the pending list.
  rw [RedisStore.retry, RedisStore.retryScript, RedisStore.moveScript, represents.lrem,
    QueueCall.exec, TelemetryQueue.retryScript]
  have rest := represents.scanned distinct (Redis.lrem message queue.processing).2
  generalize Redis.lrem message queue.processing = outcome at rest
  obtain ⟨removed, processing⟩ := outcome
  dsimp only at rest ⊢
  split
  · apply requireRemoved
    refine ⟨(Function.update_self ..).trans (congrArg (List.cons _) rest.pending), ?_, ?_,
      rest.marker⟩
    · exact (Function.update_of_ne distinct.pending_processing.symm _ _).trans rest.processing
    · exact (Function.update_of_ne distinct.pending_failed.symm _ _).trans rest.failed
  · exact requireRemoved rest

/-- `dead_letter` over raw entries is `dead_letter` over messages. -/
theorem deadLetter (represents : Represents keys store queue) (distinct : keys.Distinct)
    (message : QueueMessage) :
    Refines keys (store.deadLetter keys message) ((QueueCall.deadLetter message).exec queue) := by
  -- Only an entry that was found is put in front of the failed list.
  rw [RedisStore.deadLetter, RedisStore.deadLetterScript, RedisStore.moveScript, represents.lrem,
    QueueCall.exec, TelemetryQueue.deadLetterScript]
  have rest := represents.scanned distinct (Redis.lrem message queue.processing).2
  generalize Redis.lrem message queue.processing = outcome at rest
  obtain ⟨removed, processing⟩ := outcome
  dsimp only at rest ⊢
  split
  · apply requireRemoved
    refine ⟨?_, ?_, (Function.update_self ..).trans (congrArg (List.cons _) rest.failed),
      rest.marker⟩
    · exact (Function.update_of_ne distinct.pending_failed _ _).trans rest.pending
    · exact (Function.update_of_ne distinct.processing_failed _ _).trans rest.processing
  · exact requireRemoved rest

/-- `recover_processing` over raw entries ends and is that over messages. -/
theorem recoverProcessing (represents : Represents keys store queue) (distinct : keys.Distinct)
    {fuel : Nat} (enough : queue.processing.length < fuel) :
    ∃ recovered after, store.recoverProcessing keys fuel = some (recovered, after) ∧
      Refines keys (.ok recovered, after) (QueueCall.recoverProcessing.exec queue) := by
  -- The loop ends within the length of the processing list and moves all of it.
  have length : (store.lists keys.processing).length = queue.processing.length := by
    rw [represents.processing, List.length_map]
  obtain ⟨after, ended, emptied, placed, kept, marked⟩ :=
    RedisStore.recoverProcessingScript_eq distinct.pending_processing.symm 0
      (show (store.lists keys.processing).length < fuel by omega)
  rw [Nat.zero_add, length] at ended
  refine ⟨queue.processing.length, after, ended, ?_⟩
  rw [recoverProcessing_eq]
  refine ⟨rfl, ?_, emptied, ?_, ?_⟩
  · rw [placed, represents.pending, represents.processing]
    exact List.map_append.symm
  · rw [kept _ distinct.processing_failed.symm distinct.pending_failed.symm]
    exact represents.failed
  · rw [marked]
    exact represents.marker

/-- Every operation over raw entries is that over messages. -/
theorem step (represents : Represents keys store queue) (distinct : keys.Distinct)
    (spareLevels : Nat) (call : QueueCall) :
    Refines keys (store.exec keys spareLevels call) (call.exec queue) := by
  cases call with
  | enqueue message => exact represents.enqueue distinct message
  | claim => exact represents.claim distinct spareLevels
  | ack message => exact represents.ack distinct message
  | retry message => exact represents.retry distinct message
  | deadLetter message => exact represents.deadLetter distinct message
  | recoverProcessing =>
    -- The recovery has one turn for each entry and one to find that there are no more.
    have enough : queue.processing.length < (store.lists keys.processing).length + 1 := by
      rw [represents.processing, List.length_map]
      omega
    obtain ⟨recovered, after, ended, refines⟩ := represents.recoverProcessing distinct enough
    rw [RedisStore.exec, ended]
    exact refines

/-- Empty keys represent an empty queue. -/
theorem empty (keys : QueueKeys) : Represents keys {} .empty := ⟨rfl, rfl, rfl, fun _ => rfl⟩

/-- Whatever is called on an empty server, its entries represent the queue after the same calls. -/
theorem run (distinct : keys.Distinct) (history : List (Nat × QueueCall)) :
    Represents keys (RedisStore.after keys history) (queueAfter (history.map (·.2))) := by
  -- By induction on the calls, from any entries that represent a queue.
  have continued : ∀ store queue, Represents keys store queue →
      Represents keys (history.foldl (fun store next => (store.exec keys next.1 next.2).2) store)
        ((history.map (·.2)).foldl (fun queue call => (call.exec queue).2) queue) := by
    induction history with
    | nil => exact fun _ _ represents => represents
    | cons next rest ih =>
      exact fun _ _ represents => ih _ _ (represents.step distinct next.1 next.2).2
  exact continued {} .empty (empty keys)

/-- The entries of the three lists are the messages of the queue, written out. -/
theorem entries (represents : Represents keys store queue) :
    store.entries keys = queue.references.map QueueMessage.toJsonBytes := by
  -- List by list.
  rw [RedisStore.entries, represents.pending, represents.processing, represents.failed,
    TelemetryQueue.references, List.map_append, List.map_append]

end Represents

/-- How raw entries stand for a queue, now and after whatever is called next. -/
structure EntriesRepresented (keys : QueueKeys) (store : RedisStore) (queue : TelemetryQueue) :
    Prop where
  /-- A marker is set exactly for the jobs that have an entry. -/
  marked : ∀ jobId, (store.strings (keys.marker jobId)).isSome ↔
    ∃ message : QueueMessage, message.jobId = jobId ∧ message.toJsonBytes ∈ store.entries keys
  /-- Such a job has exactly one entry, with the bytes of the marker. -/
  single : ∀ jobId raw, store.strings (keys.marker jobId) = some raw →
    ∃ message : QueueMessage, message.jobId = jobId ∧ message.toJsonBytes = raw ∧
      (store.entries keys).count raw = 1 ∧
      ∀ other : QueueMessage, other.jobId = jobId → other.toJsonBytes ∈ store.entries keys →
        other = message
  next : ∀ spareLevels call, Refines keys (store.exec keys spareLevels call) (call.exec queue)

/--
The raw keys represent the queue after every sequence of operations.

The entries, the markers and the answers of the scripts are those of the queue of messages, so its
invariant is that of the bytes: no operation meets an entry that it did not write.
-/
theorem entries_represented {keys : QueueKeys} (distinct : keys.Distinct)
    (history : List (Nat × QueueCall)) :
    EntriesRepresented keys (RedisStore.after keys history) (queueAfter (history.map (·.2))) := by
  have represents := Represents.run distinct history
  have consistent := queueAfter_consistent (history.map (·.2))
  generalize RedisStore.after keys history = store at represents ⊢
  generalize queueAfter (history.map (·.2)) = queue at represents consistent ⊢
  have injective : Function.Injective QueueMessage.toJsonBytes :=
    fun _ _ => QueueMessage.toJsonBytes_injective
  have listed : ∀ message : QueueMessage, message.toJsonBytes ∈ store.entries keys ↔
      message ∈ queue.references := fun message => by
    rw [represents.entries, List.mem_map_of_injective injective]
  refine ⟨fun jobId => ?_, fun jobId raw marked => ?_, represents.step distinct⟩
  · rw [represents.marker, Option.isSome_map, Option.isSome_iff_exists]
    constructor
    · rintro ⟨message, marked⟩
      obtain ⟨member, own⟩ := (consistent.marked jobId message).mp marked
      exact ⟨message, own, (listed message).mpr member⟩
    · rintro ⟨message, own, member⟩
      exact ⟨message, (consistent.marked jobId message).mpr ⟨(listed message).mp member, own⟩⟩
  · rw [represents.marker] at marked
    obtain ⟨message, held, rfl⟩ := Option.map_eq_some_iff.mp marked
    obtain ⟨member, own⟩ := (consistent.marked jobId message).mp held
    refine ⟨message, own, rfl, ?_, fun other same also => ?_⟩
    · -- No message stands twice in the lists, and different messages have different bytes.
      rw [represents.entries, List.count_map_of_injective _ _ injective]
      exact List.count_eq_one_of_mem consistent.distinct member
    · exact consistent.eq_of_jobId ((listed other).mp also) member (same.trans own.symm)

end Cislunar
