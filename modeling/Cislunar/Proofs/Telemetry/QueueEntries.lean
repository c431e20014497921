import Cislunar.Proofs.Runtime.Uuid
import Cislunar.Proofs.Telemetry.Queue
import Cislunar.Telemetry.QueueEntries

/-!
What the queue operations do to the raw entries of a namespace.

Entries leave the pending list at one end and come to it at the other, so they are claimed in the order
in which they came.
-/

namespace Cislunar

/-- A text without spaces at its ends, neither empty nor over-long, is not complained about. -/
theorem textComplaint_eq_none {name : String} {text : List Char}
    (spaceless : ∀ char ∈ text, unicodeSpace char = false) (filled : text ≠ [])
    (short : text.length ≤ 128) : textComplaint name text = none := by
  -- The text is complained about for a space at one of its ends, for being empty or for its length.
  have head : text.head?.any unicodeSpace = false := by
    cases found : text.head? with
    | none => rfl
    | some char => exact spaceless char (List.mem_of_head? found)
  have last : text.getLast?.any unicodeSpace = false := by
    cases found : text.getLast? with
    | none => rfl
    | some char => exact spaceless char (List.mem_of_getLast? found)
  rw [textComplaint, if_neg (by simp [head, last, filled]), if_neg (by omega)]

/-- The text of a UUID is thirty-six characters long. -/
theorem UUID.toText_length (id : UUID) : id.toText.length = 36 := by
  -- 32 digits and four hyphens.
  have digits := id.digits_length
  rw [UUID.digits] at digits
  simp only [UUID.toText, List.length_append, List.length_cons, List.length_take, List.length_drop,
    digits]
  decide

/-- The canonical text of an identifier is not complained about. -/
theorem textComplaint_toText (name : String) (id : UUID) : textComplaint name id.toText = none := by
  -- The text is printable, not empty and shorter than the bound.
  have length := id.toText_length
  apply textComplaint_eq_none
  · exact id.forall_toText (by decide) (by decide)
  · intro empty
    rw [empty] at length
    cases length
  · omega

namespace QueueMessage

/-- The canonical texts of a message make the message. -/
theorem ofTexts_eq_ok (jobId : UUID) {packetId : String}
    (wellFormed : packetIdComplaint packetId = none) :
    ofTexts jobId.toText packetId.toList = .ok ⟨jobId, packetId, wellFormed⟩ := by
  -- A well-formed packet identifier has passed the check on texts already.
  have packet : textComplaint "packet_id" packetId.toList = none := by
    unfold packetIdComplaint at wellFormed
    dsimp only at wellFormed
    unfold textComplaint
    split_ifs at wellFormed ⊢
    rfl
  rw [ofTexts, textComplaint_toText]
  dsimp only
  rw [packet]
  dsimp only
  rw [parseUuid_toText]
  dsimp only
  rw [if_neg (by simp), String.ofList_toList, new_eq_ok jobId wellFormed]

/-- A message is read back from its bytes. -/
theorem fromJsonBytes_toJsonBytes (spareLevels : Nat) (message : QueueMessage) :
    fromJsonBytes spareLevels message.toJsonBytes = .ok message := by
  -- The reader undoes the printer up to the two texts, and the texts make the message.
  have exact_keys : hasExactKeys [("job_id".toList, .string message.jobId.toText),
      ("packet_id".toList, .string message.packetId.toList)] = true := rfl
  rw [fromJsonBytes, toJsonBytes, jsonLoads_dumpsStrings spareLevels (by decide)]
  dsimp only
  rw [if_pos exact_keys]
  show (ofTexts message.jobId.toText message.packetId.toList).mapError EntryError.queue = _
  rw [ofTexts_eq_ok message.jobId message.wellFormed]
  rfl

/-- Different messages have different bytes. -/
theorem toJsonBytes_injective {first second : QueueMessage}
    (same : first.toJsonBytes = second.toJsonBytes) : first = second := by
  -- The bytes read back as the message they were written from.
  have read := fromJsonBytes_toJsonBytes 0 first
  rw [same, fromJsonBytes_toJsonBytes] at read
  exact (Except.ok.inj read).symm

end QueueMessage

/-- The lists of a namespace have keys of their own. -/
structure QueueKeys.Distinct (keys : QueueKeys) : Prop where
  pending_processing : keys.pending ≠ keys.processing
  pending_failed : keys.pending ≠ keys.failed
  processing_failed : keys.processing ≠ keys.failed

/-- Keys of one namespace differ in what stands behind its name. -/
theorem append_key_ne {name first second : String} (different : first ≠ second) :
    name ++ first ≠ name ++ second := by
  -- The common front is cancelled.
  intro same
  apply different
  apply String.toList_inj.mp
  have texts := congrArg String.toList same
  rw [String.toList_append, String.toList_append] at texts
  exact List.append_cancel_left texts

/-- Every namespace has distinct keys. -/
theorem QueueKeys.distinct {name : String} {keys : QueueKeys}
    (made : QueueKeys.forNamespace name = some keys) : keys.Distinct := by
  -- The keys of a valid name differ in the words they end in.
  unfold QueueKeys.forNamespace at made
  dsimp only at made
  split at made
  · cases made
  · cases made
    exact ⟨append_key_ne (by decide), append_key_ne (by decide), append_key_ne (by decide)⟩

/-- `lrem` takes a value from the left end where it stands there. -/
theorem Redis.lrem_head {α : Type} [DecidableEq α] (value : α) (list : List α) :
    Redis.lrem value (value :: list) = (1, list) := by
  -- The first match is the head.
  rw [Redis.lrem, if_pos List.mem_cons_self, List.erase_cons_head]

/-- `lrem` of another value leaves the left end of a list in place. -/
theorem Redis.lrem_cons_ne {α : Type} [DecidableEq α] {value other : α} (different : other ≠ value)
    (list : List α) : (Redis.lrem value (other :: list)).2 ≠ list := by
  -- A removal shortens the list, and without one the left end is still there.
  have listed : value ∈ other :: list ↔ value ∈ list := by simp [different.symm]
  rw [Redis.lrem]
  intro same
  by_cases member : value ∈ list
  · rw [if_pos (listed.mpr member), List.erase_cons_tail (by simpa using different)] at same
    -- One occurrence of the value has gone.
    have counts := congrArg (List.count value) same
    have positive := List.count_pos_iff.mpr member
    rw [List.count_cons_of_ne different, List.count_erase_self] at counts
    omega
  · rw [if_neg (fun member' => member (listed.mp member'))] at same
    exact List.cons_ne_self other list same

namespace RedisStore
variable {keys : QueueKeys} {store : RedisStore} {entry : Bytes} {before : List Bytes}

/-- An empty list has nothing to move. -/
theorem rpoplpush_empty {source : String} (destination : String) (empty : store.lists source = []) :
    store.rpoplpush source destination = none := by
  -- An empty list has no last entry.
  rw [rpoplpush, empty]
  rfl

/-- The right end of one list moves to the left end of another. -/
theorem rpoplpush_entry {source destination : String} (different : source ≠ destination)
    (ends : store.lists source = before ++ [entry]) :
    store.rpoplpush source destination = some (entry, { store with
      lists := Function.update (Function.update store.lists source before) destination
        (entry :: store.lists destination) }) := by
  -- The last entry is taken, and the destination is another list.
  rw [rpoplpush, ends, List.getLast?_concat, List.dropLast_concat, Option.map_some]
  simp only [lpush, Redis.lpush, Function.update_of_ne different.symm]

/-- An entry that has just come to the left end of a list is moved on from there. -/
theorem moveScript_head {source destination : String} (different : source ≠ destination)
    (head : store.lists source = entry :: before) :
    store.moveScript source destination entry = (1, { store with
      lists := Function.update (Function.update store.lists source before) destination
        (entry :: store.lists destination) }) := by
  -- The scan finds the entry at once, and the push goes to another list.
  have removed : Redis.lrem entry (store.lists source) = (1, before) := by
    rw [head]
    exact Redis.lrem_head entry before
  rw [moveScript, lrem, removed]
  dsimp only
  rw [if_pos rfl]
  simp only [lpush, Redis.lpush, Function.update_of_ne different.symm]

/-- The store with its oldest pending entry in the processing list. -/
def held (store : RedisStore) (keys : QueueKeys) (before : List Bytes) (entry : Bytes) :
    RedisStore :=
  { store with
    lists := Function.update (Function.update store.lists keys.pending before) keys.processing
      (entry :: store.lists keys.processing) }

/-- Holding an entry is what the pop of a claim does. -/
theorem rpoplpush_held (distinct : keys.Distinct)
    (oldest : store.lists keys.pending = before ++ [entry]) :
    store.rpoplpush keys.pending keys.processing = some (entry, store.held keys before entry) :=
  rpoplpush_entry distinct.pending_processing oldest

/-- The held entry has left the pending list. -/
theorem held_pending (distinct : keys.Distinct) :
    (store.held keys before entry).lists keys.pending = before :=
  (Function.update_of_ne distinct.pending_processing _ _).trans (Function.update_self ..)

/-- The held entry stands at the left end of the processing list. -/
theorem held_processing : (store.held keys before entry).lists keys.processing =
    entry :: store.lists keys.processing :=
  Function.update_self ..

/-- The failed entries are not touched by holding another one. -/
theorem held_failed (distinct : keys.Distinct) :
    (store.held keys before entry).lists keys.failed = store.lists keys.failed :=
  (Function.update_of_ne distinct.processing_failed.symm _ _).trans
    (Function.update_of_ne distinct.pending_failed.symm _ _)

/-- A claimed entry that is a message is held. -/
theorem claim_message (distinct : keys.Distinct) {spareLevels : Nat}
    (oldest : store.lists keys.pending = before ++ [entry]) {message : QueueMessage}
    (parsed : QueueMessage.fromJsonBytes spareLevels entry = .ok message) :
    store.claim keys spareLevels = (.ok (some message), store.held keys before entry) := by
  -- The oldest entry is moved, and it parses.
  rw [claim, rpoplpush_held distinct oldest]
  dsimp only
  rw [parsed]

/-- A claimed entry that no handler is for stays where it is. -/
theorem claim_raises (distinct : keys.Distinct) {spareLevels : Nat}
    (oldest : store.lists keys.pending = before ++ [entry]) {error : EntryError}
    (raised : QueueMessage.fromJsonBytes spareLevels entry = .error error)
    (unhandled : ∀ text, error ≠ .queue (.message text)) :
    store.claim keys spareLevels = (.error error, store.held keys before entry) := by
  -- The move comes before the decoding, and neither handler is for this error.
  rw [claim, rpoplpush_held distinct oldest]
  dsimp only
  rw [raised]
  split
  · next same => cases same
  · next text same => exact absurd (Except.error.inj same) (unhandled text)
  · next other _ same => rw [← Except.error.inj same]

/-- A claimed entry that is malformed is quarantined. -/
theorem claim_malformed (distinct : keys.Distinct) {spareLevels : Nat}
    (oldest : store.lists keys.pending = before ++ [entry]) {text : String}
    (rejected : QueueMessage.fromJsonBytes spareLevels entry = .error (.queue (.message text))) :
    ∃ after, store.claim keys spareLevels = (.error (.queue (.message text)), after) ∧
      after.lists keys.pending = before ∧
      after.lists keys.processing = store.lists keys.processing ∧
      after.lists keys.failed = entry :: store.lists keys.failed := by
  -- The quarantine finds the entry at the left end of the processing list, where the claim has put
  -- it.
  have quarantined := moveScript_head distinct.processing_failed
    (@held_processing keys store entry before)
  rw [claim, rpoplpush_held distinct oldest]
  dsimp only
  rw [rejected]
  dsimp only
  rw [deadLetterScript, quarantined]
  refine ⟨_, rfl, ?_, ?_, ?_⟩
  · dsimp only
    rw [Function.update_of_ne distinct.pending_failed,
      Function.update_of_ne distinct.pending_processing, held_pending distinct]
  · dsimp only
    rw [Function.update_of_ne distinct.processing_failed, Function.update_self]
  · dsimp only
    rw [Function.update_self, held_failed distinct]

/-- A claim takes its entry from the pending list and answers what the parser makes of it. -/
theorem claim_entry (distinct : keys.Distinct) (spareLevels : Nat)
    (oldest : store.lists keys.pending = before ++ [entry]) :
    (store.claim keys spareLevels).1 = (QueueMessage.fromJsonBytes spareLevels entry).map some ∧
      (store.claim keys spareLevels).2.lists keys.pending = before := by
  -- Whatever the parser answers, the pop has taken the entry off the pending list before.
  have left : (store.held keys before entry).lists keys.pending = before := held_pending distinct
  cases parsed : QueueMessage.fromJsonBytes spareLevels entry with
  | ok message =>
    rw [claim_message distinct oldest parsed]
    exact ⟨rfl, left⟩
  | error error =>
    by_cases malformed : ∃ text, error = .queue (.message text)
    · obtain ⟨text, rfl⟩ := malformed
      obtain ⟨after, claimed, pending, -⟩ := claim_malformed distinct oldest parsed
      rw [claimed]
      exact ⟨rfl, pending⟩
    · rw [claim_raises distinct oldest parsed fun text same => malformed ⟨text, same⟩]
      exact ⟨rfl, left⟩

/-- Nothing is claimed from an empty list. -/
theorem claim_empty (spareLevels : Nat) (empty : store.lists keys.pending = []) :
    store.claim keys spareLevels = (.ok none, store) := by
  -- There is nothing to move.
  rw [claim, rpoplpush_empty _ empty]

/-- Claims in a row take the pending entries from the right end on. -/
theorem deliveries_eq (distinct : keys.Distinct) (spareLevels count : Nat) :
    store.deliveries keys spareLevels count =
      answered spareLevels ((store.lists keys.pending).reverse.take count) := by
  -- By induction on the number of claims, each of which takes the right end.
  induction count generalizing store with
  | zero => rfl
  | succ count ih =>
    rw [deliveries, ih]
    rcases List.eq_nil_or_concat (store.lists keys.pending) with empty | ⟨before, entry, oldest⟩
    · rw [claim_empty spareLevels empty, empty]
      simp [answered]
    · rw [List.concat_eq_append] at oldest
      obtain ⟨answered, left⟩ := claim_entry distinct spareLevels oldest
      rw [answered, left, oldest, List.getLast?_concat, List.reverse_append]
      rfl

/-- The recovery moves the processing entries in front of the pending ones. -/
theorem recoverProcessingScript_eq {processing pending : String} (different : processing ≠ pending)
    (recovered : Nat) {fuel : Nat} (enough : (store.lists processing).length < fuel) :
    ∃ after, recoverProcessingScript processing pending fuel recovered store =
        some (recovered + (store.lists processing).length, after) ∧
      after.lists processing = [] ∧
      after.lists pending = store.lists processing ++ store.lists pending ∧
      (∀ key, key ≠ processing → key ≠ pending → after.lists key = store.lists key) ∧
      after.strings = store.strings := by
  -- Each turn takes the right end of the one list to the left end of the other.
  generalize held : store.lists processing = entries at enough
  induction entries using List.reverseRecOn generalizing store recovered fuel with
  | nil =>
    obtain ⟨fuel, rfl⟩ := Nat.exists_eq_add_one_of_ne_zero (show fuel ≠ 0 by omega)
    rw [recoverProcessingScript, rpoplpush_empty _ held]
    exact ⟨store, rfl, held, rfl, fun _ _ _ => rfl, rfl⟩
  | append_singleton before entry ih =>
    obtain ⟨fuel, rfl⟩ := Nat.exists_eq_add_one_of_ne_zero (show fuel ≠ 0 by omega)
    rw [recoverProcessingScript, rpoplpush_entry different held]
    dsimp only
    rw [List.length_append, List.length_singleton] at enough
    obtain ⟨after, ended, emptied, placed, kept, marked⟩ := @ih { store with
        lists := Function.update (Function.update store.lists processing before) pending
          (entry :: store.lists pending) } (recovered + 1) fuel
      ((Function.update_of_ne different _ _).trans (Function.update_self ..)) (by omega)
    refine ⟨after, ?_, emptied, ?_, ?_, marked⟩
    · rw [ended, List.length_append, List.length_singleton]
      congr 2
      omega
    · rw [placed, List.append_assoc]
      congr 1
      exact Function.update_self ..
    · intro key other apart
      rw [kept key other apart]
      dsimp only
      rw [Function.update_of_ne apart, Function.update_of_ne other]

/-- A script that found its entry has moved it. -/
theorem moveScript_pushes {source destination : String} (different : source ≠ destination)
    (removed : (store.moveScript source destination entry).1 = 1) :
    (store.moveScript source destination entry).2.lists destination =
      entry :: store.lists destination := by
  -- The script pushes only in the branch of an entry that was found.
  unfold moveScript at removed ⊢
  dsimp only [lrem] at removed ⊢
  split at removed
  · next found =>
    rw [if_pos found]
    dsimp only [lpush, Redis.lpush]
    rw [Function.update_self, Function.update_of_ne different.symm]
  · next missing => exact absurd removed missing

/-- A retried entry is the last one to be claimed. -/
theorem retry_pushes {message : QueueMessage} (distinct : keys.Distinct)
    (returned : (store.retry keys message).1 = .ok ()) :
    (store.retry keys message).2.lists keys.pending =
      message.toJsonBytes :: store.lists keys.pending := by
  -- The answer tells that the entry was found.
  rw [retry, requireRemoved, retryScript] at returned ⊢
  split at returned
  · next found =>
    rw [if_pos found]
    exact moveScript_pushes distinct.pending_processing.symm found
  · cases returned

/-- A new entry is the last one to be claimed. -/
theorem enqueue_pushes {message : QueueMessage}
    (added : (store.enqueue keys message).1 = .ok true) :
    (store.enqueue keys message).2.lists keys.pending =
      message.toJsonBytes :: store.lists keys.pending := by
  rw [enqueue, enqueueScript] at added ⊢
  -- Only an unmarked job adds an entry.
  cases marked : store.strings (keys.marker message.jobId) with
  | none => exact Function.update_self ..
  | some existing =>
    rw [marked] at added
    dsimp only at added
    -- Neither a duplicate nor a conflict answers that the entry was added.
    split at added <;> simp at added

/--
Recovery loses nothing and keeps the order of the claims.

It ends for every namespace, returns how many entries it moved and leaves the failed entries and the
markers alone. Afterwards the entries that were pending are claimed in their order, and then the ones
that had been claimed, in the order of their claims. New and retried entries stand behind all others.
-/
theorem recovery_keeps_order {name : String} (made : QueueKeys.forNamespace name = some keys)
    (store : RedisStore) (spareLevels : Nat) :
    (∀ fuel, (store.lists keys.processing).length < fuel → ∃ after,
      store.recoverProcessing keys fuel = some ((store.lists keys.processing).length, after) ∧
      after.lists keys.processing = [] ∧ after.lists keys.failed = store.lists keys.failed ∧
      after.strings = store.strings ∧
      ∀ count, after.deliveries keys spareLevels count = answered spareLevels
        (((store.lists keys.pending).reverse ++ (store.lists keys.processing).reverse).take count)) ∧
    (∀ message, (store.enqueue keys message).1 = .ok true → ∀ count,
      (store.enqueue keys message).2.deliveries keys spareLevels count = answered spareLevels
        (((store.lists keys.pending).reverse ++ [message.toJsonBytes]).take count)) ∧
    ∀ message, (store.retry keys message).1 = .ok () → ∀ count,
      (store.retry keys message).2.deliveries keys spareLevels count = answered spareLevels
        (((store.lists keys.pending).reverse ++ [message.toJsonBytes]).take count) := by
  -- The three parts differ only in the pending list that the claims start from.
  have distinct := QueueKeys.distinct made
  refine ⟨?_, ?_, ?_⟩
  · intro fuel enough
    obtain ⟨after, ended, emptied, placed, kept, marked⟩ :=
      recoverProcessingScript_eq distinct.pending_processing.symm 0 enough
    rw [Nat.zero_add] at ended
    refine ⟨after, ended, emptied, ?_, marked, ?_⟩
    · exact kept keys.failed distinct.processing_failed.symm distinct.pending_failed.symm
    · intro count
      rw [deliveries_eq distinct, placed, List.reverse_append]
  · intro message added count
    rw [deliveries_eq distinct, enqueue_pushes added, List.reverse_cons]
  · intro message returned count
    rw [deliveries_eq distinct, retry_pushes distinct returned, List.reverse_cons]

/-- The keys of the default namespace. -/
def groundKeys : QueueKeys where
  pending := "ground:telemetry:jobs:pending"
  processing := "ground:telemetry:jobs:processing"
  failed := "ground:telemetry:jobs:failed"
  markerPrefix := "ground:telemetry:jobs:marker"

/-- A store whose worker has stopped with two entries in hand. -/
def strandedStore : RedisStore where
  lists key :=
    if key = groundKeys.pending then [[4], [3]]
    else if key = groundKeys.processing then [[2], [1]]
    else []

/-- The entries in hand are claimed again behind the entries that were pending. -/
theorem stranded_entries_recovered :
    ∃ after, strandedStore.recoverProcessing groundKeys 3 = some (2, after) ∧
      ∀ count, after.deliveries groundKeys 0 count =
        answered 0 (([[3], [4], [1], [2]] : List Bytes).take count) := by
  -- The recovery is run; what the claims after it yield is the theorem's.
  have made : QueueKeys.forNamespace "ground:telemetry:jobs" = some groundKeys := by decide +kernel
  obtain ⟨after, ended, -, -, -, claims⟩ :=
    (recovery_keeps_order made strandedStore 0).1 3 (by decide +kernel)
  exact ⟨after, ended, claims⟩

/-- An operation on a claimed entry succeeds and takes exactly that entry off the processing list. -/
def Removes (keys : QueueKeys) (store : RedisStore)
    (outcome : Except EntryError Unit × RedisStore) : Prop :=
  outcome.1 = .ok () ∧ outcome.2.lists keys.processing = store.lists keys.processing

/-- A claim hands out a message that can be dealt with in every way, or quarantines its entry. -/
def Settles (keys : QueueKeys) (spareLevels : Nat) (store : RedisStore) (entry : Bytes) : Prop :=
  match store.claim keys spareLevels with
  | (.ok (some message), after) =>
    after.lists keys.processing = entry :: store.lists keys.processing ∧
      Removes keys store (after.ack keys message) ∧ Removes keys store (after.retry keys message) ∧
      Removes keys store (after.deadLetter keys message)
  | (.error (.queue (.message _)), after) =>
    after.lists keys.processing = store.lists keys.processing ∧
      after.lists keys.failed = entry :: store.lists keys.failed
  | _ => False

/-- A message whose bytes are not those of the held entry does not remove that entry. -/
theorem not_removes_ack {message : QueueMessage} (different : message.toJsonBytes ≠ entry) :
    ¬Removes keys store ((store.held keys before entry).ack keys message) := by
  rintro ⟨succeeded, left⟩
  -- If the operation succeeded, the script has removed the bytes of the message somewhere else.
  rw [ack, requireRemoved] at succeeded left
  split at succeeded
  · next removed =>
    rw [if_pos removed] at left
    have stays := Redis.lrem_cons_ne different.symm (store.lists keys.processing)
    rw [ackScript, lrem, held_processing] at removed left
    generalize Redis.lrem message.toJsonBytes (entry :: store.lists keys.processing) = outcome
      at removed left stays
    obtain ⟨count, rest⟩ := outcome
    dsimp only at removed left stays
    split at removed
    · next one =>
      rw [if_pos one] at left
      dsimp only [del] at left
      rw [Function.update_self] at left
      exact stays left
    · next other => exact other removed
  · cases succeeded

/-- A message with the bytes of the held entry removes it, whatever becomes of the work. -/
theorem removes_held {message : QueueMessage} (distinct : keys.Distinct)
    (same : message.toJsonBytes = entry) :
    Removes keys store ((store.held keys before entry).ack keys message) ∧
      Removes keys store ((store.held keys before entry).retry keys message) ∧
      Removes keys store ((store.held keys before entry).deadLetter keys message) := by
  -- Each operation looks for the bytes of the message, which stand at the left end.
  have moved : ∀ {destination}, keys.processing ≠ destination → Removes keys store
      (requireRemoved message
        ((store.held keys before entry).moveScript keys.processing destination entry)) := by
    intro destination other
    rw [moveScript_head other (@held_processing keys store entry before), requireRemoved,
      if_pos rfl]
    refine ⟨rfl, ?_⟩
    dsimp only
    rw [Function.update_of_ne other, Function.update_self]
  rw [ack, retry, deadLetter, same]
  refine ⟨?_, moved distinct.pending_processing.symm, moved distinct.processing_failed⟩
  have removed : Redis.lrem entry ((store.held keys before entry).lists keys.processing) =
      (1, store.lists keys.processing) := by
    rw [held_processing]
    exact Redis.lrem_head entry _
  rw [ackScript, lrem, removed]
  dsimp only
  rw [if_pos rfl, requireRemoved, if_pos rfl]
  exact ⟨rfl, Function.update_self ..⟩

/--
A claim settles its entry exactly when the entry is the serialization of a message, or is rejected as
malformed.

Whatever else the parser reads as a message is claimed and then not found again, and an over-long
number or a deep nesting leaves its entry in the processing list.
-/
theorem claim_settles_iff {name : String} (made : QueueKeys.forNamespace name = some keys)
    (spareLevels : Nat) (oldest : store.lists keys.pending = before ++ [entry]) :
    Settles keys spareLevels store entry ↔
      (∃ message : QueueMessage, message.toJsonBytes = entry) ∨
        ∃ text, QueueMessage.fromJsonBytes spareLevels entry = .error (.queue (.message text)) := by
  -- What happens to the entry depends on the answer of the parser alone.
  have distinct := QueueKeys.distinct made
  unfold Settles
  cases parsed : QueueMessage.fromJsonBytes spareLevels entry with
  | ok message =>
    rw [claim_message distinct oldest parsed]
    dsimp only
    constructor
    · rintro ⟨-, acknowledged, -⟩
      by_contra neither
      exact not_removes_ack (fun same => neither (.inl ⟨message, same⟩)) acknowledged
    · rintro (⟨written, rfl⟩ | ⟨text, rejected⟩)
      · -- Only the message that was written is read back.
        rw [QueueMessage.fromJsonBytes_toJsonBytes, Except.ok.injEq] at parsed
        subst parsed
        exact ⟨held_processing, removes_held distinct rfl⟩
      · cases rejected
  | error error =>
    by_cases malformed : ∃ text, error = .queue (.message text)
    · obtain ⟨text, rfl⟩ := malformed
      obtain ⟨after, claimed, -, processing, failed⟩ := claim_malformed distinct oldest parsed
      rw [claimed]
      exact iff_of_true ⟨processing, failed⟩ (.inr ⟨text, rfl⟩)
    · have unhandled : ∀ text, error ≠ .queue (.message text) :=
        fun text same => malformed ⟨text, same⟩
      rw [claim_raises distinct oldest parsed unhandled]
      constructor
      -- An error that no handler is for settles nothing.
      · intro settles
        split at settles
        · next same => cases (Prod.mk.inj same).1
        · next text after same => exact absurd (Except.error.inj (Prod.mk.inj same).1) (unhandled text)
        · exact settles.elim
      · rintro (⟨written, rfl⟩ | ⟨text, rejected⟩)
        · rw [QueueMessage.fromJsonBytes_toJsonBytes] at parsed
          cases parsed
        · exact absurd (Except.error.inj rejected) (unhandled text)

/-- The reference of a first packet. -/
def firstMessage : QueueMessage := ⟨1, "TLM-P01-B00000001-S00000000", by decide⟩

/-- A store with one pending entry. -/
def storeWith (entry : Bytes) : RedisStore where
  lists key := if key = groundKeys.pending then [entry] else []

/-- Its only pending entry is the one that it was made with. -/
theorem storeWith_pending (entry : Bytes) :
    (storeWith entry).lists groundKeys.pending = [] ++ [entry] := by
  -- The store has one list that is not empty.
  unfold storeWith
  dsimp only
  rw [if_pos rfl, List.nil_append]

/-- A written message is claimed and can be dealt with. -/
theorem written_entry_settles :
    Settles groundKeys 0 (storeWith firstMessage.toJsonBytes) firstMessage.toJsonBytes := by
  -- The entry was written from a message; its bytes need not be computed.
  have made : QueueKeys.forNamespace "ground:telemetry:jobs" = some groundKeys := by decide +kernel
  generalize written : firstMessage.toJsonBytes = entry
  exact (claim_settles_iff made 0 (storeWith_pending entry)).mpr (.inl ⟨firstMessage, written⟩)

/-- A message behind a space is claimed, and then it cannot be acknowledged. -/
theorem spaced_entry_unsettled :
    ¬∀ (name : String) (keys : QueueKeys) (spareLevels : Nat) (store : RedisStore)
      (before : List Bytes) (entry : Bytes), QueueKeys.forNamespace name = some keys →
      store.lists keys.pending = before ++ [entry] → Settles keys spareLevels store entry := by
  intro claimed
  have made : QueueKeys.forNamespace "ground:telemetry:jobs" = some groundKeys := by decide +kernel
  -- The parser skips the space, but the message is written without it.
  have parsed : QueueMessage.fromJsonBytes 0 (0x20 :: firstMessage.toJsonBytes) =
      .ok firstMessage := by decide +kernel
  have different : firstMessage.toJsonBytes ≠ 0x20 :: firstMessage.toJsonBytes :=
    (List.cons_ne_self _ _).symm
  generalize 0x20 :: firstMessage.toJsonBytes = entry at parsed different
  have settles := claimed _ _ 0 _ _ _ made (storeWith_pending entry)
  rw [Settles, claim_message (QueueKeys.distinct made) (storeWith_pending entry) parsed] at settles
  exact not_removes_ack different settles.2.1

end RedisStore

end Cislunar
