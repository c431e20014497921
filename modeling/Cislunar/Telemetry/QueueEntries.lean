import Cislunar.Runtime.Json
import Cislunar.Telemetry.Queue

/-!
The Redis queue as it is stored: keys, raw entries and scripts, with the parser that reads an entry.

Anything can stand in a list, so claiming may meet an entry that no message was written as.
-/

namespace Cislunar

/-- What an operation raises that may read a raw entry. -/
inductive EntryError where
  | queue (error : QueueError)
  /-- `RecursionError`. -/
  | recursion
  /-- A plain `ValueError`. -/
  | value
  deriving DecidableEq, Repr

/-- The complaint of `__post_init__` about either text. -/
def textComplaint (name : String) (text : List Char) : Option String :=
  if text.isEmpty ∨ text.head?.any unicodeSpace ∨ text.getLast?.any unicodeSpace then
    some (name ++ " must be a non-empty, trimmed string")
  else if 128 < text.length then some (name ++ " must not exceed 128 characters")
  else none

namespace QueueMessage

/-- `QueueMessage(job_id=..., packet_id=...)` of any two texts. -/
def ofTexts (jobId packetId : List Char) : Except QueueError QueueMessage :=
  match textComplaint "job_id" jobId with
  | some text => .error (.message text)
  | none =>
    match textComplaint "packet_id" packetId with
    | some text => .error (.message text)
    | none =>
      match parseUuid jobId with
      | none => .error (.message "job_id must be a canonical UUID string")
      | some parsed =>
        if parsed.toText ≠ jobId then
          .error (.message "job_id must be a canonical lowercase UUID string")
        else new parsed (String.ofList packetId)

/-- `to_json_bytes`. -/
def toJsonBytes (message : QueueMessage) : Bytes :=
  encodeAscii (dumpsStrings [("job_id".toList, message.jobId.toText),
    ("packet_id".toList, message.packetId.toList)])

/-- `set(decoded) == ...`: the object has the two keys and no other. -/
def hasExactKeys (members : List (List Char × Json)) : Bool :=
  members.all (fun member => member.1 = "job_id".toList ∨ member.1 = "packet_id".toList) &&
    (members.lookup "job_id".toList).isSome && (members.lookup "packet_id".toList).isSome

/-- `from_json_bytes`. -/
def fromJsonBytes (spareLevels : Nat) (raw : Bytes) : Except EntryError QueueMessage :=
  match jsonLoads spareLevels raw with
  | .error .decode | .error .unicode =>
    .error (.queue (.message "queue entry is not valid JSON"))
  -- The handler names neither of these.
  | .error .recursion => .error .recursion
  | .error .digits => .error .value
  | .ok (.object members) =>
    if hasExactKeys members then
      match members.lookup "job_id".toList, members.lookup "packet_id".toList with
      | some (.string jobId), some (.string packetId) =>
        (ofTexts jobId packetId).mapError EntryError.queue
      | _, _ => .error (.queue (.message "job_id and packet_id must both be strings"))
    else .error (.queue (.message "queue entry must contain only job_id and packet_id"))
  | .ok _ => .error (.queue (.message "queue entry must contain only job_id and packet_id"))

end QueueMessage

/-- `QueueKeys`. -/
structure QueueKeys where
  pending : String
  processing : String
  failed : String
  markerPrefix : String
  deriving DecidableEq, Repr

namespace QueueKeys

/-- `text.strip(":")`. -/
def stripColons (text : List Char) : List Char :=
  ((text.dropWhile (· = ':')).reverse.dropWhile (· = ':')).reverse

/-- `QueueKeys.for_namespace`, absent where it raises `ValueError`. -/
def forNamespace (name : String) : Option QueueKeys :=
  let cleaned := String.ofList (stripColons name.toList)
  if cleaned.isEmpty then none
  else some
    { pending := cleaned ++ ":pending"
      processing := cleaned ++ ":processing"
      failed := cleaned ++ ":failed"
      markerPrefix := cleaned ++ ":marker" }

/-- `QueueKeys.marker`. -/
def marker (keys : QueueKeys) (jobId : UUID) : String :=
  keys.markerPrefix ++ ":" ++ jobId.str

end QueueKeys

/-- The lists and the strings of a Redis server; a missing list is empty. -/
structure RedisStore where
  lists : String → List Bytes := fun _ => []
  strings : String → Option Bytes := fun _ => none

namespace RedisStore

/-- `SET key value`. -/
def set (store : RedisStore) (key : String) (value : Bytes) : RedisStore :=
  { store with strings := Function.update store.strings key (some value) }

/-- `DEL key` of a string. -/
def del (store : RedisStore) (key : String) : RedisStore :=
  { store with strings := Function.update store.strings key none }

/-- `LPUSH key value`. -/
def lpush (store : RedisStore) (key : String) (value : Bytes) : RedisStore :=
  { store with lists := Function.update store.lists key (Redis.lpush value (store.lists key)) }

/-- `LREM key 1 value`. -/
def lrem (store : RedisStore) (key : String) (value : Bytes) : Nat × RedisStore :=
  let (removed, rest) := Redis.lrem value (store.lists key)
  (removed, { store with lists := Function.update store.lists key rest })

/-- `RPOPLPUSH source destination`. -/
def rpoplpush (store : RedisStore) (source destination : String) : Option (Bytes × RedisStore) :=
  (store.lists source).getLast?.map fun value =>
    let popped := { store with
      lists := Function.update store.lists source (store.lists source).dropLast }
    (value, popped.lpush destination value)

/-- `ENQUEUE_SCRIPT`. -/
def enqueueScript (store : RedisStore) (markerKey pendingKey : String) (entry : Bytes) :
    Int × RedisStore :=
  match store.strings markerKey with
  | none => (1, (store.set markerKey entry).lpush pendingKey entry)
  | some existing => if existing = entry then (0, store) else (-1, store)

/-- `ACK_SCRIPT`. -/
def ackScript (store : RedisStore) (processingKey markerKey : String) (entry : Bytes) :
    Nat × RedisStore :=
  let (removed, store) := store.lrem processingKey entry
  if removed = 1 then (removed, store.del markerKey) else (removed, store)

/-- The script that moves one entry from a list to the left end of another. -/
def moveScript (store : RedisStore) (source destination : String) (entry : Bytes) :
    Nat × RedisStore :=
  let (removed, store) := store.lrem source entry
  if removed = 1 then (removed, store.lpush destination entry) else (removed, store)

/-- `RETRY_SCRIPT`. -/
def retryScript (store : RedisStore) (processingKey pendingKey : String) (entry : Bytes) :
    Nat × RedisStore :=
  store.moveScript processingKey pendingKey entry

/-- `DEAD_LETTER_SCRIPT`. -/
def deadLetterScript (store : RedisStore) (processingKey failedKey : String) (entry : Bytes) :
    Nat × RedisStore :=
  store.moveScript processingKey failedKey entry

/-- `RECOVER_PROCESSING_SCRIPT`, absent where its loop takes more turns than the fuel allows. -/
def recoverProcessingScript (processingKey pendingKey : String) :
    Nat → Nat → RedisStore → Option (Nat × RedisStore)
  | 0, _, _ => none
  | fuel + 1, recovered, store =>
    match store.rpoplpush processingKey pendingKey with
    | none => some (recovered, store)
    | some (_, store) => recoverProcessingScript processingKey pendingKey fuel (recovered + 1) store

section Operations
variable (keys : QueueKeys)

/-- The outcome of a script that has to find its entry in the processing list. -/
def requireRemoved (message : QueueMessage) (outcome : Nat × RedisStore) :
    Except EntryError Unit × RedisStore :=
  if outcome.1 = 1 then (.ok (), outcome.2)
  else (.error (.queue (.state ("job '" ++ message.jobId.str ++ "' is not in the processing list"))),
    outcome.2)

/-- `TelemetryQueue.enqueue`. -/
def enqueue (store : RedisStore) (message : QueueMessage) : Except EntryError Bool × RedisStore :=
  let (result, after) :=
    store.enqueueScript (keys.marker message.jobId) keys.pending message.toJsonBytes
  if result = -1 then
    (.error (.queue (.conflict ("job_id '" ++ message.jobId.str ++
      "' already identifies different queue bytes"))), after)
  else (.ok (result = 1), after)

/-- `TelemetryQueue.claim`; a timeout without pending work answers nothing. -/
def claim (spareLevels : Nat) (store : RedisStore) :
    Except EntryError (Option QueueMessage) × RedisStore :=
  match store.rpoplpush keys.pending keys.processing with
  | none => (.ok none, store)
  | some (raw, store) =>
    match QueueMessage.fromJsonBytes spareLevels raw with
    | .ok message => (.ok (some message), store)
    | .error (.queue (.message text)) =>
      let (removed, store) := store.deadLetterScript keys.processing keys.failed raw
      if removed ≠ 1 then
        (.error (.queue (.state "malformed queue entry could not be quarantined")), store)
      else (.error (.queue (.message text)), store)
    | .error error => (.error error, store)

/-- `TelemetryQueue.ack`. -/
def ack (store : RedisStore) (message : QueueMessage) : Except EntryError Unit × RedisStore :=
  requireRemoved message
    (store.ackScript keys.processing (keys.marker message.jobId) message.toJsonBytes)

/-- `TelemetryQueue.retry`. -/
def retry (store : RedisStore) (message : QueueMessage) : Except EntryError Unit × RedisStore :=
  requireRemoved message (store.retryScript keys.processing keys.pending message.toJsonBytes)

/-- `TelemetryQueue.dead_letter`. -/
def deadLetter (store : RedisStore) (message : QueueMessage) :
    Except EntryError Unit × RedisStore :=
  requireRemoved message (store.deadLetterScript keys.processing keys.failed message.toJsonBytes)

/-- `TelemetryQueue.recover_processing`, absent where it takes more turns than the fuel allows. -/
def recoverProcessing (fuel : Nat) (store : RedisStore) : Option (Nat × RedisStore) :=
  recoverProcessingScript keys.processing keys.pending fuel 0 store

/-- One operation; a recovery has turns enough for the entries that it finds. -/
def exec (spareLevels : Nat) (store : RedisStore) :
    (call : QueueCall) → Except EntryError call.Reply × RedisStore
  | .enqueue message => store.enqueue keys message
  | .claim => store.claim keys spareLevels
  | .ack message => store.ack keys message
  | .retry message => store.retry keys message
  | .deadLetter message => store.deadLetter keys message
  | .recoverProcessing =>
    match store.recoverProcessing keys ((store.lists keys.processing).length + 1) with
    | some (recovered, after) => (.ok recovered, after)
    | none => (.ok 0, store)

/-- The entries after a sequence of operations on an empty server, each with its spare levels. -/
def after (history : List (Nat × QueueCall)) : RedisStore :=
  history.foldl (fun store next => (store.exec keys next.1 next.2).2) {}

/-- The entries in the three lists. -/
def entries (store : RedisStore) : List Bytes :=
  store.lists keys.pending ++ store.lists keys.processing ++ store.lists keys.failed

/-- Entries with what their claims answer. -/
def answered (spareLevels : Nat) (entries : List Bytes) :
    List (Bytes × Except EntryError (Option QueueMessage)) :=
  entries.map fun entry => (entry, (QueueMessage.fromJsonBytes spareLevels entry).map some)

/-- The entries that so many claims in a row take, each with the answer of its claim. -/
def deliveries (spareLevels : Nat) : Nat → RedisStore →
    List (Bytes × Except EntryError (Option QueueMessage))
  | 0, _ => []
  | count + 1, store =>
    let outcome := store.claim keys spareLevels
    (store.lists keys.pending).getLast?.toList.map (·, outcome.1) ++
      deliveries spareLevels count outcome.2

end Operations

end RedisStore

end Cislunar
