import Cislunar.Runtime.Redis
import Cislunar.Runtime.Uuid
import Mathlib.Logic.Function.Basic

/-!
The Redis queue of processing jobs: what one script does to its lists and markers.

An entry of a list stands for the message whose JSON bytes it holds; the serialization has a fixed
key order, so entries are equal exactly when their messages are.
-/

namespace Cislunar

/-- What a queue operation can raise. -/
inductive QueueError where
  /-- `QueueMessageError`. -/
  | message (text : String)
  /-- `QueueConflictError`. -/
  | conflict (text : String)
  /-- `QueueStateError`. -/
  | state (text : String)
  /-- `redis.exceptions.RedisError`. -/
  | redis
  deriving DecidableEq, Repr

/-- `[0-9A-F]{8}` at the start of a text, and the rest of it. -/
def dropUpperHex8 (text : List Char) : Option (List Char) :=
  let digits := text.take 8
  if digits.length = 8 ∧
      digits.all (fun char => ('0' ≤ char ∧ char ≤ '9') ∨ ('A' ≤ char ∧ char ≤ 'F')) then
    some (text.drop 8)
  else none

/-- `re.fullmatch` of the version 1 packet identifier; `\d` takes every Unicode decimal digit. -/
def matchesPacketId (text : String) : Bool :=
  match text.toList with
  | 'T' :: 'L' :: 'M' :: '-' :: 'P' :: tens :: ones :: '-' :: 'B' :: boot =>
    (unicodeDecimal tens).isSome && (unicodeDecimal ones).isSome &&
      match dropUpperHex8 boot with
      | some ('-' :: 'S' :: sequence) => dropUpperHex8 sequence = some []
      | _ => false
  | _ => false

/-- The first complaint of `__post_init__` about a packet identifier. -/
def packetIdComplaint (packetId : String) : Option String :=
  let text := packetId.toList
  if text.isEmpty ∨ text.head?.any unicodeSpace ∨ text.getLast?.any unicodeSpace then
    some "packet_id must be a non-empty, trimmed string"
  else if 128 < text.length then some "packet_id must not exceed 128 characters"
  else if !matchesPacketId packetId then
    some "packet_id must use the version 1 telemetry identifier format"
  else none

/--
`QueueMessage`: the identifiers of a durable job and of its packet.

The canonical text of a job identifier is the identifier itself, so only the packet identifier can be
malformed.
-/
structure QueueMessage where
  jobId : UUID
  packetId : String
  wellFormed : packetIdComplaint packetId = none
  deriving DecidableEq

/-- `QueueMessage(job_id=..., packet_id=...)`. -/
def QueueMessage.new (jobId : UUID) (packetId : String) : Except QueueError QueueMessage :=
  match complaint : packetIdComplaint packetId with
  | some text => .error (.message text)
  | none => .ok ⟨jobId, packetId, complaint⟩

/-- The Redis keys of the queue; a marker remembers the entry of a job wherever it is. -/
structure TelemetryQueue where
  pending : List QueueMessage := []
  processing : List QueueMessage := []
  failed : List QueueMessage := []
  marker : UUID → Option QueueMessage := fun _ => none

namespace TelemetryQueue

/-- No keys at all. -/
def empty : TelemetryQueue := {}

/-- `ENQUEUE_SCRIPT`. -/
def enqueueScript (queue : TelemetryQueue) (message : QueueMessage) : Int × TelemetryQueue :=
  match queue.marker message.jobId with
  | none => (1, { queue with
      marker := Function.update queue.marker message.jobId (some message)
      pending := Redis.lpush message queue.pending })
  | some existing => if existing = message then (0, queue) else (-1, queue)

/-- `ACK_SCRIPT`. -/
def ackScript (queue : TelemetryQueue) (message : QueueMessage) : Nat × TelemetryQueue :=
  let (removed, processing) := Redis.lrem message queue.processing
  if removed = 1 then
    (removed, { queue with
      processing := processing
      marker := Function.update queue.marker message.jobId none })
  else (removed, { queue with processing := processing })

/-- `RETRY_SCRIPT`. -/
def retryScript (queue : TelemetryQueue) (message : QueueMessage) : Nat × TelemetryQueue :=
  let (removed, processing) := Redis.lrem message queue.processing
  if removed = 1 then
    (removed, { queue with
      processing := processing
      pending := Redis.lpush message queue.pending })
  else (removed, { queue with processing := processing })

/-- `DEAD_LETTER_SCRIPT`. -/
def deadLetterScript (queue : TelemetryQueue) (message : QueueMessage) : Nat × TelemetryQueue :=
  let (removed, processing) := Redis.lrem message queue.processing
  if removed = 1 then
    (removed, { queue with
      processing := processing
      failed := Redis.lpush message queue.failed })
  else (removed, { queue with processing := processing })

/-- `RECOVER_PROCESSING_SCRIPT`. -/
def recoverProcessingScript (queue : TelemetryQueue) : Nat × TelemetryQueue :=
  let (recovered, processing, pending) :=
    Redis.moveAll queue.processing.length 0 queue.processing queue.pending
  (recovered, { queue with processing := processing, pending := pending })

end TelemetryQueue

/-- The operations of `TelemetryQueue` with their arguments. -/
inductive QueueCall where
  | enqueue (message : QueueMessage)
  | claim
  | ack (message : QueueMessage)
  | retry (message : QueueMessage)
  | deadLetter (message : QueueMessage)
  | recoverProcessing

namespace QueueCall

/-- What an operation returns. -/
@[reducible] def Reply : QueueCall → Type
  | enqueue _ => Bool
  | claim => Option QueueMessage
  | ack _ | retry _ | deadLetter _ => Unit
  | recoverProcessing => Nat

/-- The outcome of a script that has to find its entry in the processing list. -/
def requireRemoved (message : QueueMessage) (outcome : Nat × TelemetryQueue) :
    Except QueueError Unit × TelemetryQueue :=
  if outcome.1 = 1 then (.ok (), outcome.2)
  else (.error (.state ("job '" ++ message.jobId.str ++ "' is not in the processing list")),
    outcome.2)

/-- The effect of an operation on the keys. -/
def exec : (call : QueueCall) → TelemetryQueue → Except QueueError call.Reply × TelemetryQueue
  | enqueue message, queue =>
    let (result, after) := queue.enqueueScript message
    if result = -1 then
      (.error (.conflict ("job_id '" ++ message.jobId.str ++
        "' already identifies different queue bytes")), after)
    else (.ok (result = 1), after)
  | claim, queue =>
    -- A timeout without pending work answers nothing.
    match Redis.rpoplpush queue.pending queue.processing with
    | none => (.ok none, queue)
    | some (message, pending, processing) =>
      (.ok (some message), { queue with pending := pending, processing := processing })
  | ack message, queue => requireRemoved message (queue.ackScript message)
  | retry message, queue => requireRemoved message (queue.retryScript message)
  | deadLetter message, queue => requireRemoved message (queue.deadLetterScript message)
  | recoverProcessing, queue =>
    let (recovered, after) := queue.recoverProcessingScript
    (.ok recovered, after)

end QueueCall

end Cislunar
