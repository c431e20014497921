import Cislunar.Telemetry.IdentityMap
import Cislunar.Telemetry.Queue

/-!
The two stores and the clock that the ground services share, and the requests they make of them.

A repository call and a queue operation are one atomic step each; a call comes with the objects that
its caller still holds. A request may also fail because its store is unreachable, either before it
took effect or after.
-/

namespace Cislunar

open Foundation

/-- The state the services share. -/
structure Ground where
  database : Database := .empty
  queue : TelemetryQueue := .empty
  /-- `datetime.now(UTC)`. -/
  clock : Time := 0

/-- One atomic request of a service. -/
inductive Request where
  | clock
  | repository (call : RepoCall) (held : Held)
  | queue (call : QueueCall)

/-- What a request returns. -/
@[reducible] def Request.Reply : Request → Type
  | clock => Time
  | repository call _ => call.Reply
  | queue call => call.Reply

/-- Every exception the services raise or handle. -/
inductive Failure where
  | storage (error : StorageError)
  | queue (error : QueueError)
  | codec (error : CodecError)
  /-- A plain `ValueError`. -/
  | value (message : String)
  /-- A plain `RuntimeError`. -/
  | runtime (message : String)
  /-- `TypeError`. -/
  | type (message : String)
  deriving DecidableEq, Repr

namespace Failure

/-- `isinstance(exc, RedisError)`. -/
def isRedis : Failure → Bool
  | queue .redis => true
  | _ => false

/-- `isinstance(exc, SQLAlchemyError)`. -/
def isSqlAlchemy : Failure → Bool
  | storage .integrity | storage .database => true
  | _ => false

/-- `isinstance(exc, TelemetryValidationError | ValueError)`. -/
def isValueError : Failure → Bool
  | storage (.valueError _) => true
  | queue (.message _) => true
  | codec (.validation _ _) | codec (.valueError _) => true
  | value _ => true
  | _ => false

/-- `f"{type(exc).__name__}: {exc}"`; the texts of driver errors are left out. -/
def describe : Failure → String
  | storage (.valueError message) => "ValueError: " ++ message
  | storage .integrity => "IntegrityError: "
  | storage .database => "SQLAlchemyError: "
  | storage (.deliveryNotFound receiptId) => "DeliveryNotFoundError: " ++ receiptId.str
  | storage (.invalidDeliveryState message) => "InvalidDeliveryStateError: " ++ message
  | storage (.processingJobNotFound jobId) => "ProcessingJobNotFoundError: " ++ jobId.str
  | storage (.processingResultConflict message) => "ProcessingResultConflictError: " ++ message
  | storage (.storage message) => "TelemetryStorageError: " ++ message
  | queue (.message text) => "QueueMessageError: " ++ text
  | queue (.conflict text) => "QueueConflictError: " ++ text
  | queue (.state text) => "QueueStateError: " ++ text
  | queue .redis => "RedisError: "
  | codec (.validation _ detail) => "TelemetryValidationError: " ++ detail
  | codec (.valueError message) => "ValueError: " ++ message
  | codec (.structError _) => "error: "
  | value message => "ValueError: " ++ message
  | runtime message => "RuntimeError: " ++ message
  | type message => "TypeError: " ++ message

end Failure

/-- How the connection to a store behaves during one request. -/
inductive Fault where
  /-- The store answers. -/
  | none
  /-- The connection fails before the request has an effect. -/
  | before
  /-- The request takes effect and its answer is lost. -/
  | after
  deriving DecidableEq, Repr

/-- The answer and the state after a request whose connection behaves in a given way. -/
def Fault.apply {α σ : Type} (fault : Fault) (unreachable : Failure)
    (outcome : Except Failure α × σ) (before : σ) : Except Failure α × σ :=
  match fault with
  | none => outcome
  | .before => (.error unreachable, before)
  | after => (.error unreachable, outcome.2)

namespace Ground

/-- The effect of a request on the shared state. -/
def perform (uuid4 : Nat → UUID) (fault : Fault) (ground : Ground) :
    (request : Request) → Except Failure request.Reply × Ground
  | .clock => (.ok ground.clock, ground)
  | .repository call held =>
    let outcome := call.execHolding ⟨uuid4, ground.clock⟩ held ground.database
    fault.apply (.storage .database)
      (outcome.1.mapError .storage, { ground with database := outcome.2 }) ground
  | .queue call =>
    let outcome := call.exec ground.queue
    fault.apply (.queue .redis)
      (outcome.1.mapError .queue, { ground with queue := outcome.2 }) ground

/-- The effect of a request with both stores reachable. -/
def serve (uuid4 : Nat → UUID) (request : Request) (ground : Ground) :
    Except Failure request.Reply × Ground :=
  ground.perform uuid4 .none request

/-- The shared state as a machine on which the given faults can happen. -/
def machine (possible : Fault → Prop) : Machine Nat Failure Request Request.Reply Ground where
  Choice := (Nat → UUID) × { fault : Fault // possible fault }
  exec choice _ ground request := some (ground.perform choice.1 choice.2 request)

/-- A request decides on no object whose row has changed since it was read. -/
def isCurrent (ground : Ground) : Request → Bool
  | .repository _ held => held.isCurrent ground.database
  | .clock | .queue _ => true

/-- Time passes and nothing else. -/
def Ticks (before after : Ground) : Prop :=
  ∃ clock, before.clock ≤ clock ∧ after = { before with clock := clock }

end Ground

/-- A service: a program of requests to the shared state. -/
abbrev Service := Prog Failure Request Request.Reply

/-- A repository call of a session whose caller holds the given objects. -/
def callRepository (call : RepoCall) (held : Held := {}) : Service call.Reply :=
  Prog.call (Request.repository call held)

/-- A queue operation. -/
def callQueue (call : QueueCall) : Service call.Reply := Prog.call (Request.queue call)

/-- `datetime.now(UTC)`. -/
def utcNow : Service Time := Prog.call Request.clock

end Cislunar
