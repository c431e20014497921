import Cislunar.Common.Commands
import Cislunar.Common.Packet
import Cislunar.Services.System

/-!
The command path: rows in PostgreSQL, messages in JetStream and the handlers between them.

JetStream delivers what it has been given at least once, in any order. Each statement commits by
itself, and statements of handlers that run at the same time interleave. Health telemetry, metrics
and log lines are left out.
-/

namespace Cislunar

open Foundation

/-- The column `status` of a command. -/
inductive CommandStatus where
  | dryRunValidated
  | queued
  | dispatched
  | dispatchError
  | acked
  | rejected
  deriving DecidableEq, Repr

/-- A row of the table `commands`. -/
structure CommandRow where
  name : String
  argument : Int
  dryRun : Bool
  status : CommandStatus
  operatorId : String
  statusDetail : Option String := none
  deriving DecidableEq, Repr

/-- `CommandRequest`. -/
structure CommandRequest where
  name : String
  argument : Int
  dryRun : Bool := true
  operatorId : String := "local-operator"
  operatorIdLength : 1 ≤ operatorId.length ∧ operatorId.length ≤ 80 := by decide
  deriving DecidableEq

/-- A message on `commands.dispatch`. -/
structure DispatchEvent where
  commandId : Int
  name : String
  opcode : Int
  argument : Int
  operatorId : String
  deriving DecidableEq, Repr

/-- A message on `commands.status`. -/
structure StatusEvent where
  commandId : Int
  status : CommandStatus
  detail : Option String
  deriving DecidableEq, Repr

/-- A message on `telemetry.command_ack`. -/
structure AckEnvelope where
  apid : Int
  sequenceCount : Int
  receivedNs : Int
  source : String
  data : CommandAck
  deriving DecidableEq, Repr

/-- The messages of the command path. -/
inductive BusMessage where
  | dispatch (event : DispatchEvent)
  | status (event : StatusEvent)
  | commandAck (envelope : AckEnvelope)
  deriving DecidableEq, Repr

/-- What the column `detail` of an audit event holds. -/
inductive AuditDetail where
  | request (request : CommandRequest)
  | message (message : BusMessage)

/-- A row of the table `audit_events`. -/
structure CommandAudit where
  actor : String
  action : String
  objectType : String
  objectId : String
  detail : AuditDetail

/-- The tables, the stream and the link that the handlers share. -/
structure CommandPath where
  commands : Int → Option CommandRow := fun _ => none
  auditEvents : List CommandAudit := []
  /-- What the stream `GROUND` has been given. -/
  stream : List BusMessage := []
  /-- The datagrams sent to the spacecraft. -/
  uplink : List Bytes := []

/-- One atomic request of a handler. -/
inductive PathRequest where
  /-- `now_ns()`. -/
  | nowNs
  /-- `INSERT INTO commands ... RETURNING id`. -/
  | insertCommand (row : CommandRow)
  /-- `UPDATE commands SET status=$1, status_detail=$2, updated_at=now() WHERE id=$3`. -/
  | updateCommand (status : CommandStatus) (detail : Option String) (commandId : Int)
  /-- `INSERT INTO audit_events`. -/
  | insertAudit (event : CommandAudit)
  | publish (message : BusMessage)
  | sendto (raw : Bytes)
  /-- `msg.ack()` or `msg.nak()`. -/
  | settle (positive : Bool)

/-- What a request returns; an `UPDATE` returns how many rows it met. -/
@[reducible] def PathRequest.Reply : PathRequest → Type
  | nowNs | insertCommand _ => Int
  | updateCommand _ _ _ => Nat
  | insertAudit _ | publish _ | sendto _ | settle _ => Unit

/-- What the handlers raise. -/
inductive PathFailure where
  | packet (failure : PacketFailure)
  /-- The database, the message bus or the socket does not answer. -/
  | unavailable
  /-- `HTTPException`. -/
  | http (statusCode : Nat) (detail : String)
  deriving DecidableEq, Repr

/-- `str(exc)`; the texts of drivers and of `struct` are left out. -/
def PathFailure.text : PathFailure → String
  | packet (.packetError message) => message
  | packet (.structError _) | unavailable => ""
  | http statusCode detail => SpaceLink.shown statusCode ++ ": " ++ detail

/-- Whatever a request depends on besides the state. -/
structure PathChoice where
  fault : Fault := .none
  nowNs : Int := 0
  /-- The next value of the sequence behind `commands.id`. -/
  commandId : Int := 1

namespace CommandPath

/-- The effect of a request that reaches its service, absent where its key is taken. -/
def effect (choice : PathChoice) (state : CommandPath) :
    (request : PathRequest) → Option (request.Reply × CommandPath)
  | .nowNs => some (choice.nowNs, state)
  | .insertCommand row =>
    match state.commands choice.commandId with
    | some _ => none
    | none => some (choice.commandId, { state with
        commands := Function.update state.commands choice.commandId (some row) })
  | .updateCommand status detail commandId =>
    match state.commands commandId with
    | none => some (0, state)
    | some row => some (1, { state with
        commands := Function.update state.commands commandId
          (some { row with status := status, statusDetail := detail }) })
  | .insertAudit event => some ((), { state with auditEvents := state.auditEvents ++ [event] })
  | .publish message => some ((), { state with stream := state.stream ++ [message] })
  | .sendto raw => some ((), { state with uplink := state.uplink ++ [raw] })
  | .settle _ => some ((), state)

/-- The command path as a machine on which every connection may fail. -/
def machine : Machine Nat PathFailure PathRequest PathRequest.Reply CommandPath where
  Choice := PathChoice
  exec choice _ state request :=
    (state.effect choice request).map fun outcome =>
      match choice.fault with
      | .none => (.ok outcome.1, outcome.2)
      | .before => (.error .unavailable, state)
      | .after => (.error .unavailable, outcome.2)

end CommandPath

/-- A handler: a program of requests to the command path. -/
abbrev PathService := Prog PathFailure PathRequest PathRequest.Reply

/-- One request of a handler. -/
def callPath (request : PathRequest) : PathService request.Reply := Prog.call request

/-- A packet operation whose error is raised. -/
def liftPacket {α : Type} (result : Except PacketFailure α) : PathService α :=
  Prog.ofExcept (result.mapError .packet)

/-- What the environment sets for the services. -/
structure MissionSettings where
  operatorToken : String := "local-operator-token"
  commandArmToken : String := "local-arm-token"
  commandTargetHost : String := "spacecraft-sim"
  commandTargetPort : Int := 5006

/-- `create_command`, which returns the identifier of its row. -/
def createCommand (settings : MissionSettings) (request : CommandRequest)
    (xOperatorToken xCommandArm : Option String) : PathService Int := do
  let definition ← Prog.ofExcept ((validateCommand request.name request.argument).mapError
    fun error => .http 422 error.message)
  if !request.dryRun ∧ xOperatorToken ≠ some settings.operatorToken then
    .raise (.http 401 "invalid operator token")
  else if !request.dryRun ∧ xCommandArm ≠ some settings.commandArmToken then
    .raise (.http 409 "command path is not armed")
  else
    let commandId ← callPath (.insertCommand {
      name := request.name
      argument := request.argument
      dryRun := request.dryRun
      status := if request.dryRun then .dryRunValidated else .queued
      operatorId := request.operatorId })
    callPath (.insertAudit ⟨request.operatorId, "COMMAND_CREATED", "command",
      SpaceLink.shown commandId, .request request⟩)
    if request.dryRun then return commandId
    else
      callPath (.publish (.dispatch ⟨commandId, request.name, definition.opcode, request.argument,
        request.operatorId⟩))
      return commandId

/-- `dispatch`. -/
def dispatchCommand (settings : MissionSettings) (event : DispatchEvent) : PathService Unit :=
  (do
    let issuedNs ← callPath .nowNs
    let raw ← liftPacket (encodeCommand ⟨event.commandId, event.opcode, event.argument, issuedNs⟩)
    callPath (.sendto raw)
    callPath (.publish (.status ⟨event.commandId, .dispatched, some ("UDP target " ++
      settings.commandTargetHost ++ ":" ++ SpaceLink.shown settings.commandTargetPort)⟩))
    callPath (.settle true)).tryCatch fun failure => do
      -- The message is given back whether or not the error can be published.
      (callPath (.publish (.status ⟨event.commandId, .dispatchError, some failure.text⟩))).tryCatch
        fun unpublished => do
          callPath (.settle false)
          Prog.raise unpublished
      callPath (.settle false)

/-- The branch of `_process` for acknowledgements; other packets publish nothing on this path. -/
def ingestDatagram (raw : Bytes) (source : String) : PathService Unit :=
  (do
    let packet ← liftPacket (decodeSpacePacket raw)
    let receivedNs ← callPath .nowNs
    if packet.apid = apidCommandAck then
      let ack ← liftPacket (decodeAck packet)
      callPath (.publish (.commandAck ⟨packet.apid, packet.sequenceCount, receivedNs, source, ack⟩))
    else return ()).tryCatch fun _ => return ()

/-- `process_ack`. -/
def processAck (envelope : AckEnvelope) : PathService Unit :=
  (do
    let status := if envelope.data.status = 0 then CommandStatus.acked else .rejected
    let _ ← callPath (.updateCommand status
      (some ("spacecraft applied_value=" ++ SpaceLink.shown envelope.data.appliedValue))
      envelope.data.commandId)
    callPath (.insertAudit ⟨"spacecraft", "COMMAND_ACK", "command",
      SpaceLink.shown envelope.data.commandId, .message (.commandAck envelope)⟩)
    callPath (.settle true)).tryCatch fun _ => callPath (.settle false)

/-- `process_status`. -/
def processStatus (event : StatusEvent) : PathService Unit :=
  (do
    let _ ← callPath (.updateCommand event.status event.detail event.commandId)
    callPath (.insertAudit ⟨"dispatcher", "COMMAND_STATUS", "command",
      SpaceLink.shown event.commandId, .message (.status event)⟩)
    callPath (.settle true)).tryCatch fun _ => callPath (.settle false)

/-- The handlers of the command path with what they are called on. -/
inductive PathProcess where
  | createCommand (settings : MissionSettings) (request : CommandRequest)
    (xOperatorToken xCommandArm : Option String)
  | dispatchCommand (settings : MissionSettings) (event : DispatchEvent)
  | ingestDatagram (raw : Bytes) (source : String)
  | processAck (envelope : AckEnvelope)
  | processStatus (event : StatusEvent)

namespace PathProcess

/-- The program of a handler. -/
def program : PathProcess → PathService Unit
  | createCommand settings request xOperatorToken xCommandArm => do
    let _ ← Cislunar.createCommand settings request xOperatorToken xCommandArm
  | dispatchCommand settings event => Cislunar.dispatchCommand settings event
  | ingestDatagram raw source => Cislunar.ingestDatagram raw source
  | processAck envelope => Cislunar.processAck envelope
  | processStatus event => Cislunar.processStatus event

/-- The message that a handler is given, if it is given one. -/
def delivery : PathProcess → Option BusMessage
  | createCommand _ _ _ _ | ingestDatagram _ _ => none
  | dispatchCommand _ event => some (.dispatch event)
  | processAck envelope => some (.commandAck envelope)
  | processStatus event => some (.status event)

end PathProcess

/-- The shared state and the handlers that are running or have finished. -/
abbrev PathConfig := Config Nat PathFailure PathRequest PathRequest.Reply CommandPath Unit

/-- One entry of a schedule. -/
inductive PathEvent where
  /-- A request arrives, or a message of the stream is delivered for the first or another time. -/
  | start (thread : Nat) (process : PathProcess)
  /-- A handler makes its next request. -/
  | act (thread : Nat) (choice : PathChoice)
  | crash (thread : Nat)

namespace PathConfig

/-- Nothing is stored, published or running. -/
def initial : PathConfig := ⟨{}, fun _ => none⟩

/-- The configuration after an event; an event that does not apply has no effect. -/
def perform (config : PathConfig) : PathEvent → PathConfig
  | .start thread process =>
    if (config.threads thread).isNone ∧ ∀ message ∈ process.delivery, message ∈ config.state.stream
    then ⟨config.state, Function.update config.threads thread (some process.program)⟩
    else config
  | .act thread choice => config.act CommandPath.machine thread choice
  | .crash thread => ⟨config.state, Function.update config.threads thread none⟩

/-- The configuration after a schedule. -/
def performAll (config : PathConfig) (schedule : List PathEvent) : PathConfig :=
  schedule.foldl perform config

/-- The configuration that a schedule leads to from nothing. -/
def after (schedule : List PathEvent) : PathConfig := initial.performAll schedule

/-- The command and the status of the `UPDATE` that takes effect on a row in an event, if one does. -/
def write (config : PathConfig) : PathEvent → Option (Int × CommandStatus)
  | .act thread choice =>
    match config.threads thread with
    | some (.request (.updateCommand status _ commandId) _) =>
      if choice.fault ≠ .before ∧ (config.state.commands commandId).isSome then
        some (commandId, status)
      else none
    | _ => none
  | _ => none

end PathConfig

end Cislunar
