import Cislunar.Services.Mission

/-!
The path of the health samples: from the telemetry loop over the ingest to the rows and the alerts.

JetStream delivers what it has been given at least once, in any order. Each statement commits by
itself, and statements of handlers that run at the same time interleave. The widths of the columns,
metrics and log lines are left out, and with them the tracker of sequence counts, which feeds only
these.
-/

namespace Cislunar

open Foundation

/-- A message on `telemetry.health`. -/
structure HealthEnvelope where
  apid : Int
  sequenceCount : Int
  receivedNs : Int
  source : String
  data : HealthTelemetry
  deriving DecidableEq, Repr

/-- A row of the table `telemetry_health`. -/
structure HealthRow where
  spacecraftTimeNs : Int
  sequenceCount : Int
  busVoltageV : Rat
  batteryTempC : Rat
  wheelRpm : Int
  mode : Int
  faultFlags : Int
  raw : HealthEnvelope
  deriving DecidableEq, Repr

/-- A row of the table `alerts`, or a message on `alerts.limit`; both have the same fields. -/
structure LimitAlert where
  parameter : String
  value : Rat
  severity : Severity
  message : String
  telemetrySequence : Int
  deriving DecidableEq, Repr

/-- The messages of the health path. -/
inductive HealthMessage where
  | health (envelope : HealthEnvelope)
  | limitAlert (alert : LimitAlert)
  /-- A message on `telemetry.processed`. -/
  | processed (envelope : HealthEnvelope) (violations : List LimitViolation)
  deriving DecidableEq, Repr

/-- The tables and the stream that the handlers share. -/
structure HealthPath where
  telemetryHealth : List HealthRow := []
  alerts : List LimitAlert := []
  /-- What the stream `GROUND` has been given. -/
  stream : List HealthMessage := []
  /-- The envelopes that were acknowledged at least once. -/
  acknowledged : List HealthEnvelope := []

/-- One atomic request of a handler. -/
inductive HealthRequest where
  /-- `now_ns()`. -/
  | nowNs
  | publish (message : HealthMessage)
  /-- `INSERT INTO telemetry_health`. -/
  | insertHealth (row : HealthRow)
  /-- `INSERT INTO alerts`. -/
  | insertAlert (row : LimitAlert)
  /-- `msg.ack()` or `msg.nak()`. -/
  | settle (envelope : HealthEnvelope) (positive : Bool)

/-- What a request returns. -/
@[reducible] def HealthRequest.Reply : HealthRequest → Type
  | nowNs => Int
  | publish _ | insertHealth _ | insertAlert _ | settle _ _ => Unit

/-- Whatever a request depends on besides the state. -/
structure HealthChoice where
  fault : Fault := .none
  nowNs : Int := 0

/-- The fault that a request meets; the reading of a clock does not fail. -/
def HealthRequest.fault (choice : HealthChoice) : HealthRequest → Fault
  | nowNs => .none
  | _ => choice.fault

namespace HealthPath

/-- The effect of a request that reaches its service. -/
def effect (choice : HealthChoice) (state : HealthPath) :
    (request : HealthRequest) → request.Reply × HealthPath
  | .nowNs => (choice.nowNs, state)
  | .publish message => ((), { state with stream := state.stream ++ [message] })
  | .insertHealth row => ((), { state with telemetryHealth := state.telemetryHealth ++ [row] })
  | .insertAlert row => ((), { state with alerts := state.alerts ++ [row] })
  | .settle envelope true => ((), { state with acknowledged := state.acknowledged ++ [envelope] })
  | .settle _ false => ((), state)

end HealthPath

/-- A handler: a program of requests to the health path. -/
abbrev HealthService := Prog PathFailure HealthRequest HealthRequest.Reply

/-- One request of a handler. -/
def callHealth (request : HealthRequest) : HealthService request.Reply := Prog.call request

/-- The branch of `_process` for health samples; other packets publish nothing on this path. -/
def ingestHealth (raw : Bytes) (source : String) : HealthService Unit :=
  (do
    let packet ← Prog.ofExcept ((decodeSpacePacket raw).mapError PathFailure.packet)
    let receivedNs ← callHealth .nowNs
    if packet.apid = apidHealth then
      let health ← Prog.ofExcept ((decodeHealth packet).mapError PathFailure.packet)
      callHealth (.publish (.health
        ⟨packet.apid, packet.sequenceCount, receivedNs, source, health⟩))
    else return ()).tryCatch fun _ => return ()

/-- The row of an envelope. -/
def HealthEnvelope.row (envelope : HealthEnvelope) : HealthRow where
  spacecraftTimeNs := envelope.data.timestampNs
  sequenceCount := envelope.sequenceCount
  busVoltageV := envelope.data.busVoltageV
  batteryTempC := envelope.data.batteryTempC
  wheelRpm := envelope.data.wheelRpm
  mode := envelope.data.mode
  faultFlags := envelope.data.faultFlags
  raw := envelope

/-- The alert of a violation. -/
def HealthEnvelope.alert (envelope : HealthEnvelope) (violation : LimitViolation) : LimitAlert where
  parameter := violation.parameter
  value := violation.value
  severity := violation.severity
  message := violation.message
  telemetrySequence := envelope.sequenceCount

/-- The loop of `process_health` over the violations of a sample. -/
def raiseAlerts (envelope : HealthEnvelope) : List LimitViolation → HealthService Unit
  | [] => return ()
  | violation :: rest => do
    callHealth (.insertAlert (envelope.alert violation))
    callHealth (.publish (.limitAlert (envelope.alert violation)))
    raiseAlerts envelope rest

/-- `process_health`. -/
def processHealth (envelope : HealthEnvelope) : HealthService Unit :=
  (do
    callHealth (.insertHealth envelope.row)
    raiseAlerts envelope (evaluateHealth envelope.data)
    callHealth (.publish (.processed envelope (evaluateHealth envelope.data)))
    callHealth (.settle envelope true)).tryCatch fun _ => callHealth (.settle envelope false)

/-- The handlers of the health path with what they are called on. -/
inductive HealthProcess where
  | ingestHealth (raw : Bytes) (source : String)
  | processHealth (envelope : HealthEnvelope)

/-- The program of a handler. -/
def HealthProcess.program : HealthProcess → HealthService Unit
  | ingestHealth raw source => Cislunar.ingestHealth raw source
  | processHealth envelope => Cislunar.processHealth envelope

/-- The health path, the spacecraft at its far end and what the spacecraft has sent. -/
structure HealthSystem where
  path : HealthPath := {}
  spacecraft : SpacecraftState := {}
  /-- The turns that the telemetry loop has taken. -/
  tick : Nat := 0
  /-- The datagrams sent to the ground. -/
  downlink : List Bytes := []

namespace HealthSystem

/-- The handlers on the ground act on the health path only. -/
def machine : Machine Nat PathFailure HealthRequest HealthRequest.Reply HealthSystem where
  Choice := HealthChoice
  exec choice _ system request :=
    let outcome := system.path.effect choice request
    some (match request.fault choice with
      | .none => (.ok outcome.1, { system with path := outcome.2 })
      | .before => (.error .unavailable, system)
      | .after => (.error .unavailable, { system with path := outcome.2 }))

/-- Something arrives on the command link, whatever it is and wherever it comes from. -/
def receive (system : HealthSystem) (nowNs : Int) (raw : Bytes) : HealthSystem :=
  let outcome := system.spacecraft.datagramReceived nowNs raw
  { system with
    spacecraft := outcome.2
    downlink := system.downlink ++ outcome.1.toList }

/-- The telemetry loop takes a turn. -/
def turn (system : HealthSystem) (draw : SpacecraftState.TelemetryDraw) : HealthSystem :=
  let outcome := system.spacecraft.telemetryTurn (system.tick + 1) draw
  { system with
    spacecraft := outcome.2
    tick := system.tick + 1
    downlink := system.downlink ++ outcome.1.toOption.toList }

/-- The process of the spacecraft starts anew. -/
def restart (system : HealthSystem) : HealthSystem :=
  { system with spacecraft := {}, tick := 0 }

/-- What happens without the ground. -/
inductive Flight (system : HealthSystem) : HealthSystem → Prop where
  | command (nowNs : Int) (raw : Bytes) : Flight system (system.receive nowNs raw)
  | turn (draw : SpacecraftState.TelemetryDraw) : Flight system (system.turn draw)
  | restart : Flight system system.restart

/-- What a handler is called on: a datagram of the link, noise or a message of the stream. -/
def Calls (system : HealthSystem) : HealthProcess → Prop
  | .ingestHealth raw _ => raw ∈ system.downlink ∨ (decodeSpacePacket raw).toOption = none
  | .processHealth envelope => .health envelope ∈ system.path.stream

/-- The system and the handlers that are running or have finished. -/
abbrev HealthConfig := Config Nat PathFailure HealthRequest HealthRequest.Reply HealthSystem Unit

/-- The steps of the health path with the spacecraft. -/
abbrev HealthStep : HealthConfig → HealthConfig → Prop :=
  Step machine (fun _ system program => ∃ process : HealthProcess,
    system.Calls process ∧ program = process.program) Flight

/-- Nothing is stored, sent or running. -/
def HealthConfig.initial : HealthConfig := ⟨{}, fun _ => none⟩

end HealthSystem

end Cislunar
