import Cislunar.Common.Health
import Cislunar.Services.CommandPath
import Cislunar.Services.SpacecraftSim

/-!
The command path with the spacecraft at its far end.

Either link delivers what has been sent on it any number of times, in any order or never, and noise
that does not decode besides. Draws from a generator of random numbers are inputs of a turn.
-/

namespace Cislunar

open Foundation

namespace SpacecraftState

/-- `datagram_received`: the datagram that it sends, if it sends one, and the state after it. -/
def datagramReceived (state : SpacecraftState) (nowNs : Int) (raw : Bytes) :
    Option Bytes × SpacecraftState :=
  match state.apply nowNs raw with
  | (.error _, after) => (none, after)
  | (.ok ack, after) =>
    match encodeAck after.ackSequence ack with
    -- The command stays executed where its acknowledgement cannot be packed.
    | .error _ => (none, after)
    | .ok rawAck =>
      (some rawAck, { after with ackSequence := Int.land (after.ackSequence + 1) 0x3FFF })

/-- What a turn of the telemetry loop draws from its surroundings. -/
structure TelemetryDraw where
  /-- `SIM_ANOMALY_EVERY`. -/
  anomalyEvery : Int
  nowNs : Int
  /-- The voltage and the temperature of a turn without an anomaly. -/
  voltage : Rat
  temperature : Rat

/-- Whether a turn shows an anomaly. -/
def TelemetryDraw.anomaly (draw : TelemetryDraw) (tick : Nat) : Bool :=
  0 < draw.anomalyEvery ∧ (tick : Int) % draw.anomalyEvery = 0

/-- One turn of `telemetry_loop`: what it sends, or the error that ends the loop. -/
def telemetryTurn (state : SpacecraftState) (tick : Nat) (draw : TelemetryDraw) :
    Except PacketFailure Bytes × SpacecraftState :=
  let anomaly := draw.anomaly tick
  let voltage := if anomaly then (228 / 10 : Rat) else draw.voltage
  let temperature := if anomaly then (69 : Rat) else draw.temperature
  let marked := if anomaly then { state with faultFlags := Int.lor state.faultFlags 0x01 } else state
  match encodeHealth marked.healthSequence
      ⟨draw.nowNs, voltage, temperature, marked.wheelRpm, marked.mode, marked.faultFlags⟩ with
  | .error error => (.error error, marked)
  | .ok raw =>
    (.ok raw, { marked with healthSequence := Int.land (marked.healthSequence + 1) 0x3FFF })

end SpacecraftState

/-- The command path, the spacecraft and what the spacecraft has sent. -/
structure Mission where
  path : CommandPath := {}
  spacecraft : SpacecraftState := {}
  /-- The turns that the telemetry loop has taken. -/
  tick : Nat := 0
  /-- The datagrams sent to the ground. -/
  downlink : List Bytes := []

namespace Mission

/-- The handlers on the ground act on the command path only. -/
def machine : Machine Nat PathFailure PathRequest PathRequest.Reply Mission where
  Choice := PathChoice
  exec choice thread mission request :=
    (CommandPath.machine.exec choice thread mission.path request).map fun outcome =>
      (outcome.1, { mission with path := outcome.2 })

/-- A datagram reaches the spacecraft. -/
def receive (mission : Mission) (nowNs : Int) (raw : Bytes) : Mission :=
  let outcome := mission.spacecraft.datagramReceived nowNs raw
  { mission with
    spacecraft := outcome.2
    downlink := mission.downlink ++ outcome.1.toList }

/-- The telemetry loop takes a turn. -/
def turn (mission : Mission) (draw : SpacecraftState.TelemetryDraw) : Mission :=
  let outcome := mission.spacecraft.telemetryTurn (mission.tick + 1) draw
  { mission with
    spacecraft := outcome.2
    tick := mission.tick + 1
    downlink := mission.downlink ++ outcome.1.toOption.toList }

/-- The process of the spacecraft starts anew, and everything it held in memory is gone. -/
def restart (mission : Mission) : Mission :=
  { mission with spacecraft := {}, tick := 0 }

/-- What happens without the ground. -/
inductive Flight (mission : Mission) : Mission → Prop where
  /-- A command arrives, for the first or another time. -/
  | command (nowNs : Int) {raw : Bytes} (sent : raw ∈ mission.path.uplink) :
      Flight mission (mission.receive nowNs raw)
  /-- Something arrives that is no command. -/
  | noise (nowNs : Int) {raw : Bytes} (garbled : (decodeCommand raw).toOption = none) :
      Flight mission (mission.receive nowNs raw)
  | turn (draw : SpacecraftState.TelemetryDraw) : Flight mission (mission.turn draw)
  | restart : Flight mission mission.restart

/-- What the operators have asked for, each time with the tokens they presented. -/
abbrev Posts := CommandRequest → Option String → Option String → Prop

/-- What a handler is called on: a request, a message of the stream or a datagram of the link. -/
def Calls (settings : MissionSettings) (posts : Posts) (mission : Mission) : PathProcess → Prop
  | .createCommand used request xOperatorToken xCommandArm =>
    used = settings ∧ posts request xOperatorToken xCommandArm
  | .dispatchCommand used event => used = settings ∧ .dispatch event ∈ mission.path.stream
  | .ingestDatagram raw _ => raw ∈ mission.downlink ∨ (decodeSpacePacket raw).toOption = none
  | .processAck envelope => .commandAck envelope ∈ mission.path.stream
  | .processStatus event => .status event ∈ mission.path.stream

/-- The mission and the handlers that are running or have finished. -/
abbrev MissionConfig := Config Nat PathFailure PathRequest PathRequest.Reply Mission Unit

/-- The steps of the mission under one configuration of its services. -/
abbrev MissionStep (settings : MissionSettings) (posts : Posts) :
    MissionConfig → MissionConfig → Prop :=
  Step machine (fun _ mission program => ∃ process : PathProcess,
    mission.Calls settings posts process ∧ program = process.program) Flight

/-- Nothing is stored, sent or running. -/
def MissionConfig.initial : MissionConfig := ⟨{}, fun _ => none⟩

end Mission

end Cislunar
