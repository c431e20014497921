import Cislunar.Common.Commands
import Cislunar.Common.Packet
import Mathlib.Logic.Function.Basic

/-!
The simulated spacecraft: what a datagram of the command link does to it.

The telemetry loop draws samples from a clock and from random floats and is left out.
-/

namespace Cislunar

/-- What commands control. -/
structure Controls where
  mode : Int := 1
  wheelRpm : Int := 1200
  faultFlags : Int := 0
  deriving DecidableEq, Repr

/-- The effect of a frame that is not a repetition, and the status it is acknowledged with. -/
def Controls.execute (controls : Controls) (frame : CommandFrame) : Int × Controls :=
  let name := opcodeToName.lookup frame.opcode
  if name = some "SET_MODE" ∧ 0 ≤ frame.argument ∧ frame.argument ≤ 3 then
    (0, { controls with mode := frame.argument })
  else if name = some "SET_WHEEL_RPM" ∧ -6000 ≤ frame.argument ∧ frame.argument ≤ 6000 then
    (0, { controls with wheelRpm := frame.argument })
  else if name = some "RESET_FAULTS" ∧ frame.argument = 0 then
    (0, { controls with faultFlags := 0 })
  else (1, controls)

/-- `SpacecraftState`. -/
structure SpacecraftState extends Controls where
  healthSequence : Int := 0
  ackSequence : Int := 0
  commandResults : Int → Option CommandAck := fun _ => none

namespace SpacecraftState

/-- `apply`, with the reading of `now_ns` that it takes where it takes one. -/
def apply (state : SpacecraftState) (nowNs : Int) (raw : Bytes) :
    Except PacketFailure CommandAck × SpacecraftState :=
  match decodeCommand raw with
  | .error error => (.error error, state)
  | .ok frame =>
    match state.commandResults frame.commandId with
    | some cached => (.ok cached, state)
    | none =>
      let (status, controls) := state.toControls.execute frame
      let ack : CommandAck := ⟨frame.commandId, status, frame.argument, nowNs⟩
      (.ok ack, { state with
        toControls := controls
        commandResults := Function.update state.commandResults frame.commandId (some ack) })

/-- The state after a row of datagrams, each with its clock reading. -/
def applyAll (state : SpacecraftState) : List (Int × Bytes) → SpacecraftState
  | [] => state
  | (nowNs, raw) :: rest => (state.apply nowNs raw).2.applyAll rest

end SpacecraftState

end Cislunar
