import Cislunar.Common.Sequence
import Cislunar.Services.HealthPath

/-!
What the ingest counts as lost, and what the link really loses.

Between decoding a datagram and counting its gap the ingest does not wait, so it counts datagrams in
the order in which they arrive.
-/

namespace Cislunar

open Foundation

/-- The part of `IngestProtocol` that counts, with the counter `ingest_sequence_gaps_total`. -/
structure GapCounter where
  tracker : SequenceTracker := {}
  /-- What was added under the label of an APID. -/
  gaps : Int → Int := fun _ => 0

namespace GapCounter

/-- The beginning of `_process`: a packet that decodes is observed, whatever it carries. -/
def process (counter : GapCounter) (raw : Bytes) : GapCounter :=
  match decodeSpacePacket raw with
  | .error _ => counter
  | .ok packet =>
    let outcome := counter.tracker.observe packet.apid packet.sequenceCount
    if outcome.1 ≠ 0 then
      { tracker := outcome.2
        gaps := Function.update counter.gaps packet.apid (counter.gaps packet.apid + outcome.1) }
    else { counter with tracker := outcome.2 }

/-- A row of datagrams in the order of their arrival. -/
def processAll (counter : GapCounter) : List Bytes → GapCounter
  | [] => counter
  | raw :: rest => (counter.process raw).processAll rest

end GapCounter

/-- What a link that keeps the order does. -/
inductive LinkEvent where
  | delivered (raw : Bytes)
  | lost (raw : Bytes)
  /-- Something arrives that was not sent. -/
  | noise (raw : Bytes)
  deriving DecidableEq, Repr

/-- Whether a datagram is a packet of an APID. -/
def carries (apid : Int) (raw : Bytes) : Bool :=
  (decodeSpacePacket raw).toOption.any fun packet => packet.apid = apid

namespace LinkEvent

/-- What was given to the link. -/
def sent : LinkEvent → Option Bytes
  | delivered raw | lost raw => some raw
  | noise _ => none

/-- What comes out of the link. -/
def heard : LinkEvent → Option Bytes
  | delivered raw | noise raw => some raw
  | lost _ => none

/-- A packet of an APID arrives. -/
def arrives (apid : Int) : LinkEvent → Bool
  | delivered raw => carries apid raw
  | lost _ | noise _ => false

/-- A packet of an APID is lost. -/
def loses (apid : Int) : LinkEvent → Bool
  | lost raw => carries apid raw
  | delivered _ | noise _ => false

end LinkEvent

/-- The packets of an APID that are lost although a later one arrives. -/
def lostBefore (apid : Int) : List LinkEvent → Nat
  | [] => 0
  | event :: rest =>
    (if event.loses apid ∧ rest.any (·.arrives apid) then 1 else 0) + lostBefore apid rest

/-- The packets of an APID that are lost between two that arrive. -/
def lostBetween (apid : Int) (events : List LinkEvent) : Nat :=
  lostBefore apid (events.dropWhile fun event => !event.arrives apid)

namespace HealthSystem

/-- The spacecraft stays up: it is sent anything, and its telemetry loop takes turns. -/
inductive Airborne (system : HealthSystem) : HealthSystem → Prop where
  | command (nowNs : Int) (raw : Bytes) : Airborne system (system.receive nowNs raw)
  | turn (draw : SpacecraftState.TelemetryDraw) : Airborne system (system.turn draw)

end HealthSystem

end Cislunar
