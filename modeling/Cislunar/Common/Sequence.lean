import Cislunar.Common.Packet
import Mathlib.Logic.Function.Basic

/-! Sequence counts of incoming space packets, and how many packets are missing between them. -/

namespace Cislunar

/-- `SequenceTracker`: the last sequence count of every APID. -/
structure SequenceTracker where
  last : Int → Option Int := fun _ => none

namespace SequenceTracker

/-- `observe`. -/
def observe (tracker : SequenceTracker) (apid current : Int) : Int × SequenceTracker :=
  let previous := tracker.last apid
  let tracker := { last := Function.update tracker.last apid (some current) }
  match previous with
  | none => (0, tracker)
  | some previous =>
    let expected := Int.land (previous + 1) maxSequence
    if current = expected then (0, tracker)
    else (Int.land (current - expected) maxSequence, tracker)

/-- The tracker after a row of observations. -/
def observeAll (tracker : SequenceTracker) : List (Int × Int) → SequenceTracker
  | [] => tracker
  | (apid, current) :: rest => (tracker.observe apid current).2.observeAll rest

end SequenceTracker

end Cislunar
