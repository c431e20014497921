import Cislunar.Common.Sequence
import Cislunar.Foundation.Mask
import Mathlib.Data.List.Chain

/-!
The tracker counts true gaps of unbounded counters, although it sees their low bits only.

A gap is read modulo the width of the count, so it is exact as long as fewer packets are missing than
there are counts.
-/

namespace Cislunar

open Foundation

namespace SequenceTracker

/-- The observations of one APID, in order. -/
def countsOf (apid : Int) (observations : List (Int × Int)) : List Int :=
  (observations.filter (·.1 = apid)).map (·.2)

/-- An observation remembers its own count and keeps the others. -/
theorem observe_last (tracker : SequenceTracker) (apid current : Int) :
    (tracker.observe apid current).2.last = Function.update tracker.last apid (some current) := by
  -- Each branch of the tracker stores the current count.
  unfold observe
  cases tracker.last apid with
  | none => rfl
  | some previous =>
    dsimp only
    split <;> rfl

/-- A tracker remembers the last count of every APID. -/
theorem observeAll_last (tracker : SequenceTracker) (observations : List (Int × Int)) (apid : Int) :
    (tracker.observeAll observations).last apid =
      (countsOf apid observations).getLast?.or (tracker.last apid) := by
  -- By induction on the observations, for every tracker: one of another APID changes nothing here.
  induction observations generalizing tracker with
  | nil => rfl
  | cons observation rest ih =>
    obtain ⟨other, current⟩ := observation
    rw [observeAll, ih, observe_last]
    by_cases same : other = apid
    · subst same
      rw [Function.update_self]
      simp [countsOf, List.getLast?_cons]
    · rw [Function.update_of_ne (Ne.symm same)]
      simp [countsOf, same]

/-- A gap is read modulo the width of the count. -/
theorem observe_report (tracker : SequenceTracker) (apid current : Int) :
    (tracker.observe apid current).1 = match tracker.last apid with
      | none => 0
      | some previous => (current - (previous + 1)) % 2 ^ 14 := by
  -- The code branches on the expected count; both branches report the distance modulo the width.
  have mask : ∀ value : Int, Int.land value maxSequence = value % 2 ^ 14 := fun value =>
    Mask.land_mask value 14
  unfold observe
  cases tracker.last apid with
  | none => rfl
  | some previous =>
    simp only [mask]
    split
    · dsimp only
      omega
    · dsimp only
      omega

/-- Counters that increase by at most as much as the count can tell apart. -/
def Advances (counters : List Int) : Prop :=
  counters.IsChain fun previous next => 1 ≤ next - previous ∧ next - previous ≤ 2 ^ 14

/-- What the ground sees of unbounded counters: their low fourteen bits. -/
def truncated (observations : List (Int × Int)) : List (Int × Int) :=
  observations.map fun observation => (observation.1, observation.2 % 2 ^ 14)

/-- The counter values skipped since the previous observation of the same APID, if there was one. -/
def skipped (before : List (Int × Int)) (apid counter : Int) : Int :=
  match (countsOf apid before).getLast? with
  | none => 0
  | some previous => counter - previous - 1

/-- Truncating touches the counts and nothing else. -/
theorem countsOf_truncated (apid : Int) (observations : List (Int × Int)) :
    countsOf apid (truncated observations) = (countsOf apid observations).map (· % 2 ^ 14) := by
  -- Truncation leaves the APIDs alone.
  simp [countsOf, truncated, List.filter_map, Function.comp_def]

/-- An APID's counters go on with the next observation. -/
theorem countsOf_split (apid counter : Int) (before rest : List (Int × Int)) :
    countsOf apid (before ++ (apid, counter) :: rest) =
      countsOf apid before ++ counter :: countsOf apid rest := by
  -- An observation of the APID adds its count.
  simp [countsOf]

/--
The tracker counts true gaps across wraparound, whatever the other APIDs send in between.

The first observation of an APID reports nothing missing, and each later one the counter values that
its own stream skipped. What is reported for an APID depends on the observations of this APID only.
-/
theorem observe_counts_gaps :
    (∀ observations : List (Int × Int), (∀ apid, Advances (countsOf apid observations)) →
      ∀ before apid counter rest, observations = before ++ (apid, counter) :: rest →
        ((observeAll {} (truncated before)).observe apid (counter % 2 ^ 14)).1 =
          skipped before apid counter) ∧
      ∀ (apid current : Int) (first second : List (Int × Int)),
        countsOf apid first = countsOf apid second →
          ((observeAll {} first).observe apid current).1 =
            ((observeAll {} second).observe apid current).1 := by
  constructor
  · rintro observations advances before apid counter rest rfl
    have own := advances apid
    rw [countsOf_split, Advances, List.isChain_append] at own
    rw [observe_report, observeAll_last, countsOf_truncated, List.getLast?_map, skipped]
    cases previously : (countsOf apid before).getLast? with
    | none => rfl
    | some previous =>
      -- Fewer packets are missing than there are counts, so the remainder is the gap itself.
      have step := own.2.2 previous previously counter rfl
      show (counter % 2 ^ 14 - (previous % 2 ^ 14 + 1)) % 2 ^ 14 = counter - previous - 1
      omega
  · intro apid current first second same
    rw [observe_report, observe_report, observeAll_last, observeAll_last, same]

/-- A gap of two before the counter wraps around, and none at the wrap. -/
example : ((observeAll {} [(100, 16380)]).observe 100 16383).1 = 2 ∧
    ((observeAll {} [(100, 16380), (100, 16383), (7, 3)]).observe 100 0).1 = 0 := by
  decide

end SequenceTracker

end Cislunar
