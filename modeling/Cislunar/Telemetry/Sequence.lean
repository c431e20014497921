import Cislunar.Runtime.Basic

/-! Pure decisions of the persistent sequence tracking. -/

namespace Cislunar

/-- `UINT32_MODULUS`. -/
def uint32Modulus : Int := 4294967296

/-- `HALF_RANGE`. -/
def halfRange : Int := 2147483648

/-- Named outcomes of the sequence table of the Interface Control Document. -/
inductive SequenceDisposition where
  | firstInOrder
  | firstWithGap
  | inOrder
  | gap
  | duplicate
  | conflict
  | lateOrOutOfOrder
  deriving DecidableEq, Repr

/-- What the pure rule can raise. -/
inductive SequenceError where
  | valueError (message : String)
  /-- `SequenceStateError`. -/
  | sequenceState (message : String)
  deriving DecidableEq, Repr

/-- A persistence-neutral decision for one validated frame. -/
structure SequenceDecision where
  disposition : SequenceDisposition
  accepted : Bool
  shouldQueue : Bool
  shouldAdvanceHighWater : Bool
  nextHighWater : Option Int
  missingCount : Int := 0
  deriving DecidableEq, Repr

/-- `is_unique`: the delivery is new logical packet evidence. -/
def SequenceDecision.isUnique (decision : SequenceDecision) : Bool :=
  decision.disposition ∉ [.duplicate, .conflict]

/-- `_validate_uint32`. -/
def validateUint32 (name : String) (value : Int) : Except SequenceError Unit :=
  if 0 ≤ value ∧ value ≤ uint32Modulus - 1 then .ok ()
  else .error (.valueError (name ++ " must be an unsigned 32-bit integer"))

/-- The branch for a key that has no permanent record yet, in a session with a high-water mark. -/
def decideFromMark (lastHighWater currentSequence : Int) :
    Except SequenceError SequenceDecision :=
  let forwardDistance := (currentSequence - lastHighWater) % uint32Modulus
  if forwardDistance = 0 then
    .error (.sequenceState ("the current sequence equals the high-water mark, but its permanent " ++
      "packet record was not supplied"))
  else if forwardDistance = 1 then
    .ok ⟨.inOrder, true, true, true, some currentSequence, 0⟩
  else if 2 ≤ forwardDistance ∧ forwardDistance < halfRange then
    .ok ⟨.gap, true, true, true, some currentSequence, forwardDistance - 1⟩
  else
    .ok ⟨.lateOrOutOfOrder, true, true, false, some lastHighWater, 0⟩

/-- `decide_sequence`. -/
def decideSequence (lastHighWater : Option Int) (currentSequence : Int) (incomingBytes : Bytes)
    (existingPacketBytes : Option Bytes) : Except SequenceError SequenceDecision := do
  validateUint32 "current_sequence" currentSequence
  if let some mark := lastHighWater then
    validateUint32 "last_high_water" mark
  if incomingBytes.isEmpty then
    throw (.valueError "incoming_bytes must be non-empty bytes")
  match existingPacketBytes with
  | some stored =>
    if stored = incomingBytes then
      return ⟨.duplicate, true, false, false, lastHighWater, 0⟩
    else
      return ⟨.conflict, false, false, false, lastHighWater, 0⟩
  | none =>
    match lastHighWater with
    | none =>
      let disposition := if currentSequence = 0 then .firstInOrder else .firstWithGap
      return ⟨disposition, true, true, true, some currentSequence, currentSequence⟩
    | some mark => decideFromMark mark currentSequence

end Cislunar
