import Cislunar.Telemetry.Codec

/-! The receiver rules of the Interface Control Document, stated over the raw bytes of a frame. -/

namespace Cislunar

open Foundation

/-- The unsigned big-endian number at a fixed place of a frame. -/
def wireField (raw : Bytes) (offset width : Nat) : Nat :=
  Struct.beNat ((raw.drop offset).take width)

/-- Temperature in two's complement at offset 18. -/
def wireTemperature (raw : Bytes) : Int :=
  if wireField raw 18 2 < 2 ^ 15 then wireField raw 18 2 else wireField raw 18 2 - 2 ^ 16

/-- One receiver rule with the reason that reports its violation. -/
structure InterfaceRule where
  holds : Bool
  reason : TelemetryRejectionReason

/-- The rules about the frame as a whole. -/
def frameRules (checksum : Bytes → Nat) (raw : Bytes) : List InterfaceRule :=
  [⟨!raw.isEmpty, .emptyBody⟩,
    ⟨wireField raw 0 1 = 1, .unsupportedProtocolVersion⟩,
    ⟨raw.length = 28, .invalidFrameLength⟩,
    ⟨wireField raw 24 4 = checksum (raw.take 24), .crcMismatch⟩]

/-- The rules about single fields, for a receipt at `receivedUs`. -/
def fieldRules (raw : Bytes) (receivedUs : Int) : List InterfaceRule :=
  [⟨wireField raw 1 1 = 1, .unsupportedPayloadId⟩,
    ⟨wireField raw 2 4 ≠ 0, .invalidBootId⟩,
    -- 2026-01-01T00:00Z in microseconds.
    ⟨1767225600000000 ≤ wireField raw 10 8, .timestampBeforeProjectEpoch⟩,
    ⟨(wireField raw 10 8 : Int) ≤ receivedUs + 300000000, .timestampTooFarInFuture⟩,
    ⟨-10000 ≤ wireTemperature raw ∧ wireTemperature raw ≤ 15000, .temperatureOutOfRange⟩,
    ⟨wireField raw 20 2 ≤ 50000, .voltageOutOfRange⟩,
    ⟨wireField raw 22 1 ∈ [0, 1, 2, 3], .invalidOperatingMode⟩,
    -- Bits six and seven of the fault byte are reserved.
    ⟨!(wireField raw 23 1).testBit 6 && !(wireField raw 23 1).testBit 7, .reservedFaultBitsSet⟩]

/-- The reason of the first rule of a list that does not hold. -/
def firstBroken (rules : List InterfaceRule) : Option TelemetryRejectionReason :=
  (rules.find? fun rule => !rule.holds).map (·.reason)

/-- The verdict of the document: the first broken rule in its order, the frame rules first. -/
def firstBrokenRule (checksum : Bytes → Nat) (raw : Bytes) (receivedUs : Int) :
    Option TelemetryRejectionReason :=
  firstBroken (frameRules checksum raw ++ fieldRules raw receivedUs)

end Cislunar
