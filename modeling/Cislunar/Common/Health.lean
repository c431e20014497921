import Cislunar.Common.Packet
import Cislunar.Foundation.Binary64

/-!
Health samples on the telemetry link, and the limits that they are held against.

A float of a sample is the shortest decimal that stands for it. Products of floats are rounded to
floats.
-/

namespace Cislunar

open Foundation SpaceLink

/-- `struct.Struct("!QHhiBB")`. -/
def SpaceLink.healthPayload : List Struct.Code := [.uint64, .uint16, .int16, .int32, .uint8, .uint8]

def apidHealth : Int := 100

/-- One sample of the state of the spacecraft. -/
structure HealthTelemetry where
  timestampNs : Int
  busVoltageV : Rat
  batteryTempC : Rat
  wheelRpm : Int
  mode : Int
  faultFlags : Int
  deriving DecidableEq, Repr

/-- `round(value * factor)` of a float and an integer, whose product is a float again. -/
def roundedProduct (value : Rat) (factor : Int) : Int :=
  roundHalfEven (Binary64.round (Binary64.round value * factor))

/-- `encode_health`. -/
def encodeHealth (sequenceCount : Int) (sample : HealthTelemetry) : Except PacketFailure Bytes := do
  let payload ← liftStruct (Struct.pack healthPayload
    [sample.timestampNs, roundedProduct sample.busVoltageV 1000,
      roundedProduct sample.batteryTempC 100, sample.wheelRpm, sample.mode, sample.faultFlags])
  encodeSpacePacket apidHealth sequenceCount payload

/-- `HealthTelemetry` of the unpacked integers. -/
def unpackedHealth : List Int → Except PacketFailure HealthTelemetry
  | [timestampNs, millivolts, centidegrees, wheelRpm, mode, faultFlags] =>
    .ok ⟨timestampNs, millivolts / 1000, centidegrees / 100, wheelRpm, mode, faultFlags⟩
  | _ => .error (.structError .wrongCount)

/-- `decode_health`. -/
def decodeHealth (packet : SpacePacket) : Except PacketFailure HealthTelemetry := do
  check (packet.apid = apidHealth)
    ("expected health APID " ++ shown apidHealth ++ ", got " ++ shown packet.apid)
  check (packet.payload.length = Struct.size healthPayload) "invalid health payload length"
  let values ← liftStruct (Struct.unpack healthPayload packet.payload)
  unpackedHealth values

/-- How bad a violation is. -/
inductive Severity where
  | warning
  | critical
  deriving DecidableEq, Repr

/-- `LimitViolation`. -/
structure LimitViolation where
  parameter : String
  value : Rat
  severity : Severity
  message : String
  deriving DecidableEq, Repr

/-- `evaluate_health`. -/
def evaluateHealth (sample : HealthTelemetry) : List LimitViolation :=
  (if sample.busVoltageV < 24 then
    [⟨"bus_voltage_v", sample.busVoltageV, .critical, "Bus voltage below 24.0 V"⟩]
  else if sample.busVoltageV < 26 then
    [⟨"bus_voltage_v", sample.busVoltageV, .warning, "Bus voltage below 26.0 V"⟩]
  else []) ++
  (if 65 < sample.batteryTempC then
    [⟨"battery_temp_c", sample.batteryTempC, .critical, "Battery temperature above 65 C"⟩]
  else if 55 < sample.batteryTempC then
    [⟨"battery_temp_c", sample.batteryTempC, .warning, "Battery temperature above 55 C"⟩]
  else []) ++
  (if 5500 < sample.wheelRpm.natAbs then
    [⟨"wheel_rpm", sample.wheelRpm, .critical, "Reaction wheel speed exceeds 5500 RPM"⟩]
  else []) ++
  (if sample.faultFlags ≠ 0 then
    [⟨"fault_flags", sample.faultFlags, .critical, "Spacecraft fault flag is set"⟩]
  else [])

end Cislunar
