import Cislunar.Foundation.Struct
import Cislunar.Runtime.Basic
import Mathlib.Data.Int.Bitwise

/-! The binary telemetry frame, version 1: encoding, decoding and the ordered field rules. -/

namespace Cislunar

open Foundation

/-- Version byte of every version 1 frame. -/
def protocolVersion : Int := 1

/-- The one payload the version 1 ground system accepts. -/
def supportedPayloadId : Int := 1

/-- `struct.Struct(">BBIIQhHBB")`. -/
def telemetryV1Body : List Struct.Code :=
  [.uint8, .uint8, .uint32, .uint32, .uint64, .int16, .uint16, .uint8, .uint8]

/-- `struct.Struct(">I")`. -/
def crc32BigEndian : List Struct.Code := [.uint32]

/-- Bytes covered by the checksum. -/
def telemetryV1BodySize : Nat := Struct.size telemetryV1Body

/-- Bytes of a whole frame, the checksum included. -/
def telemetryV1FrameSize : Nat := telemetryV1BodySize + Struct.size crc32BigEndian

/-- `(1 << 32) - 1`. -/
def uint32Max : Int := 2 ^ 32 - 1

/-- `1 << 64`. -/
def uint64Limit : Int := 2 ^ 64

/-- `datetime(2026, 1, 1, tzinfo=UTC)` in microseconds. -/
def projectEpochUs : Int := secondsUs 1767225600

/-- `timedelta(minutes=5)` in microseconds. -/
def maxFutureSkewUs : Int := secondsUs (5 * 60)

def minTemperatureCentiC : Int := -10000

def maxTemperatureCentiC : Int := 15000

def minVoltageMv : Int := 0

def maxVoltageMv : Int := 50000

/-- Payload operating modes of version 1. -/
inductive OperatingMode where
  | safe
  | standby
  | science
  | calibration
  deriving DecidableEq, Repr

namespace OperatingMode

/-- The wire value of a mode. -/
def toInt : OperatingMode → Int
  | safe => 0
  | standby => 1
  | science => 2
  | calibration => 3

/-- `OperatingMode(value)`, which raises `ValueError` on an undefined value. -/
def ofInt? (value : Int) : Option OperatingMode :=
  if value = 0 then some safe
  else if value = 1 then some standby
  else if value = 2 then some science
  else if value = 3 then some calibration
  else none

/-- The member's name. -/
def name : OperatingMode → String
  | safe => "SAFE"
  | standby => "STANDBY"
  | science => "SCIENCE"
  | calibration => "CALIBRATION"

end OperatingMode

/-- An `IntFlag` value; the enumeration keeps undefined bits, so any integer is a value. -/
abbrev FaultFlag := Int

namespace FaultFlag

def none : FaultFlag := 0

def overTemperature : FaultFlag := 0x01

def underVoltage : FaultFlag := 0x02

def overVoltage : FaultFlag := 0x04

def temperatureSensorFault : FaultFlag := 0x08

def voltageSensorFault : FaultFlag := 0x10

def internalPayloadFault : FaultFlag := 0x20

/-- The members other than `NONE` in definition order, with their names. -/
def members : List (FaultFlag × String) :=
  [(overTemperature, "OVER_TEMPERATURE"), (underVoltage, "UNDER_VOLTAGE"),
    (overVoltage, "OVER_VOLTAGE"), (temperatureSensorFault, "TEMPERATURE_SENSOR_FAULT"),
    (voltageSensorFault, "VOLTAGE_SENSOR_FAULT"),
    (internalPayloadFault, "INTERNAL_PAYLOAD_FAULT")]

end FaultFlag

/-- Every defined fault bit. -/
def definedFaultMask : Int :=
  [FaultFlag.underVoltage, FaultFlag.overVoltage, FaultFlag.temperatureSensorFault,
    FaultFlag.voltageSensorFault, FaultFlag.internalPayloadFault].foldl Int.lor
    FaultFlag.overTemperature

/-- Fault bits that version 1 keeps clear. -/
def reservedFaultMask : Int := 0xC0

/-- Stable reasons the receiver persists with rejected evidence. -/
inductive TelemetryRejectionReason where
  | emptyBody
  | unsupportedProtocolVersion
  | invalidFrameLength
  | crcMismatch
  | unsupportedPayloadId
  | invalidBootId
  | timestampBeforeProjectEpoch
  | timestampTooFarInFuture
  | temperatureOutOfRange
  | voltageOutOfRange
  | invalidOperatingMode
  | reservedFaultBitsSet
  deriving DecidableEq, Repr

/-- The persisted text of a reason. -/
def TelemetryRejectionReason.value : TelemetryRejectionReason → String
  | emptyBody => "EMPTY_BODY"
  | unsupportedProtocolVersion => "UNSUPPORTED_PROTOCOL_VERSION"
  | invalidFrameLength => "INVALID_FRAME_LENGTH"
  | crcMismatch => "CRC_MISMATCH"
  | unsupportedPayloadId => "UNSUPPORTED_PAYLOAD_ID"
  | invalidBootId => "INVALID_BOOT_ID"
  | timestampBeforeProjectEpoch => "TIMESTAMP_BEFORE_PROJECT_EPOCH"
  | timestampTooFarInFuture => "TIMESTAMP_TOO_FAR_IN_FUTURE"
  | temperatureOutOfRange => "TEMPERATURE_OUT_OF_RANGE"
  | voltageOutOfRange => "VOLTAGE_OUT_OF_RANGE"
  | invalidOperatingMode => "INVALID_OPERATING_MODE"
  | reservedFaultBitsSet => "RESERVED_FAULT_BITS_SET"

/-- Everything the codec can raise. -/
inductive CodecError where
  /-- `TelemetryValidationError`: one named interface rule failed. -/
  | validation (reason : TelemetryRejectionReason) (detail : String)
  /-- A plain `ValueError`. -/
  | valueError (message : String)
  /-- `struct.error`. -/
  | structError (error : Struct.Error)
  deriving DecidableEq, Repr

/-- What a frame's mode field may hold: a member, or the raw integer that is still unchecked. -/
class ModeField (Mode : Type) where
  /-- `int(frame.operating_mode)`. -/
  toInt : Mode → Int
  /-- `repr(frame.operating_mode)`. -/
  repr : Mode → String

instance : ModeField OperatingMode where
  toInt := OperatingMode.toInt
  repr mode :=
    "<OperatingMode." ++ mode.name ++ ": " ++ String.ofList (formatDecimal 1 mode.toInt) ++ ">"

instance : ModeField Int where
  toInt value := value
  repr value := String.ofList (formatDecimal 1 value)

/-- Telemetry values in their exact version 1 wire units. -/
structure TelemetryFrame (Mode : Type) where
  payloadId : Int
  bootId : Int
  sequenceNumber : Int
  timestampUs : Int
  temperatureCentiC : Int
  voltageMv : Int
  operatingMode : Mode
  faultFlags : FaultFlag := FaultFlag.none
  protocolVersion : Int := Cislunar.protocolVersion
  deriving DecidableEq, Repr

namespace TelemetryFrame

variable {Mode : Type}

/-- Degrees Celsius; the quotient stands for the float the source divides to. -/
def temperatureC (frame : TelemetryFrame Mode) : Rat :=
  frame.temperatureCentiC / 100

/-- Volts; the quotient stands for the float the source divides to. -/
def voltageV (frame : TelemetryFrame Mode) : Rat :=
  frame.voltageMv / 1000

end TelemetryFrame

/-- `_timestamp_us`: exact microseconds of an aware value, from the normalized difference. -/
def timestampUs (value : Datetime) : Except CodecError Int :=
  match value.utcoffset with
  | none => .error (.valueError "ground_received_at must include a timezone")
  | some offset =>
    let delta := value.wallUs - offset
    -- A difference is stored as days, seconds within the day and microseconds within the second.
    let days := delta / 86400000000
    let seconds := delta % 86400000000 / 1000000
    let microseconds := delta % 1000000
    .ok (days * 86400000000 + seconds * 1000000 + microseconds)

/-- Go on only when a rule holds. -/
def require (rule : Prop) [Decidable rule] (error : CodecError) : Except CodecError Unit :=
  if rule then .ok () else .error error

/-- A sample may be at most five minutes ahead of the receipt it is compared with. -/
def requireReceivable (sampleUs : Int) : Option Datetime → Except CodecError Unit
  -- The encoder runs before any receipt exists and skips the comparison.
  | none => .ok ()
  | some groundReceivedAt => do
    let receivedUs ← timestampUs groundReceivedAt
    require (sampleUs ≤ receivedUs + maxFutureSkewUs)
      (.validation .timestampTooFarInFuture
        "sample timestamp is more than five minutes after ground receipt")

/-- `_validate_fields`: the version 1 field rules in interface order. -/
def validateFields {Mode : Type} [ModeField Mode] (frame : TelemetryFrame Mode)
    (groundReceivedAt : Option Datetime) : Except CodecError Unit := do
  require (frame.protocolVersion = protocolVersion)
    (.validation .unsupportedProtocolVersion
      ("protocol_version must be 1, got " ++ String.ofList (formatDecimal 1 frame.protocolVersion)))
  require (frame.payloadId = supportedPayloadId)
    (.validation .unsupportedPayloadId
      ("payload_id must be 1, got " ++ String.ofList (formatDecimal 1 frame.payloadId)))
  require (1 ≤ frame.bootId ∧ frame.bootId ≤ uint32Max)
    (.validation .invalidBootId ("boot_id must be between 1 and 4294967295, got " ++
      String.ofList (formatDecimal 1 frame.bootId)))
  require (0 ≤ frame.sequenceNumber ∧ frame.sequenceNumber ≤ uint32Max)
    (.valueError ("sequence_number must be between 0 and 4294967295, got " ++
      String.ofList (formatDecimal 1 frame.sequenceNumber)))
  require (0 ≤ frame.timestampUs ∧ frame.timestampUs < uint64Limit)
    (.valueError "timestamp_us must fit an unsigned 64-bit integer")
  require (projectEpochUs ≤ frame.timestampUs)
    (.validation .timestampBeforeProjectEpoch "timestamp_us is before 2026-01-01T00:00:00Z")
  requireReceivable frame.timestampUs groundReceivedAt
  require (minTemperatureCentiC ≤ frame.temperatureCentiC ∧
      frame.temperatureCentiC ≤ maxTemperatureCentiC)
    (.validation .temperatureOutOfRange "temperature_centi_c must be between -10000 and 15000")
  require (minVoltageMv ≤ frame.voltageMv ∧ frame.voltageMv ≤ maxVoltageMv)
    (.validation .voltageOutOfRange "voltage_mv must be between 0 and 50000")
  require ((OperatingMode.ofInt? (ModeField.toInt frame.operatingMode)).isSome)
    (.validation .invalidOperatingMode
      ("operating_mode is not defined in version 1: " ++ ModeField.repr frame.operatingMode))
  require (0 ≤ frame.faultFlags ∧ frame.faultFlags ≤ 0xFF)
    (.valueError "fault_flags must fit an unsigned 8-bit integer")
  require (Int.land frame.faultFlags reservedFaultMask = 0)
    (.validation .reservedFaultBitsSet
      ("reserved fault bits must be zero: 0x" ++ String.ofList (formatLowerHex 2 frame.faultFlags)))

/-- A library error of `struct` surfaces unchanged. -/
def liftStruct {α : Type} : Except Struct.Error α → Except CodecError α
  | .ok value => .ok value
  | .error error => .error (.structError error)

section
-- `zlib.crc32`; the wire format fixes its value, and no result below depends on which it is.
variable (zlibCrc32 : Bytes → Nat)

/-- `crc32_iso_hdlc`: the low 32 bits of the checksum. -/
def crc32IsoHdlc (data : Bytes) : Nat :=
  zlibCrc32 data &&& (2 ^ 32 - 1)

/-- `encode_telemetry`. -/
def encodeTelemetry {Mode : Type} [ModeField Mode] (frame : TelemetryFrame Mode)
    (groundReceivedAt : Option Datetime := none) : Except CodecError Bytes := do
  validateFields frame groundReceivedAt
  let body ← liftStruct (Struct.pack telemetryV1Body
    [frame.protocolVersion, frame.payloadId, frame.bootId, frame.sequenceNumber,
      frame.timestampUs, frame.temperatureCentiC, frame.voltageMv,
      ModeField.toInt frame.operatingMode, frame.faultFlags])
  let checksum ← liftStruct (Struct.pack crc32BigEndian [(crc32IsoHdlc zlibCrc32 body : Int)])
  return body ++ checksum

/-- Frame of the unpacked integers, the mode still unchecked. -/
def unpackedFrame : List Int → Except CodecError (TelemetryFrame Int)
  | [version, payload, boot, sequence, timestamp, temperature, voltage, mode, faults] =>
    .ok { protocolVersion := version, payloadId := payload, bootId := boot,
          sequenceNumber := sequence, timestampUs := timestamp, temperatureCentiC := temperature,
          voltageMv := voltage, operatingMode := mode, faultFlags := faults }
  | _ => .error (.structError .wrongCount)

/-- The returned frame, whose mode is a member rather than its integer. -/
def checkedFrame (frame : TelemetryFrame Int) : Except CodecError (TelemetryFrame OperatingMode) :=
  match OperatingMode.ofInt? frame.operatingMode with
  | none => .error (.valueError "not a valid OperatingMode")
  | some mode => .ok { frame with operatingMode := mode }

/-- The part of `decode_telemetry` after the length check: checksum, then the ordered fields. -/
def decodeSizedFrame (raw : Bytes) (groundReceivedAt : Datetime) :
    Except CodecError (TelemetryFrame OperatingMode) := do
  let body := raw.take telemetryV1BodySize
  let expected ← liftStruct (Struct.unpack crc32BigEndian (raw.drop telemetryV1BodySize))
  let expectedCrc := expected.headD 0
  let actualCrc := crc32IsoHdlc zlibCrc32 body
  require (expectedCrc = actualCrc)
    (.validation .crcMismatch ("expected CRC 0x" ++ String.ofList (formatUpperHex 8 expectedCrc) ++
      ", calculated 0x" ++ String.ofList (formatUpperHex 8 actualCrc)))
  let values ← liftStruct (Struct.unpack telemetryV1Body body)
  -- The raw mode integer is kept until the ordered validation has run.
  let frame ← unpackedFrame values
  validateFields frame (some groundReceivedAt)
  checkedFrame frame

/-- `decode_telemetry`. -/
def decodeTelemetry (raw : Bytes) (groundReceivedAt : Datetime) :
    Except CodecError (TelemetryFrame OperatingMode) :=
  match raw with
  | [] => .error (.validation .emptyBody "telemetry body is empty")
  | first :: _ => do
    -- The version is inspected before length and checksum, in the receiver's validation order.
    require ((first.toNat : Int) = protocolVersion)
      (.validation .unsupportedProtocolVersion
        ("protocol_version must be 1, got " ++ String.ofList (formatDecimal 1 first.toNat)))
    require (raw.length = telemetryV1FrameSize)
      (.validation .invalidFrameLength ("telemetry version 1 must be 28 bytes, got " ++
        String.ofList (formatDecimal 1 raw.length)))
    decodeSizedFrame zlibCrc32 raw groundReceivedAt

end

/-- `TLM-P..-B..-S..` text shared by both identifier formatters. -/
def packetIdText (payloadId bootId sequenceNumber : Int) : String :=
  String.ofList ("TLM-P".toList ++ formatDecimal 2 payloadId ++ "-B".toList ++
    formatUpperHex 8 bootId ++ "-S".toList ++ formatUpperHex 8 sequenceNumber)

/-- `format_packet_id`. -/
def formatPacketId (payloadId bootId sequenceNumber : Int) : Except CodecError String := do
  require (0 ≤ payloadId ∧ payloadId ≤ 99)
    (.valueError "payload_id must fit the two-digit display field")
  require (0 ≤ bootId ∧ bootId ≤ uint32Max)
    (.valueError "boot_id must fit an unsigned 32-bit integer")
  require (0 ≤ sequenceNumber ∧ sequenceNumber ≤ uint32Max)
    (.valueError "sequence_number must fit an unsigned 32-bit integer")
  return packetIdText payloadId bootId sequenceNumber

/-- `TelemetryFrame.packet_id`. -/
def TelemetryFrame.packetId {Mode : Type} (frame : TelemetryFrame Mode) : Except CodecError String :=
  formatPacketId frame.payloadId frame.bootId frame.sequenceNumber

end Cislunar
