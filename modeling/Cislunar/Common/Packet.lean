import Cislunar.Foundation.Struct
import Cislunar.Runtime.Hash
import Mathlib.Data.Int.Bitwise

/-!
Space packets, command acknowledgements and command frames on the UDP links of the spacecraft.

Health samples carry floats and are left out.
-/

namespace Cislunar

open Foundation

namespace SpaceLink

/-- `struct.Struct("!HHH")`. -/
def primaryHeader : List Struct.Code := [.uint16, .uint16, .uint16]

/-- `struct.Struct("!I")`. -/
def crc : List Struct.Code := [.uint32]

/-- `struct.Struct("!IBiQ")` of acknowledgements. -/
def ackPayload : List Struct.Code := [.uint32, .uint8, .int32, .uint64]

/-- `struct.Struct("!IBiQ")` of commands. -/
def commandPayload : List Struct.Code := [.uint32, .uint8, .int32, .uint64]

end SpaceLink

def apidCommandAck : Int := 101

/-- `MAX_SEQUENCE`. -/
def maxSequence : Int := (1 <<< (14 : Nat)) - 1

/-- What the functions of this module raise. -/
inductive PacketFailure where
  /-- `PacketError`: a packet is malformed or fails integrity checks. -/
  | packetError (message : String)
  /-- `struct.error`. -/
  | structError (error : Struct.Error)
  deriving DecidableEq, Repr

/-- A decoded space packet. -/
structure SpacePacket where
  apid : Int
  sequenceCount : Int
  payload : Bytes
  packetType : Int := 0
  deriving DecidableEq, Repr

/-- What the spacecraft answers to a command. -/
structure CommandAck where
  commandId : Int
  status : Int
  appliedValue : Int
  timestampNs : Int
  deriving DecidableEq, Repr

/-- A command on its way to the spacecraft. -/
structure CommandFrame where
  commandId : Int
  opcode : Int
  argument : Int
  issuedNs : Int
  deriving DecidableEq, Repr

namespace SpaceLink

/-- Go on only when a packet obeys a rule. -/
def check (rule : Prop) [Decidable rule] (message : String) : Except PacketFailure Unit :=
  if rule then .ok () else .error (.packetError message)

/-- A library error of `struct` surfaces unchanged. -/
def liftStruct {α : Type} : Except Struct.Error α → Except PacketFailure α
  | .ok value => .ok value
  | .error error => .error (.structError error)

/-- `zlib.crc32(data) & 0xFFFFFFFF`. -/
def checksum (data : Bytes) : Int :=
  Int.land (zlibCrc32 data) 0xFFFFFFFF

/-- `str(value)` in a message. -/
def shown (value : Int) : String := String.ofList (formatDecimal 1 value)

end SpaceLink

open SpaceLink

/-- `_validate_apid`. -/
def validateApid (apid : Int) : Except PacketFailure Unit :=
  check (0 ≤ apid ∧ apid ≤ 0x7FF) ("APID out of range: " ++ shown apid)

/-- `encode_space_packet`. -/
def encodeSpacePacket (apid sequenceCount : Int) (payload : Bytes) (packetType : Int := 0) :
    Except PacketFailure Bytes := do
  validateApid apid
  check (packetType = 0 ∨ packetType = 1) "packet_type must be 0 (telemetry) or 1 (command)"
  check (0 ≤ sequenceCount ∧ sequenceCount ≤ maxSequence)
    ("sequence_count out of range: " ++ shown sequenceCount)
  check (payload ≠ []) "payload must not be empty"
  let firstWord := Int.lor (Int.lor (packetType <<< (12 : Nat)) (1 <<< (11 : Nat))) apid
  let secondWord := Int.lor (0b11 <<< (14 : Nat)) sequenceCount
  let dataLength : Int := payload.length + Struct.size crc - 1
  let header ← liftStruct (Struct.pack primaryHeader [firstWord, secondWord, dataLength])
  let trailer ← liftStruct (Struct.pack crc [checksum (header ++ payload)])
  return header ++ payload ++ trailer

/-- `decode_space_packet`. -/
def decodeSpacePacket (raw : Bytes) : Except PacketFailure SpacePacket := do
  check (Struct.size primaryHeader + Struct.size crc + 1 ≤ raw.length) "packet is too short"
  let words ← liftStruct (Struct.unpack primaryHeader (raw.take (Struct.size primaryHeader)))
  match words with
  | [firstWord, secondWord, dataLength] =>
    let expectedTotal := Struct.size primaryHeader + dataLength + 1
    check ((raw.length : Int) = expectedTotal)
      ("length mismatch: expected " ++ shown expectedTotal ++ ", got " ++ shown raw.length)
    let body := raw.take (raw.length - Struct.size crc)
    let expectedCrc ← liftStruct (Struct.unpack crc (raw.drop (raw.length - Struct.size crc)))
    check (expectedCrc.headD 0 = checksum body) "CRC mismatch"
    let version := Int.land (firstWord >>> (13 : Nat)) 0b111
    check (version = 0) ("unsupported packet version: " ++ shown version)
    return {
      apid := Int.land firstWord 0x7FF
      sequenceCount := Int.land secondWord maxSequence
      payload := body.drop (Struct.size primaryHeader)
      packetType := Int.land (firstWord >>> (12 : Nat)) 0b1 }
  | _ => .error (.structError .wrongCount)

/-- `encode_ack`. -/
def encodeAck (sequenceCount : Int) (ack : CommandAck) : Except PacketFailure Bytes := do
  let payload ← liftStruct (Struct.pack ackPayload
    [ack.commandId, ack.status, ack.appliedValue, ack.timestampNs])
  encodeSpacePacket apidCommandAck sequenceCount payload

/-- `CommandAck` of the unpacked integers. -/
def unpackedAck : List Int → Except PacketFailure CommandAck
  | [commandId, status, appliedValue, timestampNs] =>
    .ok ⟨commandId, status, appliedValue, timestampNs⟩
  | _ => .error (.structError .wrongCount)

/-- `decode_ack`. -/
def decodeAck (packet : SpacePacket) : Except PacketFailure CommandAck := do
  check (packet.apid = apidCommandAck)
    ("expected ACK APID " ++ shown apidCommandAck ++ ", got " ++ shown packet.apid)
  check (packet.payload.length = Struct.size ackPayload) "invalid ACK payload length"
  let values ← liftStruct (Struct.unpack ackPayload packet.payload)
  unpackedAck values

/-- `encode_command`. -/
def encodeCommand (frame : CommandFrame) : Except PacketFailure Bytes := do
  let payload ← liftStruct (Struct.pack commandPayload
    [frame.commandId, frame.opcode, frame.argument, frame.issuedNs])
  let trailer ← liftStruct (Struct.pack crc [checksum payload])
  return payload ++ trailer

/-- `CommandFrame` of the unpacked integers. -/
def unpackedCommand : List Int → Except PacketFailure CommandFrame
  | [commandId, opcode, argument, issuedNs] => .ok ⟨commandId, opcode, argument, issuedNs⟩
  | _ => .error (.structError .wrongCount)

/-- `decode_command`. -/
def decodeCommand (raw : Bytes) : Except PacketFailure CommandFrame := do
  check (raw.length = Struct.size commandPayload + Struct.size crc) "invalid command frame length"
  let payload := raw.take (raw.length - Struct.size crc)
  let expected ← liftStruct (Struct.unpack crc (raw.drop (raw.length - Struct.size crc)))
  check (expected.headD 0 = checksum payload) "command CRC mismatch"
  let values ← liftStruct (Struct.unpack commandPayload payload)
  unpackedCommand values

end Cislunar
