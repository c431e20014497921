import Cislunar.Common.Packet
import Cislunar.Foundation.Fallible
import Cislunar.Foundation.Mask

/-!
Space packets decode to what was encoded, and what is decoded was encoded but for five header bits.

Encoding and decoding are both described by the header words, the payload and the trailer of a packet.
-/

namespace Cislunar

open Foundation SpaceLink

namespace SpaceLink

/-- A check succeeds exactly when its rule holds. -/
@[simp] theorem check_eq_ok {rule : Prop} [Decidable rule] {message : String} {done : Unit} :
    check rule message = .ok done ↔ rule := by
  unfold check
  split <;> simp_all

/-- A library result surfaces as success exactly when it is one. -/
@[simp] theorem liftStruct_eq_ok {α : Type} {result : Except Struct.Error α} {value : α} :
    liftStruct result = .ok value ↔ result = .ok value := by
  cases result <;> simp [liftStruct]

/-- A check that fails raises its own `PacketError`. -/
theorem check_eq_error {rule : Prop} [Decidable rule] {message : String} {error : PacketFailure}
    (failed : check rule message = .error error) : error = .packetError message := by
  -- A check fails with its own message and with nothing else.
  rw [check] at failed
  split at failed
  · cases failed
  · exact (Except.error.inj failed).symm

/-- A record of the right length is unpacked. -/
theorem liftStruct_unpack_ne_error {format : List Struct.Code} {bytes : Bytes}
    (sized : bytes.length = Struct.size format) {error : PacketFailure} :
    liftStruct (Struct.unpack format bytes) ≠ .error error := by
  -- Bytes of the right size always unpack.
  rw [Struct.unpack_sized sized]
  exact nofun

/-- A failed check ends a computation with its own message. -/
theorem check_bind_failed {rule : Prop} [Decidable rule] {message : String} {α : Type}
    (broken : ¬rule) (next : Unit → Except PacketFailure α) :
    (check rule message >>= next) = .error (.packetError message) := by
  rw [check, if_neg broken]
  rfl

/-- A checksum fits its four bytes. -/
theorem checksum_holds (data : Bytes) : Struct.Code.uint32.Holds (checksum data) := by
  -- Python masks the sum to 32 bits.
  have masked : checksum data = (zlibCrc32 data : Int) % 2 ^ 32 := Mask.land_mask _ 32
  rw [masked]
  show 0 ≤ _ ∧ _ < (0 : Int) + 256 ^ 4
  omega

/-- The first header word: the packet type, the secondary header flag and the APID. -/
def firstWord (packetType apid : Int) : Int :=
  Int.lor (Int.lor (packetType <<< (12 : Nat)) (1 <<< (11 : Nat))) apid

/-- The second header word: the sequence flags and the sequence count. -/
def secondWord (sequenceCount : Int) : Int := Int.lor (0b11 <<< (14 : Nat)) sequenceCount

/-- The fields of the first word stand side by side. -/
theorem firstWord_eq {packetType apid : Int} (kind : packetType = 0 ∨ packetType = 1)
    (range : 0 ≤ apid ∧ apid ≤ 0x7FF) : firstWord packetType apid = packetType * 4096 + 2048 + apid := by
  obtain ⟨apid, rfl⟩ := Int.eq_ofNat_of_zero_le range.1
  have small : apid < 2 ^ 11 := by omega
  -- The packet type and the flag stand above the eleven bits of the APID.
  have fields : ∀ flags : Nat,
      Int.lor ((flags : Int) <<< (11 : Nat)) (apid : Int) = flags * 2 ^ 11 + apid := by
    intro flags
    rw [Mask.lor_shift flags 11 small]
    push_cast
    rfl
  rcases kind with rfl | rfl
  · exact fields 1
  · exact fields 3

/-- The fields of the second word stand side by side. -/
theorem secondWord_eq {sequenceCount : Int} (range : 0 ≤ sequenceCount ∧ sequenceCount ≤ maxSequence) :
    secondWord sequenceCount = 49152 + sequenceCount := by
  obtain ⟨sequenceCount, rfl⟩ := Int.eq_ofNat_of_zero_le range.1
  have small : sequenceCount < 2 ^ 14 := by
    have top : maxSequence = 16383 := by decide
    omega
  -- The count has fourteen bits, so the sequence flags are added above it.
  rw [secondWord]
  exact Mask.lor_shift 3 14 small

/-- The bytes of a packet are its header words, its payload and its checksum. -/
structure Framed (raw : Bytes) (first second : Int) (payload : Bytes) (header trailer : Bytes) :
    Prop where
  joined : raw = header ++ payload ++ trailer
  filled : payload ≠ []
  packed : Struct.pack primaryHeader [first, second, (payload.length : Int) + 3] = .ok header
  sealed : Struct.pack crc [checksum (header ++ payload)] = .ok trailer

/-- The ranges that the encoder checks. -/
structure Encodable (apid sequenceCount packetType : Int) : Prop where
  apid : 0 ≤ apid ∧ apid ≤ 0x7FF
  kind : packetType = 0 ∨ packetType = 1
  count : 0 ≤ sequenceCount ∧ sequenceCount ≤ maxSequence

/-- Encoding frames the payload under the two header words. -/
theorem encodeSpacePacket_eq_ok {apid sequenceCount packetType : Int} {payload raw : Bytes} :
    encodeSpacePacket apid sequenceCount payload packetType = .ok raw ↔
      Encodable apid sequenceCount packetType ∧ ∃ header trailer,
        Framed raw (firstWord packetType apid) (secondWord sequenceCount) payload header trailer := by
  -- The length field counts the payload and the trailer less one.
  have trailing : (payload.length : Int) + (Struct.size crc : Nat) - 1 = payload.length + 3 := by
    show (payload.length : Int) + 4 - 1 = payload.length + 3
    omega
  rw [encodeSpacePacket, validateApid]
  -- Each check and each packing is one link of the chain of computations.
  simp only [check_bind_eq_ok, check_eq_ok]
  simp only [bind_eq_ok, liftStruct_eq_ok, trailing]
  constructor
  · rintro ⟨apidRange, kind, count, filled, header, packed, trailer, sealed, joined⟩
    exact ⟨⟨apidRange, kind, count⟩, header, trailer, (Except.ok.inj joined).symm, filled, packed,
      sealed⟩
  · rintro ⟨encodable, header, trailer, framed⟩
    exact ⟨encodable.apid, encodable.kind, encodable.count, framed.filled, header, framed.packed,
      trailer, framed.sealed, congrArg Except.ok framed.joined.symm⟩

section
variable {raw payload header trailer : Bytes} {first second : Int}

/-- Header and trailer have their own sizes. -/
theorem Framed.sizes (framed : Framed raw first second payload header trailer) :
    header.length = 6 ∧ trailer.length = 4 ∧ raw.length = 10 + payload.length := by
  -- Header and trailer are packed, and their formats have fixed sizes.
  have before : header.length = 6 := (Struct.pack_spec framed.packed).1
  have after : trailer.length = 4 := (Struct.pack_spec framed.sealed).1
  refine ⟨before, after, ?_⟩
  rw [framed.joined]
  simp only [List.length_append]
  omega

/-- The decoder finds the header, the checked part and the trailer where they were put. -/
theorem Framed.parts (framed : Framed raw first second payload header trailer) :
    raw.take 6 = header ∧ raw.take (raw.length - 4) = header ++ payload ∧
      raw.drop (raw.length - 4) = trailer := by
  obtain ⟨before, after, total⟩ := framed.sizes
  -- The trailer is what stands behind the header and the payload.
  have checked : (header ++ payload).length = raw.length - 4 := by
    rw [List.length_append]
    omega
  refine ⟨?_, ?_, ?_⟩
  · rw [framed.joined, List.append_assoc, List.take_left' before]
  · rw [← checked, framed.joined, List.take_left]
  · rw [← checked, framed.joined, List.drop_left]

end

/-- The fields of the header words, as the decoder masks them out. -/
def unpackedPacket (first second : Int) (payload : Bytes) : SpacePacket where
  apid := Int.land first 0x7FF
  sequenceCount := Int.land second maxSequence
  payload := payload
  packetType := Int.land (first >>> (12 : Nat)) 0b1

/-- The masks of the decoder take remainders. -/
theorem unpackedPacket_eq (first second : Int) (payload : Bytes) :
    unpackedPacket first second payload =
      ⟨first % 2 ^ 11, second % 2 ^ 14, payload, first / 2 ^ 12 % 2 ^ 1⟩ := by
  -- Each mask is one less than a power of two, and shifting by twelve divides.
  have apid : Int.land first 0x7FF = first % 2 ^ 11 := Mask.land_mask first 11
  have count : Int.land second maxSequence = second % 2 ^ 14 := Mask.land_mask second 14
  have kind : Int.land (first >>> (12 : Nat)) 0b1 = (first >>> (12 : Nat)) % 2 ^ 1 :=
    Mask.land_mask _ 1
  rw [unpackedPacket, apid, count, kind, Int.shiftRight_eq_div_pow]
  rfl

/-- The version is what stands above the other fields of the first word. -/
theorem version_eq (first : Int) :
    Int.land (first >>> (13 : Nat)) 0b111 = first / 2 ^ 13 % 2 ^ 3 := by
  -- A mask of three ones is a remainder, and a shift is a division.
  have masked : Int.land (first >>> (13 : Nat)) 0b111 = (first >>> (13 : Nat)) % 2 ^ 3 :=
    Mask.land_mask _ 3
  rw [masked, Int.shiftRight_eq_div_pow]
  rfl

/-- A buffer unpacked to one field is packed from that field. -/
theorem pack_of_unpack_crc {bytes : Bytes} {values : List Int}
    (unpacked : Struct.unpack crc bytes = .ok values) :
    Struct.pack crc [values.headD 0] = .ok bytes := by
  -- The trailer has one field, and packing is the inverse of unpacking.
  rw [← Struct.unpack_single unpacked]
  exact Struct.pack_unpack unpacked

/-- Decoding reads the header words of a framed payload. -/
theorem decodeSpacePacket_eq_ok {raw : Bytes} {packet : SpacePacket} :
    decodeSpacePacket raw = .ok packet ↔ ∃ first second payload header trailer,
      Framed raw first second payload header trailer ∧
        Int.land (first >>> (13 : Nat)) 0b111 = 0 ∧ packet = unpackedPacket first second payload := by
  have headerSize : Struct.size primaryHeader = 6 := rfl
  have trailerSize : Struct.size crc = 4 := rfl
  rw [decodeSpacePacket, check_bind_eq_ok, check_eq_ok, bind_eq_ok, headerSize, trailerSize]
  constructor
  -- A packet that is accepted is cut up into its frame.
  · rintro ⟨long, words, unpacked, decoded⟩
    rw [liftStruct_eq_ok] at unpacked
    match words, unpacked, decoded with
    | [first, second, dataLength], unpacked, decoded =>
      simp only [check_bind_eq_ok, check_eq_ok] at decoded
      obtain ⟨total, decoded⟩ := decoded
      obtain ⟨expected, trailing, decoded⟩ := bind_eq_ok.mp decoded
      simp only [check_bind_eq_ok, check_eq_ok] at decoded
      obtain ⟨same, version, returned⟩ := decoded
      have sealed := pack_of_unpack_crc (liftStruct_eq_ok.mp trailing)
      -- The checked part is the header and whatever stands between it and the trailer.
      have checked : raw.take 6 ++ (raw.take (raw.length - 4)).drop 6 = raw.take (raw.length - 4) := by
        conv_rhs => rw [← List.take_append_drop 6 (raw.take (raw.length - 4))]
        rw [List.take_take, Nat.min_eq_left (by omega)]
      have width : ((raw.take (raw.length - 4)).drop 6).length = raw.length - 10 := by
        rw [List.length_drop, List.length_take]
        omega
      have measured : (((raw.take (raw.length - 4)).drop 6).length : Int) + 3 = dataLength := by
        rw [width]
        omega
      refine ⟨first, second, (raw.take (raw.length - 4)).drop 6, raw.take 6,
        raw.drop (raw.length - 4), ⟨?_, ?_, ?_, ?_⟩, version, ?_⟩
      · rw [checked, List.take_append_drop]
      · rw [← List.length_pos_iff, width]
        omega
      · rw [measured]
        exact Struct.pack_unpack unpacked
      · rw [checked, ← same]
        exact sealed
      · exact (Except.ok.inj returned).symm
  -- A framed payload passes every check, since its parts are found where they were put.
  · rintro ⟨first, second, payload, header, trailer, framed, version, rfl⟩
    obtain ⟨before, checked, after⟩ := framed.parts
    obtain ⟨headerLength, trailerLength, total⟩ := framed.sizes
    have filled : 0 < payload.length := List.length_pos_of_ne_nil framed.filled
    refine ⟨by omega, [first, second, payload.length + 3], ?_, ?_⟩
    · rw [liftStruct_eq_ok, before]
      exact Struct.unpack_pack framed.packed
    · simp only [check_bind_eq_ok, check_eq_ok]
      refine ⟨by push_cast; omega, ?_⟩
      rw [bind_eq_ok]
      refine ⟨[checksum (header ++ payload)], ?_, ?_⟩
      · rw [liftStruct_eq_ok, after]
        exact Struct.unpack_pack framed.sealed
      · simp only [check_bind_eq_ok, check_eq_ok]
        refine ⟨?_, version, ?_⟩
        · rw [checked]
          rfl
        · rw [checked, ← headerLength, List.drop_left]
          rfl

/-- A header word fits its two bytes. -/
theorem uint16_holds_iff {value : Int} : Struct.Code.uint16.Holds value ↔ 0 ≤ value ∧ value < 65536 :=
  Iff.rfl

/-- Payloads of up to 65532 bytes under valid header fields are framed. -/
theorem exists_framed {apid sequenceCount packetType : Int} {payload : Bytes}
    (encodable : Encodable apid sequenceCount packetType) (filled : payload ≠ [])
    (fits : payload.length ≤ 65532) : ∃ raw header trailer,
      Framed raw (firstWord packetType apid) (secondWord sequenceCount) payload header trailer := by
  have top : maxSequence = 16383 := by decide
  obtain ⟨apidRange, kind, count⟩ := encodable
  have first : Struct.Code.uint16.Holds (firstWord packetType apid) := by
    rw [firstWord_eq kind apidRange, uint16_holds_iff]
    omega
  have second : Struct.Code.uint16.Holds (secondWord sequenceCount) := by
    rw [secondWord_eq count, uint16_holds_iff]
    omega
  have length : Struct.Code.uint16.Holds ((payload.length : Int) + 3) := by
    rw [uint16_holds_iff]
    omega
  -- Every field fits its width, so both records can be packed.
  obtain ⟨header, packed⟩ := Struct.pack_total
    (.cons first (.cons second (.cons length .nil)))
  obtain ⟨trailer, sealed⟩ := Struct.pack_total (.cons (checksum_holds (header ++ payload)) .nil)
  exact ⟨_, header, trailer, rfl, filled, packed, sealed⟩

/-- The decoder masks out what the encoder put into the header words. -/
theorem unpackedPacket_words {apid sequenceCount packetType : Int}
    (encodable : Encodable apid sequenceCount packetType) (payload : Bytes) :
    Int.land (firstWord packetType apid >>> (13 : Nat)) 0b111 = 0 ∧
      unpackedPacket (firstWord packetType apid) (secondWord sequenceCount) payload =
        ⟨apid, sequenceCount, payload, packetType⟩ := by
  have top : maxSequence = 16383 := by decide
  obtain ⟨apidRange, kind, count⟩ := encodable
  -- Once words and masks are arithmetic, the fields come apart by division.
  rw [firstWord_eq kind apidRange, secondWord_eq count, unpackedPacket_eq, version_eq]
  constructor
  · omega
  · congr 1 <;> omega

end SpaceLink

/-- A packet with valid fields decodes to what was encoded. -/
theorem decodeSpacePacket_encodeSpacePacket {apid sequenceCount packetType : Int} {payload : Bytes}
    (encodable : Encodable apid sequenceCount packetType) (filled : payload ≠ [])
    (fits : payload.length ≤ 65532) :
    ∃ raw, encodeSpacePacket apid sequenceCount payload packetType = .ok raw ∧
      decodeSpacePacket raw = .ok ⟨apid, sequenceCount, payload, packetType⟩ := by
  -- The words of the header exist because the fields fit; the decoder splits them again.
  obtain ⟨raw, header, trailer, framed⟩ := exists_framed encodable filled fits
  obtain ⟨version, fields⟩ := unpackedPacket_words encodable payload
  refine ⟨raw, encodeSpacePacket_eq_ok.mpr ⟨encodable, header, trailer, framed⟩, ?_⟩
  exact decodeSpacePacket_eq_ok.mpr ⟨_, _, payload, header, trailer, framed, version, fields.symm⟩

/-- Other fields and empty payloads are refused with a `PacketError`. -/
theorem encodeSpacePacket_refuses {apid sequenceCount packetType : Int} {payload : Bytes}
    (refused : ¬Encodable apid sequenceCount packetType ∨ payload = []) :
    ∃ message, encodeSpacePacket apid sequenceCount payload packetType =
      .error (.packetError message) := by
  rw [encodeSpacePacket, validateApid]
  -- The first rule that is broken ends the encoding.
  by_cases apidRange : 0 ≤ apid ∧ apid ≤ 0x7FF
  · rw [check, if_pos apidRange]
    by_cases kind : packetType = 0 ∨ packetType = 1
    · rw [check, if_pos kind]
      by_cases count : 0 ≤ sequenceCount ∧ sequenceCount ≤ maxSequence
      · rw [check, if_pos count]
        have empty : ¬payload ≠ [] := by
          rw [not_not]
          exact refused.resolve_left (not_not.mpr ⟨apidRange, kind, count⟩)
        exact ⟨_, check_bind_failed empty _⟩
      · exact ⟨_, check_bind_failed count _⟩
    · exact ⟨_, check_bind_failed kind _⟩
  · exact ⟨_, check_bind_failed apidRange _⟩

/-- An acknowledgement whose fields fit decodes to itself. -/
theorem decodeAck_encodeAck {sequenceCount : Int} {ack : CommandAck}
    (count : 0 ≤ sequenceCount ∧ sequenceCount ≤ maxSequence)
    (fits : List.Forall₂ Struct.Code.Holds ackPayload
      [ack.commandId, ack.status, ack.appliedValue, ack.timestampNs]) :
    ∃ raw, encodeAck sequenceCount ack = .ok raw ∧
      (decodeSpacePacket raw >>= decodeAck) = .ok ack := by
  obtain ⟨payload, packed⟩ := Struct.pack_total fits
  -- The payload has a fixed size, which a space packet can carry.
  have size : payload.length = 17 := (Struct.pack_spec packed).1
  have encodable : Encodable apidCommandAck sequenceCount 0 := ⟨by decide, .inl rfl, count⟩
  have filled : payload ≠ [] := fun empty => by simp [empty] at size
  obtain ⟨raw, encoded, decoded⟩ :=
    decodeSpacePacket_encodeSpacePacket encodable filled (by omega)
  refine ⟨raw, ?_, ?_⟩
  · rw [encodeAck, bind_eq_ok]
    exact ⟨payload, liftStruct_eq_ok.mpr packed, encoded⟩
  · rw [bind_eq_ok]
    refine ⟨_, decoded, ?_⟩
    rw [decodeAck, check_bind_eq_ok, check_bind_eq_ok, bind_eq_ok]
    exact ⟨check_eq_ok.mpr rfl, check_eq_ok.mpr size, _,
      liftStruct_eq_ok.mpr (Struct.unpack_pack packed), rfl⟩

/-- A command is its packed fields and their checksum. -/
theorem encodeCommand_eq_ok {frame : CommandFrame} {raw : Bytes} :
    encodeCommand frame = .ok raw ↔ ∃ payload trailer, raw = payload ++ trailer ∧
      Struct.pack commandPayload [frame.commandId, frame.opcode, frame.argument, frame.issuedNs] =
        .ok payload ∧ Struct.pack crc [checksum payload] = .ok trailer := by
  -- The two packings are the only steps that can fail.
  rw [encodeCommand]
  simp only [bind_eq_ok, liftStruct_eq_ok]
  constructor
  · rintro ⟨payload, packed, trailer, sealed, joined⟩
    exact ⟨payload, trailer, (Except.ok.inj joined).symm, packed, sealed⟩
  · rintro ⟨payload, trailer, rfl, packed, sealed⟩
    exact ⟨payload, packed, trailer, sealed, rfl⟩

/-- An encoded command decodes to itself. -/
theorem decodeCommand_encodeCommand {frame : CommandFrame} {raw : Bytes}
    (encoded : encodeCommand frame = .ok raw) : decodeCommand raw = .ok frame := by
  obtain ⟨payload, trailer, rfl, packed, sealed⟩ := encodeCommand_eq_ok.mp encoded
  have before : payload.length = 17 := (Struct.pack_spec packed).1
  have after : trailer.length = 4 := (Struct.pack_spec sealed).1
  -- The decoder cuts the command where the encoder has joined it.
  have total : (payload ++ trailer).length - Struct.size crc = payload.length := by
    rw [List.length_append, after]
    rfl
  rw [decodeCommand, total, List.take_left, List.drop_left, check_bind_eq_ok, check_eq_ok,
    bind_eq_ok]
  refine ⟨?_, [checksum payload], ?_, ?_⟩
  · rw [List.length_append, before, after]
    rfl
  · rw [liftStruct_eq_ok]
    exact Struct.unpack_pack sealed
  · rw [check_bind_eq_ok, bind_eq_ok]
    exact ⟨check_eq_ok.mpr rfl, _, liftStruct_eq_ok.mpr (Struct.unpack_pack packed), rfl⟩

/-- A command whose fields fit is encoded. -/
theorem exists_encodeCommand {frame : CommandFrame}
    (fits : List.Forall₂ Struct.Code.Holds commandPayload
      [frame.commandId, frame.opcode, frame.argument, frame.issuedNs]) :
    ∃ raw, encodeCommand frame = .ok raw := by
  -- The payload is packed by hypothesis, and a checksum fits its trailer.
  obtain ⟨payload, packed⟩ := Struct.pack_total fits
  obtain ⟨trailer, sealed⟩ := Struct.pack_total (.cons (checksum_holds payload) .nil)
  exact ⟨_, encodeCommand_eq_ok.mpr ⟨payload, trailer, rfl, packed, sealed⟩⟩

/--
Space packets, acknowledgements and commands decode to what was encoded.

Every payload of 1 to 65532 bytes under valid header fields is encoded; other fields and an empty
payload end in a `PacketError`.
-/
theorem spaceLink_roundTrips :
    (∀ (apid sequenceCount packetType : Int) (payload : Bytes),
      (0 ≤ apid ∧ apid ≤ 0x7FF) → (packetType = 0 ∨ packetType = 1) →
      (0 ≤ sequenceCount ∧ sequenceCount ≤ 16383) → 1 ≤ payload.length → payload.length ≤ 65532 →
        ∃ raw, encodeSpacePacket apid sequenceCount payload packetType = .ok raw ∧
          decodeSpacePacket raw = .ok ⟨apid, sequenceCount, payload, packetType⟩) ∧
      (∀ (sequenceCount : Int) (ack : CommandAck), (0 ≤ sequenceCount ∧ sequenceCount ≤ 16383) →
        List.Forall₂ Struct.Code.Holds ackPayload
          [ack.commandId, ack.status, ack.appliedValue, ack.timestampNs] →
        ∃ raw, encodeAck sequenceCount ack = .ok raw ∧
          (decodeSpacePacket raw >>= decodeAck) = .ok ack) ∧
      (∀ frame : CommandFrame, List.Forall₂ Struct.Code.Holds commandPayload
          [frame.commandId, frame.opcode, frame.argument, frame.issuedNs] →
        ∃ raw, encodeCommand frame = .ok raw ∧ decodeCommand raw = .ok frame) ∧
      ∀ (apid sequenceCount packetType : Int) (payload : Bytes),
        ¬((0 ≤ apid ∧ apid ≤ 0x7FF) ∧ (packetType = 0 ∨ packetType = 1) ∧
          (0 ≤ sequenceCount ∧ sequenceCount ≤ 16383)) ∨ payload = [] →
        ∃ message, encodeSpacePacket apid sequenceCount payload packetType =
          .error (.packetError message) := by
  -- The four parts are the round trips of the three kinds of record and the refusals of the
  -- encoder.
  refine ⟨fun apid sequenceCount packetType payload apidRange kind count filled fits => ?_,
    fun _ _ count fits => decodeAck_encodeAck count fits, fun frame fits => ?_,
    fun apid sequenceCount packetType payload refused => ?_⟩
  · exact decodeSpacePacket_encodeSpacePacket ⟨apidRange, kind, count⟩
      (List.length_pos_iff.mp filled) fits
  · obtain ⟨raw, encoded⟩ := exists_encodeCommand fits
    exact ⟨raw, encoded, decodeCommand_encodeCommand encoded⟩
  · exact encodeSpacePacket_refuses (refused.imp_left fun broken encodable =>
      broken ⟨encodable.apid, encodable.kind, encodable.count⟩)

/-- The header format of the interface control document, with the checksum behind the payload. -/
structure DocumentedFormat (raw : Bytes) : Prop where
  version : Struct.beNat (raw.take 2) / 2 ^ 13 = 0
  secondaryHeader : Struct.beNat (raw.take 2) / 2 ^ 11 % 2 = 1
  unsegmented : Struct.beNat ((raw.drop 2).take 2) / 2 ^ 14 = 0b11
  dataLength : raw.length = 6 + Struct.beNat ((raw.drop 4).take 2) + 1
  checksum : (Struct.beNat (raw.drop (raw.length - 4)) : Int) = checksum (raw.take (raw.length - 4))

/-- The five header bits that the encoder sets and the decoder does not read. -/
def SetFlags (raw : Bytes) : Prop :=
  Struct.beNat (raw.take 2) / 2 ^ 11 % 2 = 1 ∧ Struct.beNat ((raw.drop 2).take 2) / 2 ^ 14 = 0b11

section
variable {raw payload header trailer : Bytes} {first second : Int}

/-- The header words and the trailer of a framed payload, as its bytes spell them. -/
theorem SpaceLink.Framed.words (framed : Framed raw first second payload header trailer) :
    first = Struct.beNat (raw.take 2) ∧ second = Struct.beNat ((raw.drop 2).take 2) ∧
      (payload.length : Int) + 3 = Struct.beNat ((raw.drop 4).take 2) ∧
      checksum (header ++ payload) = Struct.beNat (raw.drop (raw.length - 4)) := by
  obtain ⟨before, after, total⟩ := framed.sizes
  obtain ⟨front, checked, back⟩ := framed.parts
  have fields := (Struct.pack_spec framed.packed).2
  have sealed := (Struct.pack_spec framed.sealed).2
  -- Each word is two bytes of the header, and the header is the front of the packet.
  simp only [primaryHeader, Struct.fields, Struct.Code.size, ← front, List.take_take,
    List.drop_take, List.drop_drop, List.cons.injEq, and_true] at fields
  obtain ⟨firstRead, secondRead, lengthRead⟩ := fields
  simp only [crc, Struct.fields, Struct.Code.size, List.cons.injEq, and_true] at sealed
  refine ⟨?_, ?_, ?_, ?_⟩
  · rw [← firstRead, Struct.Code.read_unsigned rfl]
    · rfl
    · simp [Struct.Code.size]
  · rw [← secondRead, Struct.Code.read_unsigned rfl]
    · rfl
    · simp [Struct.Code.size]
  · rw [← lengthRead, Struct.Code.read_unsigned rfl]
    · rfl
    · simp [Struct.Code.size]
  · rw [← sealed, back, List.take_of_length_le (by omega), Struct.Code.read_unsigned rfl after.le]

/-- Masked fields are always encodable. -/
theorem SpaceLink.encodable_unpackedPacket (first second : Int) (payload : Bytes) :
    Encodable (unpackedPacket first second payload).apid
      (unpackedPacket first second payload).sequenceCount
      (unpackedPacket first second payload).packetType := by
  -- Each field was cut out by a mask, so it is within its width.
  have top : maxSequence = 16383 := by decide
  rw [unpackedPacket_eq]
  refine ⟨?_, ?_, ?_⟩ <;> dsimp only <;> omega

/-- The encoder rebuilds the header words of version 0 whose flags are set. -/
theorem SpaceLink.words_unpackedPacket {first : Nat} (second : Nat) (payload : Bytes)
    (range : first < 65536) (version : Int.land ((first : Int) >>> (13 : Nat)) 0b111 = 0) :
    (firstWord (unpackedPacket first second payload).packetType
        (unpackedPacket first second payload).apid = first ↔ first / 2 ^ 11 % 2 = 1) ∧
      (secondWord (unpackedPacket first second payload).sequenceCount = second ↔
        second / 2 ^ 14 = 0b11) ∧ first / 2 ^ 13 = 0 := by
  obtain ⟨apidRange, kind, count⟩ := encodable_unpackedPacket first second payload
  -- As arithmetic, a word is rebuilt from its fields exactly when the bits between them are set.
  rw [firstWord_eq kind apidRange, secondWord_eq count]
  rw [version_eq] at version
  rw [unpackedPacket_eq]
  dsimp only
  omega

end

/--
The decoder accepts only the documented format, but for five header bits.

An accepted packet is the encoding of what it is decoded as, which is to say that it has the
documented format, exactly when its secondary header flag is set and its sequence flags are `11`.
-/
theorem decoded_documented_iff {raw : Bytes} {packet : SpacePacket}
    (decoded : decodeSpacePacket raw = .ok packet) :
    (encodeSpacePacket packet.apid packet.sequenceCount packet.payload packet.packetType =
        .ok raw ↔ SetFlags raw) ∧
      (DocumentedFormat raw ↔ SetFlags raw) := by
  obtain ⟨first, second, payload, header, trailer, framed, version, rfl⟩ :=
    decodeSpacePacket_eq_ok.mp decoded
  obtain ⟨firstWords, secondWords, measured, sealed⟩ := framed.words
  obtain ⟨before, after, total⟩ := framed.sizes
  have range : Struct.beNat (raw.take 2) < 65536 := by
    have bounded := Struct.beNat_lt (raw.take 2)
    rwa [List.length_take, Nat.min_eq_left (by omega)] at bounded
  -- The words are those that the bytes of the packet spell.
  rw [firstWords, secondWords] at framed
  rw [firstWords] at version
  obtain ⟨firstKept, secondKept, versionZero⟩ :=
    words_unpackedPacket (Struct.beNat ((raw.drop 2).take 2)) payload range version
  rw [firstWords, secondWords]
  constructor
  -- Encoding again frames the payload under the rebuilt words, so these have to be the old ones.
  · rw [encodeSpacePacket_eq_ok]
    constructor
    · rintro ⟨-, header', trailer', same⟩
      exact ⟨firstKept.mp same.words.1, secondKept.mp same.words.2.1⟩
    · rintro ⟨secondary, unsegmented⟩
      refine ⟨encodable_unpackedPacket _ _ payload, header, trailer, ?_⟩
      rw [firstKept.mpr secondary, secondKept.mpr unsegmented]
      exact framed
  · constructor
    -- The documented format asks for the flags, and the decoder has checked everything else.
    · intro documented
      exact ⟨documented.secondaryHeader, documented.unsegmented⟩
    · rintro ⟨secondary, unsegmented⟩
      refine ⟨versionZero, secondary, unsegmented, ?_, ?_⟩
      · omega
      · rw [← sealed, framed.parts.2.1]

/-- A packet of the encoder has the documented format. -/
theorem encoded_documented :
    encodeSpacePacket 100 1 [0xAA] = .ok [8, 100, 192, 1, 0, 4, 170, 62, 32, 220, 25] ∧
      DocumentedFormat [8, 100, 192, 1, 0, 4, 170, 62, 32, 220, 25] := by
  -- The packet is decoded once, and its flag bits are read off.
  have decoded : decodeSpacePacket [8, 100, 192, 1, 0, 4, 170, 62, 32, 220, 25] =
      .ok ⟨100, 1, [0xAA], 0⟩ := by decide +kernel
  have flags : SetFlags [8, 100, 192, 1, 0, 4, 170, 62, 32, 220, 25] := by
    constructor <;> decide
  exact ⟨(decoded_documented_iff decoded).1.mpr flags, (decoded_documented_iff decoded).2.mpr flags⟩

/-- A packet with all five bits cleared is accepted, and encoded as another one. -/
theorem cleared_flags_accepted :
    decodeSpacePacket [0, 100, 0, 1, 0, 4, 170, 228, 218, 122, 165] = .ok ⟨100, 1, [0xAA], 0⟩ ∧
      encodeSpacePacket 100 1 [0xAA] 0 ≠ .ok [0, 100, 0, 1, 0, 4, 170, 228, 218, 122, 165] := by
  -- The decoder and the encoder are both run.
  constructor <;> decide +kernel

end Cislunar
