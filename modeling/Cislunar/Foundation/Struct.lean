import Mathlib.Tactic.Ring
import Mathlib.Data.Int.Order.Basic

/-! Fixed-width big-endian records: packing a row of integers and reading it back are inverse. -/

namespace Foundation.Struct

/-- The low `width` base-256 digits of a number, most significant first. -/
def beBytes : Nat → Nat → List UInt8
  | 0, _ => []
  -- The conversion to a byte drops every digit above the one this position holds.
  | width + 1, value => UInt8.ofNat (value / 256 ^ width) :: beBytes width value

/-- The number a byte string spells in base 256, most significant byte first. -/
def beNat : List UInt8 → Nat
  | [] => 0
  | byte :: rest => byte.toNat * 256 ^ rest.length + beNat rest

/-- A number takes exactly the width it was written at. -/
@[simp] theorem beBytes_length (width value : Nat) : (beBytes width value).length = width := by
  -- On the width; each digit is one byte.
  induction width with
  | zero => rfl
  | succ width ih => simp [beBytes, ih]

/-- A byte string of a given length spells a number below the next power of 256. -/
theorem beNat_lt (bytes : List UInt8) : beNat bytes < 256 ^ bytes.length := by
  -- The leading byte is below 256, and the rest is below one unit of its weight.
  induction bytes with
  | nil => simp [beNat]
  | cons byte rest ih =>
    have small : byte.toNat + 1 ≤ 256 := byte.toNat_lt
    have weight : (byte.toNat + 1) * 256 ^ rest.length ≤ 256 * 256 ^ rest.length :=
      Nat.mul_le_mul_right _ small
    simp only [beNat, List.length_cons, Nat.pow_succ]
    rw [Nat.add_mul] at weight
    omega

/-- Writing then reading keeps the number up to the width it was written at. -/
theorem beNat_beBytes (width value : Nat) : beNat (beBytes width value) = value % 256 ^ width := by
  -- Each position contributes its own digit, and the digits below it are the tail of the claim.
  induction width with
  | zero => simp [beBytes, beNat, Nat.mod_one]
  | succ width ih =>
    have digit : (UInt8.ofNat (value / 256 ^ width)).toNat = value / 256 ^ width % 256 := by simp
    simp only [beBytes, beNat, beBytes_length, ih, digit]
    rw [Nat.pow_succ, Nat.mod_mul, Nat.mul_comm]
    omega

/-- Digits above the width do not change the bytes that are written. -/
theorem beBytes_mul_add (width high value : Nat) :
    beBytes width (high * 256 ^ width + value) = beBytes width value := by
  -- The excess stays a multiple of the next weight all the way down.
  induction width generalizing high with
  | zero => rfl
  | succ width ih =>
    have regroup : high * 256 ^ (width + 1) + value = (high * 256) * 256 ^ width + value := by
      rw [Nat.pow_succ]; ring
    rw [regroup]
    simp only [beBytes, ih (high * 256), List.cons.injEq, and_true]
    have digit : ((high * 256) * 256 ^ width + value) / 256 ^ width
        = value / 256 ^ width + high * 256 := by
      rw [Nat.add_comm, Nat.add_mul_div_right _ _ (Nat.pow_pos (by decide))]
    rw [digit]
    apply UInt8.toNat_inj.mp
    simp

/-- Reading then writing at the same width gives the bytes back. -/
theorem beBytes_beNat (bytes : List UInt8) : beBytes bytes.length (beNat bytes) = bytes := by
  induction bytes with
  | nil => rfl
  | cons byte rest ih =>
    -- The leading digit is the leading byte because the rest is below one unit of its weight.
    have leading : (byte.toNat * 256 ^ rest.length + beNat rest) / 256 ^ rest.length
        = byte.toNat := by
      rw [Nat.add_comm, Nat.add_mul_div_right _ _ (Nat.pow_pos (by decide)),
        Nat.div_eq_of_lt (beNat_lt rest), Nat.zero_add]
    simp only [List.length_cons, beBytes, beNat, leading, UInt8.ofNat_toNat, beBytes_mul_add, ih]

/-- The integer field codes of a packed record. -/
inductive Code where
  /-- One unsigned byte. -/
  | uint8
  /-- Two unsigned bytes. -/
  | uint16
  /-- Two bytes in two's complement. -/
  | int16
  /-- Four unsigned bytes. -/
  | uint32
  /-- Four bytes in two's complement. -/
  | int32
  /-- Eight unsigned bytes. -/
  | uint64
  deriving DecidableEq, Repr

namespace Code

/-- Bytes one field occupies. -/
def size : Code → Nat
  | uint8 => 1
  | uint16 => 2
  | int16 => 2
  | uint32 => 4
  | int32 => 4
  | uint64 => 8

/-- The least integer a field can hold. -/
def least : Code → Int
  | int16 => -2 ^ 15
  | int32 => -2 ^ 31
  | _ => 0

/-- The first integer above everything a field can hold. -/
def limit (code : Code) : Int :=
  code.least + 256 ^ code.size

/-- The integers a field can hold. -/
def Holds (code : Code) (value : Int) : Prop :=
  code.least ≤ value ∧ value < code.limit

instance (code : Code) (value : Int) : Decidable (code.Holds value) :=
  inferInstanceAs (Decidable (_ ∧ _))

/-- The bytes of one field, negative values wrapping around the field's own modulus. -/
def write (code : Code) (value : Int) : List UInt8 :=
  beBytes code.size (value % 256 ^ code.size).toNat

/-- The integer one field's bytes stand for. -/
def read (code : Code) (bytes : List UInt8) : Int :=
  -- A reading at or above the limit is the two's complement of a negative value.
  if (beNat bytes : Int) < code.limit then beNat bytes else beNat bytes - 256 ^ code.size

/-- A field is written in exactly its own size. -/
@[simp] theorem write_length (code : Code) (value : Int) : (code.write value).length = code.size := by
  simp [write]

/-- A value a field can hold is read back unchanged. -/
theorem read_write {code : Code} {value : Int} (held : code.Holds value) :
    code.read (code.write value) = value := by
  -- The stored digits are the residue of the value, which is below the modulus.
  obtain ⟨low, high⟩ := held
  have positive : (0 : Int) < 256 ^ code.size := Int.pow_pos (by decide)
  have residue : ((value % 256 ^ code.size).toNat : Int) = value % 256 ^ code.size :=
    Int.toNat_of_nonneg (Int.emod_nonneg _ positive.ne')
  have bounded : (value % 256 ^ code.size).toNat < 256 ^ code.size := by
    have below := Int.emod_lt_of_pos value positive
    rw [← residue] at below
    exact_mod_cast below
  have reading : (beNat (code.write value) : Int) = value % 256 ^ code.size := by
    rw [write, beNat_beBytes, Nat.mod_eq_of_lt bounded, residue]
  unfold read
  rw [reading]
  -- Each code fixes its modulus, and the two halves of the residue are linear facts.
  by_cases below : value % 256 ^ code.size < code.limit
  · rw [if_pos below]
    cases code <;> simp only [size, least, limit] at low high below ⊢ <;> omega
  · rw [if_neg below]
    cases code <;> simp only [size, least, limit] at low high below ⊢ <;> omega

/-- Any bytes of a field's size read as a value the field can hold. -/
theorem read_holds {code : Code} {bytes : List UInt8} (sized : bytes.length = code.size) :
    code.Holds (code.read bytes) := by
  -- A signed code reads the upper half of the numbers as negative ones.
  have bounded := beNat_lt bytes
  rw [sized] at bounded
  unfold read Holds
  by_cases below : (beNat bytes : Int) < code.limit
  · rw [if_pos below]
    cases code <;> simp only [size, least, limit] at bounded below ⊢ <;> omega
  · rw [if_neg below]
    cases code <;> simp only [size, least, limit] at bounded below ⊢ <;> omega

/-- Writing a reading gives back the bytes it was read from. -/
theorem write_read {code : Code} {bytes : List UInt8} (sized : bytes.length = code.size) :
    code.write (code.read bytes) = bytes := by
  have bounded := beNat_lt bytes
  rw [sized] at bounded
  -- The reading and the spelled number differ by at most one modulus.
  have residue : (code.read bytes % 256 ^ code.size).toNat = beNat bytes := by
    unfold read
    by_cases below : (beNat bytes : Int) < code.limit
    · rw [if_pos below]
      cases code <;> simp only [size, least, limit] at bounded below ⊢ <;> omega
    · rw [if_neg below]
      cases code <;> simp only [size, least, limit] at bounded below ⊢ <;> omega
  rw [write, residue, ← sized, beBytes_beNat]

/-- An unsigned field reads as the number its bytes spell. -/
theorem read_unsigned {code : Code} {bytes : List UInt8} (unsigned : code.least = 0)
    (sized : bytes.length ≤ code.size) : code.read bytes = beNat bytes := by
  -- A code without negative values has its limit above everything its bytes can hold.
  have below : beNat bytes < 256 ^ code.size :=
    lt_of_lt_of_le (beNat_lt bytes) (Nat.pow_le_pow_right (by decide) sized)
  have cast : (beNat bytes : Int) < 256 ^ code.size := by exact_mod_cast below
  rw [read, if_pos (by rw [limit, unsigned]; omega)]

end Code

/-- The ways a record can fail to be packed or unpacked. -/
inductive Error where
  /-- The number of values differs from the number of fields. -/
  | wrongCount
  /-- A value lies outside the range of its field. -/
  | outOfRange
  /-- A buffer is not exactly as long as the record. -/
  | wrongSize
  deriving DecidableEq, Repr

/-- Bytes a whole record occupies. -/
def size (format : List Code) : Nat :=
  (format.map Code.size).sum

/-- Pack one value per field, in order. -/
def pack : List Code → List Int → Except Error (List UInt8)
  | [], [] => .ok []
  | code :: codes, value :: values =>
    if code.Holds value then
      match pack codes values with
      | .ok rest => .ok (code.write value ++ rest)
      | .error error => .error error
    else .error .outOfRange
  | _, _ => .error .wrongCount

/-- The fields of a buffer read one after another, without checking its length. -/
def fields : List Code → List UInt8 → List Int
  | [], _ => []
  | code :: codes, bytes => code.read (bytes.take code.size) :: fields codes (bytes.drop code.size)

/-- Unpack a buffer that must be exactly as long as the record. -/
def unpack (format : List Code) (bytes : List UInt8) : Except Error (List Int) :=
  if bytes.length = size format then .ok (fields format bytes) else .error .wrongSize

/-- A buffer of the record's size is unpacked to its fields. -/
theorem unpack_sized {format : List Code} {bytes : List UInt8}
    (sized : bytes.length = size format) : unpack format bytes = .ok (fields format bytes) := by
  rw [unpack, if_pos sized]

/-- A packed record has the size of its format and reads back as the packed values. -/
theorem pack_spec {format : List Code} {values : List Int} {bytes : List UInt8}
    (packed : pack format values = .ok bytes) :
    bytes.length = size format ∧ fields format bytes = values := by
  -- The induction follows the format, one field and one value at a time.
  induction format generalizing values bytes with
  | nil =>
    cases values with
    | nil => simp [pack] at packed; simp [← packed, size, fields]
    | cons value values => simp [pack] at packed
  | cons code codes ih =>
    cases values with
    | nil => simp [pack] at packed
    | cons value values =>
      simp only [pack] at packed
      split at packed
      · rename_i held
        cases rest : pack codes values with
        | error error => simp [rest] at packed
        | ok tail =>
          simp only [rest, Except.ok.injEq] at packed
          obtain ⟨length, values'⟩ := ih rest
          subst packed
          constructor
          · simp [size, length]
          · have front : code.size = (code.write value).length := by simp
            simp only [fields, front, List.take_left', List.drop_left']
            rw [Code.read_write held, values']
      · simp at packed

/-- Reading a packed record gives the values back. -/
theorem unpack_pack {format : List Code} {values : List Int} {bytes : List UInt8}
    (packed : pack format values = .ok bytes) : unpack format bytes = .ok values := by
  -- The packed bytes have the size of the format, and each field reads back.
  obtain ⟨length, read⟩ := pack_spec packed
  simp [unpack, length, read]

/-- The values read from a buffer of the record's size pack to that buffer. -/
theorem pack_fields {format : List Code} {bytes : List UInt8}
    (sized : bytes.length = size format) : pack format (fields format bytes) = .ok bytes := by
  induction format generalizing bytes with
  | nil =>
    have empty : bytes = [] := by simpa [size] using sized
    simp [empty, pack, fields]
  | cons code codes ih =>
    -- The buffer is this field's bytes followed by the rest of the record.
    have total : bytes.length = code.size + size codes := by simpa [size] using sized
    have front : (bytes.take code.size).length = code.size := by simp; omega
    have back : (bytes.drop code.size).length = size codes := by simp; omega
    simp only [fields, pack, if_pos (Code.read_holds front), ih back, Code.write_read front,
      List.take_append_drop]

/-- Unpacking succeeds only on buffers that the unpacked values pack to. -/
theorem pack_unpack {format : List Code} {values : List Int} {bytes : List UInt8}
    (unpacked : unpack format bytes = .ok values) : pack format values = .ok bytes := by
  -- A buffer of another size does not unpack; one of this size is packed from its fields.
  unfold unpack at unpacked
  split at unpacked
  · rename_i sized
    simp only [Except.ok.injEq] at unpacked
    rw [← unpacked]
    exact pack_fields sized
  · simp at unpacked

/-- A record of one field unpacks to that field alone. -/
theorem unpack_single {code : Code} {values : List Int} {bytes : List UInt8}
    (unpacked : unpack [code] bytes = .ok values) : values = [values.headD 0] := by
  -- Only a format of the right size unpacks, and its one field is the head.
  unfold unpack at unpacked
  split at unpacked
  · simp only [Except.ok.injEq, fields] at unpacked
    rw [← unpacked, List.headD_cons]
  · simp at unpacked

/-- Only values in the ranges of their fields are packed. -/
theorem pack_holds {format : List Code} {values : List Int} {bytes : List UInt8}
    (packed : pack format values = .ok bytes) : List.Forall₂ Code.Holds format values := by
  -- The induction follows the format, one field and one value at a time.
  induction format generalizing values bytes with
  | nil =>
    cases values with
    | nil => exact .nil
    | cons value values => simp [pack] at packed
  | cons code codes ih =>
    cases values with
    | nil => simp [pack] at packed
    | cons value values =>
      simp only [pack] at packed
      split at packed
      · rename_i held
        cases rest : pack codes values with
        | error error => simp [rest] at packed
        | ok tail => exact .cons held (ih rest)
      · simp at packed

/-- Packing succeeds as soon as every value lies in the range of its field. -/
theorem pack_total {format : List Code} {values : List Int}
    (held : List.Forall₂ Code.Holds format values) : ∃ bytes, pack format values = .ok bytes := by
  -- On the format: a value in the range of its code is packed, and the rest by hypothesis.
  induction held with
  | nil => exact ⟨[], rfl⟩
  | cons head _ ih =>
    obtain ⟨rest, packed⟩ := ih
    exact ⟨_, by simp only [pack, if_pos head, packed]; rfl⟩

end Foundation.Struct
