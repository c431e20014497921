import Cislunar.Proofs.Runtime.Json
import Cislunar.Runtime.Hash

/-! The shape of the digests that the tables store. -/

namespace Cislunar

/-- A chaining value: eight words of 32 bits. -/
def Sha256.Chain (words : List Nat) : Prop :=
  words.length = 8 ∧ ∀ word ∈ words, word < 2 ^ 32

/-- A round leaves eight working variables. -/
theorem Sha256.round_length {work : List Nat} (eight : work.length = 8) (input : Nat × Nat) :
    (round work input).length = 8 := by
  -- A round of eight words yields eight words, and any other list is returned as it is.
  unfold round
  split
  · rfl
  · exact eight

/-- Compression leads from chaining value to chaining value. -/
theorem Sha256.Chain.compress {chain : List Nat} (valid : Chain chain) (block : List Nat) :
    Chain (compress chain block) := by
  -- The rounds keep eight words; the last additions bring each of them below its modulus.
  have rounds : ∀ (inputs : List (Nat × Nat)) (work : List Nat), work.length = 8 →
      (inputs.foldl round work).length = 8 := by
    intro inputs
    induction inputs with
    | nil => exact fun work eight => eight
    | cons input rest ih => exact fun work eight => ih _ (round_length eight input)
  rw [Sha256.compress]
  refine ⟨?_, fun word member => ?_⟩
  · rw [List.length_zipWith, valid.1, rounds _ _ valid.1]
    rfl
  · rw [← List.map_uncurry_zip_eq_zipWith] at member
    obtain ⟨pair, -, rfl⟩ := List.mem_map.mp member
    exact Nat.mod_lt _ (by decide)

/-- The digest of any number of blocks is a chaining value. -/
theorem Sha256.Chain.foldl {chain : List Nat} (valid : Chain chain) (blocks : List (List Nat)) :
    Chain (blocks.foldl Sha256.compress chain) := by
  -- On the blocks.
  induction blocks generalizing chain with
  | nil => exact valid
  | cons block rest ih => exact ih (valid.compress block)

/-- A hexadecimal digest has sixty-four digits. -/
theorem sha256Hex_length (data : Bytes) : (sha256Hex data).toList.length = 64 := by
  -- The digest is a chaining value: eight words, each of which is printed with eight digits.
  have start : Sha256.Chain Sha256.initial := by
    rw [Sha256.Chain]
    decide
  have digest := start.foldl
    (Sha256.blocks (Sha256.words (Sha256.pad data)).length (Sha256.words (Sha256.pad data)))
  rw [sha256Hex, String.toList_ofList]
  generalize List.foldl Sha256.compress _ _ = words at digest ⊢
  have width : ∀ word ∈ words, (formatLowerHex 8 (word : Int)).length = 8 := by
    intro word member
    have small := digest.2 word member
    rw [formatLowerHex, formatInt, if_neg (by omega), Int.natAbs_natCast]
    exact Foundation.Digits.zeroPad_spell_length lowerHexAlphabet (by omega)
  have cast : (do let word ← words; pure (word : Int)) = words.map Int.ofNat := by
    simp [List.map_eq_flatMap]
  rw [cast, List.length_flatMap, List.map_map]
  show (words.map fun word : Nat => (formatLowerHex 8 word).length).sum = 64
  rw [List.map_congr_left width, List.map_const', List.sum_replicate, digest.1]
  rfl

end Cislunar
