import BlackRaven.Lib.Codec
import BlackRaven.Primitives.Integers

/-!
Contract: `CBlockHeader` of `primitives/block.h` and `primitives/block.cpp`, and the
proof-of-work hashes of `hash.cpp`.

Owns: the header fields, the two wire formats chosen by `nTime`, the header hash
under each, and the fields a wire format determines.

Does not own: SHA-256, X16R and ProgPoW. They are the fields of `PowHash`; ProgPoW
is a function of the height, the header hash and the nonce.
-/

namespace BlackRaven.Primitives

open Lib

def kawpowActivationTime : Nat := 1651444217

structure CBlockHeader where
  /-- An `int32_t`, kept as the word it is stored in. -/
  nVersion : Uint32
  hashPrevBlock : Uint256
  hashMerkleRoot : Uint256
  nTime : Uint32
  nBits : Uint32
  nNonce : Uint32
  /-- The height the miner wrote into the header. -/
  nHeight : Uint32
  nNonce64 : Uint64
  mixHash : Uint256
  deriving DecidableEq, Repr

structure PowHash where
  /-- Double SHA-256 (`CHashWriter`). -/
  hash256 : Bytes → Uint256
  /-- `HashX16R`, over the header bytes and the previous block hash. -/
  hashX16R : Bytes → Uint256 → Uint256
  /-- `progpow::hash`: final hash and mix hash. -/
  progpow : Uint32 → Uint256 → Uint64 → Uint256 × Uint256
  /-- `progpow::hash_no_verify`: the final hash for a claimed mix hash. -/
  progpowNoVerify : Uint32 → Uint256 → Uint256 → Uint64 → Uint256

/-- `hash_no_verify` runs the closing Keccak rounds of `hash` on the mix it is given;
on the mix `hash` computes it therefore returns the final hash of `hash`. -/
def PowHash.NoVerifyConsistent (crypto : PowHash) : Prop :=
  ∀ height headerHash nonce,
    crypto.progpowNoVerify height headerHash (crypto.progpow height headerHash nonce).2 nonce
      = (crypto.progpow height headerHash nonce).1

def u32 : Codec Uint32 := word 32 rfl
def u64 : Codec Uint64 := word 64 rfl
def u256 : Codec Uint256 := word 256 rfl

theorem u32_admissible (value : Uint32) : u32.Admissible value := trivial
theorem u64_admissible (value : Uint64) : u64.Admissible value := trivial
theorem u256_admissible (value : Uint256) : u256.Admissible value := trivial

@[simp] theorem u32_length (value : Uint32) : (u32.encode value).length = 4 := toBytesLE_length _ _
@[simp] theorem u64_length (value : Uint64) : (u64.encode value).length = 8 := toBytesLE_length _ _
@[simp] theorem u256_length (value : Uint256) : (u256.encode value).length = 32 :=
  toBytesLE_length _ _

namespace CBlockHeader

variable (crypto : PowHash) (block : CBlockHeader)

def isKawpow : Bool := decide (block.nTime.toNat ≥ kawpowActivationTime)

def commonBytes : Bytes :=
  u32.encode block.nVersion ++ (u256.encode block.hashPrevBlock ++
    (u256.encode block.hashMerkleRoot ++ (u32.encode block.nTime ++ u32.encode block.nBits)))

/-- The part of the format that `nTime` selects. -/
def formatBytes : Bytes :=
  if block.nTime.toNat < kawpowActivationTime then u32.encode block.nNonce
  else u32.encode block.nHeight ++ (u64.encode block.nNonce64 ++ u256.encode block.mixHash)

def serialize : Bytes := block.commonBytes ++ block.formatBytes

/-- `GetKAWPOWHeaderHash`: the hash of a `CKAWPOWInput`. -/
def getKAWPOWHeaderHash : Uint256 :=
  crypto.hash256 (block.commonBytes ++ u32.encode block.nHeight)

/-- `GetX16RHash`: the memory from `nVersion` to `nNonce`. -/
def getX16RHash : Uint256 :=
  crypto.hashX16R (block.commonBytes ++ u32.encode block.nNonce) block.hashPrevBlock

/-- `KAWPOWHash`: final hash and computed mix hash. -/
def kawpowHash : Uint256 × Uint256 :=
  crypto.progpow block.nHeight (block.getKAWPOWHeaderHash crypto) block.nNonce64

/-- `KAWPOWHash_OnlyMix`: the final hash for the mix hash the header claims. -/
def kawpowHashOnlyMix : Uint256 :=
  crypto.progpowNoVerify block.nHeight (block.getKAWPOWHeaderHash crypto) block.mixHash block.nNonce64

def getHash : Uint256 :=
  if block.nTime.toNat < kawpowActivationTime then block.getX16RHash crypto
  else block.kawpowHashOnlyMix crypto

/-- `GetHashFull`: the hash, and the mix hash written through the reference (which
stays null on the X16R path). -/
def getHashFull : Uint256 × Uint256 :=
  if block.nTime.toNat < kawpowActivationTime then (block.getX16RHash crypto, 0)
  else block.kawpowHash crypto

/-! ## What the bytes determine -/

variable {left right : CBlockHeader}

/-- Equal serializations agree on the time and hence on the format, and on every
field of that format. -/
theorem serialize_inj (same : left.serialize = right.serialize) :
    left.nVersion = right.nVersion ∧ left.hashPrevBlock = right.hashPrevBlock ∧
      left.hashMerkleRoot = right.hashMerkleRoot ∧ left.nTime = right.nTime ∧
      left.nBits = right.nBits ∧ left.formatBytes = right.formatBytes := by
  have lengths : left.commonBytes.length = right.commonBytes.length := by simp [commonBytes]
  obtain ⟨common, format⟩ := List.append_inj same lengths
  obtain ⟨version, common⟩ := List.append_inj common (by simp)
  obtain ⟨previous, common⟩ := List.append_inj common (by simp)
  obtain ⟨merkle, common⟩ := List.append_inj common (by simp)
  obtain ⟨time, bits⟩ := List.append_inj common (by simp)
  exact ⟨word_encode_injective _ _ version, word_encode_injective _ _ previous,
    word_encode_injective _ _ merkle, word_encode_injective _ _ time,
    word_encode_injective _ _ bits, format⟩

theorem nHeight_of_serialize (same : left.serialize = right.serialize) (kawpow : left.isKawpow = true) :
    left.nHeight = right.nHeight := by
  obtain ⟨-, -, -, time, -, format⟩ := serialize_inj same
  have late : ¬ left.nTime.toNat < kawpowActivationTime := by
    simpa [isKawpow] using kawpow
  rw [formatBytes, formatBytes, ← time, if_neg late, if_neg late] at format
  obtain ⟨height, -⟩ := List.append_inj format (by simp)
  exact word_encode_injective _ _ height

theorem getHash_of_serialize (crypto : PowHash) (same : left.serialize = right.serialize) :
    left.getHash crypto = right.getHash crypto := by
  obtain ⟨version, previous, merkle, time, bits, format⟩ := serialize_inj same
  have common : left.commonBytes = right.commonBytes := by
    rw [commonBytes, commonBytes, version, previous, merkle, time, bits]
  by_cases early : left.nTime.toNat < kawpowActivationTime
  · rw [formatBytes, formatBytes, ← time, if_pos early, if_pos early] at format
    rw [getHash, getHash, ← time, if_pos early, if_pos early, getX16RHash, getX16RHash, common,
      previous, format]
  · rw [formatBytes, formatBytes, ← time, if_neg early, if_neg early] at format
    obtain ⟨height, format⟩ := List.append_inj format (by simp)
    obtain ⟨nonce, mix⟩ := List.append_inj format (by simp)
    rw [getHash, getHash, ← time, if_neg early, if_neg early, kawpowHashOnlyMix, kawpowHashOnlyMix,
      getKAWPOWHeaderHash, getKAWPOWHeaderHash, common, word_encode_injective _ _ height,
      word_encode_injective _ _ nonce, word_encode_injective _ _ mix]

end CBlockHeader

end BlackRaven.Primitives
