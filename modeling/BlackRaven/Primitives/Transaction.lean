import BlackRaven.Consensus.Amount
import BlackRaven.Lib.SortedMap
import BlackRaven.Primitives.BlockHeader
import BlackRaven.Primitives.Hashes

/-!
Contract: `primitives/transaction.h` and the compact sizes of `serialize.h`.

Owns: transactions, the serializations with and without witness data, and the two ids.

Does not own: reading transactions from bytes.
-/

namespace BlackRaven.Primitives

open Consensus Lib

/-! ## Compact sizes -/

def maxSize : Nat := 0x02000000

def writeCompactSize (nSize : Nat) : Bytes :=
  if nSize < 253 then [UInt8.ofNat nSize]
  else if nSize ≤ 0xffff then 253 :: toBytesLE 2 nSize
  else if nSize ≤ 0xffffffff then 254 :: toBytesLE 4 nSize
  else 255 :: toBytesLE 8 nSize

/-- A little-endian number of `count` bytes. -/
def readNumber (count : Nat) : Decoder Nat := do
  let bytes ← takeBytes count
  return ofBytesLE bytes

/-- `ReadCompactSize`: refuses longer encodings than needed and sizes above
`MAX_SIZE`. -/
def readCompactSize : Decoder Nat := do
  let chSize ← readNumber 1
  let nSizeRet ←
    if chSize < 253 then pure chSize
    else if chSize = 253 then do
      let n ← readNumber 2
      if n < 253 then failure else pure n
    else if chSize = 254 then do
      let n ← readNumber 4
      if n < 0x10000 then failure else pure n
    else do
      let n ← readNumber 8
      if n < 0x100000000 then failure else pure n
  if nSizeRet > maxSize then failure else pure nSizeRet

/-- A `std::string` or a vector of bytes. -/
def readString : Decoder Bytes := do
  let nSize ← readCompactSize
  takeBytes nSize

def writeString (str : Bytes) : Bytes := writeCompactSize str.length ++ str

/-! ## Transactions -/

structure COutPoint where
  hash : Uint256
  n : Uint32
  deriving DecidableEq, Repr

def COutPoint.isNull (out : COutPoint) : Bool := out.hash == 0 && out.n == 0xffffffff#32

/-- `operator<`: the bytes of the hash as they are stored, then the index. -/
def COutPoint.key (out : COutPoint) : Bytes × Uint32 := (u256.encode out.hash, out.n)

theorem COutPoint.key_injective : Function.Injective COutPoint.key := by
  intro left right equal
  have sameHash := word_encode_injective 256 rfl (congrArg Prod.fst equal)
  have sameIndex : left.n = right.n := congrArg Prod.snd equal
  cases left
  cases right
  simp only [COutPoint.mk.injEq]
  exact ⟨sameHash, sameIndex⟩

instance : Ord COutPoint := ⟨fun left right => pairOrder left.key right.key⟩

instance : Std.TransOrd COutPoint := transCmp_comap pairOrder COutPoint.key

instance : Std.LawfulEqOrd COutPoint := lawfulEqCmp_comap pairOrder COutPoint.key_injective

def COutPoint.serialize (out : COutPoint) : Bytes := u256.encode out.hash ++ u32.encode out.n

structure CTxIn where
  prevout : COutPoint
  scriptSig : Bytes
  nSequence : Uint32
  scriptWitness : List Bytes
  deriving DecidableEq, Repr

structure CTxOut where
  nValue : CAmount
  scriptPubKey : Bytes
  deriving DecidableEq, Repr

def CTxOut.serialize (txout : CTxOut) : Bytes :=
  u64.encode (BitVec.ofInt 64 txout.nValue) ++ writeString txout.scriptPubKey

/-- The special transaction types the modelled checks tell apart. -/
def transactionNormal : BitVec 16 := 0
def transactionCoinbase : BitVec 16 := 5
def transactionQuorumCommitment : BitVec 16 := 6

structure CTransaction where
  nVersion : BitVec 16
  nType : BitVec 16
  vin : List CTxIn
  vout : List CTxOut
  nLockTime : Uint32
  vExtraPayload : Bytes
  deriving DecidableEq, Repr

namespace CTransaction

/-- A transaction of the current version without a payload. -/
def plain (vin : List CTxIn) (vout : List CTxOut) : CTransaction := ⟨2, transactionNormal, vin, vout, 0, []⟩

variable (tx : CTransaction)

def isCoinBase : Bool :=
  match tx.vin with
  | [txin] => txin.prevout.isNull
  | _ => false

def n32bitVersion : Uint32 :=
  tx.nVersion.signExtend 32 ||| (tx.nType.signExtend 32 <<< 16)

/-- The payload is written for special transactions only. -/
def serializePayload : Bytes :=
  if tx.nVersion = 3 ∧ tx.nType ≠ transactionNormal then writeString tx.vExtraPayload else []

def hasWitness : Bool := tx.vin.any fun txin => !txin.scriptWitness.isEmpty

/-- `SerializeTransaction` with `SERIALIZE_TRANSACTION_NO_WITNESS`. -/
def serializeNoWitness : Bytes :=
  u32.encode tx.n32bitVersion
    ++ writeCompactSize tx.vin.length
    ++ (tx.vin.flatMap fun txin =>
          txin.prevout.serialize ++ writeString txin.scriptSig ++ u32.encode txin.nSequence)
    ++ writeCompactSize tx.vout.length
    ++ tx.vout.flatMap CTxOut.serialize
    ++ u32.encode tx.nLockTime
    ++ tx.serializePayload

/-- `SerializeTransaction`: with witness data an empty input vector and a flag byte come
before the inputs. -/
def serialize (tx : CTransaction) : Bytes :=
  if !tx.hasWitness then tx.serializeNoWitness
  else
    u32.encode tx.n32bitVersion
      ++ writeCompactSize 0 ++ [1]
      ++ writeCompactSize tx.vin.length
      ++ (tx.vin.flatMap fun txin =>
            txin.prevout.serialize ++ writeString txin.scriptSig ++ u32.encode txin.nSequence)
      ++ writeCompactSize tx.vout.length
      ++ tx.vout.flatMap CTxOut.serialize
      ++ (tx.vin.flatMap fun txin =>
            writeCompactSize txin.scriptWitness.length ++ txin.scriptWitness.flatMap writeString)
      ++ u32.encode tx.nLockTime
      ++ tx.serializePayload

def getHash (digests : Digests) (tx : CTransaction) : Uint256 := digests.hash tx.serializeNoWitness

def getWitnessHash (digests : Digests) (tx : CTransaction) : Uint256 :=
  if !tx.hasWitness then tx.getHash digests else digests.hash tx.serialize

end CTransaction

end BlackRaven.Primitives
