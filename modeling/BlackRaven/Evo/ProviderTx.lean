import BlackRaven.Evo.Service

/-!
Contract: the payloads of `evo/providertx.h` and `llmq/quorums_commitment.h`, and
`GetTxPayload` of `evo/specialtx.h`.

Owns: the payloads, how they are written and read, and the keys they carry.

Does not own: the curve behind the keys. Which byte strings are points of it is a
parameter.
-/

namespace BlackRaven.Evo

open Lib Primitives

abbrev CKeyID := BitVec 160

/-- The bytes of a public key on the curve. All zeros is what an object that is not
valid is written as. -/
abbrev CBLSPublicKey := BitVec 384
abbrev CBLSSignature := BitVec 768

/-- Which byte strings `InternalSetBuf` takes. -/
structure BLSPoints where
  isPublicKey : CBLSPublicKey → Bool
  isSignature : CBLSSignature → Bool

/-- `Unserialize` of a `CBLSWrapper`: zeros are read as an object that is not valid, and
bytes that would be written back as others are refused. -/
def readPoint {w : Nat} (codec : Codec (BitVec w)) (isPoint : BitVec w → Bool) :
    Decoder (BitVec w) := do
  let buf ← codec.decode
  if buf = 0 ∨ isPoint buf then pure buf else failure

variable (points : BLSPoints) {α : Type}

def readPublicKey : Decoder CBLSPublicKey :=
  readPoint (word 384 rfl) points.isPublicKey

def readSignature : Decoder CBLSSignature :=
  readPoint (word 768 rfl) points.isSignature

def u16 : Codec (BitVec 16) := word 16 whole_16
def u160 : Codec CKeyID := word 160 rfl

/-! ## Provider transactions -/

structure CProRegTx where
  nVersion : BitVec 16
  nType : BitVec 16
  nMode : BitVec 16
  /-- With a null hash the collateral is an output of the transaction itself. -/
  collateralOutpoint : COutPoint
  addr : CService
  keyIDOwner : CKeyID
  pubKeyOperator : CBLSPublicKey
  keyIDVoting : CKeyID
  nOperatorReward : BitVec 16
  scriptPayout : Bytes
  inputsHash : Uint256
  vchSig : Bytes
  deriving DecidableEq, Repr

def CProRegTx.serialize (proTx : CProRegTx) : Bytes :=
  u16.encode proTx.nVersion ++ u16.encode proTx.nType ++ u16.encode proTx.nMode
    ++ outPoint.encode proTx.collateralOutpoint ++ service.encode proTx.addr
    ++ u160.encode proTx.keyIDOwner ++ (word 384 rfl).encode proTx.pubKeyOperator
    ++ u160.encode proTx.keyIDVoting ++ u16.encode proTx.nOperatorReward
    ++ writeString proTx.scriptPayout ++ u256.encode proTx.inputsHash ++ writeString proTx.vchSig

def readProRegTx : Decoder CProRegTx := do
  let nVersion ← u16.decode
  let nType ← u16.decode
  let nMode ← u16.decode
  let collateralOutpoint ← outPoint.decode
  let addr ← service.decode
  let keyIDOwner ← u160.decode
  let pubKeyOperator ← readPublicKey points
  let keyIDVoting ← u160.decode
  let nOperatorReward ← u16.decode
  let scriptPayout ← readString
  let inputsHash ← u256.decode
  let vchSig ← readString
  return ⟨nVersion, nType, nMode, collateralOutpoint, addr, keyIDOwner, pubKeyOperator,
    keyIDVoting, nOperatorReward, scriptPayout, inputsHash, vchSig⟩

structure CProUpServTx where
  nVersion : BitVec 16
  proTxHash : Uint256
  addr : CService
  scriptOperatorPayout : Bytes
  inputsHash : Uint256
  sig : CBLSSignature
  deriving DecidableEq, Repr

def readProUpServTx : Decoder CProUpServTx := do
  let nVersion ← u16.decode
  let proTxHash ← u256.decode
  let addr ← service.decode
  let scriptOperatorPayout ← readString
  let inputsHash ← u256.decode
  let sig ← readSignature points
  return ⟨nVersion, proTxHash, addr, scriptOperatorPayout, inputsHash, sig⟩

structure CProUpRegTx where
  nVersion : BitVec 16
  proTxHash : Uint256
  nMode : BitVec 16
  pubKeyOperator : CBLSPublicKey
  keyIDVoting : CKeyID
  scriptPayout : Bytes
  inputsHash : Uint256
  vchSig : Bytes
  deriving DecidableEq, Repr

def CProUpRegTx.serialize (proTx : CProUpRegTx) : Bytes :=
  u16.encode proTx.nVersion ++ u256.encode proTx.proTxHash ++ u16.encode proTx.nMode
    ++ (word 384 rfl).encode proTx.pubKeyOperator ++ u160.encode proTx.keyIDVoting
    ++ writeString proTx.scriptPayout ++ u256.encode proTx.inputsHash ++ writeString proTx.vchSig

def readProUpRegTx : Decoder CProUpRegTx := do
  let nVersion ← u16.decode
  let proTxHash ← u256.decode
  let nMode ← u16.decode
  let pubKeyOperator ← readPublicKey points
  let keyIDVoting ← u160.decode
  let scriptPayout ← readString
  let inputsHash ← u256.decode
  let vchSig ← readString
  return ⟨nVersion, proTxHash, nMode, pubKeyOperator, keyIDVoting, scriptPayout, inputsHash, vchSig⟩

structure CProUpRevTx where
  nVersion : BitVec 16
  proTxHash : Uint256
  nReason : BitVec 16
  inputsHash : Uint256
  sig : CBLSSignature
  deriving DecidableEq, Repr

def reasonLast : BitVec 16 := 3

def readProUpRevTx : Decoder CProUpRevTx := do
  let nVersion ← u16.decode
  let proTxHash ← u256.decode
  let nReason ← u16.decode
  let inputsHash ← u256.decode
  let sig ← readSignature points
  return ⟨nVersion, proTxHash, nReason, inputsHash, sig⟩

/-! ## Quorum commitments -/

/-- `DYNBITSET`: the number of bits and the bits, eight to a byte; bits past the end are
refused. -/
def readBitSet : Decoder (List Bool) := do
  let size ← readCompactSize
  let vBytes ← readNumber ((size + 7) / 8)
  if vBytes < 2 ^ size then pure ((List.range size).map vBytes.testBit) else failure

structure CFinalCommitment where
  nVersion : BitVec 16
  llmqType : BitVec 8
  quorumHash : Uint256
  signers : List Bool
  validMembers : List Bool
  quorumPublicKey : CBLSPublicKey
  quorumVvecHash : Uint256
  quorumSig : CBLSSignature
  membersSig : CBLSSignature
  deriving DecidableEq, Repr

namespace CFinalCommitment

variable (commitment : CFinalCommitment)

def countSigners : Nat := commitment.signers.count true
def countValidMembers : Nat := commitment.validMembers.count true

def isNull : Bool :=
  commitment.countSigners == 0 && commitment.countValidMembers == 0
    && commitment.quorumPublicKey == 0 && commitment.quorumVvecHash == 0
    && commitment.membersSig == 0 && commitment.quorumSig == 0

end CFinalCommitment

structure CFinalCommitmentTxPayload where
  nVersion : BitVec 16
  nHeight : Uint32
  commitment : CFinalCommitment
  deriving DecidableEq, Repr

def readFinalCommitmentTxPayload : Decoder CFinalCommitmentTxPayload := do
  let nVersion ← u16.decode
  let nHeight ← u32.decode
  let commitmentVersion ← u16.decode
  let llmqType ← (word 8 whole_8).decode
  let quorumHash ← u256.decode
  let signers ← readBitSet
  let validMembers ← readBitSet
  let quorumPublicKey ← readPublicKey points
  let quorumVvecHash ← u256.decode
  let quorumSig ← readSignature points
  let membersSig ← readSignature points
  return ⟨nVersion, nHeight, ⟨commitmentVersion, llmqType, quorumHash, signers, validMembers,
    quorumPublicKey, quorumVvecHash, quorumSig, membersSig⟩⟩

/-! ## Reading the payload of a transaction -/

/-- `GetTxPayload`: the whole payload has to be used up. -/
def getTxPayload (read : Decoder α) (tx : CTransaction) : Option α :=
  match read.run tx.vExtraPayload with
  | some (proTx, []) => some proTx
  | _ => none

theorem readProRegTx_script :
    Yields (readProRegTx points) fun proTx => proTx.scriptPayout.length ≤ maxSize :=
  .of_any fun _ => .of_any fun _ => .of_any fun _ => .of_any fun _ => .of_any fun _ =>
    .of_any fun _ => .of_any fun _ => .of_any fun _ => .of_any fun _ =>
    readString_sized.bind fun _ sized => .of_any fun _ => .of_any fun _ => .pure sized

theorem readProUpServTx_script :
    Yields (readProUpServTx points) fun proTx => proTx.scriptOperatorPayout.length ≤ maxSize :=
  .of_any fun _ => .of_any fun _ => .of_any fun _ =>
    readString_sized.bind fun _ sized => .of_any fun _ => .of_any fun _ => .pure sized

theorem readProUpRegTx_script :
    Yields (readProUpRegTx points) fun proTx => proTx.scriptPayout.length ≤ maxSize :=
  .of_any fun _ => .of_any fun _ => .of_any fun _ => .of_any fun _ => .of_any fun _ =>
    readString_sized.bind fun _ sized => .of_any fun _ => .of_any fun _ => .pure sized

theorem getTxPayload_yields {read : Decoder α} {post : α → Prop} (yields : Yields read post)
    {tx : CTransaction} {proTx : α} (payload : getTxPayload read tx = some proTx) : post proTx := by
  unfold getTxPayload at payload
  split at payload
  · rename_i found runs
    cases payload
    exact yields.holds runs
  · cases payload

def transactionProviderRegister : BitVec 16 := 1
def transactionProviderUpdateService : BitVec 16 := 2
def transactionProviderUpdateRegistrar : BitVec 16 := 3
def transactionProviderUpdateRevoke : BitVec 16 := 4

/-- A transaction that `CheckSpecialTx` and the smartnode list look into. -/
def isSpecial (tx : CTransaction) : Bool := tx.nVersion == 3 && tx.nType != transactionNormal

end BlackRaven.Evo
