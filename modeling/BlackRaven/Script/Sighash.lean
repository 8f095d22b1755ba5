import BlackRaven.Consensus.Params
import BlackRaven.Primitives.Transaction
import BlackRaven.Script.Interpreter
import BlackRaven.Script.Standard

/-!
Contract: `SignatureHash` and `TransactionSignatureChecker` of `script/interpreter.cpp`, and
`GetBlockScriptFlags` and `CScriptCheck` of `validation.cpp`.

Owns: what a signature commits to, and the check of one input.

Does not own: the elliptic-curve library, which is the parameter `Secp256k1`. The cache of
verified signatures and the precomputed hashes only save work.
-/

namespace BlackRaven.Script

open Consensus Lib Primitives

/-- `CPubKey::Verify` and `CPubKey::CheckLowS`. -/
structure Secp256k1 where
  verify : (vchPubKey : Bytes) → (hash : Uint256) → (vchSig : Bytes) → Bool
  checkLowS : Bytes → Bool

/-! ## Hash types -/

def sighashAnyonecanpay (nHashType : UInt8) : Bool := nHashType &&& 0x80 != 0
def sighashNone (nHashType : UInt8) : Bool := nHashType &&& 0x1f == 2
def sighashSingle (nHashType : UInt8) : Bool := nHashType &&& 0x1f == 3

def serializeHashType (nHashType : UInt8) : Bytes := toBytesLE 4 nHashType.toNat

/-! ## The script being signed -/

def opCodeseparator : UInt8 := 0xab

/-- How many bytes a read that fails has moved over: the opcode and the size. -/
def failedRead : Bytes → Nat
  | [] => 0
  | opcode :: pc =>
    match operandSize opcode pc with
    | none => 1
    | some (_, operand) => pc.length + 1 - operand.length

/-- The bytes of the operations other than `OP_CODESEPARATOR`. -/
def withoutSeparators : Nat → Bytes → Bytes
  | 0, _ => []
  | fuel + 1, pc =>
    match getOp pc with
    | none => pc.take (failedRead pc)
    | some (opcode, _, rest) =>
      (if opcode = opCodeseparator then [] else pc.take (pc.length - rest.length))
        ++ withoutSeparators fuel rest

def serializeScriptCode (scriptCode : Bytes) : Bytes :=
  let nCodeSeparators := (ops scriptCode).1.countP fun operation => operation.1 == opCodeseparator
  writeCompactSize (scriptCode.length - nCodeSeparators) ++ withoutSeparators (scriptCode.length + 1) scriptCode

/-! ## What is hashed -/

section Hash

variable (digests : Digests) (scriptCode : Bytes) (txTo : CTransaction) (nIn : Fin txTo.vin.length)
  (nHashType : UInt8)

/-- `SerializeInput`: the other inputs lose their script, and for `SIGHASH_NONE` and
`SIGHASH_SINGLE` their sequence number. -/
def serializeInput (nInput : Fin txTo.vin.length) : Bytes :=
  let txin := txTo.vin.get nInput
  txin.prevout.serialize
    ++ (if nInput = nIn then serializeScriptCode scriptCode else writeString [])
    ++ u32.encode (if nInput ≠ nIn ∧ (sighashSingle nHashType ∨ sighashNone nHashType) then 0
        else txin.nSequence)

/-- `SerializeOutput`: for `SIGHASH_SINGLE` the other outputs are null. -/
def serializeOutput (nOutput : Nat) (txout : CTxOut) : Bytes :=
  if sighashSingle nHashType ∧ nOutput ≠ nIn then CTxOut.serialize ⟨-1, []⟩ else txout.serialize

/-- `CTransactionSignatureSerializer`. -/
def serializeForSignature : Bytes :=
  let inputs := if sighashAnyonecanpay nHashType then [nIn] else List.finRange txTo.vin.length
  let outputs :=
    if sighashNone nHashType then []
    else if sighashSingle nHashType then txTo.vout.take (nIn + 1)
    else txTo.vout
  u32.encode txTo.n32bitVersion
    ++ writeCompactSize inputs.length
    ++ inputs.flatMap (serializeInput scriptCode txTo nIn nHashType)
    ++ writeCompactSize outputs.length
    ++ (outputs.zipIdx.flatMap fun entry => serializeOutput txTo nIn nHashType entry.2 entry.1)
    ++ u32.encode txTo.nLockTime
    ++ txTo.serializePayload

def witnessHashOutputs : Uint256 :=
  if !sighashSingle nHashType ∧ !sighashNone nHashType then
    digests.hash (txTo.vout.flatMap CTxOut.serialize)
  else if sighashSingle nHashType then
    match txTo.vout[nIn.val]? with
    | some txout => digests.hash txout.serialize
    | none => 0
  else 0

/-- What a signature in a witness script commits to. `nVersion` takes two bytes. -/
def serializeForWitness (amount : CAmount) : Bytes :=
  let txin := txTo.vin.get nIn
  let hashPrevouts :=
    if sighashAnyonecanpay nHashType then 0
    else digests.hash (txTo.vin.flatMap fun other => other.prevout.serialize)
  let hashSequence :=
    if sighashAnyonecanpay nHashType ∨ sighashSingle nHashType ∨ sighashNone nHashType then 0
    else digests.hash (txTo.vin.flatMap fun other => u32.encode other.nSequence)
  toBytesLE 2 txTo.nVersion.toNat
    ++ u256.encode hashPrevouts
    ++ u256.encode hashSequence
    ++ txin.prevout.serialize
    ++ writeString scriptCode
    ++ u64.encode (BitVec.ofInt 64 amount)
    ++ u32.encode txin.nSequence
    ++ u256.encode (witnessHashOutputs digests txTo nIn nHashType)
    ++ u32.encode txTo.nLockTime

/-- `SignatureHash`. A `SIGHASH_SINGLE` input without an output signs the number one. -/
def signatureHash (amount : CAmount) (sigversion : SigVersion) : Uint256 :=
  match sigversion with
  | .witnessV0 =>
    digests.hash (serializeForWitness digests scriptCode txTo nIn nHashType amount
      ++ serializeHashType nHashType)
  | .base =>
    if sighashSingle nHashType ∧ txTo.vout.length ≤ nIn then 1
    else digests.hash (serializeForSignature scriptCode txTo nIn nHashType ++ serializeHashType nHashType)

end Hash

/-! ## The checker -/

section Checker

variable (digests : Digests) (curve : Secp256k1) (txTo : CTransaction) (nIn : Fin txTo.vin.length)
  (amount : CAmount)

/-- `CheckSig`: the hash type is the last byte of the signature. -/
def checkSig (vchSig vchPubKey scriptCode : Bytes) (sigversion : SigVersion) : Bool :=
  pubKeyIsValid vchPubKey && !vchSig.isEmpty
    && curve.verify vchPubKey
        (signatureHash digests scriptCode txTo nIn (vchSig.getLastD 0) amount sigversion)
        vchSig.dropLast

def locktimeThreshold : Int := 500000000

def checkLockTime (nLockTime : Int) : Bool :=
  let txLockTime : Int := txTo.nLockTime.toNat
  decide (txLockTime < locktimeThreshold ↔ nLockTime < locktimeThreshold)
    && decide (nLockTime ≤ txLockTime) && (txTo.vin.get nIn).nSequence != 0xffffffff#32

/-- The type flag and the sixteen bits of a relative lock time. -/
def sequenceMask : Nat := 2 ^ 22 + 0xffff

def checkSequence (nSequence : Int) : Bool :=
  let txToSequence := (txTo.vin.get nIn).nSequence.toNat
  let txToSequenceMasked := txToSequence &&& sequenceMask
  let nSequenceMasked := nSequence.toNat &&& sequenceMask
  decide (2 ≤ (txTo.nVersion.signExtend 32).toNat) && !txToSequence.testBit 31
    && decide (txToSequenceMasked < 2 ^ 22 ↔ nSequenceMasked < 2 ^ 22)
    && decide (nSequenceMasked ≤ txToSequenceMasked)

def transactionSignatureChecker : SignatureChecker where
  checkSig := checkSig digests curve txTo nIn amount
  checkLockTime := checkLockTime txTo nIn
  checkSequence := checkSequence txTo nIn
  checkLowS := curve.checkLowS

end Checker

/-- `GetBlockScriptFlags`, for a block of the given time. -/
def getBlockScriptFlags (blockTime : Int) (consensusparams : Params) : ScriptFlags where
  p2sh := decide (blockTime ≥ 1333238400)
  dersig := consensusparams.bip66Enabled
  checklocktimeverify := consensusparams.bip65Enabled
  checksequenceverify := consensusparams.bipCSVEnabled
  witness := consensusparams.nSegwitEnabled
  nulldummy := consensusparams.nSegwitEnabled

/-- `CScriptCheck`: the spend of `out` by the input `nIn`. -/
def scriptCheck (digests : Digests) (curve : Secp256k1) (nFlags : ScriptFlags) (out : CTxOut)
    (txTo : CTransaction) (nIn : Fin txTo.vin.length) : Except ScriptError Unit :=
  verifyScript ⟨digests, nFlags, transactionSignatureChecker digests curve txTo nIn out.nValue⟩
    (txTo.vin.get nIn).scriptSig out.scriptPubKey (txTo.vin.get nIn).scriptWitness

end BlackRaven.Script
