import BlackRaven.Chain.BlockIndex
import BlackRaven.Consensus.CheckTxAssets
import BlackRaven.Script.Sighash

/-!
Contract: lock times and signature operations of `consensus/tx_verify.cpp`,
`script/script.cpp` and `script/interpreter.cpp`, and `ContextualCheckTransaction` of
`validation.cpp`.

Owns: when a transaction is final, its relative locks, and what its scripts count towards
the limit of a block.
-/

namespace BlackRaven.Consensus

open Chain Primitives Script

/-! ## Lock times -/

def sequenceFinal : Uint32 := 0xffffffff#32

def isFinalTx (tx : CTransaction) (nBlockHeight nBlockTime : Int) : Bool :=
  let nLockTime : Int := tx.nLockTime.toNat
  nLockTime == 0
    || decide (nLockTime < if nLockTime < locktimeThreshold then nBlockHeight else nBlockTime)
    || tx.vin.all fun txin => txin.nSequence == sequenceFinal

/-- The last invalid height and time, -1 for none. -/
structure LockPair where
  nMinHeight : Int
  nMinTime : Int
  deriving DecidableEq, Repr

def LockPair.initial : LockPair := ⟨-1, -1⟩

/-- One input of `CalculateSequenceLocks`: bit 31 disables the lock, bit 22 makes it one of
time, in units of 512 seconds. -/
def sequenceLockStep (medianTimeAt : Nat → Option Int) (locks : LockPair) (txin : CTxIn)
    (nCoinHeight : Nat) : Except Failure LockPair :=
  let value : Nat := txin.nSequence.toNat &&& 0xffff
  if txin.nSequence.toNat.testBit 31 then .ok locks
  else if txin.nSequence.toNat.testBit 22 then
    match medianTimeAt (nCoinHeight - 1) with
    | none => .error (.undefined "GetAncestor returned null")
    | some nCoinTime =>
      .ok { locks with nMinTime := max locks.nMinTime (nCoinTime + value * 512 - 1) }
  else .ok { locks with nMinHeight := max locks.nMinHeight (nCoinHeight + value - 1) }

/-- `CalculateSequenceLocks`, for inputs with the heights of their coins. -/
def calculateSequenceLocks (medianTimeAt : Nat → Option Int) (fVerifySequence : Bool)
    (tx : CTransaction) (prevHeights : List Nat) : Except Failure LockPair :=
  if (tx.nVersion.signExtend 32).toNat ≥ 2 ∧ fVerifySequence then
    (tx.vin.zip prevHeights).foldlM
      (fun locks item => sequenceLockStep medianTimeAt locks item.1 item.2) .initial
  else .ok .initial

def ancestorMedianTime (map : BlockMap) (pindex : CBlockIndex) (height : Nat) : Option Int :=
  (getAncestor map pindex height).map fun ancestor => getMedianTimePast (chainOf map ancestor)

def evaluateSequenceLocks (map : BlockMap) (pprev : CBlockIndex) (nHeight : Nat) (locks : LockPair) :
    Bool :=
  decide (locks.nMinHeight < nHeight) && decide (locks.nMinTime < getMedianTimePast (chainOf map pprev))

/-! ## Signature operations -/

def opChecksigverify : UInt8 := 0xad
def opCheckmultisigverify : UInt8 := 0xaf
def opInvalidopcode : UInt8 := 0xff

def maxBlockSigopsCost : Nat := 80000

/-- What one operation counts, given the one before it. -/
def sigOps (fAccurate : Bool) (lastOpcode opcode : UInt8) : Nat :=
  if opcode = opChecksig ∨ opcode = opChecksigverify then 1
  else if opcode = opCheckmultisig ∨ opcode = opCheckmultisigverify then
    if fAccurate ∧ op1 ≤ lastOpcode ∧ lastOpcode ≤ op16 then decodeOpN lastOpcode
    else maxPubkeysPerMultisig
  else 0

/-- `GetSigOpCount(fAccurate)`: the count ends where the script cannot be read. -/
def getSigOpCount (fAccurate : Bool) (script : Bytes) : Nat :=
  ((ops script).1.foldl (fun (count : Nat × UInt8) operation =>
    (count.1 + sigOps fAccurate count.2 operation.1, operation.1)) (0, opInvalidopcode)).1

def lastPush (script : Bytes) : Bytes := ((ops script).1.getLast?.map Prod.snd).getD []

/-- `GetSigOpCount(scriptSig)` of a pay-to-script-hash output. -/
def getRedeemSigOpCount (scriptSig : Bytes) : Nat :=
  if isPushOnly scriptSig then getSigOpCount true (lastPush scriptSig) else 0

def getLegacySigOpCount (tx : CTransaction) : Nat :=
  (tx.vin.map fun txin => getSigOpCount false txin.scriptSig).sum
    + (tx.vout.map fun txout => getSigOpCount false txout.scriptPubKey).sum

def witnessSigOps (witversion : Nat) (witprogram : Bytes) (witness : List Bytes) : Nat :=
  if witversion ≠ 0 then 0
  else if witprogram.length = 20 then 1
  else if witprogram.length = 32 then
    match witness.getLast? with
    | some script => getSigOpCount true script
    | none => 0
  else 0

def countWitnessSigOps (flags : ScriptFlags) (txin : CTxIn) (scriptPubKey : Bytes) :
    Except Failure Nat :=
  if !flags.witness then .ok 0
  else if !flags.p2sh then .error (.thrown "assert((flags & SCRIPT_VERIFY_P2SH) != 0)")
  else
    match isWitnessProgram scriptPubKey with
    | some (witnessversion, witnessprogram) =>
      .ok (witnessSigOps witnessversion witnessprogram txin.scriptWitness)
    | none =>
      if isPayToScriptHash scriptPubKey && isPushOnly txin.scriptSig then
        match isWitnessProgram (lastPush txin.scriptSig) with
        | some (witnessversion, witnessprogram) =>
          .ok (witnessSigOps witnessversion witnessprogram txin.scriptWitness)
        | none => .ok 0
      else .ok 0

/-- The part of one input in `GetTransactionSigOpCost`. -/
def inputSigOpCost (inputs : CoinsView) (flags : ScriptFlags) (txin : CTxIn) : Except Failure Nat :=
  match inputs txin.prevout with
  | none => spentCoin
  | some coin_ =>
    let p2sh :=
      if flags.p2sh && isPayToScriptHash coin_.out.scriptPubKey then
        getRedeemSigOpCount txin.scriptSig
      else 0
    (countWitnessSigOps flags txin coin_.out.scriptPubKey).map fun witness =>
      p2sh * witnessScaleFactor + witness

def getTransactionSigOpCost (inputs : CoinsView) (flags : ScriptFlags) (tx : CTransaction) :
    Except Failure Nat :=
  let nSigOps := getLegacySigOpCount tx * witnessScaleFactor
  if tx.isCoinBase then .ok nSigOps
  else (tx.vin.mapM (inputSigOpCost inputs flags)).map fun costs => nSigOps + costs.sum

/-! ## Types and sizes -/

def knownTxTypes : List (BitVec 16) := [0, 1, 2, 3, 4, 5, 6]

/-- `ContextualCheckTransaction` above a block of height `nHeight - 1`. -/
def contextualCheckTransaction (env : TxEnv) (tx : CTransaction) (nHeight : Int) :
    Except Failure Unit :=
  let fDIP0003Active := isDIPDIP0003Active env nHeight
  if fDIP0003Active ∧ tx.nVersion.toInt ≥ 3 ∧ !knownTxTypes.contains tx.nType then
    rejected "bad-txns-type"
  else if fDIP0003Active ∧ tx.nVersion.toInt ≥ 3 ∧ tx.isCoinBase ∧ tx.nType ≠ transactionCoinbase then
    rejected "bad-txns-cb-type"
  else if fDIP0003Active ∧ tx.nVersion.toInt < 3 ∧ tx.nType ≠ transactionNormal then
    rejected "bad-txns-type"
  else if tx.serializeNoWitness.length * witnessScaleFactor > maxBlockWeight then
    rejected "bad-txns-oversize"
  else .ok ()

end BlackRaven.Consensus
