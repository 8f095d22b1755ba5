import BlackRaven.Chain.HeaderAcceptance
import BlackRaven.Consensus.TxVerify
import BlackRaven.Primitives.Block

/-!
Contract: `CheckBlock` and `ContextualCheckBlock` of `validation.cpp`.

Owns: the checks on a block that need no coins. `CheckBlock` is given the height by its
caller, and a block it has once passed is passed again whatever the height.
-/

namespace BlackRaven.Chain

open Assets Consensus Lib Primitives Script

/-- What block validation takes from outside: the hashes, the network, the curve, and the
height of the active chain. -/
structure BlockEnv where
  crypto : PowHash
  chainparams : ChainParams
  assets : AssetEnv
  curve : Secp256k1
  tipHeight : Int

variable (env : BlockEnv) (block : CBlock)

def BlockEnv.txEnv : TxEnv := ⟨env.assets, env.chainparams.consensus, env.tipHeight⟩

def corrupted {α : Type} (reason : String) : Except Failure α :=
  .error (.invalid ⟨100, rejectInvalid, reason, true⟩)

/-! ## CheckBlock -/

/-- The size limits, which `ContextualCheckBlock` repeats. -/
def exceedsSizeLimits : Bool :=
  block.vtx.isEmpty || decide (block.vtx.length * witnessScaleFactor > maxBlockWeight)
    || decide (block.serializeNoWitness.length * witnessScaleFactor > maxBlockWeight)

def blockSigOps : Nat := (block.vtx.map getLegacySigOpCount).sum

def checkMerkleRoot : Except Failure Unit :=
  let root := blockMerkleRoot env.assets.digests block
  if block.header.hashMerkleRoot ≠ root.1 then corrupted "bad-txnmrklroot"
  else if root.2 then corrupted "bad-txns-duplicate"
  else .ok ()

def checkCoinbasePlace : Except Failure Unit :=
  if !(block.vtx.head?.any CTransaction.isCoinBase) then rejected "bad-cb-missing"
  else if (block.vtx.drop 1).any CTransaction.isCoinBase then rejected "bad-cb-multiple"
  else .ok ()

/-- The transactions one by one, as of the height below `nHeight`. -/
def checkTransactions (nHeight : Int) (fDBCheck : Bool) : Except Failure Unit :=
  let nPrevHeight := toInt32 (nHeight - 1)
  block.vtx.forM fun tx =>
    checkTransaction env.txEnv tx nPrevHeight
      (getBlockSubsidy 1 nPrevHeight env.chainparams.consensus) false (!fDBCheck)

def checkBlock (map : BlockMap) (block : CBlock) (nHeight : Int)
    (fCheckPOW fCheckMerkleRoot fDBCheck : Bool) : Except Failure CBlock :=
  if block.fChecked then .ok block
  else
    checkBlockHeader env.crypto env.chainparams map block.header fCheckPOW >>= fun _ =>
    (if fCheckMerkleRoot then checkMerkleRoot env block else .ok ()) >>= fun _ =>
    if exceedsSizeLimits block then rejected "bad-blk-length"
    else
      checkCoinbasePlace block >>= fun _ =>
      checkTransactions env block nHeight fDBCheck >>= fun _ =>
      if blockSigOps block * witnessScaleFactor > maxBlockSigopsCost then rejected "bad-blk-sigops"
      else .ok { block with fChecked := fCheckPOW && fCheckMerkleRoot }

/-- The checks of a block that is not marked, with proof of work and Merkle root. -/
structure BlockChecked (env : BlockEnv) (map : BlockMap) (block : CBlock) (nHeight : Int) : Prop where
  header : checkBlockHeader env.crypto env.chainparams map block.header true = .ok ()
  merkleRoot : checkMerkleRoot env block = .ok ()
  size : exceedsSizeLimits block = false
  coinbasePlace : checkCoinbasePlace block = .ok ()
  transactions : checkTransactions env block nHeight false = .ok ()
  sigOps : blockSigOps block * witnessScaleFactor ≤ maxBlockSigopsCost

theorem checkBlock_eq_ok {env : BlockEnv} {map : BlockMap} {block checked : CBlock} {nHeight : Int}
    (unchecked : block.fChecked = false) :
    checkBlock env map block nHeight true true false = .ok checked
      ↔ BlockChecked env map block nHeight ∧ checked = { block with fChecked := true } := by
  unfold checkBlock
  rw [unchecked, if_neg Bool.false_ne_true]
  simp only [if_true, Bool.and_self]
  constructor
  · intro passes
    obtain ⟨_, header, passes⟩ := bind_eq_ok.mp passes
    obtain ⟨_, merkleRoot, passes⟩ := bind_eq_ok.mp passes
    rw [rejected, ite_error_eq_ok] at passes
    obtain ⟨_, coinbasePlace, rest⟩ := bind_eq_ok.mp passes.2
    obtain ⟨_, transactions, rest⟩ := bind_eq_ok.mp rest
    rw [rejected, ite_error_eq_ok] at rest
    exact ⟨⟨header, merkleRoot, Bool.eq_false_iff.mpr passes.1, coinbasePlace, transactions,
      not_lt.mp rest.1⟩, (Except.ok.inj rest.2).symm⟩
  · rintro ⟨stages, rfl⟩
    refine bind_eq_ok.mpr ⟨(), stages.header, ?_⟩
    refine bind_eq_ok.mpr ⟨(), stages.merkleRoot, ?_⟩
    rw [stages.size, if_neg Bool.false_ne_true]
    refine bind_eq_ok.mpr ⟨(), stages.coinbasePlace, ?_⟩
    refine bind_eq_ok.mpr ⟨(), stages.transactions, ?_⟩
    rw [if_neg (not_lt.mpr stages.sigOps)]

theorem checkCoinbasePlace_ok {block : CBlock} (passes : checkCoinbasePlace block = .ok ()) :
    ∃ coinbase rest, block.vtx = coinbase :: rest ∧ coinbase.isCoinBase = true
      ∧ ∀ tx ∈ rest, tx.isCoinBase = false := by
  unfold checkCoinbasePlace at passes
  simp only [rejected, ite_error_eq_ok] at passes
  obtain ⟨first, others, -⟩ := passes
  cases isVtx : block.vtx with
  | nil => simp [isVtx] at first
  | cons coinbase rest =>
    rw [isVtx] at first others
    refine ⟨coinbase, rest, rfl, by simpa using first, ?_⟩
    intro tx member
    rw [Bool.not_eq_true, List.drop_one, List.tail_cons, List.any_eq_false] at others
    exact Bool.eq_false_iff.mpr (others tx member)

/-! ## ContextualCheckBlock -/

/-- One transaction of a block at `nHeight`. -/
def contextualCheckBlockTx (nHeight nLockTimeCutoff : Int) (tx : CTransaction) : Except Failure Unit :=
  if !isFinalTx tx nHeight nLockTimeCutoff then .error (dos 10 rejectInvalid "bad-txns-nonfinal")
  else contextualCheckTransaction env.txEnv tx nHeight

/-- The height a coinbase has to start with, before DIP0003 and from height 6048 on. -/
def checkCoinbaseHeight (nHeight : Nat) (fDIP0003Active : Bool) (block : CBlock) :
    Except Failure Unit :=
  if 6048 ≤ nHeight ∧ !fDIP0003Active then
    match block.vtx.head?.bind fun coinbase => coinbase.vin.head? with
    | none => .error (.undefined "block.vtx[0]->vin[0]")
    | some txin =>
      if !(pushData (Script.serialize nHeight)).isPrefixOf txin.scriptSig then
        rejected "bad-cb-height"
      else .ok ()
  else if fDIP0003Active ∧ nHeight ≠ 0
      ∧ !(block.vtx.head?.any fun coinbase => coinbase.nType == transactionCoinbase) then
    rejected "bad-cb-type"
  else .ok ()

def isWitnessCommitment (script : Bytes) : Bool :=
  decide (script.length ≥ 38) && script.take 6 == [opReturn, 0x24, 0xaa, 0x21, 0xa9, 0xed]

/-- The hash in the last output that commits to witness data. -/
def witnessCommitment : Option Bytes :=
  block.vtx.head?.bind fun coinbase =>
    (coinbase.vout.reverse.find? fun out => isWitnessCommitment out.scriptPubKey).map fun out =>
      (out.scriptPubKey.drop 6).take 32

/-- `CHash256` over the witness root and the nonce in the coinbase. -/
def checkWitnessCommitment (commitment : Bytes) :
    Except Failure Unit :=
  match block.vtx.head?.bind fun coinbase => coinbase.vin.head?.map CTxIn.scriptWitness with
  | some [nonce] =>
    if nonce.length ≠ 32 then corrupted "bad-witness-nonce-size"
    else if env.assets.digests.hash256
        (u256.encode (blockWitnessMerkleRoot env.assets.digests block) ++ nonce) ≠ commitment then
      corrupted "bad-witness-merkle-match"
    else .ok ()
  | _ => corrupted "bad-witness-nonce-size"

def checkWitness : Except Failure Unit :=
  match (if env.chainparams.consensus.nSegwitEnabled then witnessCommitment block else none) with
  | some commitment => checkWitnessCommitment env block commitment
  | none =>
    if block.vtx.any CTransaction.hasWitness then corrupted "unexpected-witness" else .ok ()

def getBlockWeight : Nat :=
  block.serializeNoWitness.length * (witnessScaleFactor - 1) + block.serialize.length

def contextualCheckBlock (map : BlockMap) (block : CBlock) (pindexPrev : Option CBlockIndex) :
    Except Failure Unit :=
  let nHeight : Nat := (pindexPrev.map fun pindex => pindex.nHeight + 1).getD 0
  let nLockTimeCutoff : Int :=
    match pindexPrev with
    | some pindex =>
      if env.chainparams.consensus.bipCSVEnabled then getMedianTimePast (chainOf map pindex)
      else block.header.nTime.toNat
    | none => block.header.nTime.toNat
  let fDIP0003Active := isDIPDIP0003Active env.txEnv ((pindexPrev.map CBlockIndex.nHeight).getD 0)
  if exceedsSizeLimits block then .error (dos 10 rejectInvalid "bad-blk-length")
  else
    block.vtx.forM (contextualCheckBlockTx env nHeight nLockTimeCutoff) >>= fun _ =>
    if blockSigOps block * witnessScaleFactor > maxBlockSigopsCost then
      .error (dos 10 rejectInvalid "bad-blk-sigops")
    else
      checkCoinbaseHeight nHeight fDIP0003Active block >>= fun _ =>
      checkWitness env block >>= fun _ =>
      if getBlockWeight block > maxBlockWeight then rejected "bad-blk-weight" else .ok ()

end BlackRaven.Chain
