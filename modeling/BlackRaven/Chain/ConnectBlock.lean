import BlackRaven.Chain.CheckBlock
import BlackRaven.Chain.Coins

/-!
Contract: `ConnectBlock` of `validation.cpp`.

Owns: the checks of a block against the coins and the asset state, in the order of the
source, and the coins and asset entries it leaves. Script checks run on the queue; without
worker threads only the reason of a failed script differs.

Does not own: the subsystems behind `NodeServices`, the optional indexes, messages and the
wallet, and where undo data lies in its file. `AbortNode` is a `thrown`. The surcharge for
special transactions is always zero.
-/

namespace BlackRaven.Chain

open Assets Consensus Lib Primitives Script

/-- What `ConnectBlock` asks of smartnodes, quorums and sporks. -/
structure NodeServices where
  /-- `evoDb->VerifyBestBlock`. -/
  verifyBestBlock : Uint256 → Bool
  /-- Whether the block of an entry is above the assumed valid ones. -/
  fScriptChecks : CBlockIndex → Bool
  /-- The height is that of the first superblock and the hash is not its hash. -/
  badSuperblockStart : Nat → Uint256 → Bool
  /-- `GetConflictingLock`, with the spork on and no chainlock for the block. -/
  conflictingLock : CBlockIndex → CTransaction → Bool
  isBlockValueValid : CBlock → Nat → CAmount → Bool
  isBlockPayeeValid : CTransaction → Nat → CAmount → Bool
  processSpecialTxsInBlock : CBlock → CBlockIndex → (fJustCheck : Bool) → Except Failure Unit

/-- A network without smartnodes, locks and superblocks: a coinbase pays at most the
reward. -/
def NodeServices.plain : NodeServices where
  verifyBestBlock := fun _ => true
  fScriptChecks := fun _ => true
  badSuperblockStart := fun _ _ => false
  conflictingLock := fun _ _ => false
  isBlockValueValid := fun block _ blockReward =>
    block.vtx.head?.any fun coinbase => decide ((coinbase.vout.map CTxOut.nValue).sum ≤ blockReward)
  isBlockPayeeValid := fun _ _ _ => true
  processSpecialTxsInBlock := fun _ _ _ => .ok ()

/-- What does not change while blocks are connected. -/
structure NodeContext where
  crypto : PowHash
  chainparams : ChainParams
  curve : Secp256k1
  view : NodeView
  services : NodeServices

structure ConnectContext extends NodeContext where
  mapBlockIndex : BlockMap
  /-- `chainActive.Height()`. -/
  tipHeight : Int
  globals : AssetGlobals

def ConnectContext.blockEnv (ctx : ConnectContext) : BlockEnv where
  crypto := ctx.crypto
  chainparams := ctx.chainparams
  assets := ctx.globals.env
  curve := ctx.curve
  tipHeight := ctx.tipHeight

/-- What the asset checks can see of the mempool: the names it issues and the global
`mapReissuedAssets`. -/
structure PoolView where
  mempoolHasAsset : Bytes → Bool
  mapReissuedAssets : Bytes → Option Uint256

/-! ## One transaction -/

/-- The variables of the loop over the transactions. -/
structure ConnectState where
  s : CoinsState
  nFees : CAmount
  nSigOpsCost : Nat
  /-- One record a transaction, that of the coinbase included. -/
  vtxundo : List (List Coin)
  /-- Whether the script checks queued so far succeed. -/
  scriptsValid : Bool

section Transaction

variable (ctx : ConnectContext) (pool : PoolView) (block : CBlock) (pindex : CBlockIndex)

def fetchInputs (coins : CoinsStore) (tx : CTransaction) : CoinsStore :=
  tx.vin.foldl (fun coins txin => coins.fetch txin.prevout) coins

variable (s : CoinsState) (inputs : CoinsView)

def lookedUp (tx : CTransaction) : CoinsState :=
  if tx.isCoinBase then s else { s with coins := fetchInputs s.coins tx }

def assetsContext : TxAssetsContext where
  env := ctx.globals.env
  inputs := s.coins.read
  assetCache := some (s.assetsCache.view ctx.globals)
  fCheckMempool := false
  fRunningUnitTests := false
  mempoolHasAsset := pool.mempoolHasAsset
  mapReissuedAssets := pool.mapReissuedAssets
  collectMessages := false
  currentTime := 0
  nBlocktime := block.header.nTime.toNat

/-- `SequenceLocks` of a transaction of the block. -/
def checkSequenceLocks (tx : CTransaction) : Except Failure Unit :=
  let prevheights := tx.vin.map fun txin => ((inputs txin.prevout).map Coin.nHeight).getD 0
  calculateSequenceLocks (ancestorMedianTime ctx.mapBlockIndex pindex)
      ctx.chainparams.consensus.bipCSVEnabled tx prevheights >>= fun locks =>
  match pindex.pprev.bind ctx.mapBlockIndex with
  | none => .error (.thrown "assert(block.pprev)")
  | some pprev =>
    if !evaluateSequenceLocks ctx.mapBlockIndex pprev pindex.nHeight locks then
      rejected "bad-txns-nonfinal"
    else .ok ()

/-- The checks on a transaction that is no coinbase: the fees so far. -/
def checkSpends (nFees : CAmount) (tx : CTransaction) : Except Failure CAmount :=
  checkTxInputs s.coins.read tx pindex.nHeight >>= fun txfee =>
  let nFees := toInt64 (nFees + txfee)
  if !moneyRange nFees then rejected "bad-txns-accumulated-fee-outofrange"
  else
    checkTxAssets (assetsContext ctx pool block s) tx >>= fun _ =>
    checkSequenceLocks ctx pindex s.coins.read tx >>= fun _ =>
    .ok nFees

def inputScriptValid (tx : CTransaction) (nIn : Fin tx.vin.length) : Bool :=
  match inputs (tx.vin.get nIn).prevout with
  | none => false
  | some coin_ =>
    (scriptCheck ctx.globals.env.digests ctx.curve
      (getBlockScriptFlags pindex.getBlockTime ctx.chainparams.consensus) coin_.out tx nIn).isOk

/-- The checks `CheckInputs` puts on the queue. -/
def scriptsValid (tx : CTransaction) : Bool :=
  tx.isCoinBase || !ctx.services.fScriptChecks pindex
    || (List.finRange tx.vin.length).all (inputScriptValid ctx pindex inputs tx)

def connectTx (c : ConnectState) (tx : CTransaction) : Except Failure ConnectState :=
  let s := lookedUp c.s tx
  (if tx.isCoinBase then .ok c.nFees else checkSpends ctx pool block pindex s c.nFees tx)
    >>= fun nFees =>
  getTransactionSigOpCost s.coins.read
      (getBlockScriptFlags pindex.getBlockTime ctx.chainparams.consensus) tx >>= fun cost =>
  if c.nSigOpsCost + cost > maxBlockSigopsCost then rejected "bad-blk-sigops"
  else
    (updateCoins ctx.globals s tx pindex.nHeight (block.header.getHash ctx.crypto)).map fun updated =>
      { s := updated.1
        nFees
        nSigOpsCost := c.nSigOpsCost + cost
        vtxundo := c.vtxundo ++ [updated.2]
        scriptsValid := c.scriptsValid && scriptsValid ctx pindex s.coins.read tx }

end Transaction

/-! ## The block -/

/-- `CCoinsViewCache` and `CAssetsCache` of a block that is being connected. -/
structure BlockView extends CoinsState where
  /-- What `GetBestBlock` returns. -/
  hashBlock : Uint256

/-- What a connected block leaves: the view, the undo record and the block, which is now
checked. -/
structure Connected where
  view : BlockView
  vtxundo : List (List Coin)
  block : CBlock

section Block

variable (ctx : ConnectContext) (pool : PoolView)

def connectPreconditions (block : CBlock) (pindex : CBlockIndex) (view : BlockView) :
    Except Failure Unit :=
  if pindex.pprev.isSome ∧ ctx.view.hasConflictingChainLock pindex.nHeight pindex.hashBlock then
    .error (dos 10 rejectInvalid "bad-chainlock")
  else if pindex.pprev.getD 0 ≠ view.hashBlock then
    .error (.thrown "assert(hashPrevBlock == view.GetBestBlock())")
  else if pindex.pprev.any (fun hash => !ctx.services.verifyBestBlock hash)
      ∧ isDIPDIP0003Active ctx.blockEnv.txEnv pindex.nHeight then
    .error (.thrown "Found EvoDB inconsistency, you must reindex to continue")
  else if block.header.getHash ctx.crypto ≠ ctx.chainparams.consensus.hashGenesisBlock
      ∧ ctx.services.badSuperblockStart pindex.nHeight (block.header.getHash ctx.crypto) then
    rejected "bad-sb-start"
  else .ok ()

def connectRewards (fJustCheck : Bool) (block : CBlock) (pindex : CBlockIndex) (c : ConnectState) :
    Except Failure Unit :=
  if !c.scriptsValid then rejected "block-validation-failed"
  else if block.vtx.any fun tx =>
      !tx.vin.isEmpty && ctx.services.conflictingLock pindex tx then
    .error (dos 10 rejectInvalid "conflict-tx-lock")
  else
    match pindex.pprev.bind ctx.mapBlockIndex, block.vtx.head? with
    | some pprev, some coinbase =>
      let blockReward := toInt64 (c.nFees
        + getBlockSubsidy pprev.nBits.toNat pprev.nHeight ctx.chainparams.consensus)
      if !ctx.services.isBlockValueValid block pindex.nHeight blockReward then
        .error (dos 0 rejectInvalid "bad-cb-amount")
      else if !ctx.services.isBlockPayeeValid coinbase pindex.nHeight blockReward then
        .error (dos 0 rejectInvalid "bad-cb-payee")
      else ctx.services.processSpecialTxsInBlock block pindex fJustCheck
    | _, _ => .error (.undefined "pindex->pprev")

/-- The loop over the transactions, from the view of the previous block. -/
def connectTransactions (block : CBlock) (pindex : CBlockIndex) (view : BlockView) :
    Except Failure ConnectState :=
  block.vtx.foldlM (connectTx ctx pool block pindex) ⟨view.toCoinsState, 0, 0, [], true⟩

/-- Everything after `CheckBlock`. The transactions of the genesis block are not
connected. -/
def connectChecked (fJustCheck : Bool) (block : CBlock) (pindex : CBlockIndex) (view : BlockView) :
    Except Failure Connected :=
  connectPreconditions ctx block pindex view >>= fun _ =>
  let hashBlock := if fJustCheck then view.hashBlock else pindex.hashBlock
  if block.header.getHash ctx.crypto = ctx.chainparams.consensus.hashGenesisBlock then
    .ok { view := { view with hashBlock }, vtxundo := [], block }
  else
    connectTransactions ctx pool block pindex view >>= fun c =>
    (connectRewards ctx fJustCheck block pindex c).map fun _ =>
      { view := { c.s with hashBlock }, vtxundo := c.vtxundo.drop 1, block }

def connectBlock (fJustCheck : Bool) (block : CBlock) (pindex : CBlockIndex) (view : BlockView) :
    Except Failure Connected :=
  if pindex.hashBlock ≠ block.header.getHash ctx.crypto then
    .error (.thrown "assert(*pindex->phashBlock == block.GetHash())")
  else
    checkBlock ctx.blockEnv ctx.mapBlockIndex block pindex.nHeight (!fJustCheck) (!fJustCheck) false
      >>= fun block => connectChecked ctx pool fJustCheck block pindex view

end Block

/-! ## What a connected block has passed -/

section Passed

variable {ctx : ConnectContext} {pool : PoolView} {block : CBlock} {pindex : CBlockIndex}

/-- The checks a transaction that is no coinbase has passed. -/
structure SpendsChecked (ctx : ConnectContext) (pool : PoolView) (block : CBlock)
    (pindex : CBlockIndex) (s : CoinsState) (tx : CTransaction) : Prop where
  inputs : ∃ txfee, checkTxInputs s.coins.read tx pindex.nHeight = .ok txfee
  assets : ∃ totals, checkTxAssets (assetsContext ctx pool block s) tx = .ok totals

variable {tx : CTransaction} {c next : ConnectState}

theorem checkSpends_ok {s : CoinsState} {nFees total : CAmount}
    (passes : checkSpends ctx pool block pindex s nFees tx = .ok total) :
    SpendsChecked ctx pool block pindex s tx := by
  obtain ⟨txfee, inputs, passes⟩ := bind_eq_ok.mp passes
  simp only [rejected, ite_error_eq_ok] at passes
  obtain ⟨totals, assets, -⟩ := bind_eq_ok.mp passes.2
  exact ⟨⟨txfee, inputs⟩, totals, assets⟩

/-- What a round of the loop that goes on has done. -/
structure TxConnected (ctx : ConnectContext) (pool : PoolView) (block : CBlock) (pindex : CBlockIndex)
    (c : ConnectState) (tx : CTransaction) (next : ConnectState) (undo : List Coin) : Prop where
  fees : (if tx.isCoinBase then .ok c.nFees
    else checkSpends ctx pool block pindex (lookedUp c.s tx) c.nFees tx) = .ok next.nFees
  updates : updateCoins ctx.globals (lookedUp c.s tx) tx pindex.nHeight
    (block.header.getHash ctx.crypto) = .ok (next.s, undo)
  vtxundo : next.vtxundo = c.vtxundo ++ [undo]

theorem connectTx_ok (connects : connectTx ctx pool block pindex c tx = .ok next) :
    ∃ undo, TxConnected ctx pool block pindex c tx next undo := by
  obtain ⟨nFees, fees, connects⟩ := bind_eq_ok.mp connects
  obtain ⟨cost, -, connects⟩ := bind_eq_ok.mp connects
  rw [rejected, ite_error_eq_ok] at connects
  obtain ⟨updated, updates, isNext⟩ := map_eq_ok.mp connects.2
  subst isNext
  exact ⟨updated.2, fees, updates, rfl⟩

section

variable {undo : List Coin} (connected : TxConnected ctx pool block pindex c tx next undo)
  (notCoinBase : tx.isCoinBase = false)

include connected notCoinBase

theorem TxConnected.spends : SpendsChecked ctx pool block pindex (lookedUp c.s tx) tx := by
  have fees := connected.fees
  rw [notCoinBase, if_neg Bool.false_ne_true] at fees
  exact checkSpends_ok fees

end

/-- The transactions that are connected: none of the genesis block. -/
def NodeContext.connectedTxs (node : NodeContext) (block : CBlock) : List CTransaction :=
  if block.header.getHash node.crypto = node.chainparams.consensus.hashGenesisBlock then [] else block.vtx

theorem NodeContext.connectedTxs_sublist (node : NodeContext) (block : CBlock) :
    (node.connectedTxs block).Sublist block.vtx := by
  unfold connectedTxs
  split
  · exact List.nil_sublist _
  · exact .refl _

/-- What `ConnectBlock` has done to a block that it accepts after `CheckBlock`. -/
structure BlockConnected (ctx : ConnectContext) (pool : PoolView) (block : CBlock)
    (pindex : CBlockIndex) (view : BlockView) (connected : Connected) (last : ConnectState) : Prop where
  preconditions : connectPreconditions ctx block pindex view = .ok ()
  transactions : (ctx.connectedTxs block).foldlM (connectTx ctx pool block pindex)
    ⟨view.toCoinsState, 0, 0, [], true⟩ = .ok last
  rewards : block.header.getHash ctx.crypto ≠ ctx.chainparams.consensus.hashGenesisBlock →
    connectRewards ctx false block pindex last = .ok ()
  view : connected.view = { last.s with hashBlock := pindex.hashBlock }
  vtxundo : connected.vtxundo = last.vtxundo.drop 1

theorem connectChecked_ok {view : BlockView} {connected : Connected}
    (connects : connectChecked ctx pool false block pindex view = .ok connected) :
    ∃ last, BlockConnected ctx pool block pindex view connected last := by
  obtain ⟨_, preconditions, connects⟩ := bind_eq_ok.mp connects
  dsimp only at connects
  split at connects
  next isGenesis =>
    obtain rfl := Except.ok.inj connects
    refine ⟨⟨view.toCoinsState, 0, 0, [], true⟩, preconditions, ?_, fun other => absurd isGenesis other,
      rfl, rfl⟩
    rw [NodeContext.connectedTxs, if_pos isGenesis]
    rfl
  next notGenesis =>
    obtain ⟨last, transactions, connects⟩ := bind_eq_ok.mp connects
    obtain ⟨_, rewards, isConnected⟩ := map_eq_ok.mp connects
    subst isConnected
    refine ⟨last, preconditions, ?_, fun _ => rewards, rfl, rfl⟩
    rw [NodeContext.connectedTxs, if_neg notGenesis]
    exact transactions

theorem checkBlock_same {env : BlockEnv} {map : BlockMap} {block checked : CBlock} {nHeight : Int}
    {fCheckPOW fCheckMerkleRoot fDBCheck : Bool}
    (passes : checkBlock env map block nHeight fCheckPOW fCheckMerkleRoot fDBCheck = .ok checked) :
    checked.header = block.header ∧ checked.vtx = block.vtx := by
  unfold checkBlock at passes
  by_cases isChecked : block.fChecked = true
  · rw [if_pos isChecked] at passes
    cases passes
    exact ⟨rfl, rfl⟩
  · rw [if_neg isChecked] at passes
    obtain ⟨_, -, passes⟩ := bind_eq_ok.mp passes
    obtain ⟨_, -, passes⟩ := bind_eq_ok.mp passes
    rw [rejected, ite_error_eq_ok] at passes
    obtain ⟨_, -, passes⟩ := bind_eq_ok.mp passes.2
    obtain ⟨_, -, passes⟩ := bind_eq_ok.mp passes
    rw [rejected, ite_error_eq_ok] at passes
    cases passes.2
    exact ⟨rfl, rfl⟩

end Passed

end BlackRaven.Chain
