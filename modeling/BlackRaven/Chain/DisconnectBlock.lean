import BlackRaven.Chain.AssetRuns
import BlackRaven.Chain.UndoData

/-!
Contract: `ApplyTxInUndo` and `DisconnectBlock` of `validation.cpp`, and the part of
`DisconnectTip` that applies them to the chain state.

Owns: the transactions of a block in reverse, outputs before inputs, on the coins and on the
asset cache. Nothing writes the asset undo data of a block, so the reissues are undone
without them. `DisconnectTip` flushes the coins and lets its asset cache go.

Does not own: smartnodes and quorums, which are asked through `UndoServices`, the optional
indexes, messages and the mempool.
-/

namespace BlackRaven.Chain

open Assets Consensus Primitives Script

inductive DisconnectError where
  /-- `DISCONNECT_FAILED`, with what is logged. -/
  | failed (message : String)
  | failure (failure : Failure)
  deriving DecidableEq, Repr

abbrev Disconnect := Except DisconnectError

def orFailed {α : Type} (message : String) : Option α → Disconnect α
  | none => .error (.failed message)
  | some value => .ok value

/-- What `DisconnectBlock` asks of the curve, and of smartnodes and quorums. -/
structure UndoServices where
  points : KeyPoints
  undoSpecialTxsInBlock : CBlock → CBlockIndex → Bool

/-! ## The asset operation of a transaction -/

section Operation

variable (globals : AssetGlobals) (cache : CAssetsCache)

def undoIssuedAsset (script : Bytes) (notRead notRemoved : String) : Disconnect CAssetsCache :=
  orFailed notRead (newAssetData script) >>= fun asset =>
  if cache.checkIfAssetExists globals asset.strName then
    orFailed notRemoved (cache.removeNewAsset globals asset (globals.env.address script))
  else .ok cache

def undoIssuedOwner (script : Bytes) : Disconnect CAssetsCache :=
  (orFailed "Failed to get owner from transaction" (ownerData script)).map fun ownerName =>
    cache.removeOwnerAsset globals ownerName (globals.env.address script)

variable (tx : CTransaction) (txid : Uint256)

def undoReissued : Disconnect CAssetsCache :=
  orFailed "Failed to get reissue asset from transaction" (reissueData (lastScript tx)) >>= fun reissue =>
  if cache.checkIfAssetExists globals reissue.strName then
    orFailed "Failed to Undo Reissue Asset" (cache.removeReissueAsset globals reissue
      (globals.env.address (lastScript tx)) ⟨txid, BitVec.ofNat 32 (tx.vout.length - 1)⟩ [])
  else .ok cache

def undoUniqueOutput (out : CTxOut) : Disconnect CAssetsCache :=
  if isScriptNewUniqueAsset out.scriptPubKey then
    undoIssuedAsset globals cache out.scriptPubKey "Failed to get unique asset from transaction"
      "Failed to Undo Unique Asset"
  else .ok cache

def verifierOutput : Option CTxOut :=
  tx.vout.reverse.find? fun out =>
    isUnspendable out.scriptPubKey && isNullAssetVerifierTxDataScript out.scriptPubKey

def undoIssuedVerifier : Disconnect CAssetsCache :=
  orFailed "Failed to get restricted asset from transaction" (newAssetData (lastScript tx)) >>= fun asset =>
  orFailed "Failed to find the restricted asset verifier string index from trasaction"
    (verifierOutput tx) >>= fun out =>
  (orFailed "Failed to get the restricted asset verifier string from trasaction"
    (assetNullVerifierDataFromScript out.scriptPubKey)).map fun verifier =>
      cache.removeRestrictedVerifier asset.strName verifier false

def undoOperation : Disconnect CAssetsCache :=
  match operationKind tx with
  | .issue =>
    undoIssuedAsset globals cache (lastScript tx) "Failed to get asset from transaction"
      "Failed to Remove Asset" >>= fun cache => undoIssuedOwner globals cache (ownerScript tx)
  | .reissue => undoReissued globals cache tx txid
  | .unique => tx.vout.foldlM (undoUniqueOutput globals) cache
  | .msgchannel =>
    undoIssuedAsset globals cache (lastScript tx) "Failed to get msgchannel asset from transaction"
      "Failed to Undo Msg Channel Asset"
  | .qualifier =>
    undoIssuedAsset globals cache (lastScript tx) "Failed to get qualifier asset from transaction"
      "Failed to Undo Qualifier Asset"
  | .restricted =>
    undoIssuedAsset globals cache (lastScript tx) "Failed to get restricted asset from transaction"
      "Failed to Undo Restricted Asset" >>= fun cache => undoIssuedVerifier cache tx
  | .plain => .ok cache

def undoTransferOutput (item : COutPoint × Coin) : Disconnect CAssetsCache :=
  let script := item.2.out.scriptPubKey
  orFailed "Failed to get transfer asset from transaction" (transferData script) >>= fun transfer =>
  orFailed "Failed to Remove the transfer of an asset"
    (cache.removeTransfer globals transfer (globals.env.address script) item.1)

/-- A tag, an address freeze or a freeze of a whole asset. -/
def undoNullDataOutput (item : COutPoint × Coin) : Disconnect CAssetsCache :=
  let script := item.2.out.scriptPubKey
  if isNullAssetTxDataScript script then
    (orFailed "Failed to get null asset data from transaction" (nullAssetData script)).map fun (data : CNullAssetTxData) =>
      let address := globals.env.address script
      match assetType data.assetName with
      | .qualifier | .subQualifier =>
        cache.removeQualifierAddress data.assetName address
          (if data.flag ≠ 0 then .addQualifier else .removeQualifier)
      | .restricted =>
        cache.removeRestrictedAddress data.assetName address
          (if data.flag ≠ 0 then .freezeAddress else .unfreezeAddress)
      | _ => cache
  else if isNullGlobalRestrictionAssetTxDataScript script then
    (orFailed "Failed to get global null asset data from transaction"
      (globalAssetNullDataFromScript script)).map fun (data : CNullAssetTxData) =>
        cache.removeGlobalRestricted data.assetName (if data.flag ≠ 0 then .globalFreeze else .globalUnfreeze)
  else .ok cache

/-- Everything a transaction did to the assets but its spends. -/
def undoAssets (nHeight : Nat) : Disconnect CAssetsCache :=
  let made := txCoins tx txid nHeight
  undoOperation globals cache tx txid >>= fun cache =>
  (made.filter fun item => !isUnspendable item.2.out.scriptPubKey
    && assetKind item.2.out.scriptPubKey == some .transferAsset).foldlM
      (undoTransferOutput globals) cache >>= fun cache =>
  (made.filter fun item => isUnspendable item.2.out.scriptPubKey).foldlM (undoNullDataOutput globals) cache

end Operation

/-! ## Coins -/

/-- The variables of the loop over the transactions. -/
structure DisconnectState where
  coins : CoinsStore
  /-- The copy of the asset cache that the outputs are spent in. -/
  tempCache : CAssetsCache
  assetsCache : CAssetsCache
  fClean : Bool

section Coins

variable (globals : AssetGlobals)

/-- An output is taken out, and has to be what the block says. -/
def spendOutput (s : DisconnectState) (item : COutPoint × Coin) : DisconnectState :=
  match s.coins.take item.1 with
  | (none, coins) => { s with coins, fClean := false }
  | (some moveout, coins) =>
    let coin_ := moveout.getD ⟨nullTxOut, 0, false⟩
    match s.tempCache.trySpendCoin globals coin_.out with
    | none => { s with coins, fClean := false }
    | some tempCache => { s with coins, tempCache, fClean := s.fClean && decide (coin_ = item.2) }

/-- The indexes `AccessByTxid` looks at. -/
def maxOutputs : Nat := maxBlockWeight / (witnessScaleFactor * 9)

/-- `AccessByTxid` from an index on, for a number of indexes. -/
def accessByTxid (txid : Uint256) : Nat → Nat → CoinsStore → CoinsStore × Option Coin
  | 0, _, coins => (coins, none)
  | left + 1, index, coins =>
    let outpoint : COutPoint := ⟨txid, BitVec.ofNat 32 index⟩
    let coins := coins.fetch outpoint
    match coins.read outpoint with
    | some alternate => (coins, some alternate)
    | none => accessByTxid txid left (index + 1) coins

/-- The metadata of a coin without a height come from another output of its transaction. -/
def completeUndo (coins : CoinsStore) (out : COutPoint) (undo : Coin) : Disconnect (CoinsStore × Coin) :=
  if undo.nHeight = 0 then
    match accessByTxid out.hash maxOutputs 0 coins with
    | (_, none) => .error (.failed "adding output for transaction without known metadata")
    | (coins, some alternate) =>
      .ok (coins, { undo with nHeight := alternate.nHeight, fCoinBase := alternate.fCoinBase })
  else .ok (coins, undo)

def applyTxInUndo (s : DisconnectState) (item : COutPoint × Coin) : Disconnect DisconnectState :=
  let coins := s.coins.fetch item.1
  let fClean := (coins.read item.1).isNone
  completeUndo coins item.1 item.2 >>= fun completed =>
  ((addCoin completed.1 item.1 completed.2 (!fClean)).mapError .failure).map fun coins =>
    if (assetKind item.2.out.scriptPubKey).isSome then
      match s.assetsCache.undoAssetCoin globals item.2.out with
      | none => { s with coins, fClean := false }
      | some assetsCache => { s with coins, assetsCache, fClean := s.fClean && fClean }
    else { s with coins, fClean := s.fClean && fClean }

/-- One round of the loop. The first transaction of a block has no undo record. -/
def disconnectTx (nHeight : Nat) (s : DisconnectState) (item : CTransaction × Option (List Coin)) :
    Disconnect DisconnectState :=
  let tx := item.1
  let txid := tx.getHash globals.env.digests
  let s := ((txCoins tx txid nHeight).filter fun made => !isUnspendable made.2.out.scriptPubKey).foldl
    (spendOutput globals) s
  undoAssets globals s.assetsCache tx txid nHeight >>= fun assetsCache =>
  match item.2 with
  | none => .ok { s with assetsCache }
  | some vprevout =>
    if vprevout.length ≠ tx.vin.length then
      .error (.failed "DisconnectBlock(): transaction and undo data inconsistent")
    else
      ((tx.vin.map CTxIn.prevout).zip vprevout).reverse.foldlM (applyTxInUndo globals)
        { s with assetsCache }

/-- The loop, from the last transaction to the first. -/
def disconnectTransactions (vtx : List CTransaction) (vtxundo : List (List Coin)) (nHeight : Nat)
    (view : BlockView) : Disconnect DisconnectState :=
  (vtx.zip (none :: vtxundo.map some)).reverse.foldlM (disconnectTx globals nHeight)
    ⟨view.coins, view.assetsCache, view.assetsCache, true⟩

end Coins

/-! ## The block -/

/-- What `DisconnectBlock` leaves: `DISCONNECT_OK` when it is clean and else
`DISCONNECT_UNCLEAN`. -/
structure Disconnected where
  fClean : Bool
  view : BlockView

section Block

variable (ctx : ConnectContext) (services : UndoServices)

/-- `DisconnectBlock`, with the undo data that lie at the position in the block's entry. -/
def disconnectBlock (block : CBlock) (pindex : CBlockIndex) (undoFile : Option Bytes) (view : BlockView) :
    Disconnect Disconnected :=
  if isDIPDIP0003Active ctx.blockEnv.txEnv pindex.nHeight ∧ !ctx.services.verifyBestBlock pindex.hashBlock then
    .error (.failed "Found EvoDB inconsistency, you must reindex to continue")
  else
    orFailed "DisconnectBlock(): no undo data available" undoFile >>= fun file =>
    match pindex.pprev with
    | none => .error (.failure (.undefined "pindex->pprev"))
    | some pprev =>
      (undoReadFromDisk ctx.globals.env.digests services.points file pprev).mapError
        (fun _ => .failed "DisconnectBlock(): failure reading undo data") >>= fun vtxundo =>
      if vtxundo.length + 1 ≠ block.vtx.length then
        .error (.failed "DisconnectBlock(): block and undo data inconsistent")
      else if !services.undoSpecialTxsInBlock block pindex then
        .error (.failed "UndoSpecialTxsInBlock")
      else
        (disconnectTransactions ctx.globals block.vtx vtxundo pindex.nHeight view).map fun s =>
          { fClean := s.fClean
            view := { coins := s.coins, assetsCache := s.assetsCache, hashBlock := pprev } }

end Block

/-! ## DisconnectTip -/

/-- The part of `DisconnectTip` that takes the block from the chain state, with the block as
it is read from disk. The coins are flushed, the asset cache is not. -/
def Chainstate.disconnectTip (node : NodeContext) (services : UndoServices) (c : Chainstate)
    (connection : Connection) (undoFile : Option Bytes) : Disconnect Chainstate :=
  if c.hashBlock ≠ connection.pindex.hashBlock then
    .error (.failure (.thrown "assert(view.GetBestBlock() == pindexDelete->GetBlockHash())"))
  else
    disconnectBlock (c.context node connection) services connection.source.received connection.pindex
      undoFile c.blockView >>= fun r =>
    if !r.fClean then .error (.failed "DisconnectTip(): DisconnectBlock failed")
    else
      match r.view.coins.flush with
      | none => .error (.failure (.thrown
          "FRESH flag misapplied to cache entry for base transaction with spendable outputs"))
      | some coinsTip => .ok { c with coinsTip, hashBlock := r.view.hashBlock }

end BlackRaven.Chain
