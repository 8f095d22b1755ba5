import BlackRaven.Assets.CacheUpdates
import BlackRaven.Consensus.CheckTxAssets
import BlackRaven.Lib.WriteBack

/-!
Contract: `AddCoin`, `AddCoins` and `SpendCoin` of `coins.cpp`, `IsUnspendable` of
`script/script.cpp` and `UpdateCoins` of `validation.cpp`, with all asset deployments
active.

Owns: how one transaction changes the coins and the asset cache. The two are changed by
different code: a coin is made of every spendable output, an entry of the asset cache of
every output that is read as an asset operation. What the asset cache refuses is logged
and otherwise ignored.

Does not own: `undoAssetData`, which `ConnectBlock` keeps in a local variable and drops,
and the wallet's channel subscriptions. A record that cannot be read is passed over; a
checked transaction has none.
-/

namespace BlackRaven.Chain

open Assets Consensus Lib Lib.WriteBack Primitives Script

abbrev CoinsStore := Store COutPoint Coin

/-- The coins and the asset cache a block is connected to. -/
structure CoinsState where
  coins : CoinsStore
  assetsCache : CAssetsCache

/-! ## Coins -/

/-- `IsUnspendable`: also an asset script that carries the amount zero. -/
def isUnspendable (script : Bytes) : Bool :=
  script.head? == some opReturn || script.head? == some opBlkrAsset
    || decide (script.length > maxScriptSize)
    || (assetAmount script).any fun entry => entry.2 == 0

/-- `AddCoin`. The value -1 marks a spent coin. -/
def addCoin (coins : CoinsStore) (outpoint : COutPoint) (coin_ : Coin) (possible_overwrite : Bool) :
    Except Failure CoinsStore :=
  if coin_.out.nValue = -1 then spentCoin
  else if isUnspendable coin_.out.scriptPubKey then .ok coins
  else
    match coins.put outpoint coin_ possible_overwrite with
    | none => .error (.thrown "Adding new coin that replaces non-pruned entry")
    | some coins => .ok coins

theorem addCoin_eq_ok {coins next : CoinsStore} {outpoint : COutPoint} {coin_ : Coin}
    {possible_overwrite : Bool} :
    addCoin coins outpoint coin_ possible_overwrite = .ok next ↔ coin_.out.nValue ≠ -1
      ∧ if isUnspendable coin_.out.scriptPubKey then next = coins
        else coins.put outpoint coin_ possible_overwrite = some next := by
  unfold addCoin
  rw [spentCoin, ite_error_eq_ok]
  refine and_congr_right fun _ => ?_
  split
  · rw [Except.ok.injEq, eq_comm]
  · cases coins.put outpoint coin_ possible_overwrite <;> simp

/-! ## The asset operation of a transaction -/

section Operation

variable (globals : AssetGlobals) (cache : CAssetsCache)

variable (script : Bytes) (tx : CTransaction)

def addIssuedAsset (nHeight : Int) (blockHash : Uint256) : CAssetsCache :=
  match newAssetData script with
  | none => cache
  | some asset =>
    (cache.addNewAsset globals asset (globals.env.address script) nHeight blockHash).getD cache

def addIssuedOwner : CAssetsCache :=
  match ownerData script with
  | none => cache
  | some ownerName => cache.addOwnerAsset globals ownerName (globals.env.address script)

/-- What the first output with a verifier string is read as. -/
def firstVerifier : Option (Option Bytes) :=
  (tx.vout.find? fun out => isNullAssetVerifierTxDataScript out.scriptPubKey).map fun out =>
    assetNullVerifierDataFromScript out.scriptPubKey

/-- The verifier string of a restricted asset, empty when it cannot be read. -/
def addIssuedVerifier : CAssetsCache :=
  match newAssetData (lastScript tx), firstVerifier tx with
  | some asset, some verifier => cache.addRestrictedVerifier asset.strName (verifier.getD [])
  | _, _ => cache

/-- The reissue of the last output. The verifier string changes with the reissue of a
restricted asset that was there before. -/
def addReissued (txid : Uint256) : CAssetsCache :=
  match reissueData (lastScript tx) with
  | none => cache
  | some reissue =>
    let out : COutPoint := ⟨txid, BitVec.ofNat 32 (tx.vout.length - 1)⟩
    let reissued := (cache.addReissueAsset globals reissue (globals.env.address (lastScript tx)) out).getD cache
    match cache.getAssetMetaDataIfExists globals reissue.strName, firstVerifier tx with
    | some found, some (some verifier) =>
      if assetType found.asset.strName = .restricted then
        reissued.addRestrictedVerifier found.asset.strName verifier
      else reissued
    | _, _ => reissued

/-- One output of a transaction that issues unique assets. -/
def addUniqueOutput (nHeight : Int) (blockHash : Uint256) (cache : CAssetsCache) (out : CTxOut) :
    CAssetsCache :=
  if isScriptNewUniqueAsset out.scriptPubKey then
    addIssuedAsset globals cache out.scriptPubKey nHeight blockHash
  else cache

def addOperation (txid : Uint256) (nHeight : Int) (blockHash : Uint256) :
    CAssetsCache :=
  if isNewAsset tx then
    addIssuedOwner globals (addIssuedAsset globals cache (lastScript tx) nHeight blockHash) (ownerScript tx)
  else if isReissueAsset tx then addReissued globals cache tx txid
  else if isNewUniqueAsset tx then tx.vout.foldl (addUniqueOutput globals nHeight blockHash) cache
  else if isNewMsgChannelAsset tx then
    addIssuedAsset globals cache (lastScript tx) nHeight blockHash
  else if isNewQualifierAsset tx then
    addIssuedAsset globals cache (lastScript tx) nHeight blockHash
  else if isNewRestrictedAsset tx then
    addIssuedVerifier (addIssuedAsset globals cache (lastScript tx) nHeight blockHash) tx
  else cache

/-! ## The outputs -/

/-- A transfer with a positive amount. The address is that of `GetAssetData`, decoded and
encoded again. -/
def addTransferOutput (out : COutPoint) : CAssetsCache :=
  match transferData script, getAssetData globals.env script with
  | some transfer, some data =>
    if transfer.nAmount > 0 then
      cache.addTransferAsset globals transfer
        (encodeDestination globals.env.digests globals.env.params.prefixes data.destination) out
    else cache
  | _, _ => cache

/-- A tag, an address freeze or a freeze of a whole asset. -/
def addNullDataOutput : CAssetsCache :=
  if isNullAssetTxDataScript script then
    match nullAssetData script with
    | none => cache
    | some data =>
      let address := globals.env.address script
      match assetType data.assetName with
      | .restricted =>
        cache.addRestrictedAddress data.assetName address
          (if data.flag ≠ 0 then .freezeAddress else .unfreezeAddress)
      | .qualifier | .subQualifier =>
        cache.addQualifierAddress data.assetName address
          (if data.flag ≠ 0 then .addQualifier else .removeQualifier)
      | _ => cache
  else if isNullGlobalRestrictionAssetTxDataScript script then
    match globalAssetNullDataFromScript script with
    | none => cache
    | some data =>
      cache.addGlobalRestricted data.assetName (if data.flag ≠ 0 then .globalFreeze else .globalUnfreeze)
  else cache

end Operation

/-- One output of `AddCoins`, with the coin that is made of it. -/
def addOutput (globals : AssetGlobals) (possible_overwrite : Bool) (s : CoinsState)
    (item : COutPoint × Coin) : Except Failure CoinsState :=
  (addCoin s.coins item.1 item.2 possible_overwrite).map fun coins =>
    let script := item.2.out.scriptPubKey
    { coins
      assetsCache := addNullDataOutput globals (addTransferOutput globals s.assetsCache script item.1) script }

def txCoins (tx : CTransaction) (txid : Uint256) (nHeight : Nat) : List (COutPoint × Coin) :=
  tx.vout.zipIdx.map fun item =>
    (⟨txid, BitVec.ofNat 32 item.2⟩, ⟨item.1, nHeight, tx.isCoinBase⟩)

/-- `AddCoins` with `check` off. -/
def addCoins (globals : AssetGlobals) (s : CoinsState) (tx : CTransaction) (nHeight : Nat)
    (blockHash : Uint256) : Except Failure CoinsState :=
  let txid := tx.getHash globals.env.digests
  (txCoins tx txid nHeight).foldlM (addOutput globals tx.isCoinBase)
    { s with assetsCache := addOperation globals s.assetsCache tx txid nHeight blockHash }

/-! ## Spending -/

/-- A `CTxOut` that was default constructed. -/
def nullTxOut : CTxOut := ⟨-1, []⟩

/-- `SpendCoin` of an input in `UpdateCoins`, with the coin that goes to `txundo`. -/
def spendInput (globals : AssetGlobals) (s : CoinsState × List Coin) (txin : CTxIn) :
    Except Failure (CoinsState × List Coin) :=
  match s.1.coins.take txin.prevout with
  | (none, _) => .error (.thrown "assert(is_spent)")
  | (some moveout, coins) =>
    match s.1.assetsCache.trySpendCoin globals ((moveout.map Coin.out).getD nullTxOut) with
    | none => .error (.thrown "assert(is_spent)")
    | some assetsCache =>
      .ok ({ coins, assetsCache }, s.2 ++ [moveout.getD ⟨nullTxOut, 0, false⟩])

theorem spendInput_eq_ok {globals : AssetGlobals} {s next : CoinsState × List Coin} {txin : CTxIn} :
    spendInput globals s txin = .ok next ↔ ∃ moveout assetsCache,
      (s.1.coins.take txin.prevout).1 = some moveout ∧
      s.1.assetsCache.trySpendCoin globals (moveout.getD ⟨nullTxOut, 0, false⟩).out = some assetsCache ∧
      next = (⟨(s.1.coins.take txin.prevout).2, assetsCache⟩,
        s.2 ++ [moveout.getD ⟨nullTxOut, 0, false⟩]) := by
  unfold spendInput
  rcases s.1.coins.take txin.prevout with ⟨_ | moveout, coins⟩
  · simp
  have same : (moveout.map Coin.out).getD nullTxOut = (moveout.getD ⟨nullTxOut, 0, false⟩).out := by
    cases moveout <;> rfl
  cases spends : s.1.assetsCache.trySpendCoin globals (moveout.getD ⟨nullTxOut, 0, false⟩).out with
  | none => simp [same, spends]
  | some assetsCache => simp [same, spends, eq_comm]

/-- `UpdateCoins`: the coins spent are those of the transaction's undo record. -/
def updateCoins (globals : AssetGlobals) (s : CoinsState) (tx : CTransaction) (nHeight : Nat)
    (blockHash : Uint256) : Except Failure (CoinsState × List Coin) :=
  (if tx.isCoinBase then .ok (s, []) else tx.vin.foldlM (spendInput globals) (s, [])) >>= fun spent =>
  (addCoins globals spent.1 tx nHeight blockHash).map fun s => (s, spent.2)

theorem updateCoins_ok {globals : AssetGlobals} {s next : CoinsState} {tx : CTransaction}
    {nHeight : Nat} {blockHash : Uint256} {undo : List Coin}
    (updates : updateCoins globals s tx nHeight blockHash = .ok (next, undo)) :
    ∃ spent : CoinsState × List Coin,
      (if tx.isCoinBase then .ok (s, []) else tx.vin.foldlM (spendInput globals) (s, [])) = .ok spent
        ∧ addCoins globals spent.1 tx nHeight blockHash = .ok next
        ∧ undo = spent.2 := by
  obtain ⟨spent, spends, rest⟩ := bind_eq_ok.mp updates
  obtain ⟨added, adds, isNext⟩ := map_eq_ok.mp rest
  cases isNext
  exact ⟨spent, spends, adds, rfl⟩

end BlackRaven.Chain
