import BlackRaven.Assets.CacheState

/-!
Contract: the `Add`, `Remove`, spend and undo functions of `CAssetsCache`, and `Flush`.

A function that returns `false` is `none`: its callers then give the cache up.

Owns: what each function changes. Where the set of a change already has an entry with
the key, some functions keep that entry and some replace it, as in the source.
-/

namespace BlackRaven.Assets

open Consensus Lib Primitives Script

/-- What a block keeps to undo the reissues of an asset. -/
structure CBlockAssetUndo where
  fChangedIPFS : Bool
  fChangedUnits : Bool
  strIPFS : Bytes
  nUnits : Int
  fChangedVerifierString : Bool
  verifierString : Bytes
  deriving DecidableEq, Repr

namespace CAssetsCache

variable (cache : CAssetsCache) (globals : AssetGlobals)

/-! ## Balances -/

variable (asset : CNewAsset) (reissue : CReissueAsset) (name assetName address : Bytes)
  (change : CAmount → CAmount) (type : RestrictedType) (out : COutPoint)

def setBalance (nAmount : CAmount) : CAssetsCache :=
  { cache with
    mapAssetsAddressAmount := cache.mapAssetsAddressAmount.insert (assetName, address) nAmount }

/-- With the asset index on, set the balance to a function of the best known one. -/
def updateBalance : CAssetsCache :=
  if globals.fAssetIndex then
    cache.setBalance assetName address
      (change ((cache.bestAssetAddressAmount globals assetName address).getD 0))
  else cache

/-- `AddToAssetBalance`: an owner asset is not counted. -/
def addToAssetBalance (strName address : Bytes) (nAmount : CAmount) : CAssetsCache :=
  cache.updateBalance globals strName address fun best =>
    if isAssetNameAnOwner strName then ownerAssetAmount else toInt64 (best + nAmount)

/-! ## Issues and owners -/

def addNewAsset (nHeight : Int) (blockHash : Uint256) :
    Option CAssetsCache :=
  if cache.checkIfAssetExists globals asset.strName then none
  else
    let entry := { asset, address, blockHash, blockHeight := nHeight }
    let added := { cache with setNewAssets := cache.setNewAssets.add false asset.strName entry }
    some (added.updateBalance globals asset.strName address fun _ => asset.nAmount)

def removeNewAsset : Option CAssetsCache :=
  if !cache.checkIfAssetExists globals asset.strName then none
  else
    let entry := { asset, address, blockHash := 0, blockHeight := 0 }
    let removed := { cache with setNewAssets := cache.setNewAssets.remove false asset.strName entry }
    some (removed.updateBalance globals asset.strName address fun _ => 0)

def addOwnerAsset (assetsName address : Bytes) : CAssetsCache :=
  let added := { cache with
    setNewOwnerAssets := cache.setNewOwnerAssets.add false assetsName
      { assetName := assetsName, address } }
  added.updateBalance globals assetsName address fun _ => ownerAssetAmount

def removeOwnerAsset (assetsName address : Bytes) : CAssetsCache :=
  let removed := { cache with
    setNewOwnerAssets := cache.setNewOwnerAssets.remove false assetsName
      { assetName := assetsName, address } }
  removed.updateBalance globals assetsName address fun _ => 0

/-! ## Restricted assets -/

def addRestrictedVerifier (verifier : Bytes) : CAssetsCache :=
  { cache with
    setNewRestrictedVerifier := cache.setNewRestrictedVerifier.add false assetName
      { assetName, verifier, fUndoingRessiue := false } }

def removeRestrictedVerifier (verifier : Bytes) (fUndoingReissue : Bool) : CAssetsCache :=
  { cache with
    setNewRestrictedVerifier := cache.setNewRestrictedVerifier.remove false assetName
      { assetName, verifier, fUndoingRessiue := fUndoingReissue } }

def addRestrictedAddress : CAssetsCache :=
  { cache with
    setNewRestrictedAddress := cache.setNewRestrictedAddress.add true (assetName, address)
      { assetName, address, type } }

def removeRestrictedAddress : CAssetsCache :=
  { cache with
    setNewRestrictedAddress := cache.setNewRestrictedAddress.remove true (assetName, address)
      { assetName, address, type } }

def addGlobalRestricted : CAssetsCache :=
  { cache with
    setNewRestrictedGlobal := cache.setNewRestrictedGlobal.add true assetName { assetName, type } }

def removeGlobalRestricted : CAssetsCache :=
  { cache with
    setNewRestrictedGlobal := cache.setNewRestrictedGlobal.remove true assetName { assetName, type } }

/-! ## Tags -/

/-- Note a sub-qualifier under its root in one of the two maps of root qualifiers. -/
def noteRoot (map : AddressMap (Std.TreeSet Bytes)) (assetName address : Bytes) :
    AddressMap (Std.TreeSet Bytes) :=
  map.alter (getParentName assetName, address) fun names => some ((names.getD ∅).insert assetName)

/-- Take the note back; the entry of the root stays, or is made. -/
def dropRoot (map : AddressMap (Std.TreeSet Bytes)) (assetName address : Bytes) :
    AddressMap (Std.TreeSet Bytes) :=
  map.alter (getParentName assetName, address) fun names => some ((names.getD ∅).erase assetName)

/-- The change of the maps of root qualifiers for a sub-qualifier an address gets or
loses. -/
def noteSubQualifier (gets : Bool) : CAssetsCache :=
  if !isAssetNameASubQualifier assetName then cache
  else if gets then
    { cache with
      mapRootQualifierAddressesAdd := noteRoot cache.mapRootQualifierAddressesAdd assetName address
      mapRootQualifierAddressesRemove := dropRoot cache.mapRootQualifierAddressesRemove assetName address }
  else
    { cache with
      mapRootQualifierAddressesRemove := noteRoot cache.mapRootQualifierAddressesRemove assetName address
      mapRootQualifierAddressesAdd := dropRoot cache.mapRootQualifierAddressesAdd assetName address }

def addQualifierAddress (type : QualifierType) : CAssetsCache :=
  let noted := cache.noteSubQualifier assetName address (type == .addQualifier)
  { noted with
    setNewQualifierAddress := cache.setNewQualifierAddress.add true (assetName, address)
      { assetName, address, type } }

/-- Undoing a tag that was added takes it away, and the other way round. -/
def removeQualifierAddress (type : QualifierType) : CAssetsCache :=
  let noted := cache.noteSubQualifier assetName address (type != .addQualifier)
  { noted with
    setNewQualifierAddress := cache.setNewQualifierAddress.remove true (assetName, address)
      { assetName, address, type } }

/-! ## Reissues -/

/-- The metadata after a reissue: units of -1 and an empty hash change nothing. -/
def reissuedAsset : CNewAsset :=
  { asset with
    nAmount := toInt64 (asset.nAmount + reissue.nAmount)
    nReissuable := reissue.nReissuable
    units := if reissue.nUnits ≠ -1 then reissue.nUnits else asset.units
    nHasIPFS := if reissue.strIPFSHash ≠ [] then 1 else asset.nHasIPFS
    strIPFSHash := if reissue.strIPFSHash ≠ [] then reissue.strIPFSHash else asset.strIPFSHash }

/-- The entry of a reissue: without an issue height and block hash given, the height is
undetermined and the hash null. -/
def reissueEntry (found : AssetMetaData) :
    CAssetCacheReissueAsset :=
  { reissue, address, out
    blockHash := (found.issued.map Prod.snd).getD 0
    blockHeight := found.issued.bind Prod.fst }

/-- `AddReissueAsset`. Both branches of the source change the metadata alike: where the
cache's own map has the asset, that entry is also what the metadata is read from. -/
def addReissueAsset :
    Option CAssetsCache :=
  match cache.getAssetMetaDataIfExists globals reissue.strName with
  | none => none
  | some found =>
    let entry := reissueEntry reissue address out found
    let added := { cache with
      mapReissuedAssetData :=
        cache.mapReissuedAssetData.insert reissue.strName (reissuedAsset found.asset reissue)
      setNewReissue := cache.setNewReissue.add false out entry }
    some (added.updateBalance globals reissue.strName address fun best =>
      toInt64 (best + reissue.nAmount))

/-- The metadata after undoing a reissue with the block's first undo record of the
asset. -/
def unreissuedAsset (undo : Option CBlockAssetUndo) :
    CNewAsset :=
  let base := { asset with
    nAmount := toInt64 (asset.nAmount - reissue.nAmount)
    nReissuable := 1 }
  match undo with
  | none => base
  | some undo =>
    let strIPFSHash := if undo.fChangedIPFS then undo.strIPFS else base.strIPFSHash
    { base with
      strIPFSHash
      units := if undo.fChangedUnits then undo.nUnits else base.units
      nHasIPFS := if strIPFSHash = [] then 0 else base.nHasIPFS }

def removeReissueAsset (vUndoIPFS : List (Bytes × CBlockAssetUndo)) : Option CAssetsCache :=
  match cache.getAssetMetaDataIfExists globals reissue.strName with
  | none => none
  | some found =>
    let undo := (vUndoIPFS.find? fun item => item.1 = reissue.strName).map Prod.snd
    let assetData := unreissuedAsset found.asset reissue undo
    let entry := reissueEntry reissue address out found
    let removed := { cache with
      mapReissuedAssetData := cache.mapReissuedAssetData.insert assetData.strName assetData
      setNewReissue := cache.setNewReissue.remove false out entry }
    let unverified :=
      match undo with
      | some undo =>
        if undo.fChangedVerifierString then
          removed.removeRestrictedVerifier assetData.strName undo.verifierString true
        else removed
      | none => removed
    if !globals.fAssetIndex then some unverified
    else
      match unverified.bestAssetAddressAmount globals reissue.strName address with
      | none => if reissue.nAmount ≠ 0 then none
          else some (unverified.setBalance reissue.strName address 0)
      | some best =>
        if toInt64 (best - reissue.nAmount) < 0 then none
        else some (unverified.setBalance reissue.strName address (toInt64 (best - reissue.nAmount)))

/-! ## Transfers -/

def addTransferAsset (transferAsset : CAssetTransfer) (address : Bytes) (out : COutPoint) :
    CAssetsCache :=
  let credited := cache.addToAssetBalance globals transferAsset.strName address transferAsset.nAmount
  { credited with
    setNewTransferAssets := cache.setNewTransferAssets.add false out
      { transfer := transferAsset, address, out } }

/-- `UndoTransfer`: the balance has to be known and large enough. -/
def undoTransfer (transfer : CAssetTransfer) (address : Bytes) : Option CAssetsCache :=
  if !globals.fAssetIndex then some cache
  else
    match cache.bestAssetAddressAmount globals transfer.strName address with
    | none => none
    | some best =>
      if best < transfer.nAmount then none
      else some (cache.setBalance transfer.strName address (toInt64 (best - transfer.nAmount)))

def removeTransfer (transfer : CAssetTransfer) (address : Bytes) (out : COutPoint) :
    Option CAssetsCache :=
  (cache.undoTransfer globals transfer address).map fun undone =>
    { undone with
      setNewTransferAssets := cache.setNewTransferAssets.remove false out { transfer, address, out } }

/-! ## Spending -/

/-- The asset, its address and its amount in the script of a coin, as `TrySpendCoin` and
`UndoAssetCoin` read them. -/
def coinAsset (env : AssetEnv) (script : Bytes) : Option (Bytes × Bytes × CAmount) :=
  let address := env.address script
  match assetKind script with
  | none => none
  | some .newAsset => (newAssetData script).map fun asset => (asset.strName, address, asset.nAmount)
  | some .transferAsset =>
    (transferData script).map fun transfer => (transfer.strName, address, transfer.nAmount)
  | some .ownerAsset => (ownerData script).map fun name => (name, address, ownerAssetAmount)
  | some .reissueAsset =>
    (reissueData script).map fun reissue => (reissue.strName, address, reissue.nAmount)

/-- `TrySpendCoin`: a balance that would become negative becomes zero. -/
def trySpendCoin (txOut : CTxOut) : Option CAssetsCache :=
  if (assetKind txOut.scriptPubKey).isNone then some cache
  else
    match coinAsset globals.env txOut.scriptPubKey with
    | none => none
    | some (assetName, address, nAmount) =>
      if address = [] ∨ assetName = [] then none
      else if !globals.fAssetIndex ∨ nAmount ≤ 0 then some cache
      else
        match cache.bestAssetAddressAmount globals assetName address with
        | none => some cache
        | some best =>
          let spent := cache.setBalance assetName address (max 0 (toInt64 (best - nAmount)))
          some { spent with
            vSpentAssets := cache.vSpentAssets ++ [{ assetName, address, nAmount }] }

def addBackSpentAsset (nAmount : CAmount) : CAssetsCache :=
  let credited := cache.updateBalance globals assetName address fun best => toInt64 (best + nAmount)
  { credited with
    vUndoAssetAmount := cache.vUndoAssetAmount ++ [{ assetName, address, nAmount }] }

def undoAssetCoin (txOut : CTxOut) : Option CAssetsCache :=
  match coinAsset globals.env txOut.scriptPubKey with
  | none => none
  | some (assetName, address, nAmount) =>
    if assetName = [] ∨ address = [] ∨ nAmount = 0 then none
    else some (cache.addBackSpentAsset globals assetName address nAmount)

/-! ## Flush -/

/-- Every name noted under a root over the notes of another map. -/
def noteAll (items target : AddressMap (Std.TreeSet Bytes)) : AddressMap (Std.TreeSet Bytes) :=
  items.foldl (fun map key names => names.foldl
    (fun map name => map.alter key fun held => some ((held.getD ∅).insert name)) map) target

/-- `Flush`, as what becomes of `passets`. The notes on removed sub-qualifiers go to the
map of the added ones, as the source has it. -/
def flush (passets : CAssetsCache) : CAssetsCache where
  mapAssetsAddressAmount := overwrite cache.mapAssetsAddressAmount passets.mapAssetsAddressAmount
  mapReissuedAssetData := overwrite cache.mapReissuedAssetData passets.mapReissuedAssetData
  vUndoAssetAmount := passets.vUndoAssetAmount ++ cache.vUndoAssetAmount
  vSpentAssets := passets.vSpentAssets ++ cache.vSpentAssets
  setNewAssets := cache.setNewAssets.flush false passets.setNewAssets
  setNewReissue := cache.setNewReissue.flush false passets.setNewReissue
  setNewOwnerAssets := cache.setNewOwnerAssets.flush false passets.setNewOwnerAssets
  setNewTransferAssets := cache.setNewTransferAssets.flush false passets.setNewTransferAssets
  setNewQualifierAddress := cache.setNewQualifierAddress.flush true passets.setNewQualifierAddress
  setNewRestrictedAddress := cache.setNewRestrictedAddress.flush true passets.setNewRestrictedAddress
  setNewRestrictedGlobal := cache.setNewRestrictedGlobal.flush true passets.setNewRestrictedGlobal
  setNewRestrictedVerifier := cache.setNewRestrictedVerifier.flush true passets.setNewRestrictedVerifier
  mapRootQualifierAddressesAdd :=
    noteAll cache.mapRootQualifierAddressesRemove
      (noteAll cache.mapRootQualifierAddressesAdd passets.mapRootQualifierAddressesAdd)
  mapRootQualifierAddressesRemove := passets.mapRootQualifierAddressesRemove

/-! ## What leaves the assets alone -/

/-- The part of a cache that the metadata is read from, and the record of reissues. -/
def assetPart :=
  (cache.setNewAssets, cache.mapReissuedAssetData, cache.setNewReissue)

@[simp] theorem assetPart_updateBalance :
    (cache.updateBalance globals name address change).assetPart = cache.assetPart := by
  unfold updateBalance
  cases globals.fAssetIndex <;> rfl

@[simp] theorem updateBalance_setNewAssets :
    (cache.updateBalance globals name address change).setNewAssets = cache.setNewAssets :=
  congrArg (·.1) (cache.assetPart_updateBalance globals name address change)

theorem assetPart_noteSubQualifier (gets : Bool) :
    (cache.noteSubQualifier name address gets).assetPart = cache.assetPart := by
  unfold noteSubQualifier
  split
  · rfl
  · split <;> rfl

variable {cache globals}

theorem assetPart_trySpendCoin {txOut : CTxOut} {spent : CAssetsCache}
    (spends : cache.trySpendCoin globals txOut = some spent) : spent.assetPart = cache.assetPart := by
  unfold trySpendCoin at spends
  grind [assetPart, setBalance]

end CAssetsCache

/-- The globals after a temporary cache was flushed. -/
def AssetGlobals.flushed (globals : AssetGlobals) (cache : CAssetsCache) : AssetGlobals :=
  { globals with passets := cache.flush globals.passets }

end BlackRaven.Assets
