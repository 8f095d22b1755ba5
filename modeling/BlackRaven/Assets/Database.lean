import BlackRaven.Assets.CacheUpdates

/-!
Contract: `DumpCacheToDatabase`.

A write that fails ends the dump with `false`; what is modelled is a dump whose writes
all succeed.

Owns: the stages of the dump in their order.
-/

namespace BlackRaven.Assets

open Consensus Lib

/-! ## Writes -/

namespace AssetStore

variable (store : AssetStore) (name : Bytes)

def writeAssetData (data : CDatabasedAssetData) : AssetStore :=
  { store with
    passetsdb := { store.passetsdb with
      assetData := store.passetsdb.assetData.insert data.asset.strName data } }

def eraseAssetData : AssetStore :=
  { store with
    passetsdb := { store.passetsdb with assetData := store.passetsdb.assetData.erase name } }

/-- `WriteAssetAddressQuantity` and `WriteAddressAssetQuantity`. -/
def writeQuantity (address : Bytes) (quantity : CAmount) : AssetStore :=
  { store with
    passetsdb := { store.passetsdb with
      assetAddressQuantity := store.passetsdb.assetAddressQuantity.insert (name, address) quantity
      addressAssetQuantity := store.passetsdb.addressAssetQuantity.insert (address, name) quantity } }

def eraseQuantity (address : Bytes) : AssetStore :=
  { store with
    passetsdb := { store.passetsdb with
      assetAddressQuantity := store.passetsdb.assetAddressQuantity.erase (name, address)
      addressAssetQuantity := store.passetsdb.addressAssetQuantity.erase (address, name) } }

def writeVerifier (verifier : Bytes) : AssetStore :=
  { store with
    prestricteddb := { store.prestricteddb with
      verifier := store.prestricteddb.verifier.insert name verifier } }

def eraseVerifier : AssetStore :=
  { store with
    prestricteddb := { store.prestricteddb with verifier := store.prestricteddb.verifier.erase name } }

end AssetStore

/-! ## Stages -/

namespace CAssetsCache

variable (env : AssetEnv) (fAssetIndex : Bool) (cache : CAssetsCache)

/-- Write the dirty balance of an asset and an address, if there is one and it is to be
written. -/
def dumpBalance (writes : CAmount → Bool) (name address : Bytes) (store : AssetStore) : AssetStore :=
  match cache.mapAssetsAddressAmount[(name, address)]? with
  | none => store
  | some quantity => if writes quantity then store.writeQuantity name address quantity else store

/-- Write the dirty balance, or erase the row where it is zero. -/
def dumpOrEraseBalance (name address : Bytes) (store : AssetStore) : AssetStore :=
  match cache.mapAssetsAddressAmount[(name, address)]? with
  | none => store
  | some quantity =>
    if quantity = 0 then store.eraseQuantity name address else store.writeQuantity name address quantity

def dumpRemovedAsset (store : AssetStore) (newAsset : CAssetCacheNewAsset) : AssetStore :=
  let name := newAsset.asset.strName
  let erased := ({ store with passetsCache := store.passetsCache.erase name }.eraseAssetData
    name).eraseVerifier name
  if fAssetIndex then erased.eraseQuantity name newAsset.address else erased

def dumpNewAsset (store : AssetStore) (newAsset : CAssetCacheNewAsset) : AssetStore :=
  let name := newAsset.asset.strName
  let written := { store with passetsCache := store.passetsCache.put name newAsset.data }.writeAssetData
    newAsset.data
  if fAssetIndex then written.writeQuantity name newAsset.address newAsset.asset.nAmount else written

def dumpRemovedOwner (store : AssetStore) (ownerAsset : CAssetCacheNewOwner) : AssetStore :=
  store.eraseQuantity ownerAsset.assetName ownerAsset.address

def dumpNewOwner (store : AssetStore) (ownerAsset : CAssetCacheNewOwner) : AssetStore :=
  cache.dumpBalance (· > 0) ownerAsset.assetName ownerAsset.address store

def dumpUndoTransfer (store : AssetStore) (undoTransfer : CAssetCacheNewTransfer) : AssetStore :=
  cache.dumpOrEraseBalance undoTransfer.transfer.strName undoTransfer.address store

def dumpNewTransfer (store : AssetStore) (newTransfer : CAssetCacheNewTransfer) : AssetStore :=
  cache.dumpBalance (fun _ => true) newTransfer.transfer.strName newTransfer.address store

/-- Write the metadata of a reissued asset with the issue height and block hash that the
entry of the reissue has. -/
def dumpReissuedData (store : AssetStore) (entry : CAssetCacheReissueAsset) (asset : CNewAsset) :
    AssetStore :=
  let written := store.writeAssetData
    { asset, nHeight := entry.blockHeight, blockHash := entry.blockHash }
  { written with passetsCache := written.passetsCache.erase entry.reissue.strName }

def dumpNewReissue (store : AssetStore) (newReissue : CAssetCacheReissueAsset) : AssetStore :=
  match cache.mapReissuedAssetData[newReissue.reissue.strName]? with
  | none => store
  | some asset =>
    let written := dumpReissuedData store newReissue asset
    if fAssetIndex then
      cache.dumpBalance (· > 0) newReissue.reissue.strName newReissue.address written
    else written

/-- Nothing is written where the issue is removed as well. -/
def dumpUndoReissue (store : AssetStore) (undoReissue : CAssetCacheReissueAsset) : AssetStore :=
  if undoReissue.reissue.strName ∈ cache.setNewAssets.toRemove then store
  else
    match cache.mapReissuedAssetData[undoReissue.reissue.strName]? with
    | none => store
    | some asset =>
      let written := dumpReissuedData store undoReissue asset
      if fAssetIndex then
        cache.dumpOrEraseBalance undoReissue.reissue.strName undoReissue.address written
      else written

def dumpNewVerifier (store : AssetStore) (entry : CAssetCacheRestrictedVerifiers) : AssetStore :=
  { store.writeVerifier entry.assetName entry.verifier with
    passetsVerifierCache := store.passetsVerifierCache.erase entry.assetName }

def dumpUndoVerifier (store : AssetStore) (entry : CAssetCacheRestrictedVerifiers) : AssetStore :=
  let changed :=
    if entry.fUndoingRessiue then store.writeVerifier entry.assetName entry.verifier
    else store.eraseVerifier entry.assetName
  { changed with passetsVerifierCache := store.passetsVerifierCache.erase entry.assetName }

def dumpTag (gets : Bool) (store : AssetStore) (entry : CAssetCacheQualifierAddress) : AssetStore :=
  let key := env.entryHash entry.assetName entry.address
  let row := (entry.address, entry.assetName)
  let reverse := (entry.assetName, entry.address)
  let db := store.prestricteddb
  if gets then
    { store with
      passetsQualifierCache := store.passetsQualifierCache.put key ()
      prestricteddb := { db with
        addressQualifier := db.addressQualifier.insert row
        qualifierAddress := if fAssetIndex then db.qualifierAddress.insert reverse else db.qualifierAddress } }
  else
    { store with
      passetsQualifierCache := store.passetsQualifierCache.erase key
      prestricteddb := { db with
        addressQualifier := db.addressQualifier.erase row
        qualifierAddress := if fAssetIndex then db.qualifierAddress.erase reverse else db.qualifierAddress } }

def dumpNewQualifier (store : AssetStore) (entry : CAssetCacheQualifierAddress) : AssetStore :=
  dumpTag env fAssetIndex (entry.type == .addQualifier) store entry

def dumpUndoQualifier (store : AssetStore) (entry : CAssetCacheQualifierAddress) : AssetStore :=
  dumpTag env fAssetIndex (entry.type == .removeQualifier) store entry

def dumpFreeze (freezes : Bool) (store : AssetStore) (entry : CAssetCacheRestrictedAddress) :
    AssetStore :=
  let key := env.entryHash entry.assetName entry.address
  let row := (entry.address, entry.assetName)
  let db := store.prestricteddb
  if freezes then
    { store with
      passetsRestrictionCache := store.passetsRestrictionCache.put key ()
      prestricteddb := { db with restrictedAddress := db.restrictedAddress.insert row } }
  else
    { store with
      passetsRestrictionCache := store.passetsRestrictionCache.erase key
      prestricteddb := { db with restrictedAddress := db.restrictedAddress.erase row } }

/-- An entry of a type that is not one of addresses is passed over. -/
def dumpNewRestricted (store : AssetStore) (entry : CAssetCacheRestrictedAddress) : AssetStore :=
  match entry.type with
  | .unfreezeAddress => dumpFreeze env false store entry
  | .freezeAddress => dumpFreeze env true store entry
  | _ => store

def dumpUndoRestricted (store : AssetStore) (entry : CAssetCacheRestrictedAddress) : AssetStore :=
  match entry.type with
  | .unfreezeAddress => dumpFreeze env true store entry
  | .freezeAddress => dumpFreeze env false store entry
  | _ => store

def dumpGlobalFreeze (freezes : Bool) (store : AssetStore) (name : Bytes) : AssetStore :=
  let db := store.prestricteddb
  if freezes then
    { store with
      passetsGlobalRestrictionCache := store.passetsGlobalRestrictionCache.put name ()
      prestricteddb := { db with globalRestriction := db.globalRestriction.insert name } }
  else
    { store with
      passetsGlobalRestrictionCache := store.passetsGlobalRestrictionCache.erase name
      prestricteddb := { db with globalRestriction := db.globalRestriction.erase name } }

/-- An entry of a type that is not global is passed over. -/
def dumpNewGlobal (store : AssetStore) (entry : CAssetCacheRestrictedGlobal) : AssetStore :=
  match entry.type with
  | .globalUnfreeze => dumpGlobalFreeze false store entry.assetName
  | .globalFreeze => dumpGlobalFreeze true store entry.assetName
  | _ => store

def dumpUndoGlobal (store : AssetStore) (entry : CAssetCacheRestrictedGlobal) : AssetStore :=
  match entry.type with
  | .globalUnfreeze => dumpGlobalFreeze true store entry.assetName
  | .globalFreeze => dumpGlobalFreeze false store entry.assetName
  | _ => store

def dumpUndoSpend (store : AssetStore) (undoSpend : CAssetCacheUndoAssetAmount) : AssetStore :=
  cache.dumpBalance (fun _ => true) undoSpend.assetName undoSpend.address store

def dumpSpent (store : AssetStore) (spentAsset : CAssetCacheSpendAsset) : AssetStore :=
  cache.dumpOrEraseBalance spentAsset.assetName spentAsset.address store

/-! ## The dump -/

def dumpAssets (store : AssetStore) : AssetStore :=
  foldValues (dumpNewAsset fAssetIndex) cache.setNewAssets.toAdd
    (foldValues (dumpRemovedAsset fAssetIndex) cache.setNewAssets.toRemove store)

def dumpOwnersAndTransfers (store : AssetStore) : AssetStore :=
  if fAssetIndex then
    foldValues cache.dumpNewTransfer cache.setNewTransferAssets.toAdd
      (foldValues cache.dumpUndoTransfer cache.setNewTransferAssets.toRemove
        (foldValues cache.dumpNewOwner cache.setNewOwnerAssets.toAdd
          (foldValues dumpRemovedOwner cache.setNewOwnerAssets.toRemove store)))
  else store

def dumpReissues (store : AssetStore) : AssetStore :=
  foldValues (dumpUndoReissue fAssetIndex cache) cache.setNewReissue.toRemove
    (foldValues (dumpNewReissue fAssetIndex cache) cache.setNewReissue.toAdd store)

def dumpVerifiers (store : AssetStore) : AssetStore :=
  foldValues dumpUndoVerifier cache.setNewRestrictedVerifier.toRemove
    (foldValues dumpNewVerifier cache.setNewRestrictedVerifier.toAdd store)

def dumpQualifiers (store : AssetStore) : AssetStore :=
  foldValues (dumpUndoQualifier env fAssetIndex) cache.setNewQualifierAddress.toRemove
    (foldValues (dumpNewQualifier env fAssetIndex) cache.setNewQualifierAddress.toAdd store)

def dumpRestrictions (store : AssetStore) : AssetStore :=
  foldValues dumpUndoGlobal cache.setNewRestrictedGlobal.toRemove
    (foldValues dumpNewGlobal cache.setNewRestrictedGlobal.toAdd
      (foldValues (dumpUndoRestricted env) cache.setNewRestrictedAddress.toRemove
        (foldValues (dumpNewRestricted env) cache.setNewRestrictedAddress.toAdd store)))

def dumpSpends (store : AssetStore) : AssetStore :=
  if fAssetIndex then
    cache.vSpentAssets.foldl cache.dumpSpent (cache.vUndoAssetAmount.foldl cache.dumpUndoSpend store)
  else store

/-- What the dump leaves in the caches and databases. -/
def dumpStore (store : AssetStore) : AssetStore :=
  dumpSpends fAssetIndex cache
    (dumpRestrictions env cache
      (dumpQualifiers env fAssetIndex cache
        (dumpVerifiers cache
          (dumpReissues fAssetIndex cache
            (dumpOwnersAndTransfers fAssetIndex cache (dumpAssets fAssetIndex cache store))))))

end CAssetsCache

def AssetGlobals.dumpCacheToDatabase (globals : AssetGlobals) : AssetGlobals :=
  { globals with
    toAssetStore := globals.passets.dumpStore globals.env globals.fAssetIndex globals.toAssetStore
    passets := .empty }

end BlackRaven.Assets
