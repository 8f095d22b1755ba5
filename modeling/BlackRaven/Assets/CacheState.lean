import BlackRaven.Assets.Checks
import BlackRaven.Lib.ChangeSet

/-!
Contract: `CAssetsCache` of `assets/assets.h`, the least recently used caches and the two
databases behind it, and the questions it answers.

A cache holds what was added and removed since the last write; `passets` is the cache
under every temporary one. A question reads the removals of both, then the additions of
both, then the least recently used cache and the database.

Owns: the answers.

Does not own: that answering puts a row read from the database into the least recently
used cache, which leaves every answer as it is while that cache agrees with the database.
-/

namespace BlackRaven.Assets

open Consensus Lib Primitives

/-! ## Entries -/

inductive QualifierType where
  | removeQualifier
  | addQualifier
  deriving DecidableEq, Repr

inductive RestrictedType where
  | unfreezeAddress
  | freezeAddress
  | globalUnfreeze
  | globalFreeze
  deriving DecidableEq, Repr

structure CAssetCacheNewAsset where
  asset : CNewAsset
  address : Bytes
  blockHash : Uint256
  blockHeight : Int
  deriving DecidableEq, Repr

/-- The height is what a local variable happened to hold where `none`. -/
structure CAssetCacheReissueAsset where
  reissue : CReissueAsset
  address : Bytes
  out : COutPoint
  blockHash : Uint256
  blockHeight : Option Int
  deriving DecidableEq, Repr

structure CAssetCacheNewTransfer where
  transfer : CAssetTransfer
  address : Bytes
  out : COutPoint
  deriving DecidableEq, Repr

structure CAssetCacheNewOwner where
  assetName : Bytes
  address : Bytes
  deriving DecidableEq, Repr

structure CAssetCacheUndoAssetAmount where
  assetName : Bytes
  address : Bytes
  nAmount : CAmount
  deriving DecidableEq, Repr

structure CAssetCacheSpendAsset where
  assetName : Bytes
  address : Bytes
  nAmount : CAmount
  deriving DecidableEq, Repr

structure CAssetCacheQualifierAddress where
  assetName : Bytes
  address : Bytes
  type : QualifierType
  deriving DecidableEq, Repr

structure CAssetCacheRestrictedAddress where
  assetName : Bytes
  address : Bytes
  type : RestrictedType
  deriving DecidableEq, Repr

structure CAssetCacheRestrictedGlobal where
  assetName : Bytes
  type : RestrictedType
  deriving DecidableEq, Repr

structure CAssetCacheRestrictedVerifiers where
  assetName : Bytes
  verifier : Bytes
  fUndoingRessiue : Bool
  deriving DecidableEq, Repr

/-! ## Caches -/

abbrev AddressMap (ε : Type) := Std.TreeMap (Bytes × Bytes) ε pairOrder

/-- Whether a map of sets has something under a key. -/
def noted (map : AddressMap (Std.TreeSet Bytes)) (key : Bytes × Bytes) : Bool :=
  map[key]?.any fun names => !names.isEmpty

/-- The pairs of sets `setNew...ToAdd` and `setNew...ToRemove` are keyed by what their
`operator<` compares. -/
structure CAssetsCache where
  mapAssetsAddressAmount : AddressMap CAmount
  mapReissuedAssetData : Std.TreeMap Bytes CNewAsset
  vUndoAssetAmount : List CAssetCacheUndoAssetAmount
  vSpentAssets : List CAssetCacheSpendAsset
  setNewAssets : ChangeSet Bytes CAssetCacheNewAsset compare
  setNewReissue : ChangeSet COutPoint CAssetCacheReissueAsset compare
  setNewOwnerAssets : ChangeSet Bytes CAssetCacheNewOwner compare
  setNewTransferAssets : ChangeSet COutPoint CAssetCacheNewTransfer compare
  setNewQualifierAddress : ChangeSet (Bytes × Bytes) CAssetCacheQualifierAddress pairOrder
  setNewRestrictedAddress : ChangeSet (Bytes × Bytes) CAssetCacheRestrictedAddress pairOrder
  setNewRestrictedGlobal : ChangeSet Bytes CAssetCacheRestrictedGlobal compare
  setNewRestrictedVerifier : ChangeSet Bytes CAssetCacheRestrictedVerifiers compare
  mapRootQualifierAddressesAdd : AddressMap (Std.TreeSet Bytes)
  mapRootQualifierAddressesRemove : AddressMap (Std.TreeSet Bytes)

/-- A new cache, and what `ClearDirtyCache` leaves. -/
def CAssetsCache.empty : CAssetsCache where
  mapAssetsAddressAmount := ∅
  mapReissuedAssetData := ∅
  vUndoAssetAmount := []
  vSpentAssets := []
  setNewAssets := .empty
  setNewReissue := .empty
  setNewOwnerAssets := .empty
  setNewTransferAssets := .empty
  setNewQualifierAddress := .empty
  setNewRestrictedAddress := .empty
  setNewRestrictedGlobal := .empty
  setNewRestrictedVerifier := .empty
  mapRootQualifierAddressesAdd := ∅
  mapRootQualifierAddressesRemove := ∅

structure CLRUCache (κ ν : Type) where
  items : List (κ × ν)
  maxSize : Nat

namespace CLRUCache

variable {κ ν : Type} [DecidableEq κ]

def get (cache : CLRUCache κ ν) (key : κ) : Option ν :=
  (cache.items.find? fun item => item.1 = key).map Prod.snd

def erase (cache : CLRUCache κ ν) (key : κ) : CLRUCache κ ν :=
  { cache with items := cache.items.filter fun item => item.1 ≠ key }

def put (cache : CLRUCache κ ν) (key : κ) (value : ν) : CLRUCache κ ν :=
  let items := (key, value) :: (cache.erase key).items
  { cache with items := if items.length > cache.maxSize then items.dropLast else items }

end CLRUCache

/-! ## Databases -/

/-- The height is a number nothing is known about where `none`. -/
structure CDatabasedAssetData where
  asset : CNewAsset
  nHeight : Option Int
  blockHash : Uint256
  deriving DecidableEq, Repr

/-- What `GetAssetMetaDataIfExists` gives. For a pending reissue it leaves the caller's
variables for the height and the block hash of the issue as they are: `none`. -/
structure AssetMetaData where
  asset : CNewAsset
  issued : Option (Option Int × Uint256)
  deriving DecidableEq, Repr

def CDatabasedAssetData.metaData (data : CDatabasedAssetData) : AssetMetaData :=
  { asset := data.asset, issued := some (data.nHeight, data.blockHash) }

def CAssetCacheNewAsset.data (entry : CAssetCacheNewAsset) : CDatabasedAssetData :=
  { asset := entry.asset, nHeight := some entry.blockHeight, blockHash := entry.blockHash }

structure CAssetsDB where
  assetData : Std.TreeMap Bytes CDatabasedAssetData
  /-- By asset and address. -/
  assetAddressQuantity : AddressMap CAmount
  /-- By address and asset. -/
  addressAssetQuantity : AddressMap CAmount

structure CRestrictedDB where
  verifier : Std.TreeMap Bytes Bytes
  /-- By address and tag. -/
  addressQualifier : Std.TreeSet (Bytes × Bytes) pairOrder
  /-- By tag and address. -/
  qualifierAddress : Std.TreeSet (Bytes × Bytes) pairOrder
  /-- By address and asset. -/
  restrictedAddress : Std.TreeSet (Bytes × Bytes) pairOrder
  globalRestriction : Std.TreeSet Bytes

/-- `CheckForAddressRootQualifier`. The scan starts at the qualifier and ends with the
address; the rows it passes over are those of shorter tags. -/
def CRestrictedDB.checkForAddressRootQualifier (db : CRestrictedDB) (address qualifier : Bytes) : Bool :=
  db.addressQualifier.toList.any fun row =>
    row.1 == address && (row.2 == qualifier || (qualifier ++ ascii "/").isPrefixOf row.2)

/-- The least recently used caches and the databases. The caches of tags and freezes are
keyed by a hash. -/
structure AssetStore where
  passetsCache : CLRUCache Bytes CDatabasedAssetData
  passetsVerifierCache : CLRUCache Bytes Bytes
  passetsQualifierCache : CLRUCache Uint256 Unit
  passetsRestrictionCache : CLRUCache Uint256 Unit
  passetsGlobalRestrictionCache : CLRUCache Bytes Unit
  passetsdb : CAssetsDB
  prestricteddb : CRestrictedDB

structure AssetGlobals extends AssetStore where
  env : AssetEnv
  fReindex : Bool
  fAssetIndex : Bool
  passets : CAssetsCache

def maxCacheAssetsSize : Nat := 2500

def AssetGlobals.initial (env : AssetEnv) (fAssetIndex : Bool) : AssetGlobals where
  env := env
  fReindex := false
  fAssetIndex := fAssetIndex
  passets := .empty
  passetsCache := ⟨[], maxCacheAssetsSize⟩
  passetsVerifierCache := ⟨[], maxCacheAssetsSize⟩
  passetsQualifierCache := ⟨[], maxCacheAssetsSize⟩
  passetsRestrictionCache := ⟨[], maxCacheAssetsSize⟩
  passetsGlobalRestrictionCache := ⟨[], maxCacheAssetsSize⟩
  passetsdb := ⟨∅, ∅, ∅⟩
  prestricteddb := ⟨∅, ∅, ∅, ∅, ∅⟩

/-- `GetHash` of the entries with an asset name and an address. -/
def AssetEnv.entryHash (env : AssetEnv) (assetName address : Bytes) : Uint256 :=
  env.digests.hash (assetName ++ address)

/-! ## Questions -/

namespace AssetGlobals

variable (globals : AssetGlobals)

/-- The row of an asset in the least recently used cache or the database. -/
def storedAsset (name : Bytes) : Option CDatabasedAssetData :=
  globals.passetsCache.get name <|> globals.passetsdb.assetData[name]?

def storedVerifier (name : Bytes) : Option Bytes :=
  globals.passetsVerifierCache.get name <|> globals.prestricteddb.verifier[name]?

def storedQualifier (qualifierName address : Bytes) : Bool :=
  (globals.passetsQualifierCache.get (globals.env.entryHash qualifierName address)).isSome
    || globals.prestricteddb.addressQualifier.contains (address, qualifierName)
    || globals.prestricteddb.checkForAddressRootQualifier address qualifierName

def storedRestriction (restrictedName address : Bytes) : Bool :=
  (globals.passetsRestrictionCache.get (globals.env.entryHash restrictedName address)).isSome
    || globals.prestricteddb.restrictedAddress.contains (address, restrictedName)

def storedGlobalRestriction (restrictedName : Bytes) : Bool :=
  (globals.passetsGlobalRestrictionCache.get restrictedName).isSome
    || globals.prestricteddb.globalRestriction.contains restrictedName

end AssetGlobals

/-! ### The answer for what is pending, or else for what is stored -/

variable (stored : Bool)

def existenceFor : Option (ChangeSet.Pending CAssetCacheNewAsset) → Bool
  | some (.removal _) => false
  | some (.addition _) => true
  | none => stored

theorem existenceFor_pending (upper lower : ChangeSet Bytes CAssetCacheNewAsset compare) (name : Bytes) :
    existenceFor stored (upper.pending lower name)
      = (upper.toRemove[name]?.isNone && lower.toRemove[name]?.isNone
        && (upper.toAdd[name]?.isSome || lower.toAdd[name]?.isSome || stored)) := by
  unfold ChangeSet.pending
  cases upper.toRemove[name]? <;> cases lower.toRemove[name]? <;> cases upper.toAdd[name]? <;>
    cases lower.toAdd[name]? <;> rfl

def metadataFor (stored : Option CDatabasedAssetData) :
    Option (ChangeSet.Pending CAssetCacheNewAsset) → Option CDatabasedAssetData
  | some (.removal _) => none
  | some (.addition entry) => some entry.data
  | none => stored

/-- Undoing a reissue puts a verifier string back. -/
def verifierFor (stored : Option Bytes) :
    Option (ChangeSet.Pending CAssetCacheRestrictedVerifiers) → Option Bytes
  | some (.removal entry) => if entry.fUndoingRessiue then some entry.verifier else none
  | some (.addition entry) => some entry.verifier
  | none => stored

def qualifierFor : Option (ChangeSet.Pending CAssetCacheQualifierAddress) → Bool
  | some (.removal entry) => entry.type == .removeQualifier
  | some (.addition entry) => entry.type == .addQualifier
  | none => stored

def restrictionFor : Option (ChangeSet.Pending CAssetCacheRestrictedAddress) → Bool
  | some (.removal entry) => entry.type == .unfreezeAddress
  | some (.addition entry) => entry.type == .freezeAddress
  | none => stored

def globalRestrictionFor :
    Option (ChangeSet.Pending CAssetCacheRestrictedGlobal) → Bool
  | some (.removal entry) => entry.type == .globalUnfreeze
  | some (.addition entry) => entry.type == .globalFreeze
  | none => stored

namespace CAssetsCache

variable (cache : CAssetsCache) (globals : AssetGlobals)

/-- `CheckIfAssetExists` with `fForceDuplicateCheck`, as every caller has it. -/
def checkIfAssetExists (name : Bytes) : Bool :=
  if globals.fReindex then true
  else existenceFor (globals.storedAsset name).isSome
    (cache.setNewAssets.pending globals.passets.setNewAssets name)

variable {cache globals} in
theorem notReindexing_of_absent {name : Bytes} (absent : cache.checkIfAssetExists globals name = false) :
    globals.fReindex = false := by
  unfold checkIfAssetExists at absent
  by_contra reindexing
  rw [if_pos (by simpa using reindexing)] at absent
  cases absent

def getAssetMetaDataIfExists (name : Bytes) : Option AssetMetaData :=
  match cache.mapReissuedAssetData[name]? <|> globals.passets.mapReissuedAssetData[name]? with
  | some asset => some { asset, issued := none }
  | none => (metadataFor (globals.storedAsset name)
      (cache.setNewAssets.pending globals.passets.setNewAssets name)).map (·.metaData)

variable (fSkipTempCache : Bool)

/-- The cache the questions with `fSkipTempCache` start from. -/
def unlessSkipped : CAssetsCache :=
  if fSkipTempCache then .empty else cache

def getAssetVerifierStringIfExists (name : Bytes) : Option Bytes :=
  verifierFor (globals.storedVerifier name)
    ((cache.unlessSkipped fSkipTempCache).setNewRestrictedVerifier.pending
      globals.passets.setNewRestrictedVerifier name)

/-- Whether a root qualifier has sub-qualifiers noted for an address. -/
def rootQualifierNoted (qualifierName address : Bytes) : Bool :=
  noted cache.mapRootQualifierAddressesAdd (qualifierName, address)

def checkForAddressQualifier (qualifierName address : Bytes) : Bool :=
  qualifierFor
    ((cache.unlessSkipped fSkipTempCache).rootQualifierNoted qualifierName address
      || globals.passets.rootQualifierNoted qualifierName address
      || globals.storedQualifier qualifierName address)
    ((cache.unlessSkipped fSkipTempCache).setNewQualifierAddress.pending
      globals.passets.setNewQualifierAddress (qualifierName, address))

def checkForAddressRestriction (restrictedName address : Bytes) : Bool :=
  restrictionFor (globals.storedRestriction restrictedName address)
    ((cache.unlessSkipped fSkipTempCache).setNewRestrictedAddress.pending
      globals.passets.setNewRestrictedAddress (restrictedName, address))

def checkForGlobalRestriction (restrictedName : Bytes) : Bool :=
  globalRestrictionFor (globals.storedGlobalRestriction restrictedName)
    ((cache.unlessSkipped fSkipTempCache).setNewRestrictedGlobal.pending
      globals.passets.setNewRestrictedGlobal restrictedName)

/-- The amount `GetBestAssetAddressAmount` finds. -/
def bestAssetAddressAmount (assetName address : Bytes) : Option CAmount :=
  if globals.fAssetIndex then
    cache.mapAssetsAddressAmount[(assetName, address)]?
      <|> globals.passets.mapAssetsAddressAmount[(assetName, address)]?
      <|> globals.passetsdb.assetAddressQuantity[(assetName, address)]?
  else none

def view : AssetView where
  checkIfAssetExists := cache.checkIfAssetExists globals
  getAssetMetaDataIfExists := fun name =>
    (cache.getAssetMetaDataIfExists globals name).map (·.asset)
  getAssetVerifierStringIfExists := cache.getAssetVerifierStringIfExists globals
  checkForAddressQualifier := cache.checkForAddressQualifier globals true
  checkForAddressRestriction := cache.checkForAddressRestriction globals true
  checkForGlobalRestriction := cache.checkForGlobalRestriction globals true

end CAssetsCache

end BlackRaven.Assets
