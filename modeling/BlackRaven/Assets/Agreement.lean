import BlackRaven.Assets.Dump

/-!
Contract: the least recently used caches agree with the databases behind them.

The caches of tags and freezes are keyed by the hash of the name followed by the
address. They agree for the pairs asked about, as long as no two of these have the same
hash.

Owns: that reading a row into a cache and dumping `passets` keep the agreement.
-/

namespace BlackRaven.Assets

open Lib Primitives CAssetsCache

/-! ## Reading -/

inductive StoredItem where
  | asset (name : Bytes)
  | verifier (name : Bytes)
  | qualifier (name address : Bytes)
  | restriction (name address : Bytes)
  | globalRestriction (name : Bytes)

/-- Put a row that was read from a database, if it is there, into the cache it was not
found in. -/
def CLRUCache.readThrough {κ ν : Type} [DecidableEq κ] (cache : CLRUCache κ ν) (key : κ)
    (row : Option ν) : CLRUCache κ ν :=
  match cache.get key, row with
  | none, some value => cache.put key value
  | _, _ => cache

/-- What a question that gets as far as the database leaves in the caches. -/
def AssetStore.read (env : AssetEnv) (store : AssetStore) : StoredItem → AssetStore
  | .asset name =>
    { store with
      passetsCache := store.passetsCache.readThrough name store.passetsdb.assetData[name]? }
  | .verifier name =>
    { store with
      passetsVerifierCache := store.passetsVerifierCache.readThrough name store.prestricteddb.verifier[name]? }
  | .qualifier name address =>
    { store with
      passetsQualifierCache := store.passetsQualifierCache.readThrough (env.entryHash name address)
        (flag (store.prestricteddb.addressQualifier.contains (address, name))) }
  | .restriction name address =>
    { store with
      passetsRestrictionCache :=
        store.passetsRestrictionCache.readThrough (env.entryHash name address)
          (flag (store.prestricteddb.restrictedAddress.contains (address, name))) }
  | .globalRestriction name =>
    { store with
      passetsGlobalRestrictionCache := store.passetsGlobalRestrictionCache.readThrough name
        (flag (store.prestricteddb.globalRestriction.contains name)) }

/-! ## Agreement -/

namespace AssetStore

variable (env : AssetEnv) (asked : Set (Bytes × Bytes)) (store : AssetStore)

def AssetsAgree : Prop :=
  store.passetsCache.Backed Set.univ id (fun name => store.passetsdb.assetData[name]?)
    ∧ ∀ (name : Bytes) data, store.passetsdb.assetData[name]? = some data → data.asset.strName = name

def TagsAgree : Prop :=
  store.passetsQualifierCache.Backed asked (fun pair => env.entryHash pair.1 pair.2)
    fun pair => flag (store.prestricteddb.addressQualifier.contains (pair.2, pair.1))

def FreezesAgree : Prop :=
  store.passetsRestrictionCache.Backed asked (fun pair => env.entryHash pair.1 pair.2)
    fun pair => flag (store.prestricteddb.restrictedAddress.contains (pair.2, pair.1))

def GlobalFreezesAgree : Prop :=
  store.passetsGlobalRestrictionCache.Backed Set.univ id
    fun name => flag (store.prestricteddb.globalRestriction.contains name)

structure Agrees : Prop where
  assets : store.AssetsAgree
  tags : store.TagsAgree env asked
  freezes : store.FreezesAgree env asked
  globalFreezes : store.GlobalFreezesAgree

end AssetStore

theorem CLRUCache.Backed.readThrough {κ ν ι : Type} [DecidableEq κ] {cache : CLRUCache κ ν}
    {asked : Set ι} {keyOf : ι → κ} {rows : ι → Option ν} (backed : cache.Backed asked keyOf rows)
    (injective : Set.InjOn keyOf asked) (item : ι) (isItem : item ∈ asked) :
    (cache.readThrough (keyOf item) (rows item)).Backed asked keyOf rows := by
  unfold CLRUCache.readThrough
  cases cached : cache.get (keyOf item) with
  | some value => exact backed
  | none =>
    cases row : rows item with
    | none => exact backed
    | some value => exact backed.put injective isItem row fun _ _ => rfl

/-- A question about tags and freezes of pairs asked about. -/
def StoredItem.Within (asked : Set (Bytes × Bytes)) : StoredItem → Prop
  | .qualifier name address => (name, address) ∈ asked
  | .restriction name address => (name, address) ∈ asked
  | _ => True

theorem AssetStore.AssetsAgree.read {store : AssetStore} (agree : store.AssetsAgree) (env : AssetEnv)
    (item : StoredItem) : (store.read env item).AssetsAgree := by
  cases item with
  | asset name => exact ⟨agree.1.readThrough Function.injective_id.injOn name trivial, agree.2⟩
  | _ => exact agree

theorem AssetStore.Agrees.read {env : AssetEnv} {asked : Set (Bytes × Bytes)} {store : AssetStore}
    (agrees : store.Agrees env asked)
    (injective : Set.InjOn (fun pair : Bytes × Bytes => env.entryHash pair.1 pair.2) asked)
    {item : StoredItem} (isAsked : item.Within asked) : (store.read env item).Agrees env asked := by
  have assets := agrees.assets.read env item
  cases item with
  | asset name => exact { agrees with assets }
  | verifier name => exact { agrees with }
  | qualifier name address =>
    exact { agrees with
      tags := CLRUCache.Backed.readThrough agrees.tags injective (name, address) isAsked }
  | restriction name address =>
    exact { agrees with
      freezes := CLRUCache.Backed.readThrough agrees.freezes injective (name, address) isAsked }
  | globalRestriction name =>
    exact { agrees with
      globalFreezes := agrees.globalFreezes.readThrough Function.injective_id.injOn name trivial }

/-! ## Steps of the dump -/

namespace AssetStore

variable {env : AssetEnv} {asked : Set (Bytes × Bytes)} {store : AssetStore} {fAssetIndex : Bool}
  {cache : CAssetsCache}

theorem AssetsAgree.dumpRemovedAsset (agree : store.AssetsAgree) (entry : CAssetCacheNewAsset) :
    (CAssetsCache.dumpRemovedAsset fAssetIndex store entry).AssetsAgree := by
  have rows := assetData_dumpRemovedAsset fAssetIndex store entry
  constructor
  · have erased := agree.1.erase entry.asset.strName fun other differs =>
      (rows other).trans (if_neg differs)
    cases fAssetIndex <;> exact erased
  · cases fAssetIndex <;> exact forall_erase agree.2

theorem AssetsAgree.dumpNewAsset (agree : store.AssetsAgree) (entry : CAssetCacheNewAsset) :
    (CAssetsCache.dumpNewAsset fAssetIndex store entry).AssetsAgree := by
  have rows := assetData_dumpNewAsset fAssetIndex store entry
  constructor
  · have put := agree.1.put Function.injective_id.injOn (Set.mem_univ entry.asset.strName)
      ((rows entry.asset.strName).trans (if_pos rfl)) fun other differs =>
        (rows other).trans (if_neg differs)
    cases fAssetIndex <;> exact put
  · cases fAssetIndex <;> exact forall_insert agree.2 rfl

theorem assetData_dumpReissuedData (entry : CAssetCacheReissueAsset) {asset : CNewAsset}
    (isReissued : asset.strName = entry.reissue.strName) (name : Bytes) :
    (dumpReissuedData store entry asset).passetsdb.assetData[name]?
      = if name = entry.reissue.strName then
          some { asset, nHeight := entry.blockHeight, blockHash := entry.blockHash }
        else store.passetsdb.assetData[name]? := by
  rw [← isReissued, ← getElem?_insert_eq]
  rfl

/-- The asset that is written has the name that leaves the cache. -/
theorem AssetsAgree.dumpReissuedData (agree : store.AssetsAgree) (entry : CAssetCacheReissueAsset)
    (asset : CNewAsset) (isReissued : asset.strName = entry.reissue.strName) :
    (CAssetsCache.dumpReissuedData store entry asset).AssetsAgree := by
  have rows := @assetData_dumpReissuedData store entry asset isReissued
  constructor
  · exact agree.1.erase entry.reissue.strName fun other differs => (rows other).trans (if_neg differs)
  · exact forall_insert agree.2 rfl

theorem AssetsAgree.of_forgetQuantities {changed : AssetStore}
    (same : changed.forgetQuantities = store.forgetQuantities) (agree : store.AssetsAgree) :
    changed.AssetsAgree := by
  have forgotten : changed.forgetQuantities.AssetsAgree := by
    rw [same]
    exact agree
  exact forgotten

/-- What no balance matters to and every row of a reissue keeps holds after the reissues. -/
theorem dumpReissues_invariant (invariant : AssetStore → Prop)
    (balances : ∀ {store changed : AssetStore}, changed.forgetQuantities = store.forgetQuantities →
      invariant store → invariant changed)
    (writes : ∀ store (out : COutPoint) entry asset,
      cache.setNewReissue.toAdd[out]? = some entry ∨ cache.setNewReissue.toRemove[out]? = some entry →
      cache.mapReissuedAssetData[entry.reissue.strName]? = some asset → invariant store →
      invariant (dumpReissuedData store entry asset))
    (holds : invariant store) : invariant (dumpReissues fAssetIndex cache store) := by
  apply foldValues_invariant invariant
  · intro out entry member store holds
    unfold dumpUndoReissue
    by_cases removed : entry.reissue.strName ∈ cache.setNewAssets.toRemove
    · rw [if_pos removed]
      exact holds
    · rw [if_neg removed]
      cases found : cache.mapReissuedAssetData[entry.reissue.strName]? with
      | none => exact holds
      | some asset =>
        have written := writes store out entry asset (.inr member) found holds
        cases fAssetIndex with
        | false => exact written
        | true => exact balances (cache.dumpOrEraseBalance_frame _ _ _) written
  · apply foldValues_invariant invariant _ holds
    intro out entry member store holds
    unfold dumpNewReissue
    cases found : cache.mapReissuedAssetData[entry.reissue.strName]? with
    | none => exact holds
    | some asset =>
      have written := writes store out entry asset (.inl member) found holds
      cases fAssetIndex with
      | false => exact written
      | true => exact balances (cache.dumpBalance_frame _ _ _ _) written

theorem AssetsAgree.dumpReissues (agree : store.AssetsAgree)
    (reissued : ∀ (name : Bytes) asset, cache.mapReissuedAssetData[name]? = some asset → asset.strName = name) :
    (CAssetsCache.dumpReissues fAssetIndex cache store).AssetsAgree :=
  dumpReissues_invariant AssetsAgree of_forgetQuantities
    (fun _ _ entry asset _ found agree => agree.dumpReissuedData entry asset (reissued _ asset found))
    agree

theorem TagsAgree.dumpTag (agree : store.TagsAgree env asked)
    (injective : Set.InjOn (fun pair : Bytes × Bytes => env.entryHash pair.1 pair.2) asked)
    (gets : Bool) (entry : CAssetCacheQualifierAddress) (isAsked : (entry.assetName, entry.address) ∈ asked) :
    (CAssetsCache.dumpTag env fAssetIndex gets store entry).TagsAgree env asked := by
  have settled := CLRUCache.Backed.settle agree injective isAsked gets fun pair =>
    row_dumpTag env fAssetIndex store gets entry pair.1 pair.2
  cases gets <;> exact settled

theorem FreezesAgree.dumpFreeze (agree : store.FreezesAgree env asked)
    (injective : Set.InjOn (fun pair : Bytes × Bytes => env.entryHash pair.1 pair.2) asked)
    (freezes : Bool) (entry : CAssetCacheRestrictedAddress)
    (isAsked : (entry.assetName, entry.address) ∈ asked) :
    (CAssetsCache.dumpFreeze env freezes store entry).FreezesAgree env asked := by
  have settled := CLRUCache.Backed.settle agree injective isAsked freezes fun pair =>
    row_dumpFreeze env store freezes entry pair.1 pair.2
  cases freezes <;> exact settled

theorem GlobalFreezesAgree.dumpGlobalFreeze (agree : store.GlobalFreezesAgree) (freezes : Bool)
    (name : Bytes) : (CAssetsCache.dumpGlobalFreeze freezes store name).GlobalFreezesAgree := by
  have settled := CLRUCache.Backed.settle agree Function.injective_id.injOn (Set.mem_univ name) freezes
    (row_dumpGlobalFreeze store freezes name)
  cases freezes <;> exact settled

/-! ## The dump -/

variable (injective : Set.InjOn (fun pair : Bytes × Bytes => env.entryHash pair.1 pair.2) asked)
  (tidy : cache.Tidy asked)

theorem AssetsAgree.dumpStore (agree : store.AssetsAgree)
    (reissued : ∀ (name : Bytes) asset, cache.mapReissuedAssetData[name]? = some asset → asset.strName = name) :
    (CAssetsCache.dumpStore env fAssetIndex cache store).AssetsAgree := by
  have issues : (dumpAssets fAssetIndex cache store).AssetsAgree := by
    apply foldValues_invariant AssetsAgree
    · intro _ entry _ store agree
      exact agree.dumpNewAsset entry
    · apply foldValues_invariant AssetsAgree _ agree
      intro _ entry _ store agree
      exact agree.dumpRemovedAsset entry
  have owners := issues.of_forgetQuantities (dumpOwnersAndTransfers_frame fAssetIndex cache _)
  have reissues : (dumpedIssues fAssetIndex cache store).AssetsAgree := owners.dumpReissues reissued
  exact (congrArg AssetsAgree (dumpStore_assets env fAssetIndex cache store)).mpr reissues

include injective tidy in
theorem TagsAgree.dumpStore (agree : store.TagsAgree env asked) :
    (CAssetsCache.dumpStore env fAssetIndex cache store).TagsAgree env asked := by
  obtain ⟨after, before⟩ := dumpStore_tags env fAssetIndex cache store
  have start : (dumpedVerifiers fAssetIndex cache store).TagsAgree env asked :=
    (congrArg (TagsAgree env asked) before).mpr agree
  have written : (dumpedTags env fAssetIndex cache store).TagsAgree env asked := by
    apply foldValues_invariant (TagsAgree env asked)
    · intro key entry found store agree
      exact agree.dumpTag injective _ entry (tidy.qualifiersAsked.mem tidy.qualifiers (.inr found))
    · apply foldValues_invariant (TagsAgree env asked) _ start
      intro key entry found store agree
      exact agree.dumpTag injective _ entry (tidy.qualifiersAsked.mem tidy.qualifiers (.inl found))
  exact (congrArg (TagsAgree env asked) after).mpr written

include injective tidy in
theorem FreezesAgree.dumpStore (agree : store.FreezesAgree env asked) :
    (CAssetsCache.dumpStore env fAssetIndex cache store).FreezesAgree env asked := by
  obtain ⟨after, before⟩ := dumpStore_freezes env fAssetIndex cache store
  have start : (dumpedTags env fAssetIndex cache store).FreezesAgree env asked :=
    (congrArg (FreezesAgree env asked) before).mpr agree
  apply (congrArg (FreezesAgree env asked) after).mpr
  apply dumpRestrictions_invariant env cache _ (FreezesAgree env asked) _ _ start
  · intro freezes store key entry found agree
    exact agree.dumpFreeze injective freezes entry (tidy.restrictionsAsked.mem tidy.restrictions found)
  · intro freezes store name agree
    cases freezes <;> exact agree

theorem GlobalFreezesAgree.dumpStore (agree : store.GlobalFreezesAgree) :
    (CAssetsCache.dumpStore env fAssetIndex cache store).GlobalFreezesAgree := by
  obtain ⟨after, before⟩ := dumpStore_freezes env fAssetIndex cache store
  have start : (dumpedTags env fAssetIndex cache store).GlobalFreezesAgree :=
    (congrArg GlobalFreezesAgree before).mpr agree
  apply (congrArg GlobalFreezesAgree after).mpr
  apply dumpRestrictions_invariant env cache _ GlobalFreezesAgree _ _ start
  · intro freezes store _ entry _ agree
    cases freezes <;> exact agree
  · intro freezes store name agree
    exact agree.dumpGlobalFreeze freezes name

include injective tidy in
theorem Agrees.dumpStore (agrees : store.Agrees env asked) :
    (CAssetsCache.dumpStore env fAssetIndex cache store).Agrees env asked where
  assets := agrees.assets.dumpStore tidy.reissued
  tags := agrees.tags.dumpStore injective tidy
  freezes := agrees.freezes.dumpStore injective tidy
  globalFreezes := agrees.globalFreezes.dumpStore

end AssetStore

/-! ## Stored answers -/

namespace AssetGlobals

variable {globals : AssetGlobals} {asked : Set (Bytes × Bytes)}

theorem storedAsset_eq (agree : globals.AssetsAgree) (name : Bytes) :
    globals.storedAsset name = globals.passetsdb.assetData[name]? := by
  unfold storedAsset
  cases cached : globals.passetsCache.get name with
  | none => rfl
  | some data => exact (agree.1 name trivial data cached).symm

theorem storedQualifier_eq (agree : globals.TagsAgree globals.env asked) {name address : Bytes}
    (isAsked : (name, address) ∈ asked) :
    globals.storedQualifier name address
      = (globals.prestricteddb.addressQualifier.contains (address, name)
        || globals.prestricteddb.checkForAddressRootQualifier address name) := by
  unfold storedQualifier
  cases cached : globals.passetsQualifierCache.get (globals.env.entryHash name address) with
  | none => rfl
  | some value =>
    have row := flag_eq_some.mp (agree (name, address) isAsked value cached)
    rw [row]
    rfl

theorem storedRestriction_eq (agree : globals.FreezesAgree globals.env asked) {name address : Bytes}
    (isAsked : (name, address) ∈ asked) :
    globals.storedRestriction name address
      = globals.prestricteddb.restrictedAddress.contains (address, name) := by
  unfold storedRestriction
  cases cached : globals.passetsRestrictionCache.get (globals.env.entryHash name address) with
  | none => rfl
  | some value => exact (flag_eq_some.mp (agree (name, address) isAsked value cached)).symm

theorem storedGlobalRestriction_eq (agree : globals.GlobalFreezesAgree) (name : Bytes) :
    globals.storedGlobalRestriction name = globals.prestricteddb.globalRestriction.contains name := by
  unfold storedGlobalRestriction
  cases cached : globals.passetsGlobalRestrictionCache.get name with
  | none => rfl
  | some value => exact (flag_eq_some.mp (agree name trivial value cached)).symm

end AssetGlobals

end BlackRaven.Assets
