import BlackRaven.Assets.Dump

/-!
Contract: the balance of an asset and an address after a dump.

The issues and the removals write balances of their own. The owners, transfers,
reissues, spends and undone spends write the dirty balance of the pair, if there is one.

Owns: a stage that writes the dirty balance is the last to change it, and without such a
stage the balance is what the issues and removals left.
-/

namespace BlackRaven.Assets

open Consensus Lib

def AssetStore.balance (name address : Bytes) (store : AssetStore) : CAmount :=
  store.passetsdb.assetAddressQuantity[(name, address)]?.getD 0

/-- The quantity in either direction of the index, asset to address or address to asset. -/
def AssetStore.quantity (byAddress : Bool) (name address : Bytes) (store : AssetStore) : CAmount :=
  (if byAddress then store.passetsdb.addressAssetQuantity[(address, name)]?
    else store.passetsdb.assetAddressQuantity[(name, address)]?).getD 0

namespace CAssetsCache

variable (env : AssetEnv) (fAssetIndex : Bool) (cache : CAssetsCache) (byAddress : Bool) (name address : Bytes)

def dirtyBalance : Option CAmount := cache.mapAssetsAddressAmount[(name, address)]?

/-! ## Stages that write the dirty balance -/

variable (store : AssetStore) (place : Bytes × Bytes)

theorem balance_writeQuantity (quantity : CAmount) :
    (store.writeQuantity place.1 place.2 quantity).quantity byAddress name address
      = if (name, address) = place then quantity else store.quantity byAddress name address := by
  simp only [AssetStore.quantity, AssetStore.writeQuantity, getElem?_insert_eq, swapped_iff]
  by_cases same : (name, address) = place <;> simp [same]

theorem balance_eraseQuantity :
    (store.eraseQuantity place.1 place.2).quantity byAddress name address
      = if (name, address) = place then 0 else store.quantity byAddress name address := by
  simp only [AssetStore.quantity, AssetStore.eraseQuantity, getElem?_erase_eq, swapped_iff]
  by_cases same : (name, address) = place <;> simp [same]

/-- A stage that sets the balance of the pair to its dirty balance where it touches it. -/
abbrev Rewritten (touched : Prop) (stage : AssetStore → AssetStore) : Prop :=
  Stamps (AssetStore.quantity byAddress name address) ((cache.dirtyBalance name address).getD 0) touched stage

theorem rewritten_dumpBalance (writes : CAmount → Bool) (place : Bytes × Bytes) :
    cache.Rewritten byAddress name address
      ((name, address) = place ∧ (cache.dirtyBalance name address).any writes = true)
      (cache.dumpBalance writes place.1 place.2) := by
  constructor
  · rintro ⟨rfl, isWritten⟩ store
    unfold dumpBalance dirtyBalance at *
    cases dirty : cache.mapAssetsAddressAmount[(name, address)]? with
    | none => simp [dirty] at isWritten
    | some quantity =>
      rw [dirty, Option.any_some] at isWritten
      simp only [isWritten, if_true]
      exact (balance_writeQuantity byAddress name address store (name, address) quantity).trans (if_pos rfl)
  · intro untouched store
    unfold dumpBalance
    cases dirty : cache.mapAssetsAddressAmount[place]? with
    | none => rfl
    | some quantity =>
      cases isWritten : writes quantity with
      | false => simp [isWritten]
      | true =>
        have differs : (name, address) ≠ place := by
          rintro rfl
          exact untouched ⟨rfl, by simp [dirtyBalance, dirty, isWritten]⟩
        simp only [isWritten, if_true]
        exact (balance_writeQuantity byAddress name address store place quantity).trans (if_neg differs)

theorem rewritten_dumpOrEraseBalance :
    cache.Rewritten byAddress name address
      ((name, address) = place ∧ (cache.dirtyBalance name address).isSome = true)
      (cache.dumpOrEraseBalance place.1 place.2) := by
  -- an erased row reads as the zero that would have been written
  have erased : ∀ store, (cache.dumpOrEraseBalance place.1 place.2 store).quantity byAddress name address
      = (cache.dumpBalance (fun _ => true) place.1 place.2 store).quantity byAddress name address := by
    intro store
    unfold dumpOrEraseBalance dumpBalance
    cases cache.mapAssetsAddressAmount[place]? with
    | none => rfl
    | some quantity =>
      by_cases zero : quantity = 0
      · simp only [zero, if_true, balance_eraseQuantity, balance_writeQuantity]
      · simp only [zero, if_false, if_true]
  have writes := cache.rewritten_dumpBalance byAddress name address (fun _ => true) place
  exact ⟨fun touched store => (erased store).trans (writes.written touched store),
    fun untouched store => (erased store).trans (writes.kept untouched store)⟩

/-- Some entry is about the asset and the address. -/
def Touches {κ ε : Type} {cmp : κ → κ → Ordering} (entries : Std.TreeMap κ ε cmp)
    (pairOf : ε → Bytes × Bytes) : Prop :=
  ∃ (key : κ) (entry : ε), entries[key]? = some entry ∧ (name, address) = pairOf entry

/-- Whether the dirty balance of the asset and the address is written. Owners and reissues
write a positive one only. -/
def Rewrites : Prop :=
  ((cache.dirtyBalance name address).any (· > 0) = true
      ∧ (Touches name address cache.setNewOwnerAssets.toAdd (fun entry => (entry.assetName, entry.address))
        ∨ (cache.mapReissuedAssetData[name]?.isSome = true
          ∧ Touches name address cache.setNewReissue.toAdd
            fun entry => (entry.reissue.strName, entry.address))))
    ∨ ((cache.dirtyBalance name address).isSome = true
      ∧ (Touches name address cache.setNewTransferAssets.toAdd
          (fun entry => (entry.transfer.strName, entry.address))
        ∨ Touches name address cache.setNewTransferAssets.toRemove
          (fun entry => (entry.transfer.strName, entry.address))
        ∨ (cache.mapReissuedAssetData[name]?.isSome = true ∧ name ∉ cache.setNewAssets.toRemove
          ∧ Touches name address cache.setNewReissue.toRemove
            fun entry => (entry.reissue.strName, entry.address))
        ∨ (∃ entry ∈ cache.vUndoAssetAmount, (name, address) = (entry.assetName, entry.address))
        ∨ ∃ entry ∈ cache.vSpentAssets, (name, address) = (entry.assetName, entry.address)))

theorem Rewrites.isSome {cache : CAssetsCache} {name address : Bytes}
    (rewrites : cache.Rewrites name address) : (cache.dirtyBalance name address).isSome = true := by
  rcases rewrites with ⟨positive, _⟩ | ⟨isDirty, _⟩
  · cases dirty : cache.dirtyBalance name address with
    | none => simp [dirty] at positive
    | some quantity => rfl
  · exact isDirty

/-! ## Reissues -/

/-- A reissue leads to its balance where the metadata of the asset is pending. -/
theorem rewritten_reissue (entry : CAssetCacheReissueAsset) {dirty : Prop} {stage : AssetStore → AssetStore}
    (balances : cache.Rewritten byAddress name address
      ((name, address) = (entry.reissue.strName, entry.address) ∧ dirty) stage) :
    cache.Rewritten byAddress name address
      ((name, address) = (entry.reissue.strName, entry.address)
        ∧ cache.mapReissuedAssetData[name]?.isSome = true ∧ dirty)
      fun store => match cache.mapReissuedAssetData[entry.reissue.strName]? with
        | none => store
        | some asset => stage (dumpReissuedData store entry asset) := by
  cases found : cache.mapReissuedAssetData[entry.reissue.strName]? with
  | none => exact (Stamps.untouched fun _ => rfl).congr (by grind)
  | some asset =>
    have prepares : cache.Rewritten byAddress name address False fun store =>
      dumpReissuedData store entry asset := Stamps.untouched fun _ => rfl
    exact (prepares.comp balances).congr (by grind)

theorem rewritten_dumpUndoReissue (entry : CAssetCacheReissueAsset) :
    cache.Rewritten byAddress name address
      ((name, address) = (entry.reissue.strName, entry.address)
        ∧ cache.mapReissuedAssetData[name]?.isSome = true ∧ name ∉ cache.setNewAssets.toRemove
        ∧ (cache.dirtyBalance name address).isSome = true)
      fun store => dumpUndoReissue true cache store entry := by
  unfold dumpUndoReissue
  by_cases removed : entry.reissue.strName ∈ cache.setNewAssets.toRemove
  · simp only [if_pos removed]
    exact (Stamps.untouched fun _ => rfl).congr (by grind)
  · simp only [if_neg removed]
    have reissued := cache.rewritten_reissue byAddress name address entry
      (cache.rewritten_dumpOrEraseBalance byAddress name address (entry.reissue.strName, entry.address))
    exact reissued.congr (by grind)

/-! ## The stages together -/

/-- The stages after the issues and the removed owners. -/
def rewriteBalances : AssetStore :=
  dumpSpends true cache (dumpRestrictions env cache (dumpQualifiers env true cache (dumpVerifiers cache
    (dumpReissues true cache (foldValues cache.dumpNewTransfer cache.setNewTransferAssets.toAdd
      (foldValues cache.dumpUndoTransfer cache.setNewTransferAssets.toRemove
        (foldValues cache.dumpNewOwner cache.setNewOwnerAssets.toAdd store)))))))

theorem rewritten_rewriteBalances :
    cache.Rewritten byAddress name address (cache.Rewrites name address) (rewriteBalances env cache) := by
  have owners := Stamps.foldValues cache.dumpNewOwner cache.setNewOwnerAssets.toAdd fun _ entry _ =>
    cache.rewritten_dumpBalance byAddress name address (· > 0) (entry.assetName, entry.address)
  have untransferred := Stamps.foldValues cache.dumpUndoTransfer cache.setNewTransferAssets.toRemove
    fun _ entry _ => cache.rewritten_dumpOrEraseBalance byAddress name address (entry.transfer.strName, entry.address)
  have transferred := Stamps.foldValues cache.dumpNewTransfer cache.setNewTransferAssets.toAdd
    fun _ entry _ => cache.rewritten_dumpBalance byAddress name address (fun _ => true) (entry.transfer.strName, entry.address)
  have reissued := Stamps.foldValues (dumpNewReissue true cache) cache.setNewReissue.toAdd
    fun _ entry _ => cache.rewritten_reissue byAddress name address entry
      (cache.rewritten_dumpBalance byAddress name address (· > 0) (entry.reissue.strName, entry.address))
  have unreissued := Stamps.foldValues (dumpUndoReissue true cache) cache.setNewReissue.toRemove
    fun _ entry _ => cache.rewritten_dumpUndoReissue byAddress name address entry
  have untouched : cache.Rewritten byAddress name address False fun store =>
      dumpRestrictions env cache (dumpQualifiers env true cache (dumpVerifiers cache store)) := by
    apply Stamps.untouched
    intro store
    have freezes := congrArg (AssetStore.quantity byAddress name address)
      (dumpRestrictions_frame env cache (dumpQualifiers env true cache (dumpVerifiers cache store)))
    have tags := congrArg (AssetStore.quantity byAddress name address)
      (dumpQualifiers_frame env true cache (dumpVerifiers cache store))
    have verifiers := congrArg (AssetStore.quantity byAddress name address) (dumpVerifiers_frame cache store)
    exact freezes.trans (tags.trans verifiers)
  have unspent := Stamps.foldl cache.dumpUndoSpend cache.vUndoAssetAmount fun entry _ =>
    cache.rewritten_dumpBalance byAddress name address (fun _ => true) (entry.assetName, entry.address)
  have spent := Stamps.foldl cache.dumpSpent cache.vSpentAssets fun entry _ =>
    cache.rewritten_dumpOrEraseBalance byAddress name address (entry.assetName, entry.address)
  apply (((((((owners.comp untransferred).comp transferred).comp reissued).comp unreissued).comp
    untouched).comp unspent).comp spent).congr
  unfold Rewrites Touches
  cases cache.dirtyBalance name address with
  | none => simp
  | some quantity => grind

/-! ## What the issues and the removals leave -/

def setFor (entryAddress : Bytes) (quantity : CAmount) : Option CAmount :=
  if entryAddress = address then some quantity else none

/-- The balance before the dirty one is written, from the stored one. -/
def leftBalance (stored : CAmount) : CAmount :=
  (cache.setNewOwnerAssets.toRemove[name]?.bind fun entry => setFor address entry.address 0).getD
    ((cache.setNewAssets.toAdd[name]?.bind
        fun entry => setFor address entry.address entry.asset.nAmount).getD
      ((cache.setNewAssets.toRemove[name]?.bind fun entry => setFor address entry.address 0).getD stored))

theorem ite_setFor (entryName entryAddress : Bytes) (quantity other : CAmount) :
    (if (name, address) = (entryName, entryAddress) then quantity else other)
      = if name = entryName then (setFor address entryAddress quantity).getD other else other := by
  unfold setFor
  grind

variable {cache} {asked : Set (Bytes × Bytes)} (tidy : cache.Tidy asked)

include tidy in
theorem balance_left (store : AssetStore) :
    (foldValues dumpRemovedOwner cache.setNewOwnerAssets.toRemove
        (dumpAssets true cache store)).quantity byAddress name address
      = cache.leftBalance name address (store.quantity byAddress name address) := by
  let observe := AssetStore.quantity byAddress name address
  have owners := foldValues_keyed dumpRemovedOwner cache.setNewOwnerAssets.toRemove observe name
    (·.assetName) (fun entry => setFor address entry.address 0) tidy.owners.removed
    (fun entry store =>
      (balance_eraseQuantity byAddress name address store (entry.assetName, entry.address)).trans
        (ite_setFor name address entry.assetName entry.address 0 _))
  have issues := foldValues_keyed (dumpNewAsset true) cache.setNewAssets.toAdd observe name
    (·.asset.strName) (fun entry => setFor address entry.address entry.asset.nAmount)
    tidy.newAssets.added
    (fun entry store =>
      (balance_writeQuantity byAddress name address _ (entry.asset.strName, entry.address)
        entry.asset.nAmount).trans
        (ite_setFor name address entry.asset.strName entry.address entry.asset.nAmount _))
  have removals := foldValues_keyed (dumpRemovedAsset true) cache.setNewAssets.toRemove observe name
    (·.asset.strName) (fun entry => setFor address entry.address 0) tidy.newAssets.removed
    (fun entry store =>
      (balance_eraseQuantity byAddress name address _ (entry.asset.strName, entry.address)).trans
        (ite_setFor name address entry.asset.strName entry.address 0 _))
  apply (owners _).trans
  unfold leftBalance
  congr 1
  apply (issues _).trans
  congr 1
  exact removals store

include tidy in
theorem quantity_dumpStore_iff (store : AssetStore) :
    (dumpStore env true cache store).quantity byAddress name address
        = (cache.dirtyBalance name address).getD (store.quantity byAddress name address)
      ↔ cache.Rewrites name address
        ∨ cache.leftBalance name address (store.quantity byAddress name address)
          = (cache.dirtyBalance name address).getD (store.quantity byAddress name address) := by
  have stages := cache.rewritten_rewriteBalances env byAddress name address
  let left := foldValues dumpRemovedOwner cache.setNewOwnerAssets.toRemove (dumpAssets true cache store)
  have isDumped : dumpStore env true cache store = rewriteBalances env cache left := rfl
  rw [isDumped]
  by_cases rewrites : cache.Rewrites name address
  · obtain ⟨quantity, dirty⟩ := Option.isSome_iff_exists.mp rewrites.isSome
    simp [stages.written rewrites left, rewrites, dirty]
  · rw [stages.kept rewrites left, balance_left byAddress name address tidy store]
    simp [rewrites]

end CAssetsCache

end BlackRaven.Assets
