import BlackRaven.Assets.Database

/-!
Contract: what each stage of the dump leaves untouched and what it leaves under a key.

Owns: one frame lemma for each stage, and the rows of assets, verifiers, tags, freezes
and balances after the stages that write them.
-/

namespace BlackRaven.Assets

open Consensus Lib AssetStore

/-! ## Least recently used caches -/

namespace CLRUCache

variable {κ ν : Type} [DecidableEq κ] (cache : CLRUCache κ ν)

@[simp] theorem get_erase (key other : κ) :
    (cache.erase key).get other = if other = key then none else cache.get other := by
  unfold get erase
  rw [List.find?_filter]
  by_cases same : other = key
  · subst same
    simp
  · rw [if_neg same]
    congr 2
    funext item
    by_cases isOther : item.1 = other
    · simp [isOther, same]
    · simp [isOther]

/-- An item found after a `Put` is the one put or was there before; any other may have
been dropped. -/
theorem get_put {key other : κ} {value found : ν} (present : (cache.put key value).get other = some found) :
    (other = key ∧ found = value) ∨ (other ≠ key ∧ cache.get other = some found) := by
  let items := (key, value) :: (cache.erase key).items
  have inItems : (items.find? fun item => item.1 = other).map Prod.snd = some found := by
    have present : ((if items.length > cache.maxSize then items.dropLast else items).find?
        fun item => item.1 = other).map Prod.snd = some found := present
    by_cases full : items.length > cache.maxSize
    · rw [if_pos full] at present
      obtain ⟨item, isFound, isValue⟩ := Option.map_eq_some_iff.mp present
      have before := List.IsPrefix.find?_eq_some (List.dropLast_prefix items) isFound
      rw [before, Option.map_some, isValue]
    · rw [if_neg full] at present
      exact present
  by_cases same : other = key
  · left
    simp only [items, List.find?_cons, same, decide_true, Option.map_some] at inItems
    exact ⟨same, (Option.some.inj inItems).symm⟩
  · right
    have notHead : decide (key = other) = false := decide_eq_false fun equal => same equal.symm
    simp only [items, List.find?_cons, notHead] at inItems
    have erased : (cache.erase key).get other = some found := inItems
    rw [get_erase, if_neg same] at erased
    exact ⟨same, erased⟩

/-- What is cached for the items asked about is in the rows behind the cache. -/
def Backed {ι : Type} (asked : Set ι) (keyOf : ι → κ) (rows : ι → Option ν) : Prop :=
  ∀ item ∈ asked, ∀ value, cache.get (keyOf item) = some value → rows item = some value

variable {cache} {ι : Type} {asked : Set ι} {keyOf : ι → κ} {rows changed : ι → Option ν}

theorem Backed.erase (backed : cache.Backed asked keyOf rows) (item : ι)
    (others : ∀ other, other ≠ item → changed other = rows other) :
    (cache.erase (keyOf item)).Backed asked keyOf changed := by
  intro other isAsked value found
  rw [get_erase] at found
  obtain ⟨differs, found⟩ := Option.ite_none_left_eq_some.mp found
  rw [others other fun same => differs (congrArg keyOf same)]
  exact backed other isAsked value found

theorem Backed.put (backed : cache.Backed asked keyOf rows) (injective : Set.InjOn keyOf asked)
    {item : ι} (isItem : item ∈ asked) {value : ν} (row : changed item = some value)
    (others : ∀ other, other ≠ item → changed other = rows other) :
    (cache.put (keyOf item) value).Backed asked keyOf changed := by
  intro other isAsked found present
  rcases cache.get_put present with ⟨sameKey, rfl⟩ | ⟨otherKey, before⟩
  · rw [injective isAsked isItem sameKey]
    exact row
  · rw [others other fun same => otherKey (congrArg keyOf same)]
    exact backed other isAsked found before

end CLRUCache

def flag (isMember : Bool) : Option Unit := if isMember then some () else none

@[simp] theorem flag_eq_some {isMember : Bool} {value : Unit} :
    flag isMember = some value ↔ isMember = true := by
  cases isMember <;> simp [flag]

/-- A row that is set or cleared, with its key put into the cache or taken out. -/
theorem CLRUCache.Backed.settle {κ ι : Type} [DecidableEq κ] [DecidableEq ι] {cache : CLRUCache κ Unit}
    {asked : Set ι} {keyOf : ι → κ} {rows changed : ι → Bool} {item : ι}
    (backed : cache.Backed asked keyOf fun other => flag (rows other))
    (injective : Set.InjOn keyOf asked) (isItem : item ∈ asked) (sets : Bool)
    (writes : ∀ other, changed other = if other = item then sets else rows other) :
    (if sets then cache.put (keyOf item) () else cache.erase (keyOf item)).Backed asked keyOf
      fun other => flag (changed other) := by
  have others : ∀ other, other ≠ item → flag (changed other) = flag (rows other) := by
    intro other differs
    rw [writes, if_neg differs]
  cases sets with
  | false => exact backed.erase item others
  | true => exact backed.put injective isItem (congrArg flag ((writes item).trans (if_pos rfl))) others

/-- What an entry makes of the row of its address. -/
def RestrictedType.freezesAddress : RestrictedType → Option Bool
  | .unfreezeAddress => some false
  | .freezeAddress => some true
  | _ => none

def RestrictedType.freezesAll : RestrictedType → Option Bool
  | .globalUnfreeze => some false
  | .globalFreeze => some true
  | _ => none

/-! ## Frames -/

namespace AssetStore

def forgetQuantities (store : AssetStore) : AssetStore :=
  { store with
    passetsdb := { store.passetsdb with assetAddressQuantity := ∅, addressAssetQuantity := ∅ } }

def forgetAssets (store : AssetStore) : AssetStore :=
  { store with
    passetsCache := ⟨[], 0⟩
    passetsdb := { store.passetsdb with assetData := ∅ } }

def forgetVerifiers (store : AssetStore) : AssetStore :=
  { store with
    passetsVerifierCache := ⟨[], 0⟩
    prestricteddb := { store.prestricteddb with verifier := ∅ } }

def forgetTags (store : AssetStore) : AssetStore :=
  { store with
    passetsQualifierCache := ⟨[], 0⟩
    prestricteddb := { store.prestricteddb with addressQualifier := ∅, qualifierAddress := ∅ } }

def forgetFreezes (store : AssetStore) : AssetStore :=
  { store with
    passetsRestrictionCache := ⟨[], 0⟩
    passetsGlobalRestrictionCache := ⟨[], 0⟩
    prestricteddb := { store.prestricteddb with restrictedAddress := ∅, globalRestriction := ∅ } }

end AssetStore

namespace CAssetsCache

variable (env : AssetEnv) (fAssetIndex : Bool) (cache : CAssetsCache) (store : AssetStore)

@[simp] theorem dumpBalance_frame (writes : CAmount → Bool) (name address : Bytes) :
    (cache.dumpBalance writes name address store).forgetQuantities = store.forgetQuantities := by
  unfold dumpBalance
  cases cache.mapAssetsAddressAmount[(name, address)]? with
  | none => rfl
  | some quantity =>
    dsimp only
    cases writes quantity <;> rfl

@[simp] theorem dumpOrEraseBalance_frame (name address : Bytes) :
    (cache.dumpOrEraseBalance name address store).forgetQuantities = store.forgetQuantities := by
  unfold dumpOrEraseBalance
  cases cache.mapAssetsAddressAmount[(name, address)]? with
  | none => rfl
  | some quantity =>
    by_cases zero : quantity = 0
    · simp only [zero, if_true]
      rfl
    · simp only [zero, if_false]
      rfl

theorem dumpOwnersAndTransfers_frame :
    (dumpOwnersAndTransfers fAssetIndex cache store).forgetQuantities = store.forgetQuantities := by
  unfold dumpOwnersAndTransfers
  cases fAssetIndex with
  | false => rfl
  | true =>
    rw [if_pos rfl,
      foldValues_untouched forgetQuantities fun _ entry _ store =>
        cache.dumpBalance_frame store _ entry.transfer.strName entry.address,
      foldValues_untouched forgetQuantities fun _ entry _ store =>
        cache.dumpOrEraseBalance_frame store entry.transfer.strName entry.address,
      foldValues_untouched forgetQuantities fun _ entry _ store =>
        cache.dumpBalance_frame store _ entry.assetName entry.address]
    apply foldValues_untouched forgetQuantities
    intro _ entry _ store
    rfl

theorem dumpSpends_frame : (dumpSpends fAssetIndex cache store).forgetQuantities = store.forgetQuantities := by
  unfold dumpSpends
  cases fAssetIndex with
  | false => rfl
  | true =>
    rw [if_pos rfl,
      foldl_untouched forgetQuantities fun entry _ store =>
        cache.dumpOrEraseBalance_frame store entry.assetName entry.address,
      foldl_untouched forgetQuantities fun entry _ store =>
        cache.dumpBalance_frame store _ entry.assetName entry.address]

theorem dumpVerifiers_frame : (dumpVerifiers cache store).forgetVerifiers = store.forgetVerifiers := by
  unfold dumpVerifiers
  rw [foldValues_untouched forgetVerifiers, foldValues_untouched forgetVerifiers]
  · intro _ entry _ store
    rfl
  · intro _ entry _ store
    unfold dumpUndoVerifier
    cases entry.fUndoingRessiue <;> rfl

theorem dumpTag_frame (gets : Bool) (entry : CAssetCacheQualifierAddress) :
    (dumpTag env fAssetIndex gets store entry).forgetTags = store.forgetTags := by
  cases gets <;> rfl

theorem dumpQualifiers_frame : (dumpQualifiers env fAssetIndex cache store).forgetTags = store.forgetTags := by
  unfold dumpQualifiers
  rw [foldValues_untouched forgetTags, foldValues_untouched forgetTags]
  · intro _ entry _ store
    exact dumpTag_frame env fAssetIndex store _ entry
  · intro _ entry _ store
    exact dumpTag_frame env fAssetIndex store _ entry

/-- What a freeze of an address that has an entry and any freeze of an asset keep holds
after all of them. -/
theorem dumpRestrictions_invariant (invariant : AssetStore → Prop)
    (address : ∀ freezes store (key : Bytes × Bytes) entry,
      cache.setNewRestrictedAddress.toAdd[key]? = some entry
        ∨ cache.setNewRestrictedAddress.toRemove[key]? = some entry →
      invariant store → invariant (dumpFreeze env freezes store entry))
    (asset : ∀ freezes store name, invariant store → invariant (dumpGlobalFreeze freezes store name))
    (holds : invariant store) : invariant (dumpRestrictions env cache store) := by
  apply foldValues_invariant invariant
  · intro _ entry _ store holds
    unfold dumpUndoGlobal
    cases entry.type <;> first | exact asset _ store _ holds | exact holds
  · apply foldValues_invariant invariant
    · intro _ entry _ store holds
      unfold dumpNewGlobal
      cases entry.type <;> first | exact asset _ store _ holds | exact holds
    · apply foldValues_invariant invariant
      · intro key entry found store holds
        unfold dumpUndoRestricted
        cases entry.type <;> first | exact address _ store key entry (.inr found) holds | exact holds
      · apply foldValues_invariant invariant _ holds
        intro key entry found store holds
        unfold dumpNewRestricted
        cases entry.type <;> first | exact address _ store key entry (.inl found) holds | exact holds

theorem dumpRestrictions_frame : (dumpRestrictions env cache store).forgetFreezes = store.forgetFreezes := by
  apply dumpRestrictions_invariant env cache store (·.forgetFreezes = store.forgetFreezes) _ _ rfl
  · intro freezes store _ entry _ same
    cases freezes <;> exact same
  · intro freezes store name same
    cases freezes <;> exact same

theorem dumpAssets_frame :
    (dumpAssets fAssetIndex cache store).forgetAssets.forgetVerifiers.forgetQuantities
      = store.forgetAssets.forgetVerifiers.forgetQuantities := by
  let observe := fun store : AssetStore => store.forgetAssets.forgetVerifiers.forgetQuantities
  apply (foldValues_untouched observe _ _).trans (foldValues_untouched observe _ _)
  all_goals
    intro _ entry _ store
    cases fAssetIndex <;> rfl

theorem dumpReissues_frame :
    (dumpReissues fAssetIndex cache store).forgetAssets.forgetQuantities
      = store.forgetAssets.forgetQuantities := by
  have commute : ∀ store : AssetStore,
      store.forgetAssets.forgetQuantities = store.forgetQuantities.forgetAssets := fun _ => rfl
  let observe := fun store : AssetStore => store.forgetAssets.forgetQuantities
  apply (foldValues_untouched observe _ _).trans (foldValues_untouched observe _ _)
  rotate_left
  · intro _ entry _ store
    unfold dumpNewReissue
    cases cache.mapReissuedAssetData[entry.reissue.strName]? with
    | none => rfl
    | some asset =>
      cases fAssetIndex with
      | false => rfl
      | true =>
        simp only [observe, commute, if_true, dumpBalance_frame]
        rfl
  · intro _ entry _ store
    unfold dumpUndoReissue
    by_cases removed : entry.reissue.strName ∈ cache.setNewAssets.toRemove
    · rw [if_pos removed]
    · rw [if_neg removed]
      cases cache.mapReissuedAssetData[entry.reissue.strName]? with
      | none => rfl
      | some asset =>
        cases fAssetIndex with
        | false => rfl
        | true =>
          simp only [observe, commute, if_true, dumpOrEraseBalance_frame]
          rfl

/-! ### The stages a part of the store depends on -/

/-- The store after the issues, owners, transfers and reissues. -/
def dumpedIssues : AssetStore :=
  dumpReissues fAssetIndex cache (dumpOwnersAndTransfers fAssetIndex cache (dumpAssets fAssetIndex cache store))

def dumpedVerifiers : AssetStore := dumpVerifiers cache (dumpedIssues fAssetIndex cache store)

def dumpedTags : AssetStore :=
  dumpQualifiers env fAssetIndex cache (dumpedVerifiers fAssetIndex cache store)

theorem dumpedIssues_verifiers :
    (dumpedIssues fAssetIndex cache store).forgetAssets.forgetQuantities
      = (dumpAssets fAssetIndex cache store).forgetAssets.forgetQuantities := by
  have reissues := dumpReissues_frame fAssetIndex cache
    (dumpOwnersAndTransfers fAssetIndex cache (dumpAssets fAssetIndex cache store))
  have owners := congrArg forgetAssets
    (dumpOwnersAndTransfers_frame fAssetIndex cache (dumpAssets fAssetIndex cache store))
  exact reissues.trans owners

theorem dumpStore_freezes :
    (dumpStore env fAssetIndex cache store).forgetQuantities
        = (dumpRestrictions env cache (dumpedTags env fAssetIndex cache store)).forgetQuantities
      ∧ (dumpedTags env fAssetIndex cache store).forgetAssets.forgetVerifiers.forgetQuantities.forgetTags
        = store.forgetAssets.forgetVerifiers.forgetQuantities.forgetTags := by
  have tags := congrArg (fun store => store.forgetAssets.forgetVerifiers.forgetQuantities)
    (dumpQualifiers_frame env fAssetIndex cache (dumpedVerifiers fAssetIndex cache store))
  have verifiers := congrArg (fun store => store.forgetAssets.forgetQuantities.forgetTags)
    (dumpVerifiers_frame cache (dumpedIssues fAssetIndex cache store))
  have issues := congrArg (fun store => store.forgetVerifiers.forgetTags)
    (dumpedIssues_verifiers fAssetIndex cache store)
  have assets := congrArg forgetTags (dumpAssets_frame fAssetIndex cache store)
  exact ⟨dumpSpends_frame fAssetIndex cache _, tags.trans (verifiers.trans (issues.trans assets))⟩

theorem dumpStore_tags :
    (dumpStore env fAssetIndex cache store).forgetQuantities.forgetFreezes
        = (dumpedTags env fAssetIndex cache store).forgetQuantities.forgetFreezes
      ∧ (dumpedVerifiers fAssetIndex cache store).forgetAssets.forgetVerifiers.forgetQuantities
        = store.forgetAssets.forgetVerifiers.forgetQuantities := by
  have spends := congrArg forgetFreezes (dumpStore_freezes env fAssetIndex cache store).1
  have freezes := congrArg forgetQuantities
    (dumpRestrictions_frame env cache (dumpedTags env fAssetIndex cache store))
  have verifiers := congrArg (fun store => store.forgetAssets.forgetQuantities)
    (dumpVerifiers_frame cache (dumpedIssues fAssetIndex cache store))
  have issues := congrArg forgetVerifiers (dumpedIssues_verifiers fAssetIndex cache store)
  exact ⟨spends.trans freezes, verifiers.trans (issues.trans (dumpAssets_frame fAssetIndex cache store))⟩

theorem dumpStore_verifiers :
    (dumpStore env fAssetIndex cache store).forgetQuantities.forgetFreezes.forgetTags
      = (dumpedVerifiers fAssetIndex cache store).forgetQuantities.forgetFreezes.forgetTags := by
  have later := congrArg forgetTags (dumpStore_tags env fAssetIndex cache store).1
  have tags := congrArg (fun store => store.forgetQuantities.forgetFreezes)
    (dumpQualifiers_frame env fAssetIndex cache (dumpedVerifiers fAssetIndex cache store))
  exact later.trans tags

theorem dumpStore_assets :
    (dumpStore env fAssetIndex cache store).forgetQuantities.forgetFreezes.forgetTags.forgetVerifiers
      = (dumpedIssues fAssetIndex cache store).forgetQuantities.forgetFreezes.forgetTags.forgetVerifiers := by
  have later := congrArg forgetVerifiers (dumpStore_verifiers env fAssetIndex cache store)
  have verifiers := congrArg (fun store => store.forgetQuantities.forgetFreezes.forgetTags)
    (dumpVerifiers_frame cache (dumpedIssues fAssetIndex cache store))
  exact later.trans verifiers

/-! ## Rows under a key -/

/-- The sets of a cache hold their entries under what the entries say, an entry of a
type that a dump can pass over or that it writes after the other side is pending on one
side only, and the tags and freezes are of pairs asked about. -/
structure Tidy (asked : Set (Bytes × Bytes)) (cache : CAssetsCache) : Prop where
  newAssets : cache.setNewAssets.KeyedBy (·.asset.strName)
  newAssetsSeparate : cache.setNewAssets.Separate
  owners : cache.setNewOwnerAssets.KeyedBy (·.assetName)
  reissued : ∀ (name : Bytes) asset, cache.mapReissuedAssetData[name]? = some asset → asset.strName = name
  verifiers : cache.setNewRestrictedVerifier.KeyedBy (·.assetName)
  qualifiers : cache.setNewQualifierAddress.KeyedBy fun entry => (entry.assetName, entry.address)
  qualifiersAsked : cache.setNewQualifierAddress.Within asked
  restrictions : cache.setNewRestrictedAddress.KeyedBy fun entry => (entry.assetName, entry.address)
  restrictionsSeparate : cache.setNewRestrictedAddress.Separate
  restrictionsAsked : cache.setNewRestrictedAddress.Within asked
  globals : cache.setNewRestrictedGlobal.KeyedBy (·.assetName)
  globalsSeparate : cache.setNewRestrictedGlobal.Separate

variable {asked : Set (Bytes × Bytes)} {cache}

variable (entry : CAssetCacheNewAsset) (name : Bytes)

theorem assetData_dumpRemovedAsset :
    (dumpRemovedAsset fAssetIndex store entry).passetsdb.assetData[name]?
      = if name = entry.asset.strName then none else store.passetsdb.assetData[name]? := by
  rw [← getElem?_erase_eq]
  cases fAssetIndex <;> rfl

theorem assetData_dumpNewAsset :
    (dumpNewAsset fAssetIndex store entry).passetsdb.assetData[name]?
      = if name = entry.asset.strName then some entry.data else store.passetsdb.assetData[name]? := by
  rw [← getElem?_insert_eq]
  cases fAssetIndex <;> rfl

theorem assetData_dumpAssets (keyed : cache.setNewAssets.KeyedBy (·.asset.strName))
    (separate : cache.setNewAssets.Separate) (name : Bytes) :
    (dumpAssets fAssetIndex cache store).passetsdb.assetData[name]?
      = metadataFor store.passetsdb.assetData[name]? (cache.setNewAssets.pending cache.setNewAssets name) := by
  let observe := fun store : AssetStore => store.passetsdb.assetData[name]?
  have additions := foldValues_keyed (dumpNewAsset fAssetIndex) cache.setNewAssets.toAdd observe name
    (·.asset.strName) (fun entry => some (some entry.data)) keyed.added
    fun entry store => assetData_dumpNewAsset fAssetIndex store entry name
  have removals := foldValues_keyed (dumpRemovedAsset fAssetIndex) cache.setNewAssets.toRemove observe
    name (·.asset.strName) (fun _ => some none) keyed.removed
    fun entry store => assetData_dumpRemovedAsset fAssetIndex store entry name
  have closed := additions (foldValues (dumpRemovedAsset fAssetIndex) cache.setNewAssets.toRemove store)
  rw [removals] at closed
  refine Eq.trans closed ?_
  rw [ChangeSet.pending_self]
  rcases separate name with notAdded | notRemoved
  · rw [notAdded]
    cases cache.setNewAssets.toRemove[name]? <;> rfl
  · rw [notRemoved]
    cases cache.setNewAssets.toAdd[name]? <;> rfl

theorem dumpReissues_of_none (noReissue : ∀ name : Bytes, cache.mapReissuedAssetData[name]? = none) :
    dumpReissues fAssetIndex cache store = store := by
  apply (foldValues_untouched id _ _).trans (foldValues_untouched id _ _)
  rotate_left
  · intro _ entry _ store
    simp only [dumpNewReissue, noReissue, id]
  · intro _ entry _ store
    simp only [dumpUndoReissue, noReissue, ite_self, id]

theorem verifier_dumpRemovedAsset :
    (dumpRemovedAsset fAssetIndex store entry).prestricteddb.verifier[name]?
      = if name = entry.asset.strName then none else store.prestricteddb.verifier[name]? := by
  rw [← getElem?_erase_eq]
  cases fAssetIndex <;> rfl

/-- The issues that are removed take the stored verifier with them. -/
theorem verifier_dumpAssets (tidy : cache.Tidy asked) (name : Bytes) :
    (dumpAssets fAssetIndex cache store).prestricteddb.verifier[name]?
      = if cache.setNewAssets.toRemove[name]?.isSome then none
        else store.prestricteddb.verifier[name]? := by
  let observe := fun store : AssetStore => store.prestricteddb.verifier[name]?
  have removals := foldValues_keyed (dumpRemovedAsset fAssetIndex) cache.setNewAssets.toRemove observe
    name (·.asset.strName) (fun _ => some none) tidy.newAssets.removed
    (fun entry store => verifier_dumpRemovedAsset fAssetIndex store entry name) store
  apply (foldValues_untouched observe _ _).trans
  · apply removals.trans
    cases cache.setNewAssets.toRemove[name]? <;> rfl
  · intro _ entry _ store
    cases fAssetIndex <;> rfl

theorem swapped_iff {name address assetName other : Bytes} :
    (address, name) = (other, assetName) ↔ (name, address) = (assetName, other) := by
  simp only [Prod.mk.injEq, and_comm]

theorem row_dumpTag (gets : Bool) (entry : CAssetCacheQualifierAddress) (name address : Bytes) :
    (dumpTag env fAssetIndex gets store entry).prestricteddb.addressQualifier.contains (address, name)
      = if (name, address) = (entry.assetName, entry.address) then gets
        else store.prestricteddb.addressQualifier.contains (address, name) := by
  cases gets with
  | true => exact (contains_insert_eq _ _ _).trans (if_congr swapped_iff rfl rfl)
  | false => exact (contains_erase_eq _ _ _).trans (if_congr swapped_iff rfl rfl)

theorem row_dumpFreeze (freezes : Bool) (entry : CAssetCacheRestrictedAddress) (name address : Bytes) :
    (dumpFreeze env freezes store entry).prestricteddb.restrictedAddress.contains (address, name)
      = if (name, address) = (entry.assetName, entry.address) then freezes
        else store.prestricteddb.restrictedAddress.contains (address, name) := by
  cases freezes with
  | true => exact (contains_insert_eq _ _ _).trans (if_congr swapped_iff rfl rfl)
  | false => exact (contains_erase_eq _ _ _).trans (if_congr swapped_iff rfl rfl)

theorem row_dumpGlobalFreeze (freezes : Bool) (name other : Bytes) :
    (dumpGlobalFreeze freezes store name).prestricteddb.globalRestriction.contains other
      = if other = name then freezes else store.prestricteddb.globalRestriction.contains other := by
  cases freezes with
  | true => exact contains_insert_eq store.prestricteddb.globalRestriction name other
  | false => exact contains_erase_eq store.prestricteddb.globalRestriction name other

/-! ## Rows after the dump -/

section

variable (tidy : cache.Tidy asked)

include tidy

theorem verifier_dumpStore (name : Bytes) :
    (dumpStore env fAssetIndex cache store).prestricteddb.verifier[name]?
      = verifierFor
          (if cache.setNewAssets.toRemove[name]?.isSome then none
            else store.prestricteddb.verifier[name]?)
          (cache.setNewRestrictedVerifier.pending cache.setNewRestrictedVerifier name) := by
  let observe := fun store : AssetStore => store.prestricteddb.verifier[name]?
  have before : observe (dumpedIssues fAssetIndex cache store) = _ :=
    (congrArg observe (dumpedIssues_verifiers fAssetIndex cache store)).trans
      (verifier_dumpAssets fAssetIndex store tidy name)
  have closed := tidy.verifiers.foldBoth observe name dumpNewVerifier dumpUndoVerifier
    (fun entry => some (some entry.verifier))
    (fun entry => some (if entry.fUndoingRessiue then some entry.verifier else none))
    (fun entry store => getElem?_insert_eq store.prestricteddb.verifier entry.assetName name entry.verifier)
    (fun entry store => by
      unfold dumpUndoVerifier
      cases entry.fUndoingRessiue with
      | true => exact getElem?_insert_eq store.prestricteddb.verifier entry.assetName name entry.verifier
      | false => exact getElem?_erase_eq store.prestricteddb.verifier entry.assetName name)
    (dumpedIssues fAssetIndex cache store)
  apply (congrArg observe (dumpStore_verifiers env fAssetIndex cache store)).trans (closed.trans _)
  rw [before, ChangeSet.pending_self]
  cases cache.setNewRestrictedVerifier.toRemove[name]? <;>
    cases cache.setNewRestrictedVerifier.toAdd[name]? <;> rfl

/-- A verifier that is written is no longer in the least recently used cache. -/
theorem verifierCache_dumpStore (name : Bytes) :
    (dumpStore env fAssetIndex cache store).passetsVerifierCache.get name
      = if (cache.setNewRestrictedVerifier.pending cache.setNewRestrictedVerifier name).isSome then none
        else store.passetsVerifierCache.get name := by
  let observe := fun store : AssetStore => store.passetsVerifierCache.get name
  have assets : observe (dumpAssets fAssetIndex cache store) = observe store := by
    apply (foldValues_untouched observe _ _).trans (foldValues_untouched observe _ _)
    all_goals
      intro _ entry _ store
      cases fAssetIndex <;> rfl
  have before : observe (dumpedIssues fAssetIndex cache store) = observe store :=
    (congrArg observe (dumpedIssues_verifiers fAssetIndex cache store)).trans assets
  have closed := tidy.verifiers.foldBoth observe name dumpNewVerifier dumpUndoVerifier
    (fun _ => some none) (fun _ => some none)
    (fun entry store => store.passetsVerifierCache.get_erase entry.assetName name)
    (fun entry store => store.passetsVerifierCache.get_erase entry.assetName name)
    (dumpedIssues fAssetIndex cache store)
  apply (congrArg observe (dumpStore_verifiers env fAssetIndex cache store)).trans (closed.trans _)
  rw [before, ChangeSet.pending_self]
  cases cache.setNewRestrictedVerifier.toRemove[name]? <;>
    cases cache.setNewRestrictedVerifier.toAdd[name]? <;> rfl

theorem tag_dumpStore (name address : Bytes) :
    (dumpStore env fAssetIndex cache store).prestricteddb.addressQualifier.contains (address, name)
      = qualifierFor (store.prestricteddb.addressQualifier.contains (address, name))
          (cache.setNewQualifierAddress.pending cache.setNewQualifierAddress (name, address)) := by
  let observe := fun store : AssetStore =>
    store.prestricteddb.addressQualifier.contains (address, name)
  obtain ⟨after, before⟩ := dumpStore_tags env fAssetIndex cache store
  have same := congrArg observe before
  have closed := tidy.qualifiers.foldBoth observe (name, address)
    (dumpNewQualifier env fAssetIndex) (dumpUndoQualifier env fAssetIndex)
    (fun entry => some (entry.type == .addQualifier))
    (fun entry => some (entry.type == .removeQualifier))
    (fun entry store => row_dumpTag env fAssetIndex store _ entry name address)
    (fun entry store => row_dumpTag env fAssetIndex store _ entry name address)
    (dumpedVerifiers fAssetIndex cache store)
  apply (congrArg observe after).trans (closed.trans _)
  rw [show observe (dumpedVerifiers fAssetIndex cache store) = observe store from same, ChangeSet.pending_self]
  cases cache.setNewQualifierAddress.toRemove[(name, address)]? with
  | some entry => rfl
  | none => cases cache.setNewQualifierAddress.toAdd[(name, address)]? <;> rfl

/-- An entry of another type leaves the row of a frozen address. -/
theorem freeze_dumpStore (name address : Bytes) :
    (dumpStore env fAssetIndex cache store).prestricteddb.restrictedAddress.contains (address, name)
      = ((cache.setNewRestrictedAddress.toRemove[(name, address)]?.bind
            fun entry => entry.type.freezesAddress.map (!·)).getD
          ((cache.setNewRestrictedAddress.toAdd[(name, address)]?.bind
            fun entry => entry.type.freezesAddress).getD
          (store.prestricteddb.restrictedAddress.contains (address, name)))) := by
  let observe := fun store : AssetStore =>
    store.prestricteddb.restrictedAddress.contains (address, name)
  obtain ⟨after, before⟩ := dumpStore_freezes env fAssetIndex cache store
  have same := congrArg observe before
  have closed := tidy.restrictions.foldBoth observe (name, address)
    (dumpNewRestricted env) (dumpUndoRestricted env) (fun entry => entry.type.freezesAddress)
    (fun entry => entry.type.freezesAddress.map (!·))
    (fun entry store => by
      unfold dumpNewRestricted
      cases entry.type with
      | unfreezeAddress => exact row_dumpFreeze env store false entry name address
      | freezeAddress => exact row_dumpFreeze env store true entry name address
      | _ => exact (ite_self _).symm)
    (fun entry store => by
      unfold dumpUndoRestricted
      cases entry.type with
      | unfreezeAddress => exact row_dumpFreeze env store true entry name address
      | freezeAddress => exact row_dumpFreeze env store false entry name address
      | _ => exact (ite_self _).symm)
    (dumpedTags env fAssetIndex cache store)
  rw [show observe (dumpedTags env fAssetIndex cache store) = observe store from same] at closed
  refine (congrArg observe after).trans (Eq.trans ?_ closed)
  apply (foldValues_untouched observe _ _).trans (foldValues_untouched observe _ _)
  · intro _ entry _ store
    unfold dumpUndoGlobal
    cases entry.type <;> rfl
  · intro _ entry _ store
    unfold dumpNewGlobal
    cases entry.type <;> rfl

theorem globalFreeze_dumpStore (name : Bytes) :
    (dumpStore env fAssetIndex cache store).prestricteddb.globalRestriction.contains name
      = ((cache.setNewRestrictedGlobal.toRemove[name]?.bind
            fun entry => entry.type.freezesAll.map (!·)).getD
          ((cache.setNewRestrictedGlobal.toAdd[name]?.bind fun entry => entry.type.freezesAll).getD
          (store.prestricteddb.globalRestriction.contains name))) := by
  let observe := fun store : AssetStore => store.prestricteddb.globalRestriction.contains name
  obtain ⟨after, before⟩ := dumpStore_freezes env fAssetIndex cache store
  have same := congrArg observe before
  have closed := tidy.globals.foldBoth observe name dumpNewGlobal dumpUndoGlobal
    (fun entry => entry.type.freezesAll) (fun entry => entry.type.freezesAll.map (!·))
    (fun entry store => by
      unfold dumpNewGlobal
      cases entry.type with
      | globalUnfreeze => exact row_dumpGlobalFreeze store false entry.assetName name
      | globalFreeze => exact row_dumpGlobalFreeze store true entry.assetName name
      | _ => exact (ite_self _).symm)
    (fun entry store => by
      unfold dumpUndoGlobal
      cases entry.type with
      | globalUnfreeze => exact row_dumpGlobalFreeze store true entry.assetName name
      | globalFreeze => exact row_dumpGlobalFreeze store false entry.assetName name
      | _ => exact (ite_self _).symm)
  apply ((congrArg observe after).trans (closed _)).trans
  congr 2
  refine Eq.trans ?_ same
  apply (foldValues_untouched observe _ _).trans (foldValues_untouched observe _ _)
  · intro _ entry _ store
    unfold dumpUndoRestricted
    cases entry.type <;> rfl
  · intro _ entry _ store
    unfold dumpNewRestricted
    cases entry.type <;> rfl

end

end CAssetsCache

end BlackRaven.Assets
