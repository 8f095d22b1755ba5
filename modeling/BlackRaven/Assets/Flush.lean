import BlackRaven.Assets.CacheUpdates

/-!
Contract: when `CAssetsCache::Flush` keeps the answers.

The answers of a temporary cache are compared with those of `passets` once the cache was
flushed into it.

Owns: the states in which every answer is kept. The answers can change where `passets`
has a removal pending for something the cache adds, where it has other data pending for
an asset the cache adds, and where the cache noted a removed sub-qualifier.
-/

namespace BlackRaven.Assets

open Lib Primitives CAssetsCache

/-! ## Notes on root qualifiers -/

theorem noted_alter_insert (map : AddressMap (Std.TreeSet Bytes)) (key other : Bytes × Bytes) (name : Bytes) :
    noted (map.alter key fun held => some ((held.getD ∅).insert name)) other
      = if other = key then true else noted map other := by
  unfold noted
  rw [getElem?_alter_eq]
  by_cases same : other = key
  · rw [if_pos same, if_pos same]
    simp
  · rw [if_neg same, if_neg same]

theorem noted_foldl_insert (names : List Bytes) (map : AddressMap (Std.TreeSet Bytes))
    (key other : Bytes × Bytes) :
    noted (names.foldl
        (fun map name => map.alter key fun held => some ((held.getD ∅).insert name)) map) other
      = if other = key then noted map key || !names.isEmpty else noted map other := by
  induction names generalizing map with
  | nil =>
    by_cases same : other = key <;> simp [same]
  | cons name rest ih =>
    rw [List.foldl_cons, ih, noted_alter_insert, noted_alter_insert]
    by_cases same : other = key <;> simp [same]

theorem noted_noteAll (items target : AddressMap (Std.TreeSet Bytes)) (key : Bytes × Bytes) :
    noted (noteAll items target) key = (noted target key || noted items key) := by
  have observed := foldl_observed
    (fun (map : AddressMap (Std.TreeSet Bytes)) key (names : Std.TreeSet Bytes) => names.foldl
      (fun map name => map.alter key fun held => some ((held.getD ∅).insert name)) map)
    noted (fun names held => held || !names.isEmpty)
    (by
      intro map key names other
      rw [Std.TreeSet.foldl_eq_foldl_toList, noted_foldl_insert, Std.TreeSet.isEmpty_toList])
    items target key
  rw [noteAll, observed]
  unfold noted
  cases items[key]? <;> simp

/-! ## The answers after a flush -/

variable (globals : AssetGlobals) (cache : CAssetsCache)

/-- Every question asked of `passets` after the flush has the answer the temporary cache
gave before. -/
structure FlushTransparent : Prop where
  existence : ∀ name, (globals.flushed cache).passets.checkIfAssetExists (globals.flushed cache) name
    = cache.checkIfAssetExists globals name
  metadata : ∀ name,
    (globals.flushed cache).passets.getAssetMetaDataIfExists (globals.flushed cache) name
      = cache.getAssetMetaDataIfExists globals name
  verifier : ∀ name,
    (globals.flushed cache).passets.getAssetVerifierStringIfExists (globals.flushed cache) false name
      = cache.getAssetVerifierStringIfExists globals false name
  qualifier : ∀ name address,
    (globals.flushed cache).passets.checkForAddressQualifier (globals.flushed cache) false name address
      = cache.checkForAddressQualifier globals false name address
  restriction : ∀ name address,
    (globals.flushed cache).passets.checkForAddressRestriction (globals.flushed cache) false name
        address
      = cache.checkForAddressRestriction globals false name address
  globalRestriction : ∀ name,
    (globals.flushed cache).passets.checkForGlobalRestriction (globals.flushed cache) false name
      = cache.checkForGlobalRestriction globals false name

/-- The entry the cache adds under a key, if it does not also remove it. -/
def Adds {κ ε : Type} {cmp : κ → κ → Ordering} (changes : ChangeSet κ ε cmp) (key : κ) (entry : ε) :
    Prop :=
  changes.toRemove[key]? = none ∧ changes.toAdd[key]? = some entry

/-- What the pending sets of the cache and of `passets` have to look like. -/
structure FlushUnshadowed : Prop where
  /-- No asset the cache adds is pending removal below. -/
  existence : globals.fReindex = false → ∀ name entry, Adds cache.setNewAssets name entry →
    globals.passets.setNewAssets.toRemove[name]? = none
  /-- Nor is it, unless reissued, pending below with other data. -/
  metadata : ∀ name entry, Adds cache.setNewAssets name entry →
    cache.mapReissuedAssetData[name]? = none → globals.passets.mapReissuedAssetData[name]? = none →
    globals.passets.setNewAssets.toRemove[name]? = none
      ∧ ∀ held, globals.passets.setNewAssets.toAdd[name]? = some held →
          held.asset = entry.asset ∧ held.blockHeight = entry.blockHeight ∧ held.blockHash = entry.blockHash
  /-- A verifier pending removal below is put back, and is the one the cache adds. -/
  verifier : ∀ name entry held, Adds cache.setNewRestrictedVerifier name entry →
    globals.passets.setNewRestrictedVerifier.toRemove[name]? = some held →
    held.fUndoingRessiue = true ∧ held.verifier = entry.verifier
  /-- A change of a tag pending undoing below is the opposite of the one the cache adds. -/
  qualifier : ∀ key entry held, Adds cache.setNewQualifierAddress key entry →
    globals.passets.setNewQualifierAddress.toRemove[key]? = some held →
    (held.type = .removeQualifier ↔ entry.type = .addQualifier)
  /-- A root qualifier with a removed sub-qualifier noted is held anyway. -/
  rootQualifier : ∀ name address,
    cache.setNewQualifierAddress.pending globals.passets.setNewQualifierAddress (name, address) = none →
    noted cache.mapRootQualifierAddressesRemove (name, address) = true →
    cache.rootQualifierNoted name address = true
      ∨ globals.passets.rootQualifierNoted name address = true
      ∨ globals.storedQualifier name address = true
  restriction : ∀ key entry held, Adds cache.setNewRestrictedAddress key entry →
    globals.passets.setNewRestrictedAddress.toRemove[key]? = some held →
    (held.type = .unfreezeAddress ↔ entry.type = .freezeAddress)
  globalRestriction : ∀ name entry held, Adds cache.setNewRestrictedGlobal name entry →
    globals.passets.setNewRestrictedGlobal.toRemove[name]? = some held →
    (held.type = .globalUnfreeze ↔ entry.type = .globalFreeze)

/-! ## Each question -/

theorem existence_iff :
    (∀ name, (globals.flushed cache).passets.checkIfAssetExists (globals.flushed cache) name
        = cache.checkIfAssetExists globals name)
      ↔ (globals.fReindex = false → ∀ name entry, Adds cache.setNewAssets name entry →
          globals.passets.setNewAssets.toRemove[name]? = none) := by
  cases reindexing : globals.fReindex with
  | true => simp [checkIfAssetExists, AssetGlobals.flushed, reindexing]
  | false =>
    have each : ∀ name, (globals.flushed cache).passets.checkIfAssetExists (globals.flushed cache) name
          = cache.checkIfAssetExists globals name
        ↔ ∀ entry, Adds cache.setNewAssets name entry →
            globals.passets.setNewAssets.toRemove[name]? = none := by
      intro name
      simp only [checkIfAssetExists, AssetGlobals.flushed, reindexing, Bool.false_eq_true, if_false]
      apply (ChangeSet.answer_flush_iff false globals.passets.setNewAssets _ _ (fun _ => rfl)
        (.inr fun _ _ => rfl)).trans
      simp only [Adds, and_imp]
      cases globals.passets.setNewAssets.toRemove[name]? <;> simp [existenceFor]
    simp [each]

theorem metadata_iff :
    (∀ name, (globals.flushed cache).passets.getAssetMetaDataIfExists (globals.flushed cache) name
        = cache.getAssetMetaDataIfExists globals name)
      ↔ ∀ name entry, Adds cache.setNewAssets name entry →
          cache.mapReissuedAssetData[name]? = none →
          globals.passets.mapReissuedAssetData[name]? = none →
          globals.passets.setNewAssets.toRemove[name]? = none
            ∧ ∀ held, globals.passets.setNewAssets.toAdd[name]? = some held →
                held.asset = entry.asset ∧ held.blockHeight = entry.blockHeight
                  ∧ held.blockHash = entry.blockHash := by
  apply forall_congr'
  intro name
  simp only [getAssetMetaDataIfExists, AssetGlobals.flushed, CAssetsCache.flush, getElem?_overwrite]
  cases own : cache.mapReissuedAssetData[name]? with
  | some asset => simp
  | none =>
    cases below : globals.passets.mapReissuedAssetData[name]? with
    | some asset => simp
    | none =>
      let answer := fun found =>
        (metadataFor (globals.storedAsset name) found).map (·.metaData)
      apply (ChangeSet.answer_flush_iff false globals.passets.setNewAssets answer answer
        (fun _ => rfl) (.inr fun _ _ => rfl)).trans
      simp only [Adds, and_imp]
      cases globals.passets.setNewAssets.toRemove[name]? with
      | some held => simp [answer, metadataFor]
      | none =>
        cases globals.passets.setNewAssets.toAdd[name]? <;>
          simp [answer, metadataFor, CDatabasedAssetData.metaData, CAssetCacheNewAsset.data, eq_comm]

theorem verifier_iff :
    (∀ name, (globals.flushed cache).passets.getAssetVerifierStringIfExists (globals.flushed cache)
          false name
        = cache.getAssetVerifierStringIfExists globals false name)
      ↔ ∀ name entry held, Adds cache.setNewRestrictedVerifier name entry →
          globals.passets.setNewRestrictedVerifier.toRemove[name]? = some held →
          held.fUndoingRessiue = true ∧ held.verifier = entry.verifier := by
  apply forall_congr'
  intro name
  apply (ChangeSet.answer_flush_iff true globals.passets.setNewRestrictedVerifier _ _
    (fun _ => rfl) (.inl rfl)).trans
  simp only [Adds, and_imp]
  cases globals.passets.setNewRestrictedVerifier.toRemove[name]? with
  | none => simp
  | some held =>
    cases undoing : held.fUndoingRessiue <;> simp [verifierFor, undoing]

theorem restriction_iff :
    (∀ name address, (globals.flushed cache).passets.checkForAddressRestriction
          (globals.flushed cache) false name address
        = cache.checkForAddressRestriction globals false name address)
      ↔ ∀ key entry held, Adds cache.setNewRestrictedAddress key entry →
          globals.passets.setNewRestrictedAddress.toRemove[key]? = some held →
          (held.type = .unfreezeAddress ↔ entry.type = .freezeAddress) := by
  rw [Prod.forall]
  apply forall_congr'
  intro name
  apply forall_congr'
  intro address
  apply (ChangeSet.answer_flush_iff true globals.passets.setNewRestrictedAddress _ _
    (fun _ => rfl) (.inl rfl)).trans
  simp only [Adds, and_imp]
  cases globals.passets.setNewRestrictedAddress.toRemove[(name, address)]? with
  | none => simp
  | some held => simp [restrictionFor]

theorem globalRestriction_iff :
    (∀ name, (globals.flushed cache).passets.checkForGlobalRestriction (globals.flushed cache) false
          name
        = cache.checkForGlobalRestriction globals false name)
      ↔ ∀ name entry held, Adds cache.setNewRestrictedGlobal name entry →
          globals.passets.setNewRestrictedGlobal.toRemove[name]? = some held →
          (held.type = .globalUnfreeze ↔ entry.type = .globalFreeze) := by
  apply forall_congr'
  intro name
  apply (ChangeSet.answer_flush_iff true globals.passets.setNewRestrictedGlobal _ _
    (fun _ => rfl) (.inl rfl)).trans
  simp only [Adds, and_imp]
  cases globals.passets.setNewRestrictedGlobal.toRemove[name]? with
  | none => simp
  | some held => simp [globalRestrictionFor]

/-- Beside the pending tags, the notes on root qualifiers count, and the flush adds to
them. -/
theorem qualifier_iff :
    (∀ name address, (globals.flushed cache).passets.checkForAddressQualifier (globals.flushed cache)
          false name address
        = cache.checkForAddressQualifier globals false name address)
      ↔ (∀ key entry held, Adds cache.setNewQualifierAddress key entry →
          globals.passets.setNewQualifierAddress.toRemove[key]? = some held →
          (held.type = .removeQualifier ↔ entry.type = .addQualifier))
        ∧ ∀ name address,
          cache.setNewQualifierAddress.pending globals.passets.setNewQualifierAddress (name, address) = none →
          noted cache.mapRootQualifierAddressesRemove (name, address) = true →
          cache.rootQualifierNoted name address = true
            ∨ globals.passets.rootQualifierNoted name address = true
            ∨ globals.storedQualifier name address = true := by
  rw [Prod.forall, ← forall_and]
  apply forall_congr'
  intro name
  rw [← forall_and]
  apply forall_congr'
  intro address
  apply (ChangeSet.answer_flush_iff true globals.passets.setNewQualifierAddress
    (qualifierFor (cache.rootQualifierNoted name address
      || globals.passets.rootQualifierNoted name address || globals.storedQualifier name address)) _
    (fun found => by cases found <;> rfl) (.inl rfl)).trans
  rw [and_comm]
  apply and_congr
  · simp only [Adds, and_imp]
    cases globals.passets.setNewQualifierAddress.toRemove[(name, address)]? with
    | none => simp
    | some held => simp [qualifierFor]
  · have stored : (globals.flushed cache).storedQualifier name address
        = globals.storedQualifier name address := rfl
    have after : (globals.flushed cache).passets.rootQualifierNoted name address
        = ((globals.passets.rootQualifierNoted name address || cache.rootQualifierNoted name address)
          || noted cache.mapRootQualifierAddressesRemove (name, address)) := by
      simp only [AssetGlobals.flushed, CAssetsCache.flush, rootQualifierNoted, noted_noteAll]
    simp only [unlessSkipped, Bool.false_eq_true, if_false, qualifierFor, stored, after]
    cases cache.rootQualifierNoted name address <;> cases globals.storedQualifier name address <;> simp

/-! ## All questions -/

theorem flush_transparent_iff : FlushTransparent globals cache ↔ FlushUnshadowed globals cache := by
  constructor
  · intro transparent
    have tags := (qualifier_iff globals cache).mp transparent.qualifier
    exact
      { existence := (existence_iff globals cache).mp transparent.existence
        metadata := (metadata_iff globals cache).mp transparent.metadata
        verifier := (verifier_iff globals cache).mp transparent.verifier
        qualifier := tags.1
        rootQualifier := tags.2
        restriction := (restriction_iff globals cache).mp transparent.restriction
        globalRestriction := (globalRestriction_iff globals cache).mp transparent.globalRestriction }
  · intro unshadowed
    exact
      { existence := (existence_iff globals cache).mpr unshadowed.existence
        metadata := (metadata_iff globals cache).mpr unshadowed.metadata
        verifier := (verifier_iff globals cache).mpr unshadowed.verifier
        qualifier := (qualifier_iff globals cache).mpr ⟨unshadowed.qualifier, unshadowed.rootQualifier⟩
        restriction := (restriction_iff globals cache).mpr unshadowed.restriction
        globalRestriction := (globalRestriction_iff globals cache).mpr unshadowed.globalRestriction }

/-- An address gets a tag of a sub-qualifier and loses it again in one cache. -/
def retaggedCache : CAssetsCache :=
  let tag := ascii "#KYC/#ONE"
  let address := ascii "BCuf7Zghzuca6V6xs1mbGXsia7tug15LTw"
  (CAssetsCache.empty.addQualifierAddress tag address .addQualifier).addQualifierAddress tag address
    .removeQualifier

/-- The cache says that the address does not have the root qualifier; `passets` says that
it has, after the flush. -/
theorem retaggedCache_not_transparent :
    ¬FlushTransparent
      (AssetGlobals.initial ⟨Digests.tabulated [] (by simp), mainAssetParams⟩ false) retaggedCache := by
  intro transparent
  have same := transparent.qualifier (ascii "#KYC") (ascii "BCuf7Zghzuca6V6xs1mbGXsia7tug15LTw")
  revert same
  decide

end BlackRaven.Assets
