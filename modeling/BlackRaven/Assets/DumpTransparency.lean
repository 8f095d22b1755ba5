import BlackRaven.Assets.Balances
import BlackRaven.Assets.StoreRuns

/-!
Contract: when `DumpCacheToDatabase` keeps the answers of `passets`.

The answers before the dump come from the dirty sets, those after it from the least
recently used caches and the databases.

Owns: in which states of a run every answer is kept. The answers can change where a
reissue is pending, where a removed asset has a stored verifier, where the notes on root
qualifiers differ from the tags held, where an entry has a type the dump passes over, and
where the dirty balance is not the one that is written.
-/

namespace BlackRaven.Assets

open Consensus Lib Primitives CAssetsCache AssetGlobals CacheState

/-! ## The answers before and after -/

/-- The answers after a dump are those before it; tags and freezes for the pairs asked
about. -/
structure DumpTransparent (globals : AssetGlobals) (asked : Set (Bytes × Bytes)) : Prop where
  existence : ∀ name,
    globals.dumpCacheToDatabase.passets.checkIfAssetExists globals.dumpCacheToDatabase name
      = globals.passets.checkIfAssetExists globals name
  metadata : ∀ name,
    globals.dumpCacheToDatabase.passets.getAssetMetaDataIfExists globals.dumpCacheToDatabase name
      = globals.passets.getAssetMetaDataIfExists globals name
  verifier : ∀ name,
    globals.dumpCacheToDatabase.passets.getAssetVerifierStringIfExists globals.dumpCacheToDatabase
        false name
      = globals.passets.getAssetVerifierStringIfExists globals false name
  qualifier : ∀ name address, (name, address) ∈ asked →
    globals.dumpCacheToDatabase.passets.checkForAddressQualifier globals.dumpCacheToDatabase
        false name address
      = globals.passets.checkForAddressQualifier globals false name address
  restriction : ∀ name address, (name, address) ∈ asked →
    globals.dumpCacheToDatabase.passets.checkForAddressRestriction globals.dumpCacheToDatabase
        false name address
      = globals.passets.checkForAddressRestriction globals false name address
  globalRestriction : ∀ name,
    globals.dumpCacheToDatabase.passets.checkForGlobalRestriction globals.dumpCacheToDatabase false name
      = globals.passets.checkForGlobalRestriction globals false name
  balance : ∀ name address,
    (globals.dumpCacheToDatabase.passets.bestAssetAddressAmount globals.dumpCacheToDatabase name
        address).getD 0
      = (globals.passets.bestAssetAddressAmount globals name address).getD 0

def IsBelow (name tag : Bytes) : Prop := (name ++ ascii "/").isPrefixOf tag = true

/-- Whether an address has a tag itself: what is pending, or else the stored row. -/
def AssetGlobals.hasTag (globals : AssetGlobals) (name address : Bytes) : Bool :=
  qualifierFor (globals.prestricteddb.addressQualifier.contains (address, name))
    (globals.passets.setNewQualifierAddress.pending globals.passets.setNewQualifierAddress (name, address))

structure DumpSettled (globals : AssetGlobals) (asked : Set (Bytes × Bytes)) : Prop where
  reissues : ∀ name : Bytes, globals.passets.mapReissuedAssetData[name]? = none
  /-- A removed asset has no stored verifier, unless one is pending or cached. -/
  verifiers : ∀ name : Bytes, globals.passets.setNewAssets.toRemove[name]?.isSome = true →
    globals.passets.setNewRestrictedVerifier.pending globals.passets.setNewRestrictedVerifier name = none →
    globals.passetsVerifierCache.get name = none → globals.prestricteddb.verifier[name]? = none
  /-- Where a tag is pending and taken away, the address has no tag below it. -/
  pendingTags : ∀ name address, (name, address) ∈ asked →
    (globals.passets.setNewQualifierAddress.pending globals.passets.setNewQualifierAddress
      (name, address)).isSome = true →
    globals.hasTag name address = true ∨ ¬∃ tag, IsBelow name tag ∧ globals.hasTag tag address = true
  /-- Where no tag is pending and none is stored, a note or a stored tag below stand for a
  tag the address has, and the other way round. -/
  otherTags : ∀ name address, (name, address) ∈ asked →
    globals.passets.setNewQualifierAddress.pending globals.passets.setNewQualifierAddress
      (name, address) = none →
    globals.prestricteddb.addressQualifier.contains (address, name) = true
      ∨ ((globals.passets.rootQualifierNoted name address = true
          ∨ ∃ tag, IsBelow name tag ∧ globals.prestricteddb.addressQualifier.contains (address, tag) = true)
        ↔ ∃ tag, IsBelow name tag ∧ globals.hasTag tag address = true)
  /-- An entry of a type that is not one of addresses finds no stored freeze. -/
  restrictions : ∀ name address, (name, address) ∈ asked → ∀ entry,
    globals.passets.setNewRestrictedAddress.toAdd[(name, address)]? = some entry
      ∨ globals.passets.setNewRestrictedAddress.toRemove[(name, address)]? = some entry →
    entry.type.freezesAddress = none →
    globals.prestricteddb.restrictedAddress.contains (address, name) = false
  globalRestrictions : ∀ (name : Bytes) entry,
    globals.passets.setNewRestrictedGlobal.toAdd[name]? = some entry
      ∨ globals.passets.setNewRestrictedGlobal.toRemove[name]? = some entry →
    entry.type.freezesAll = none → globals.prestricteddb.globalRestriction.contains name = false
  /-- The dirty balance is written, or is what the issues and removals leave. -/
  balances : globals.fAssetIndex = true → ∀ name address,
    globals.passets.Rewrites name address
      ∨ globals.passets.leftBalance name address (globals.balance name address)
        = (globals.passets.dirtyBalance name address).getD (globals.balance name address)

section Questions

@[simp] theorem passets_dumped (globals : AssetGlobals) : globals.dumpCacheToDatabase.passets = .empty :=
  rfl

variable {globals : AssetGlobals} {asked : Set (Bytes × Bytes)} {name address : Bytes} (tidy : globals.passets.Tidy asked)
  (agrees : globals.Agrees globals.env asked)
  (injective : Set.InjOn (fun pair : Bytes × Bytes => globals.env.entryHash pair.1 pair.2) asked)

include tidy agrees injective in
theorem agrees_dumped :
    globals.dumpCacheToDatabase.Agrees globals.dumpCacheToDatabase.env asked :=
  agrees.dumpStore injective tidy

/-! ## Assets -/

include tidy in
/-- The row of an asset after the dump, where no reissue is pending. -/
theorem assetData_dumped (noReissue : ∀ name : Bytes, globals.passets.mapReissuedAssetData[name]? = none)
    (name : Bytes) :
    globals.dumpCacheToDatabase.passetsdb.assetData[name]?
      = metadataFor globals.passetsdb.assetData[name]?
          (globals.passets.setNewAssets.pending globals.passets.setNewAssets name) := by
  let assets := dumpAssets globals.fAssetIndex globals.passets globals.toAssetStore
  have stages := congrArg (fun store => store.passetsdb.assetData[name]?)
    (dumpStore_assets globals.env globals.fAssetIndex globals.passets globals.toAssetStore)
  have noReissues : dumpedIssues globals.fAssetIndex globals.passets globals.toAssetStore
      = dumpOwnersAndTransfers globals.fAssetIndex globals.passets assets :=
    dumpReissues_of_none _ _ noReissue
  have owners := congrArg (fun store => store.passetsdb.assetData[name]?)
    (dumpOwnersAndTransfers_frame globals.fAssetIndex globals.passets assets)
  rw [noReissues] at stages
  exact (stages.trans owners).trans
    (assetData_dumpAssets globals.fAssetIndex globals.toAssetStore tidy.newAssets tidy.newAssetsSeparate name)

include tidy agrees injective in
theorem storedAsset_dumped
    (noReissue : ∀ name : Bytes, globals.passets.mapReissuedAssetData[name]? = none) (name : Bytes) :
    globals.dumpCacheToDatabase.storedAsset name
      = metadataFor (globals.storedAsset name)
          (globals.passets.setNewAssets.pending globals.passets.setNewAssets name) := by
  rw [storedAsset_eq (agrees_dumped tidy agrees injective).assets,
    storedAsset_eq agrees.assets, assetData_dumped tidy noReissue]

include tidy agrees injective in
theorem existence_dumped
    (noReissue : ∀ name : Bytes, globals.passets.mapReissuedAssetData[name]? = none) (name : Bytes) :
    globals.dumpCacheToDatabase.passets.checkIfAssetExists globals.dumpCacheToDatabase name
      = globals.passets.checkIfAssetExists globals name := by
  unfold checkIfAssetExists
  rw [storedAsset_dumped tidy agrees injective noReissue name, passets_dumped, CAssetsCache.empty,
    ChangeSet.pending_empty]
  congr 1
  cases globals.passets.setNewAssets.pending globals.passets.setNewAssets name with
  | none => rfl
  | some change => cases change <;> rfl

include tidy agrees injective in
theorem metadata_dumped_iff :
    (∀ name,
        globals.dumpCacheToDatabase.passets.getAssetMetaDataIfExists globals.dumpCacheToDatabase name
          = globals.passets.getAssetMetaDataIfExists globals name)
      ↔ ∀ name : Bytes, globals.passets.mapReissuedAssetData[name]? = none := by
  have after : ∀ name,
      globals.dumpCacheToDatabase.passets.getAssetMetaDataIfExists globals.dumpCacheToDatabase name
        = (globals.dumpCacheToDatabase.storedAsset name).map (·.metaData) := by
    intro name
    have noData : globals.dumpCacheToDatabase.passets.mapReissuedAssetData[name]? = none :=
      Std.TreeMap.getElem?_emptyc
    unfold getAssetMetaDataIfExists
    rw [noData, passets_dumped, CAssetsCache.empty, ChangeSet.pending_empty]
    rfl
  constructor
  · intro same name
    -- a pending reissue answers without the height and the hash of the issue
    cases pending : globals.passets.mapReissuedAssetData[name]? with
    | none => rfl
    | some asset =>
      have answers := same name
      rw [after] at answers
      unfold getAssetMetaDataIfExists at answers
      rw [pending] at answers
      obtain ⟨data, _, isData⟩ := Option.map_eq_some_iff.mp answers
      have issued := congrArg AssetMetaData.issued isData
      cases issued
  · intro noReissue name
    rw [after, storedAsset_dumped tidy agrees injective noReissue]
    unfold getAssetMetaDataIfExists
    rw [noReissue name]
    rfl

/-! ## Verifiers -/

include tidy in
theorem verifier_dumped_iff (name : Bytes) :
    (globals.dumpCacheToDatabase.passets.getAssetVerifierStringIfExists globals.dumpCacheToDatabase
          false name
        = globals.passets.getAssetVerifierStringIfExists globals false name)
      ↔ (globals.passets.setNewAssets.toRemove[name]?.isSome = true →
        globals.passets.setNewRestrictedVerifier.pending globals.passets.setNewRestrictedVerifier name = none →
        globals.passetsVerifierCache.get name = none →
        globals.prestricteddb.verifier[name]? = none) := by
  have row : globals.dumpCacheToDatabase.prestricteddb.verifier[name]? = _ :=
    verifier_dumpStore globals.env globals.fAssetIndex globals.toAssetStore tidy name
  have cached : globals.dumpCacheToDatabase.passetsVerifierCache.get name = _ :=
    verifierCache_dumpStore globals.env globals.fAssetIndex globals.toAssetStore tidy name
  unfold getAssetVerifierStringIfExists unlessSkipped storedVerifier
  simp only [Bool.false_eq_true, if_false, passets_dumped, CAssetsCache.empty, ChangeSet.pending_empty,
    row, cached]
  cases globals.passets.setNewRestrictedVerifier.pending globals.passets.setNewRestrictedVerifier name with
  | some change => cases change <;> simp [verifierFor]
  | none =>
    cases globals.passetsVerifierCache.get name with
    | some verifier => simp [verifierFor]
    | none =>
      cases globals.passets.setNewAssets.toRemove[name]? with
      | some entry => simp [verifierFor, eq_comm]
      | none => simp [verifierFor]

/-! ## Freezes -/

/-- A row that pending entries set, those of another type apart, against the answer for
what is pending. -/
theorem frozen_dumped_iff {κ ε : Type} {cmp : κ → κ → Ordering} [Std.TransCmp cmp]
    {changes : ChangeSet κ ε cmp} (separate : changes.Separate) (freezes : ε → Option Bool)
    {answer : Bool → Option (ChangeSet.Pending ε) → Bool} (nothing : ∀ stored, answer stored none = stored)
    (removal : ∀ stored entry, answer stored (some (.removal entry)) = ((freezes entry).map (!·)).getD false)
    (addition : ∀ stored entry, answer stored (some (.addition entry)) = (freezes entry).getD false)
    (stored : Bool) (key : κ) :
    answer ((changes.toRemove[key]?.bind fun entry => (freezes entry).map (!·)).getD
          ((changes.toAdd[key]?.bind freezes).getD stored)) ((ChangeSet.empty : ChangeSet κ ε cmp).pending .empty key)
        = answer stored (changes.pending changes key)
      ↔ ∀ entry, changes.toAdd[key]? = some entry ∨ changes.toRemove[key]? = some entry →
        freezes entry = none → stored = false := by
  rw [ChangeSet.pending_empty, nothing, ChangeSet.pending_self]
  rcases separate key with notAdded | notRemoved
  · rw [notAdded]
    cases changes.toRemove[key]? with
    | none => simp [nothing]
    | some entry => cases kind : freezes entry <;> simp [removal, kind]
  · rw [notRemoved]
    cases changes.toAdd[key]? with
    | none => simp [nothing]
    | some entry => cases kind : freezes entry <;> simp [addition, kind]

include tidy agrees injective in
theorem restriction_dumped_iff (isAsked : (name, address) ∈ asked) :
    (globals.dumpCacheToDatabase.passets.checkForAddressRestriction globals.dumpCacheToDatabase
          false name address
        = globals.passets.checkForAddressRestriction globals false name address)
      ↔ ∀ entry, globals.passets.setNewRestrictedAddress.toAdd[(name, address)]? = some entry
          ∨ globals.passets.setNewRestrictedAddress.toRemove[(name, address)]? = some entry →
        entry.type.freezesAddress = none →
        globals.prestricteddb.restrictedAddress.contains (address, name) = false := by
  have row : globals.dumpCacheToDatabase.prestricteddb.restrictedAddress.contains (address, name) = _ :=
    freeze_dumpStore globals.env globals.fAssetIndex globals.toAssetStore tidy name address
  unfold checkForAddressRestriction
  rw [storedRestriction_eq (agrees_dumped tidy agrees injective).freezes isAsked,
    storedRestriction_eq agrees.freezes isAsked, row]
  apply frozen_dumped_iff tidy.restrictionsSeparate (·.type.freezesAddress) fun _ => rfl
  · rintro stored ⟨_, _, type⟩
    cases type <;> rfl
  · rintro stored ⟨_, _, type⟩
    cases type <;> rfl

include tidy agrees injective in
theorem globalRestriction_dumped_iff (name : Bytes) :
    (globals.dumpCacheToDatabase.passets.checkForGlobalRestriction globals.dumpCacheToDatabase false name
        = globals.passets.checkForGlobalRestriction globals false name)
      ↔ ∀ entry, globals.passets.setNewRestrictedGlobal.toAdd[name]? = some entry
          ∨ globals.passets.setNewRestrictedGlobal.toRemove[name]? = some entry →
        entry.type.freezesAll = none → globals.prestricteddb.globalRestriction.contains name = false := by
  have row : globals.dumpCacheToDatabase.prestricteddb.globalRestriction.contains name = _ :=
    globalFreeze_dumpStore globals.env globals.fAssetIndex globals.toAssetStore tidy name
  unfold checkForGlobalRestriction
  rw [storedGlobalRestriction_eq (agrees_dumped tidy agrees injective).globalFreezes,
    storedGlobalRestriction_eq agrees.globalFreezes, row]
  apply frozen_dumped_iff tidy.globalsSeparate (·.type.freezesAll) fun _ => rfl
  · rintro stored ⟨_, type⟩
    cases type <;> rfl
  · rintro stored ⟨_, type⟩
    cases type <;> rfl

/-! ## Balances -/

include tidy in
theorem quantity_dumped_iff (indexed : globals.fAssetIndex = true) (byAddress : Bool) (name address : Bytes) :
    globals.dumpCacheToDatabase.quantity byAddress name address
        = (globals.passets.dirtyBalance name address).getD (globals.quantity byAddress name address)
      ↔ globals.passets.Rewrites name address
        ∨ globals.passets.leftBalance name address (globals.quantity byAddress name address)
          = (globals.passets.dirtyBalance name address).getD (globals.quantity byAddress name address) := by
  have dumped := quantity_dumpStore_iff globals.env byAddress name address tidy globals.toAssetStore
  rw [← indexed] at dumped
  exact dumped

include tidy in
theorem balance_dumped_iff :
    (∀ name address,
        (globals.dumpCacheToDatabase.passets.bestAssetAddressAmount globals.dumpCacheToDatabase name
            address).getD 0
          = (globals.passets.bestAssetAddressAmount globals name address).getD 0)
      ↔ (globals.fAssetIndex = true → ∀ name address,
        globals.passets.Rewrites name address
          ∨ globals.passets.leftBalance name address (globals.balance name address)
            = (globals.passets.dirtyBalance name address).getD (globals.balance name address)) := by
  have sameFlag : globals.dumpCacheToDatabase.fAssetIndex = globals.fAssetIndex := rfl
  cases indexed : globals.fAssetIndex with
  | false =>
    simp [bestAssetAddressAmount, sameFlag, indexed]
  | true =>
    simp only [forall_const]
    apply forall_congr'
    intro name
    apply forall_congr'
    intro address
    have noDirty : globals.dumpCacheToDatabase.passets.mapAssetsAddressAmount[(name, address)]? = none :=
      Std.TreeMap.getElem?_emptyc
    have after : (globals.dumpCacheToDatabase.passets.bestAssetAddressAmount
        globals.dumpCacheToDatabase name address).getD 0
          = globals.dumpCacheToDatabase.balance name address := by
      unfold bestAssetAddressAmount
      rw [sameFlag, indexed, noDirty]
      rfl
    have before : (globals.passets.bestAssetAddressAmount globals name address).getD 0
        = (globals.passets.dirtyBalance name address).getD (globals.balance name address) := by
      unfold bestAssetAddressAmount dirtyBalance AssetStore.balance
      rw [indexed]
      cases globals.passets.mapAssetsAddressAmount[(name, address)]? <;> rfl
    rw [after, before]
    exact quantity_dumped_iff tidy indexed false name address

/-! ## Tags -/

omit globals asked in
theorem checkForAddressRootQualifier_iff (db : CRestrictedDB) (address name : Bytes) :
    db.checkForAddressRootQualifier address name = true
      ↔ db.addressQualifier.contains (address, name) = true
        ∨ ∃ tag, IsBelow name tag ∧ db.addressQualifier.contains (address, tag) = true := by
  unfold CRestrictedDB.checkForAddressRootQualifier IsBelow
  rw [List.any_eq_true]
  constructor
  · rintro ⟨⟨rowAddress, tag⟩, member, holds⟩
    rw [Std.TreeSet.mem_toList] at member
    have isRow := Std.TreeSet.contains_iff_mem.mpr member
    simp only [Bool.and_eq_true, Bool.or_eq_true, beq_iff_eq] at holds
    obtain ⟨rfl, rfl | below⟩ := holds
    · exact .inl isRow
    · exact .inr ⟨tag, below, isRow⟩
  · rintro (isRow | ⟨tag, below, isRow⟩)
    · refine ⟨(address, name), ?_, by simp⟩
      rw [Std.TreeSet.mem_toList]
      exact Std.TreeSet.contains_iff_mem.mp isRow
    · refine ⟨(address, tag), ?_, by simp [below]⟩
      rw [Std.TreeSet.mem_toList]
      exact Std.TreeSet.contains_iff_mem.mp isRow

include tidy agrees injective in
/-- After the dump an address has a tag if it had it or one below it. -/
theorem checkForAddressQualifier_dumped {name address : Bytes} (isAsked : (name, address) ∈ asked) :
    globals.dumpCacheToDatabase.passets.checkForAddressQualifier globals.dumpCacheToDatabase false name
        address = true
      ↔ globals.hasTag name address = true ∨ ∃ tag, IsBelow name tag ∧ globals.hasTag tag address = true := by
  have notNoted : noted ∅ (name, address) = false := by simp [noted]
  have row : ∀ tag, globals.dumpCacheToDatabase.prestricteddb.addressQualifier.contains (address, tag)
      = globals.hasTag tag address := fun tag =>
    tag_dumpStore globals.env globals.fAssetIndex globals.toAssetStore tidy tag address
  unfold checkForAddressQualifier unlessSkipped rootQualifierNoted
  rw [storedQualifier_eq (agrees_dumped tidy agrees injective).tags isAsked]
  simp only [Bool.false_eq_true, if_false, passets_dumped, notNoted, qualifierFor, Bool.false_or,
    CAssetsCache.empty, ChangeSet.pending_empty, Bool.or_eq_true, checkForAddressRootQualifier_iff, row]
  rw [← or_assoc, or_self]

include tidy agrees injective in
theorem qualifier_dumped_iff (isAsked : (name, address) ∈ asked) :
    (globals.dumpCacheToDatabase.passets.checkForAddressQualifier globals.dumpCacheToDatabase
          false name address
        = globals.passets.checkForAddressQualifier globals false name address)
      ↔ ((globals.passets.setNewQualifierAddress.pending globals.passets.setNewQualifierAddress
            (name, address)).isSome = true →
          globals.hasTag name address = true ∨ ¬∃ tag, IsBelow name tag ∧ globals.hasTag tag address = true)
        ∧ (globals.passets.setNewQualifierAddress.pending globals.passets.setNewQualifierAddress
            (name, address) = none →
          globals.prestricteddb.addressQualifier.contains (address, name) = true
            ∨ ((globals.passets.rootQualifierNoted name address = true
                ∨ ∃ tag, IsBelow name tag
                  ∧ globals.prestricteddb.addressQualifier.contains (address, tag) = true)
              ↔ ∃ tag, IsBelow name tag ∧ globals.hasTag tag address = true)) := by
  rw [Bool.eq_iff_iff, checkForAddressQualifier_dumped tidy agrees injective isAsked]
  unfold checkForAddressQualifier unlessSkipped
  rw [storedQualifier_eq agrees.tags isAsked]
  simp only [Bool.false_eq_true, if_false]
  cases isPending : globals.passets.setNewQualifierAddress.pending
      globals.passets.setNewQualifierAddress (name, address) with
  | some change =>
    -- the pending change is the answer, whatever is stored
    have answer : ∀ stored, qualifierFor stored (some change) = globals.hasTag name address := by
      intro stored
      unfold hasTag
      rw [isPending]
      cases change <;> rfl
    rw [answer]
    simp only [Option.isSome_some, forall_const, reduceCtorEq, false_implies, and_true]
    generalize (∃ tag, IsBelow name tag ∧ globals.hasTag tag address = true) = below
    by_cases held : globals.hasTag name address = true <;> simp [held]
  | none =>
    have own : globals.hasTag name address
        = globals.prestricteddb.addressQualifier.contains (address, name) := by
      unfold hasTag
      rw [isPending]
      rfl
    rw [own]
    simp only [qualifierFor, Bool.or_eq_true, checkForAddressRootQualifier_iff, or_self,
      Option.isSome_none, Bool.false_eq_true, false_implies, forall_const, true_and]
    generalize (∃ tag, IsBelow name tag ∧ globals.hasTag tag address = true) = below
    by_cases held : globals.prestricteddb.addressQualifier.contains (address, name) = true
    · simp [held]
    · simp only [held, Bool.false_eq_true, false_or]
      exact iff_comm

/-! ## All questions -/

include tidy agrees injective in
theorem dumpTransparent_iff : DumpTransparent globals asked ↔ DumpSettled globals asked := by
  constructor
  · intro transparent
    have tags := fun name address isAsked =>
      (qualifier_dumped_iff tidy agrees injective isAsked).mp (transparent.qualifier name address isAsked)
    exact
      { reissues := (metadata_dumped_iff tidy agrees injective).mp transparent.metadata
        verifiers := fun name => (verifier_dumped_iff tidy name).mp (transparent.verifier name)
        pendingTags := fun name address isAsked => (tags name address isAsked).1
        otherTags := fun name address isAsked => (tags name address isAsked).2
        restrictions := fun name address isAsked =>
          (restriction_dumped_iff tidy agrees injective isAsked).mp
            (transparent.restriction name address isAsked)
        globalRestrictions := fun name =>
          (globalRestriction_dumped_iff tidy agrees injective name).mp (transparent.globalRestriction name)
        balances := (balance_dumped_iff tidy).mp transparent.balance }
  · intro settled
    exact
      { existence := existence_dumped tidy agrees injective settled.reissues
        metadata := (metadata_dumped_iff tidy agrees injective).mpr settled.reissues
        verifier := fun name => (verifier_dumped_iff tidy name).mpr (settled.verifiers name)
        qualifier := fun name address isAsked => (qualifier_dumped_iff tidy agrees injective isAsked).mpr
          ⟨settled.pendingTags name address isAsked, settled.otherTags name address isAsked⟩
        restriction := fun name address isAsked =>
          (restriction_dumped_iff tidy agrees injective isAsked).mpr (settled.restrictions name address isAsked)
        globalRestriction := fun name =>
          (globalRestriction_dumped_iff tidy agrees injective name).mpr (settled.globalRestrictions name)
        balance := (balance_dumped_iff tidy).mpr settled.balances }

end Questions

/-! ## Runs -/

theorem CacheState.storeRun_settings (state : CacheState) (steps : List StoreStep) :
    (state.storeRun steps).settings = state.settings :=
  foldl_untouched settings (fun step _ state => storeStep_settings state step) state

/-- In the states of a run from a node that has stored nothing, a dump keeps the answers
exactly where the dirty sets are settled. -/
theorem dump_transparent_iff (env : AssetEnv) (fAssetIndex : Bool) (asked : Set (Bytes × Bytes))
    (injective : Set.InjOn (fun pair : Bytes × Bytes => env.entryHash pair.1 pair.2) asked)
    (steps : List StoreStep) (within : ∀ step ∈ steps, step.Within asked) :
    DumpTransparent ((CacheState.start env fAssetIndex).storeRun steps).globals asked
      ↔ DumpSettled ((CacheState.start env fAssetIndex).storeRun steps).globals asked := by
  have sound := (sound_start env fAssetIndex).storeRun injective within
  apply dumpTransparent_iff sound.passets sound.agrees
  rw [show ((CacheState.start env fAssetIndex).storeRun steps).globals.env = env from
    congrArg Prod.fst (storeRun_settings _ steps)]
  exact injective

def kycHolder : Bytes := ascii "BCuf7Zghzuca6V6xs1mbGXsia7tug15LTw"

def untabulatedEnv : AssetEnv := ⟨Digests.tabulated [] Digests.nil_sized, mainAssetParams⟩

/-- In the states of a run with the asset index, a dump leaves a dirty balance in both
directions of the index exactly where it is written, or is what the issues and removals
leave. -/
theorem dump_quantity_iff (env : AssetEnv) (steps : List StoreStep) {globals : AssetGlobals}
    (reached : ((CacheState.start env true).storeRun steps).globals = globals) {name address : Bytes}
    {amount : CAmount} (dirty : globals.passets.mapAssetsAddressAmount[(name, address)]? = some amount) :
    (∀ byAddress, globals.dumpCacheToDatabase.quantity byAddress name address = amount)
      ↔ globals.passets.Rewrites name address
        ∨ ∀ byAddress,
          globals.passets.leftBalance name address (globals.quantity byAddress name address) = amount := by
  have indexed : globals.fAssetIndex = true :=
    reached ▸ congrArg Prod.snd (storeRun_settings (start env true) steps)
  have tidy := (assetsSound_storeRun env true steps).passets
  rw [reached] at tidy
  have isDirty : globals.passets.dirtyBalance name address = some amount := dirty
  have each := fun byAddress => quantity_dumped_iff tidy indexed byAddress name address
  simp only [isDirty, Option.getD_some] at each
  rw [forall_congr' each, forall_or_left]

def issuedSteps : List StoreStep :=
  [.cache (.op (.addNewAsset blackbird kycHolder 7 0)), .cache (.flush true)]

theorem dump_quantity_issuedSteps :
    let globals := ((CacheState.start untabulatedEnv true).storeRun issuedSteps).globals
    ∀ byAddress, globals.dumpCacheToDatabase.quantity byAddress blackbird.strName kycHolder = 100000000 :=
  (dump_quantity_iff untabulatedEnv issuedSteps rfl (by decide)).mpr (.inr (by decide))

/-- The issue is undone, and the asset is issued to another address. The entry of the new
issue takes the place of the removal, and the dump leaves the old holder its balance. -/
theorem dump_quantity_issuedElsewhere :
    let elsewhere := issuedSteps ++ [.dump, .cache (.op (.removeNewAsset blackbird kycHolder)),
      .cache (.flush true), .cache (.op (.addNewAsset blackbird (ascii "elsewhere") 9 0)),
      .cache (.flush true)]
    let globals := ((CacheState.start untabulatedEnv true).storeRun elsewhere).globals
    globals.passets.mapAssetsAddressAmount[(blackbird.strName, kycHolder)]? = some 0
      ∧ globals.dumpCacheToDatabase.quantity false blackbird.strName kycHolder = 100000000 := by
  decide

/-- An address with a tag and one below it. -/
def taggedPairs : List (Bytes × Bytes) := [(ascii "#KYC", kycHolder), (ascii "#KYC/#A", kycHolder)]

def taggedSteps : List StoreStep :=
  taggedPairs.map (fun pair => .cache (.op (.addQualifierAddress pair.1 pair.2 .addQualifier)))
    ++ [.cache (.flush true)]

def taggedEnv : AssetEnv :=
  ⟨Digests.tabulated (Digests.hashRows [(ascii "#KYC" ++ kycHolder,
      0x8073531f282b4df95c5c91328bbc2d2042cc2e9ae5e3c143b85881eb4b207537,
      0x1bb4c155edac234d6efca6c340c525462efe83e5fc3b627278a6e4032fa5739e),
    (ascii "#KYC/#A" ++ kycHolder,
      0xcccc1e424169ee1bb14857c4eaf1f9812eb76d5bbba2165d811b151967bc086b,
      0xdbb2812997865157c47d3b4f3742c5b15e993c176a1aec9be2b65f74555957a4)]) (by decide),
    mainAssetParams⟩

theorem dump_transparent_taggedSteps :
    DumpTransparent ((start taggedEnv true).storeRun taggedSteps).globals {pair | pair ∈ taggedPairs} := by
  have injective : ∀ left ∈ taggedPairs, ∀ right ∈ taggedPairs,
      taggedEnv.entryHash left.1 left.2 = taggedEnv.entryHash right.1 right.2 → left = right := by decide
  have held : ∀ pair ∈ taggedPairs,
      let globals := ((start taggedEnv true).storeRun taggedSteps).globals
      (globals.passets.setNewQualifierAddress.pending globals.passets.setNewQualifierAddress pair).isSome = true
        ∧ globals.hasTag pair.1 pair.2 = true := by decide
  refine (dump_transparent_iff taggedEnv true {pair | pair ∈ taggedPairs} (fun _ isLeft _ => injective _ isLeft _)
    taggedSteps (by simp [taggedSteps, taggedPairs, StoreStep.Within, CacheOp.Within])).mpr
    { reissues := fun _ => Std.TreeMap.getElem?_emptyc
      verifiers := ?_
      pendingTags := fun name address isAsked _ => .inl (held _ isAsked).2
      otherTags := fun name address isAsked none_ => ?_
      restrictions := ?_
      globalRestrictions := ?_
      balances := fun _ name address => .inr rfl }
  · intro name removed
    cases removed
  · have pending := (held _ isAsked).1
    rw [none_] at pending
    cases pending
  · rintro name address - entry (⟨⟨⟩⟩ | ⟨⟨⟩⟩)
  · rintro name entry (⟨⟨⟩⟩ | ⟨⟨⟩⟩)

def reissuedSteps : List StoreStep :=
  [.cache (.op (.addNewAsset blackbird kycHolder 7 0)), .cache (.flush true), .dump,
    .cache (.op (.addReissueAsset ⟨blackbird.strName, 100000000, 0, 1, []⟩ kycHolder ⟨0, 0⟩)),
    .cache (.flush true)]

/-- Before the dump the metadata comes without the height of the issue, after it with the
height. -/
theorem reissuedSteps_not_transparent :
    ¬DumpTransparent ((CacheState.start untabulatedEnv false).storeRun reissuedSteps).globals ∅ := by
  intro transparent
  have same := transparent.metadata blackbird.strName
  revert same
  decide

end BlackRaven.Assets
