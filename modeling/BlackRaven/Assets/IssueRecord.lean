import BlackRaven.Assets.DumpTransparency

/-!
Contract: the height and the block hash of an issue, as the sets of a `CAssetsCache` and
the database store them through reissues, undone reissues, flushes and dumps.

Owns: they stay those of the issue as long as no reissue of the asset is pending when the
next one is made or undone. `GetAssetMetaDataIfExists` answers for a pending reissue
without them, and the entry made with that answer is what the dump writes.

Does not own: issues and removals of the asset after the first issue.
-/

namespace BlackRaven.Assets

open Lib Primitives CAssetsCache

variable {name : Bytes} {issue : Option Int × Uint256}

namespace CAssetsCache

/-- What the sets of a cache say of an issue: its height and its block hash. -/
structure Records (name : Bytes) (issue : Option Int × Uint256) (cache : CAssetsCache) : Prop where
  issues : ∀ entry, cache.setNewAssets.toAdd[name]? = some entry → entry.data.metaData.issued = some issue
  notRemoved : cache.setNewAssets.toRemove[name]? = none
  reissues : cache.setNewReissue.Each fun _ entry =>
    entry.reissue.strName = name → (entry.blockHeight, entry.blockHash) = issue

/-- No removal and no reissue of an asset is pending. -/
def Clear (name : Bytes) (cache : CAssetsCache) : Prop :=
  cache.setNewAssets.toRemove[name]? = none
    ∧ cache.setNewReissue.Each fun _ entry => entry.reissue.strName ≠ name

variable {cache passets changed : CAssetsCache} {globals : AssetGlobals} {reissue : CReissueAsset}
  {address : Bytes} {out : COutPoint} {vUndoIPFS : List (Bytes × CBlockAssetUndo)}

theorem Records.empty : Records name issue .empty where
  issues := by simp [CAssetsCache.empty, ChangeSet.empty]
  notRemoved := by simp [CAssetsCache.empty, ChangeSet.empty]
  reissues := by simp [ChangeSet.Each, CAssetsCache.empty, ChangeSet.empty]

theorem Records.flush (records : cache.Records name issue) (below : passets.Records name issue) :
    (cache.flush passets).Records name issue where
  issues := by
    intro entry found
    have flushed := (ChangeSet.getElem?_flush false cache.setNewAssets passets.setNewAssets name).1
    rw [records.notRemoved] at flushed
    rcases ChangeSet.passOn_eq_some (flushed.symm.trans found) with lower | upper
    · exact below.issues entry lower
    · exact records.issues entry upper
  notRemoved := by
    have flushed := (ChangeSet.getElem?_flush false cache.setNewAssets passets.setNewAssets name).2
    rw [records.notRemoved, below.notRemoved, ite_self] at flushed
    exact flushed
  reissues := records.reissues.flush below.reissues false

theorem reissueEntry_issued {found : AssetMetaData} (issued : found.issued = some issue) :
    ((reissueEntry reissue address out found).blockHeight,
      (reissueEntry reissue address out found).blockHash) = issue := by
  unfold reissueEntry
  rw [issued]
  rfl

end CAssetsCache

/-! ## States -/

namespace CacheState

/-- Whatever is stored of an issued asset says the height and the block hash of the
issue, and something is stored. -/
structure IssueKept (name : Bytes) (issue : Option Int × Uint256) (state : CacheState) : Prop where
  cache : state.cache.Records name issue
  passets : state.globals.passets.Records name issue
  stored : ∀ data, state.globals.storedAsset name = some data → data.metaData.issued = some issue
  present : state.cache.setNewAssets.toAdd[name]?.isSome = true
    ∨ state.globals.passets.setNewAssets.toAdd[name]?.isSome = true
    ∨ (state.globals.storedAsset name).isSome = true

def NoReissuePending (name : Bytes) (state : CacheState) : Prop :=
  state.cache.mapReissuedAssetData[name]? = none ∧ state.globals.passets.mapReissuedAssetData[name]? = none

/-- A reissue, an undone reissue, a flush or a dump; a reissue of the asset itself is made
and undone only where none is pending. -/
def Settled (name : Bytes) (state : CacheState) : StoreStep → Prop
  | .cache (.op (.addReissueAsset reissue _ _)) => reissue.strName = name → state.NoReissuePending name
  | .cache (.op (.removeReissueAsset reissue _ _ _)) =>
    reissue.strName = name → state.NoReissuePending name
  | .cache (.flush _) => True
  | .dump => True
  | _ => False

def SettledRun (name : Bytes) : CacheState → List StoreStep → Prop
  | _, [] => True
  | state, step :: rest => state.Settled name step ∧ SettledRun name (state.storeStep step) rest

variable {state : CacheState}

theorem IssueKept.metaData (kept : state.IssueKept name issue) (none : state.NoReissuePending name)
    {found : AssetMetaData} (isFound : state.cache.getAssetMetaDataIfExists state.globals name = some found) :
    found.issued = some issue := by
  unfold getAssetMetaDataIfExists at isFound
  rw [none.1, none.2] at isFound
  obtain ⟨data, isData, rfl⟩ := Option.map_eq_some_iff.mp isFound
  cases isPending : state.cache.setNewAssets.pending state.globals.passets.setNewAssets name with
  | none =>
    rw [isPending] at isData
    exact kept.stored data isData
  | some change =>
    rw [isPending] at isData
    cases change with
    | removal entry => cases isData
    | addition entry =>
      cases isData
      rcases ChangeSet.pending_eq_addition _ isPending with above | below
      · exact kept.cache.issues entry above
      · exact kept.passets.issues entry below

/-- An operation that touches no new asset and leaves entries of reissues that say the
issue. -/
theorem IssueKept.op (kept : state.IssueKept name issue) {operation : CacheOp}
    (sameAssets : operation.onNewAssets state.cache.setNewAssets = state.cache.setNewAssets)
    (reissues : ∀ changed, operation.apply state.globals state.cache = some changed →
      changed.setNewReissue.Each fun _ entry =>
        entry.reissue.strName = name → (entry.blockHeight, entry.blockHash) = issue) :
    (state.storeStep (.cache (.op operation))).IssueKept name issue := by
  cases applied : operation.apply state.globals state.cache with
  | none =>
    have same : state.storeStep (.cache (.op operation)) = state := by
      simp [storeStep, step, applied]
    rw [same]
    exact kept
  | some changed =>
    have next : state.storeStep (.cache (.op operation)) = { state with cache := changed } := by
      simp [storeStep, step, applied]
    have assets := (operation.apply_setNewAssets applied).trans sameAssets
    rw [next]
    refine { kept with cache := ⟨?_, ?_, reissues changed applied⟩, present := ?_ }
    · rw [assets]
      exact kept.cache.issues
    · rw [assets]
      exact kept.cache.notRemoved
    · rw [assets]
      exact kept.present

theorem IssueKept.flush (kept : state.IssueKept name issue) (renew : Bool) :
    (state.storeStep (.cache (.flush renew))).IssueKept name issue where
  cache := by
    cases renew with
    | true => exact .empty
    | false => exact kept.cache
  passets := kept.cache.flush kept.passets
  stored := kept.stored
  present := by
    right
    rcases kept.present with above | below | stored
    rotate_right
    · exact .inr stored
    all_goals
      left
      have flushed := (ChangeSet.getElem?_flush false state.cache.setNewAssets
        state.globals.passets.setNewAssets name).1
      rw [kept.cache.notRemoved] at flushed
      refine (congrArg Option.isSome flushed).trans (ChangeSet.passOn_isSome false ?_)
    · exact .inr above
    · exact .inl below

/-- What no balance matters to, a dump's issues leave and every row of a reissue keeps holds of
the row of an asset after the dump. -/
theorem storedAsset_dumped (sound : state.AssetsSound Set.univ) {holds : Option CDatabasedAssetData → Prop}
    (issues : holds (metadataFor (state.globals.storedAsset name)
      (state.globals.passets.setNewAssets.pending state.globals.passets.setNewAssets name)))
    (reissues : ∀ (out : COutPoint) entry data, state.globals.passets.setNewReissue.toAdd[out]? = some entry
        ∨ state.globals.passets.setNewReissue.toRemove[out]? = some entry →
      entry.reissue.strName = name → data.metaData.issued = some (entry.blockHeight, entry.blockHash) →
      holds (some data)) :
    holds ((state.storeStep .dump).globals.storedAsset name) := by
  let holdsIn := fun store : AssetStore => holds store.passetsdb.assetData[name]?
  have balances : ∀ {store changed : AssetStore},
      changed.forgetQuantities = store.forgetQuantities → holdsIn store → holdsIn changed := by
    intro store changed same held
    have row : changed.passetsdb.assetData[name]? = store.passetsdb.assetData[name]? :=
      congrArg (fun store => store.passetsdb.assetData[name]?) same
    simp only [holdsIn]
    rwa [row]
  rw [AssetGlobals.storedAsset_eq sound.agree, ← assetData_dumpAssets state.globals.fAssetIndex
    state.globals.toAssetStore sound.passets.newAssets sound.passets.newAssetsSeparate] at issues
  rw [AssetGlobals.storedAsset_eq (sound.storeStep (storeStep_within_univ .dump)).agree,
    show (state.storeStep .dump).globals.passetsdb.assetData[name]? = _ from
      congrArg (fun store => store.passetsdb.assetData[name]?)
        (dumpStore_assets state.globals.env state.globals.fAssetIndex state.globals.passets
          state.globals.toAssetStore)]
  refine AssetStore.dumpReissues_invariant holdsIn balances ?_
    (balances (dumpOwnersAndTransfers_frame _ _ _) issues)
  intro store out entry asset member found held
  simp only [holdsIn]
  rw [AssetStore.assetData_dumpReissuedData entry (sound.passets.reissued _ asset found) name]
  by_cases isName : name = entry.reissue.strName
  · rw [if_pos isName]
    exact reissues out entry _ member isName.symm rfl
  · rw [if_neg isName]
    exact held

theorem storedAsset_dumped_isSome (sound : state.AssetsSound Set.univ)
    (was : (metadataFor (state.globals.storedAsset name)
      (state.globals.passets.setNewAssets.pending state.globals.passets.setNewAssets name)).isSome = true) :
    ((state.storeStep .dump).globals.storedAsset name).isSome = true :=
  @storedAsset_dumped name state sound (·.isSome = true) was fun _ _ _ _ _ _ => rfl

section

variable (kept : state.IssueKept name issue) (sound : state.AssetsSound Set.univ)

include kept sound

/-- The rows a dump leaves: an added asset gets one, and an entry of a reissue writes what
it says. -/
theorem IssueKept.dump : (state.storeStep .dump).IssueKept name issue := by
  refine ⟨kept.cache, .empty, ?_, ?_⟩
  · apply @storedAsset_dumped name state sound fun row =>
      ∀ data, row = some data → data.metaData.issued = some issue
    · rw [ChangeSet.pending_self, kept.passets.notRemoved]
      cases added : state.globals.passets.setNewAssets.toAdd[name]? with
      | none => exact kept.stored
      | some entry =>
        intro data isData
        cases isData
        exact kept.passets.issues entry added
    · intro out entry row member isName issued data isData
      cases isData
      exact issued.trans (congrArg some (kept.passets.reissues out entry member isName))
  · rcases kept.present with above | below
    · exact .inl above
    · refine .inr (.inr (storedAsset_dumped_isSome sound ?_))
      rw [ChangeSet.pending_self, kept.passets.notRemoved]
      cases added : state.globals.passets.setNewAssets.toAdd[name]? with
      | none => exact below.resolve_left (by simp [added])
      | some entry => rfl

/-! ## Runs -/

theorem IssueKept.storeStep {step : StoreStep} (settled : state.Settled name step) :
    (state.storeStep step).IssueKept name issue := by
  cases step with
  | cache step =>
    cases step with
    | op operation =>
      cases operation with
      | addReissueAsset reissue address out =>
        refine kept.op rfl fun changed adds => ?_
        obtain ⟨found, isFound, part⟩ := addReissueAsset_assetPart adds
        rw [show changed.setNewReissue = _ from congrArg (·.2.2) part]
        apply kept.cache.reissues.add
        rintro rfl
        exact reissueEntry_issued (kept.metaData (settled rfl) isFound)
      | removeReissueAsset reissue address out vUndoIPFS =>
        refine kept.op rfl fun changed removes => ?_
        obtain ⟨found, isFound, _, -, part⟩ := removeReissueAsset_assetPart removes
        rw [show changed.setNewReissue = _ from congrArg (·.2.2) part]
        apply kept.cache.reissues.remove
        rintro rfl
        exact reissueEntry_issued (kept.metaData (settled rfl) isFound)
      | _ => exact settled.elim
    | flush renew => exact kept.flush renew
  | dump => exact kept.dump sound
  | _ => exact settled.elim

theorem IssueKept.storeRun {steps : List StoreStep} (settled : SettledRun name state steps) :
    (state.storeRun steps).IssueKept name issue := by
  induction steps generalizing state with
  | nil => exact kept
  | cons step rest ih =>
    exact ih (kept.storeStep sound settled.1) (sound.storeStep (storeStep_within_univ step)) settled.2

end

variable {issued : CacheState} {asset : CNewAsset} {address : Bytes} {nHeight : Int}
  {blockHash : Uint256}

/-- An issue that succeeds finds nothing stored, as long as no removal hides it. -/
theorem issueKept_of_addNewAsset (clear : state.cache.Clear asset.strName)
    (clearBelow : state.globals.passets.Clear asset.strName)
    (issues : state.addNewAsset asset address nHeight blockHash = some issued) :
    issued.IssueKept asset.strName (some nHeight, blockHash) := by
  obtain ⟨changed, applied, rfl⟩ := Option.map_eq_some_iff.mp issues
  obtain ⟨absent, isChanged⟩ := Option.ite_none_left_eq_some.mp applied
  have unknown : state.globals.storedAsset asset.strName = none
      ∧ state.cache.setNewAssets.toAdd[asset.strName]? = none
      ∧ state.globals.passets.setNewAssets.toAdd[asset.strName]? = none := by
    rw [Bool.not_eq_true] at absent
    have notReindexing := notReindexing_of_absent absent
    unfold checkIfAssetExists at absent
    rw [notReindexing, existenceFor_pending, clear.1, clearBelow.1] at absent
    simpa [Option.isSome_eq_false_iff, and_comm, and_assoc, -Std.TreeMap.isSome_getElem?_eq_contains]
      using absent
  have added : changed.setNewAssets = state.cache.setNewAssets.add false asset.strName
      ⟨asset, address, blockHash, nHeight⟩ :=
    CacheOp.apply_setNewAssets (.addNewAsset asset address nHeight blockHash) applied
  have isAdded : changed.setNewAssets.toAdd[asset.strName]?
      = some ⟨asset, address, blockHash, nHeight⟩ := by
    rw [added, ChangeSet.add, ChangeSet.getElem?_record, if_pos rfl, unknown.2.1]
    rfl
  refine ⟨⟨?_, ?_, ?_⟩, ⟨?_, clearBelow.1, ?_⟩, ?_, ?_⟩
  · intro entry found
    cases isAdded.symm.trans found
    rfl
  · rw [added, ChangeSet.add, getElem?_erase_eq, if_pos rfl]
  · have reissues : changed.setNewReissue = state.cache.setNewReissue := by
      cases isChanged
      exact congrArg (·.2.2) (assetPart_updateBalance _ _ _ _ _)
    rw [reissues]
    exact fun out entry found isName => absurd isName (clear.2 out entry found)
  · intro entry found
    cases unknown.2.2.symm.trans found
  · exact fun out entry found isName => absurd isName (clearBelow.2 out entry found)
  · intro data found
    cases unknown.1.symm.trans found
  · exact .inl (by rw [isAdded]; rfl)

theorem AssetsSound.addNewAsset {asked : Set (Bytes × Bytes)} (sound : state.AssetsSound asked)
    (issues : state.addNewAsset asset address nHeight blockHash = some issued) :
    issued.AssetsSound asked := by
  obtain ⟨changed, applied, rfl⟩ := Option.map_eq_some_iff.mp issues
  let operation := CacheOp.addNewAsset asset address nHeight blockHash
  have within : operation.Within asked := trivial
  exact { sound with cache := sound.cache.apply sound.passets sound.agree within applied }

/-- In a node that ran any steps an asset is issued of which nothing is pending, and then
only reissues, undone reissues, flushes and dumps follow. -/
theorem issue_kept_of_settledRun (env : AssetEnv) (fAssetIndex : Bool) (before : List StoreStep)
    (reached : (start env fAssetIndex).storeRun before = state)
    (clear : state.cache.Clear asset.strName) (clearBelow : state.globals.passets.Clear asset.strName)
    (issues : state.addNewAsset asset address nHeight blockHash = some issued)
    {steps : List StoreStep} (settled : SettledRun asset.strName issued steps) :
    (issued.storeRun steps).IssueKept asset.strName (some nHeight, blockHash) := by
  have sound : state.AssetsSound Set.univ := by
    rw [← reached]
    exact assetsSound_storeRun env fAssetIndex before
  exact (issueKept_of_addNewAsset clear clearBelow issues).storeRun (sound.addNewAsset issues) settled

def blackbirdIssued : CacheState :=
  ((start untabulatedEnv false).addNewAsset blackbird kycHolder 7 5).get (by decide)

def blackbirdReissue : CReissueAsset := ⟨blackbird.strName, 100000000, 0, 1, []⟩

theorem issue_kept_through_reissue_and_undo :
    (blackbirdIssued.storeRun
      [.cache (.flush true), .dump, .cache (.op (.addReissueAsset blackbirdReissue kycHolder ⟨0, 0⟩)),
        .cache (.flush true), .dump,
        .cache (.op (.removeReissueAsset blackbirdReissue kycHolder ⟨0, 0⟩ [])),
        .cache (.flush true), .dump]).IssueKept blackbird.strName (some 7, 5) := by
  have clear : CAssetsCache.empty.Clear blackbird.strName := by
    simp [CAssetsCache.Clear, ChangeSet.Each, CAssetsCache.empty, ChangeSet.empty]
  refine issue_kept_of_settledRun untabulatedEnv false [] rfl clear clear (Option.some_get _).symm ?_
  exact ⟨trivial, trivial, fun _ => ⟨by decide, by decide⟩, trivial, trivial,
    fun _ => ⟨by decide, by decide⟩, trivial, trivial, trivial⟩

def reissuedTwice : List StoreStep :=
  [.cache (.flush true), .dump, .cache (.op (.addReissueAsset blackbirdReissue kycHolder ⟨0, 0⟩)),
    .cache (.op (.addReissueAsset blackbirdReissue kycHolder ⟨0, 1⟩)), .cache (.flush true), .dump]

/-- The second of two pending reissues finds the metadata without the issue's height and
hash, and the dump writes its entry last. -/
theorem pending_reissue_loses_issue :
    ¬(blackbirdIssued.storeRun reissuedTwice).IssueKept blackbird.strName (some 7, 5) := by
  intro kept
  have lost : ((blackbirdIssued.storeRun reissuedTwice).globals.storedAsset blackbird.strName).map
      (·.metaData.issued) = some (some (none, 0)) := by decide
  obtain ⟨data, isData, isLost⟩ := Option.map_eq_some_iff.mp lost
  cases (kept.stored data isData).symm.trans isLost

end CacheState

end BlackRaven.Assets
