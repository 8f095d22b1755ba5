import BlackRaven.Assets.IssueRecord
import BlackRaven.Assets.Table

/-!
Contract: `GetAssetMetaDataIfExists` and `CheckIfAssetExists` along the runs of a node.

Owns: they agree as long as no issue is undone while metadata of a reissue of the asset is
pending. The first function asks that metadata before anything else, and neither undoing
the reissue nor undoing the issue takes it away.
-/

namespace BlackRaven.Assets

open Lib CAssetsCache

variable {name : Bytes}

namespace CAssetsCache

variable {cache changed : CAssetsCache} {globals : AssetGlobals} {asked : Set (Bytes × Bytes)}

/-- Pending metadata of a reissue is of an asset that exists. -/
def ReissuesIssued (globals : AssetGlobals) (cache : CAssetsCache) : Prop :=
  ∀ name : Bytes,
    (cache.mapReissuedAssetData[name]? <|> globals.passets.mapReissuedAssetData[name]?).isSome = true →
      cache.isIssued globals name = true

theorem ReissuesIssued.metaData_isSome (issued : ReissuesIssued globals cache) (name : Bytes) :
    (cache.getAssetMetaDataIfExists globals name).isSome = cache.isIssued globals name := by
  have reissued := issued name
  unfold getAssetMetaDataIfExists
  cases found : (cache.mapReissuedAssetData[name]? <|> globals.passets.mapReissuedAssetData[name]?) with
  | some asset =>
    rw [found] at reissued
    exact (reissued rfl).symm
  | none =>
    unfold isIssued
    rw [Option.isSome_map]
    rcases cache.setNewAssets.pending globals.passets.setNewAssets name with _ | _ | _ <;> rfl

/-- Only the removal of an asset itself ends its issue. -/
theorem isIssued_onNewAssets {operation : CacheOp} (was : cache.isIssued globals name = true)
    (assets : changed.setNewAssets = operation.onNewAssets cache.setNewAssets)
    (keeps : ¬CacheStep.Removes name (.op operation)) : changed.isIssued globals name = true := by
  unfold isIssued at was ⊢
  rw [assets]
  cases operation with
  | addNewAsset asset address nHeight blockHash =>
    unfold CacheOp.onNewAssets ChangeSet.pending ChangeSet.add at *
    rw [ChangeSet.getElem?_record, getElem?_erase_eq]
    by_cases isName : name = asset.strName
    · rw [if_pos isName, if_pos isName]
      revert was
      cases cache.setNewAssets.toRemove[name]? <;>
        cases globals.passets.setNewAssets.toRemove[name]? <;> simp [existenceFor]
    · rw [if_neg isName, if_neg isName]
      exact was
  | removeNewAsset asset address =>
    have other : name ≠ asset.strName := fun same => keeps same.symm
    unfold CacheOp.onNewAssets ChangeSet.pending ChangeSet.remove at *
    rw [ChangeSet.getElem?_record, getElem?_erase_eq, if_neg other, if_neg other]
    exact was
  | _ => exact was

theorem ReissuesIssued.apply (issued : ReissuesIssued globals cache) (tidy : cache.Tidy asked)
    (below : globals.passets.Tidy asked) (agree : globals.AssetsAgree) {operation : CacheOp}
    (applied : operation.apply globals cache = some changed)
    (settled : ∀ name : Bytes, CacheStep.Removes name (.op operation) →
      cache.mapReissuedAssetData[name]? = none ∧ globals.passets.mapReissuedAssetData[name]? = none) :
    ReissuesIssued globals changed := by
  obtain ⟨reissued, reissues, part, isReissued⟩ := operation.apply_assetPart applied
  simp only [assetPart, Prod.mk.injEq] at part
  obtain ⟨assets, rfl, -⟩ := part
  intro name found
  rcases isReissued with same | ⟨sought, data, key, asset, sameAssets, isFound, isKey, same⟩
  · rw [same] at found
    refine isIssued_onNewAssets (issued name found) assets fun removes => ?_
    rw [(settled name removes).1, (settled name removes).2] at found
    cases found
  · have unchanged : changed.isIssued globals name = cache.isIssued globals name := by
      unfold isIssued
      rw [assets, sameAssets]
    rw [same, getElem?_insert_eq] at found
    rw [unchanged]
    by_cases isName : name = key
    · have isSought : name = sought :=
        isName.trans (isKey.elim id (·.trans (tidy.metaData_strName below agree isFound)))
      rw [← issued.metaData_isSome, isSought, isFound]
      rfl
    · rw [if_neg isName] at found
      exact issued name found

theorem isIssued_flushed (was : cache.isIssued globals name = true) (renew : Bool) :
    (if renew then CAssetsCache.empty else cache).isIssued (globals.flushed cache) name = true := by
  have flushed := ChangeSet.getElem?_flush false cache.setNewAssets globals.passets.setNewAssets name
  revert was
  cases renew
  all_goals
    simp only [isIssued, ChangeSet.pending, AssetGlobals.flushed, CAssetsCache.flush, flushed,
      Bool.false_eq_true, if_false, if_true]
    cases cache.setNewAssets.toRemove[name]? <;>
      cases globals.passets.setNewAssets.toRemove[name]? <;> cases cache.setNewAssets.toAdd[name]? <;>
      simp [existenceFor, ChangeSet.passOn, CAssetsCache.empty, ChangeSet.empty, AssetGlobals.storedAsset]

end CAssetsCache

namespace CacheState

variable {state : CacheState}

theorem isIssued_dumped (sound : state.AssetsSound Set.univ)
    (was : state.cache.isIssued state.globals name = true) :
    state.cache.isIssued (state.storeStep .dump).globals name = true := by
  have stored := @storedAsset_dumped_isSome name state sound
  unfold isIssued ChangeSet.pending at *
  revert was stored
  simp only [storeStep, AssetGlobals.dumpCacheToDatabase, CAssetsCache.empty, ChangeSet.empty,
    Std.TreeMap.getElem?_emptyc]
  cases state.cache.setNewAssets.toRemove[name]? <;>
    cases state.globals.passets.setNewAssets.toRemove[name]? <;>
    cases state.cache.setNewAssets.toAdd[name]? <;>
    cases state.globals.passets.setNewAssets.toAdd[name]? <;>
    simp +contextual [existenceFor, metadataFor]

/-- Also when the temporary cache is given up. -/
structure ReissuesIssued (state : CacheState) : Prop where
  above : state.cache.ReissuesIssued state.globals
  below : CAssetsCache.empty.ReissuesIssued state.globals

/-- The issue of an asset is undone only where no metadata of a reissue is pending. -/
def UndoSettled (state : CacheState) : StoreStep → Prop
  | .cache step => ∀ name, step.Removes name → state.NoReissuePending name
  | _ => True

def UndoSettledRun : CacheState → List StoreStep → Prop
  | _, [] => True
  | state, step :: rest => state.UndoSettled step ∧ UndoSettledRun (state.storeStep step) rest

theorem ReissuesIssued.storeStep (issued : state.ReissuesIssued) (sound : state.AssetsSound Set.univ)
    {step : StoreStep} (settled : state.UndoSettled step) : (state.storeStep step).ReissuesIssued := by
  cases step with
  | cache step =>
    cases step with
    | op operation =>
      refine { issued with above := ?_ }
      cases applied : operation.apply state.globals state.cache with
      | none =>
        simp only [CacheState.storeStep, step_of_refused operation applied]
        exact issued.above
      | some changed =>
        simp only [CacheState.storeStep, step, applied, Option.getD_some]
        exact issued.above.apply sound.cache sound.passets sound.agree applied settled
    | flush renew =>
      have flushed : ∀ renewed : Bool, CAssetsCache.ReissuesIssued
          (state.globals.flushed state.cache) (if renewed then .empty else state.cache) := by
        intro renewed name found
        refine isIssued_flushed (issued.above name ?_) renewed
        revert found
        cases renewed <;>
          simp only [AssetGlobals.flushed, CAssetsCache.flush, getElem?_overwrite, Bool.false_eq_true,
            if_false, if_true] <;>
          cases state.cache.mapReissuedAssetData[name]? <;> simp [CAssetsCache.empty]
      exact ⟨flushed renew, flushed true⟩
  | drop => exact ⟨issued.below, issued.below⟩
  | dump =>
    constructor
    · intro name found
      apply isIssued_dumped sound (issued.above name _)
      revert found
      simp only [CacheState.storeStep, AssetGlobals.dumpCacheToDatabase, CAssetsCache.empty]
      cases state.cache.mapReissuedAssetData[name]? <;> simp
    · intro name found
      simp [CacheState.storeStep, AssetGlobals.dumpCacheToDatabase, CAssetsCache.empty] at found
  | read item =>
    have same : ∀ cache : CAssetsCache, cache.isIssued (state.storeStep (.read item)).globals
        = cache.isIssued state.globals := by
      intro cache
      funext name
      unfold isIssued
      rw [AssetGlobals.storedAsset_eq sound.agree,
        AssetGlobals.storedAsset_eq (sound.storeStep (storeStep_within_univ (.read item))).agree]
      cases item <;> rfl
    constructor
    · unfold CAssetsCache.ReissuesIssued
      rw [same]
      exact issued.above
    · unfold CAssetsCache.ReissuesIssued
      rw [same]
      exact issued.below
  | reindexing flag => exact ⟨issued.above, issued.below⟩

theorem ReissuesIssued.storeRun {steps : List StoreStep} (issued : state.ReissuesIssued)
    (sound : state.AssetsSound Set.univ) (settled : UndoSettledRun state steps) :
    (state.storeRun steps).ReissuesIssued := by
  induction steps generalizing state with
  | nil => exact issued
  | cons step rest ih =>
    exact ih (issued.storeStep sound settled.1) (sound.storeStep (storeStep_within_univ step)) settled.2

theorem metaData_isSome_of_undoSettledRun (env : AssetEnv) (fAssetIndex : Bool) (steps : List StoreStep)
    (settled : UndoSettledRun (start env fAssetIndex) steps)
    (reached : (start env fAssetIndex).storeRun steps = state)
    (notReindexing : state.globals.fReindex = false) (name : Bytes) :
    (state.cache.getAssetMetaDataIfExists state.globals name).isSome = state.assetExists name := by
  have nothing : (start env fAssetIndex).ReissuesIssued := by
    constructor <;>
    · intro name found
      simp [start, CAssetsCache.empty, AssetGlobals.initial] at found
  have issued := nothing.storeRun (assetsSound_storeRun env fAssetIndex []) settled
  rw [reached] at issued
  rw [assetExists, checkIfAssetExists_of_not_reindexing _ _ notReindexing]
  exact issued.above.metaData_isSome name

def blackbirdReissued : List StoreStep :=
  [.cache (.op (.addNewAsset blackbird kycHolder 7 5)), .cache (.flush true),
    .cache (.op (.addReissueAsset blackbirdReissue kycHolder ⟨0, 0⟩)), .cache (.flush true)]

/-- The blocks of the issue and the reissue are disconnected, one after the other. -/
def blackbirdDisconnected : List StoreStep :=
  [.cache (.op (.removeReissueAsset blackbirdReissue kycHolder ⟨0, 0⟩ [])), .cache (.flush true),
    .cache (.op (.removeNewAsset blackbird kycHolder)), .cache (.flush true)]

theorem metaData_isSome_after_undo :
    let state := (start untabulatedEnv false).storeRun (blackbirdReissued ++ blackbirdDisconnected)
    (state.cache.getAssetMetaDataIfExists state.globals blackbird.strName).isSome = true
      ∧ state.assetExists blackbird.strName = false := by
  decide

theorem metaData_isSome_of_undoSettledRun_dumped :
    let steps := blackbirdReissued ++ [.dump, .cache (.op (.removeNewAsset blackbird kycHolder))]
    let state := (start untabulatedEnv false).storeRun steps
    (state.cache.getAssetMetaDataIfExists state.globals blackbird.strName).isSome
      = state.assetExists blackbird.strName := by
  refine metaData_isSome_of_undoSettledRun untabulatedEnv false _ ?_ rfl (by decide) _
  exact ⟨fun _ => False.elim, fun _ => False.elim, fun _ => False.elim, fun _ => False.elim, trivial,
    fun name isName => isName ▸ ⟨by decide, by decide⟩, trivial⟩

end CacheState

end BlackRaven.Assets
