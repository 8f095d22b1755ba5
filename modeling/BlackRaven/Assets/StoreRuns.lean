import BlackRaven.Assets.Agreement
import BlackRaven.Assets.Uniqueness

/-!
Contract: runs of a node's asset state: the functions of a temporary cache, flushes,
dumps to the databases, and reads that fill the least recently used caches.

Owns: along every run the sets hold their entries under what the entries say, and the
least recently used caches agree with the databases.
-/

namespace BlackRaven.Assets

open Consensus Lib Primitives

/-! ## Steps -/

inductive StoreStep where
  | cache (step : CacheStep)
  /-- The temporary cache is given up for a new one. -/
  | drop
  | dump
  | read (item : StoredItem)
  | reindexing (flag : Bool)

namespace CacheState

def storeStep (state : CacheState) : StoreStep → CacheState
  | .cache step => state.step step
  | .drop => { state with cache := .empty }
  | .dump => { state with globals := state.globals.dumpCacheToDatabase }
  | .read item =>
    { state with
      globals := { state.globals with
        toAssetStore := state.globals.toAssetStore.read state.globals.env item } }
  | .reindexing flag => { state with globals := { state.globals with fReindex := flag } }

def storeRun (state : CacheState) (steps : List StoreStep) : CacheState := steps.foldl storeStep state

/-- A node that has stored nothing yet, with an empty temporary cache. -/
def start (env : AssetEnv) (fAssetIndex : Bool) : CacheState :=
  { globals := .initial env fAssetIndex, cache := .empty }

end CacheState

def CacheOp.Within (asked : Set (Bytes × Bytes)) : CacheOp → Prop
  | .addQualifierAddress name address _ => (name, address) ∈ asked
  | .removeQualifierAddress name address _ => (name, address) ∈ asked
  | .addRestrictedAddress name address _ => (name, address) ∈ asked
  | .removeRestrictedAddress name address _ => (name, address) ∈ asked
  | _ => True

def StoreStep.Within (asked : Set (Bytes × Bytes)) : StoreStep → Prop
  | .cache (.op operation) => operation.Within asked
  | .read item => item.Within asked
  | _ => True

/-! ## Tidy caches -/

namespace CAssetsCache

variable {asked : Set (Bytes × Bytes)} {cache : CAssetsCache} (globals : AssetGlobals)

theorem Tidy.empty : CAssetsCache.empty.Tidy asked where
  newAssets := ChangeSet.KeyedBy.empty
  newAssetsSeparate := ChangeSet.Separate.empty
  owners := ChangeSet.KeyedBy.empty
  reissued := by simp [CAssetsCache.empty]
  verifiers := ChangeSet.KeyedBy.empty
  qualifiers := ChangeSet.KeyedBy.empty
  qualifiersAsked := ChangeSet.Within.empty
  restrictions := ChangeSet.KeyedBy.empty
  restrictionsSeparate := ChangeSet.Separate.empty
  restrictionsAsked := ChangeSet.Within.empty
  globals := ChangeSet.KeyedBy.empty
  globalsSeparate := ChangeSet.Separate.empty

theorem Tidy.flush {passets : CAssetsCache} (tidy : cache.Tidy asked) (below : passets.Tidy asked) :
    (cache.flush passets).Tidy asked where
  newAssets := tidy.newAssets.flush below.newAssets false
  newAssetsSeparate := below.newAssetsSeparate.flush false
  owners := tidy.owners.flush below.owners false
  reissued := by
    intro name asset found
    exact (overwrite_eq_some found).elim (tidy.reissued name asset) (below.reissued name asset)
  verifiers := tidy.verifiers.flush below.verifiers true
  qualifiers := tidy.qualifiers.flush below.qualifiers true
  qualifiersAsked := tidy.qualifiersAsked.flush below.qualifiersAsked true
  restrictions := tidy.restrictions.flush below.restrictions true
  restrictionsSeparate := below.restrictionsSeparate.flush true
  restrictionsAsked := tidy.restrictionsAsked.flush below.restrictionsAsked true
  globals := tidy.globals.flush below.globals true
  globalsSeparate := below.globalsSeparate.flush true

section

variable (tidy : cache.Tidy asked) (name address : Bytes)

include tidy name address

theorem Tidy.setBalance (amount : CAmount) :
    (cache.setBalance name address amount).Tidy asked :=
  { tidy with }

theorem Tidy.updateBalance (change : CAmount → CAmount) :
    (cache.updateBalance globals name address change).Tidy asked := by
  unfold CAssetsCache.updateBalance
  by_cases indexed : globals.fAssetIndex = true
  · rw [if_pos indexed]
    exact tidy.setBalance name address _
  · rw [if_neg indexed]
    exact tidy

theorem Tidy.noteSubQualifier (gets : Bool) : (cache.noteSubQualifier name address gets).Tidy asked := by
  unfold CAssetsCache.noteSubQualifier
  by_cases isSub : isAssetNameASubQualifier name = true
  · rw [isSub]
    cases gets
    · exact { tidy with }
    · exact { tidy with }
  · rw [Bool.not_eq_true] at isSub
    rw [isSub]
    exact tidy

end

variable {globals : AssetGlobals}

section

variable (tidy : cache.Tidy asked)

include tidy

theorem Tidy.metaData_strName (below : globals.passets.Tidy asked) (agree : globals.AssetsAgree)
    {name : Bytes} {found : AssetMetaData}
    (isFound : cache.getAssetMetaDataIfExists globals name = some found) :
    found.asset.strName = name := by
  unfold getAssetMetaDataIfExists at isFound
  cases reissued : (cache.mapReissuedAssetData[name]? <|> globals.passets.mapReissuedAssetData[name]?) with
  | some asset =>
    rw [reissued] at isFound
    rw [← Option.some.inj isFound]
    have either : cache.mapReissuedAssetData[name]? = some asset
        ∨ cache.mapReissuedAssetData[name]? = none
          ∧ globals.passets.mapReissuedAssetData[name]? = some asset := by
      simpa using reissued
    rcases either with above | ⟨_, lower⟩
    · exact tidy.reissued name asset above
    · exact below.reissued name asset lower
  | none =>
    rw [reissued] at isFound
    obtain ⟨data, isData, rfl⟩ := Option.map_eq_some_iff.mp isFound
    cases isPending : cache.setNewAssets.pending globals.passets.setNewAssets name with
    | none =>
      rw [isPending] at isData
      have stored : globals.storedAsset name = some data := isData
      rw [AssetGlobals.storedAsset_eq agree] at stored
      exact agree.2 name data stored
    | some change =>
      rw [isPending] at isData
      cases change with
      | removal entry => cases isData
      | addition entry =>
        cases isData
        rcases ChangeSet.pending_eq_addition _ isPending with above | lower
        · exact tidy.newAssets.added name entry above
        · exact below.newAssets.added name entry lower

theorem Tidy.addReissueAsset (below : globals.passets.Tidy asked) (agree : globals.AssetsAgree)
    {reissue : CReissueAsset} {address : Bytes} {out : COutPoint} {added : CAssetsCache}
    (adds : cache.addReissueAsset globals reissue address out = some added) : added.Tidy asked := by
  unfold CAssetsCache.addReissueAsset at adds
  split at adds
  · cases adds
  next found isFound =>
    cases adds
    apply Tidy.updateBalance
    exact { tidy with
      reissued := forall_insert tidy.reissued (tidy.metaData_strName below agree isFound) }

theorem Tidy.removeRestrictedVerifier (name verifier : Bytes) (undoing : Bool) :
    (cache.removeRestrictedVerifier name verifier undoing).Tidy asked :=
  { tidy with verifiers := tidy.verifiers.remove false ⟨name, verifier, undoing⟩ }

theorem Tidy.removeReissueAsset {reissue : CReissueAsset} {address : Bytes} {out : COutPoint}
    {vUndoIPFS : List (Bytes × CBlockAssetUndo)} {removed : CAssetsCache}
    (removes : cache.removeReissueAsset globals reissue address out vUndoIPFS = some removed) :
    removed.Tidy asked := by
  unfold CAssetsCache.removeReissueAsset at removes
  split at removes
  · cases removes
  next found isFound =>
    have restored : ∀ (asset : CNewAsset) changes, Tidy asked
        { cache with
          mapReissuedAssetData := cache.mapReissuedAssetData.insert asset.strName asset
          setNewReissue := changes } :=
      fun asset _ => { tidy with reissued := forall_insert tidy.reissued rfl }
    grind [Tidy.setBalance, Tidy.removeRestrictedVerifier]

theorem Tidy.apply (below : globals.passets.Tidy asked) (agree : globals.AssetsAgree)
    {operation : CacheOp} (within : operation.Within asked) {changed : CAssetsCache}
    (applied : operation.apply globals cache = some changed) : changed.Tidy asked := by
  cases operation with
  | addNewAsset asset address nHeight blockHash =>
    obtain ⟨_, isChanged⟩ := Option.ite_none_left_eq_some.mp applied
    cases isChanged
    apply Tidy.updateBalance
    exact { tidy with
      newAssets := tidy.newAssets.add false ⟨asset, address, blockHash, nHeight⟩
      newAssetsSeparate := tidy.newAssetsSeparate.add false _ _ }
  | removeNewAsset asset address =>
    obtain ⟨_, isChanged⟩ := Option.ite_none_left_eq_some.mp applied
    cases isChanged
    apply Tidy.updateBalance
    exact { tidy with
      newAssets := tidy.newAssets.remove false ⟨asset, address, 0, 0⟩
      newAssetsSeparate := tidy.newAssetsSeparate.remove false _ _ }
  | addOwnerAsset assetsName address =>
    cases applied
    unfold addOwnerAsset
    apply Tidy.updateBalance
    exact { tidy with owners := tidy.owners.add false ⟨assetsName, address⟩ }
  | removeOwnerAsset assetsName address =>
    cases applied
    unfold removeOwnerAsset
    apply Tidy.updateBalance
    exact { tidy with owners := tidy.owners.remove false ⟨assetsName, address⟩ }
  | addReissueAsset reissue address out => exact tidy.addReissueAsset below agree applied
  | removeReissueAsset reissue address out vUndoIPFS => exact tidy.removeReissueAsset applied
  | addTransferAsset transfer address out =>
    cases applied
    exact { tidy.updateBalance globals transfer.strName address _ with }
  | removeTransfer transfer address out =>
    obtain ⟨undone, isUndone, rfl⟩ := Option.map_eq_some_iff.mp applied
    have tidyUndone : undone.Tidy asked := by
      unfold undoTransfer at isUndone
      grind [Tidy.setBalance]
    exact { tidyUndone with }
  | addQualifierAddress name address type =>
    cases applied
    exact { tidy.noteSubQualifier name address _ with
      qualifiers := tidy.qualifiers.add true ⟨name, address, type⟩
      qualifiersAsked := tidy.qualifiersAsked.add true within _ }
  | removeQualifierAddress name address type =>
    cases applied
    exact { tidy.noteSubQualifier name address _ with
      qualifiers := tidy.qualifiers.remove true ⟨name, address, type⟩
      qualifiersAsked := tidy.qualifiersAsked.remove true within _ }
  | addRestrictedAddress name address type =>
    cases applied
    exact { tidy with
      restrictions := tidy.restrictions.add true ⟨name, address, type⟩
      restrictionsSeparate := tidy.restrictionsSeparate.add true _ _
      restrictionsAsked := tidy.restrictionsAsked.add true within _ }
  | removeRestrictedAddress name address type =>
    cases applied
    exact { tidy with
      restrictions := tidy.restrictions.remove true ⟨name, address, type⟩
      restrictionsSeparate := tidy.restrictionsSeparate.remove true _ _
      restrictionsAsked := tidy.restrictionsAsked.remove true within _ }
  | addGlobalRestricted name type =>
    cases applied
    exact { tidy with
      globals := tidy.globals.add true ⟨name, type⟩
      globalsSeparate := tidy.globalsSeparate.add true _ _ }
  | removeGlobalRestricted name type =>
    cases applied
    exact { tidy with
      globals := tidy.globals.remove true ⟨name, type⟩
      globalsSeparate := tidy.globalsSeparate.remove true _ _ }
  | addRestrictedVerifier name verifier =>
    cases applied
    exact { tidy with verifiers := tidy.verifiers.add false ⟨name, verifier, false⟩ }
  | removeRestrictedVerifier name verifier undoing =>
    cases applied
    exact tidy.removeRestrictedVerifier name verifier undoing
  | trySpendCoin txOut =>
    have spent : ∀ name address amount (spends : List CAssetCacheSpendAsset), Tidy asked
        { cache.setBalance name address amount with vSpentAssets := spends } :=
      fun _ _ _ _ => { tidy with }
    simp only [CacheOp.apply, trySpendCoin] at applied
    grind
  | undoAssetCoin txOut =>
    simp only [CacheOp.apply, undoAssetCoin] at applied
    cases read : coinAsset globals.env txOut.scriptPubKey with
    | none => simp [read] at applied
    | some coin =>
      simp only [read] at applied
      obtain ⟨_, isChanged⟩ := Option.ite_none_left_eq_some.mp applied
      cases isChanged
      exact { tidy.updateBalance globals coin.1 coin.2.1 _ with }

end

end CAssetsCache

/-! ## Runs -/

namespace CacheState

structure Sound (asked : Set (Bytes × Bytes)) (state : CacheState) : Prop where
  cache : state.cache.Tidy asked
  passets : state.globals.passets.Tidy asked
  agrees : state.globals.Agrees state.globals.env asked

variable {asked : Set (Bytes × Bytes)} {state : CacheState}

theorem sound_start (env : AssetEnv) (fAssetIndex : Bool) : (start env fAssetIndex).Sound asked where
  cache := .empty
  passets := .empty
  agrees :=
    { assets := by
        constructor
        · intro _ _ _ found
          cases found
        · simp [start, AssetGlobals.initial]
      tags := nofun
      freezes := nofun
      globalFreezes := fun _ _ _ found => by cases found }

/-- What no step changes. -/
def settings (state : CacheState) : AssetEnv × Bool := (state.globals.env, state.globals.fAssetIndex)

theorem storeStep_settings (state : CacheState) (step : StoreStep) :
    (state.storeStep step).settings = state.settings := by
  cases step with
  | cache step => cases step <;> rfl
  | _ => rfl

/-- The part of `Sound` about assets, which no hash matters to. -/
structure AssetsSound (asked : Set (Bytes × Bytes)) (state : CacheState) : Prop where
  cache : state.cache.Tidy asked
  passets : state.globals.passets.Tidy asked
  agree : state.globals.AssetsAgree

theorem AssetsSound.storeStep (sound : state.AssetsSound asked) {step : StoreStep}
    (within : step.Within asked) : (state.storeStep step).AssetsSound asked := by
  cases step with
  | cache step =>
    cases step with
    | op operation =>
      refine { sound with cache := ?_ }
      cases applied : operation.apply state.globals state.cache with
      | none =>
        simp only [CacheState.storeStep, CacheState.step, applied]
        exact sound.cache
      | some changed =>
        simp only [CacheState.storeStep, CacheState.step, applied]
        exact sound.cache.apply sound.passets sound.agree within applied
    | flush renew =>
      refine { sound with cache := ?_, passets := sound.cache.flush sound.passets }
      cases renew with
      | true => exact .empty
      | false => exact sound.cache
  | drop => exact { sound with cache := .empty }
  | dump =>
    exact { sound with
      passets := .empty
      agree := sound.agree.dumpStore sound.passets.reissued }
  | read item => exact { sound with agree := sound.agree.read _ item }
  | reindexing flag => exact { sound with }

theorem storeStep_within_univ (step : StoreStep) : step.Within Set.univ := by
  cases step with
  | cache step =>
    cases step with
    | op operation => cases operation <;> trivial
    | flush renew => trivial
  | read item => cases item <;> trivial
  | _ => trivial

theorem assetsSound_storeRun (env : AssetEnv) (fAssetIndex : Bool) (steps : List StoreStep) :
    ((start env fAssetIndex).storeRun steps).AssetsSound Set.univ := by
  apply foldl_invariant (AssetsSound Set.univ)
  · intro step _ state sound
    exact sound.storeStep (storeStep_within_univ step)
  · have sound : (start env fAssetIndex).Sound ∅ := sound_start env fAssetIndex
    exact ⟨.empty, .empty, sound.agrees.assets⟩

section

variable (sound : state.Sound asked) (injective : Set.InjOn (fun pair : Bytes × Bytes =>
    state.globals.env.entryHash pair.1 pair.2) asked)

include sound injective

theorem Sound.storeStep {step : StoreStep} (within : step.Within asked) :
    (state.storeStep step).Sound asked := by
  have assets : state.AssetsSound asked := ⟨sound.cache, sound.passets, sound.agrees.assets⟩
  refine ⟨(assets.storeStep within).cache, (assets.storeStep within).passets, ?_⟩
  cases step with
  | cache step => cases step <;> exact sound.agrees
  | dump => exact sound.agrees.dumpStore injective sound.passets
  | read item => exact sound.agrees.read injective within
  | _ => exact sound.agrees

theorem Sound.storeRun {steps : List StoreStep} (within : ∀ step ∈ steps, step.Within asked) :
    (state.storeRun steps).Sound asked := by
  induction steps generalizing state with
  | nil => exact sound
  | cons step rest ih =>
    apply ih (sound.storeStep injective (within step List.mem_cons_self))
    · rw [show (state.storeStep step).globals.env = _ from congrArg Prod.fst (storeStep_settings state step)]
      exact injective
    · intro later member
      exact within later (List.mem_cons_of_mem step member)

end

end CacheState

end BlackRaven.Assets
