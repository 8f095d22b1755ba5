import BlackRaven.Assets.CacheUpdates

/-!
Contract: asset names along any interleaving of the functions of a `CAssetsCache` with
flushes into `passets`.

Owns: from which states an added asset exists until it is removed, and can then be added
again. A removal pending in `passets` hides the addition, so that the asset added does
not exist.
-/

namespace BlackRaven.Assets

open Lib Primitives

/-! ## Operations and runs -/

inductive CacheOp where
  | addNewAsset (asset : CNewAsset) (address : Bytes) (nHeight : Int) (blockHash : Uint256)
  | removeNewAsset (asset : CNewAsset) (address : Bytes)
  | addOwnerAsset (assetsName address : Bytes)
  | removeOwnerAsset (assetsName address : Bytes)
  | addReissueAsset (reissue : CReissueAsset) (address : Bytes) (out : COutPoint)
  | removeReissueAsset (reissue : CReissueAsset) (address : Bytes) (out : COutPoint)
      (vUndoIPFS : List (Bytes × CBlockAssetUndo))
  | addTransferAsset (transfer : CAssetTransfer) (address : Bytes) (out : COutPoint)
  | removeTransfer (transfer : CAssetTransfer) (address : Bytes) (out : COutPoint)
  | addQualifierAddress (assetName address : Bytes) (type : QualifierType)
  | removeQualifierAddress (assetName address : Bytes) (type : QualifierType)
  | addRestrictedAddress (assetName address : Bytes) (type : RestrictedType)
  | removeRestrictedAddress (assetName address : Bytes) (type : RestrictedType)
  | addGlobalRestricted (assetName : Bytes) (type : RestrictedType)
  | removeGlobalRestricted (assetName : Bytes) (type : RestrictedType)
  | addRestrictedVerifier (assetName verifier : Bytes)
  | removeRestrictedVerifier (assetName verifier : Bytes) (fUndoingReissue : Bool)
  | trySpendCoin (txOut : CTxOut)
  | undoAssetCoin (txOut : CTxOut)

/-- The cache after an operation; `none` where the source returns `false`. -/
def CacheOp.apply (globals : AssetGlobals) (cache : CAssetsCache) : CacheOp → Option CAssetsCache
  | .addNewAsset asset address nHeight blockHash =>
    cache.addNewAsset globals asset address nHeight blockHash
  | .removeNewAsset asset address => cache.removeNewAsset globals asset address
  | .addOwnerAsset assetsName address => some (cache.addOwnerAsset globals assetsName address)
  | .removeOwnerAsset assetsName address => some (cache.removeOwnerAsset globals assetsName address)
  | .addReissueAsset reissue address out => cache.addReissueAsset globals reissue address out
  | .removeReissueAsset reissue address out vUndoIPFS =>
    cache.removeReissueAsset globals reissue address out vUndoIPFS
  | .addTransferAsset transfer address out => some (cache.addTransferAsset globals transfer address out)
  | .removeTransfer transfer address out => cache.removeTransfer globals transfer address out
  | .addQualifierAddress assetName address type => some (cache.addQualifierAddress assetName address type)
  | .removeQualifierAddress assetName address type =>
    some (cache.removeQualifierAddress assetName address type)
  | .addRestrictedAddress assetName address type =>
    some (cache.addRestrictedAddress assetName address type)
  | .removeRestrictedAddress assetName address type =>
    some (cache.removeRestrictedAddress assetName address type)
  | .addGlobalRestricted assetName type => some (cache.addGlobalRestricted assetName type)
  | .removeGlobalRestricted assetName type => some (cache.removeGlobalRestricted assetName type)
  | .addRestrictedVerifier assetName verifier => some (cache.addRestrictedVerifier assetName verifier)
  | .removeRestrictedVerifier assetName verifier fUndoingReissue =>
    some (cache.removeRestrictedVerifier assetName verifier fUndoingReissue)
  | .trySpendCoin txOut => cache.trySpendCoin globals txOut
  | .undoAssetCoin txOut => cache.undoAssetCoin globals txOut

/-- The global state with one temporary cache on it. -/
structure CacheState where
  globals : AssetGlobals
  cache : CAssetsCache

inductive CacheStep where
  | op (operation : CacheOp)
  /-- Flush, and go on with the same cache or with a new one. -/
  | flush (renew : Bool)

namespace CacheState

def step (state : CacheState) : CacheStep → CacheState
  | .op operation =>
    { state with cache := (operation.apply state.globals state.cache).getD state.cache }
  | .flush renew =>
    { globals := state.globals.flushed state.cache
      cache := if renew then .empty else state.cache }

def run (state : CacheState) (steps : List CacheStep) : CacheState := steps.foldl step state

def assetExists (state : CacheState) (name : Bytes) : Bool :=
  state.cache.checkIfAssetExists state.globals name

def addNewAsset (state : CacheState) (asset : CNewAsset) (address : Bytes) (nHeight : Int)
    (blockHash : Uint256) : Option CacheState :=
  (state.cache.addNewAsset state.globals asset address nHeight blockHash).map fun cache =>
    { state with cache }

def removeNewAsset (state : CacheState) (asset : CNewAsset) (address : Bytes) : Option CacheState :=
  (state.cache.removeNewAsset state.globals asset address).map fun cache => { state with cache }

end CacheState

def CacheStep.Removes (name : Bytes) : CacheStep → Prop
  | .op (.removeNewAsset asset _) => asset.strName = name
  | _ => False

def CacheStep.Adds (name : Bytes) : CacheStep → Prop
  | .op (.addNewAsset asset _ _ _) => asset.strName = name
  | _ => False

/-! ## What an operation does to the new assets -/

namespace CAssetsCache

variable (cache : CAssetsCache) (globals : AssetGlobals)

variable {cache globals} {changed : CAssetsCache} {reissue : CReissueAsset} {address : Bytes}
  {out : COutPoint}

/-- A reissue leaves an entry made with the metadata that was found. -/
theorem addReissueAsset_assetPart
    (adds : cache.addReissueAsset globals reissue address out = some changed) :
    ∃ found, cache.getAssetMetaDataIfExists globals reissue.strName = some found
      ∧ changed.assetPart = (cache.setNewAssets,
        cache.mapReissuedAssetData.insert reissue.strName (reissuedAsset found.asset reissue),
        cache.setNewReissue.add false out (reissueEntry reissue address out found)) := by
  unfold addReissueAsset at adds
  split at adds
  · cases adds
  next found isFound =>
    cases adds
    exact ⟨found, isFound, assetPart_updateBalance _ _ _ _ _⟩

theorem removeReissueAsset_assetPart {vUndoIPFS : List (Bytes × CBlockAssetUndo)}
    (removes : cache.removeReissueAsset globals reissue address out vUndoIPFS = some changed) :
    ∃ found, cache.getAssetMetaDataIfExists globals reissue.strName = some found
      ∧ ∃ asset : CNewAsset, asset.strName = found.asset.strName
      ∧ changed.assetPart = (cache.setNewAssets, cache.mapReissuedAssetData.insert asset.strName asset,
        cache.setNewReissue.remove false out (reissueEntry reissue address out found)) := by
  unfold removeReissueAsset at removes
  cases isFound : cache.getAssetMetaDataIfExists globals reissue.strName with
  | none => simp [isFound] at removes
  | some found =>
    refine ⟨found, rfl, unreissuedAsset found.asset reissue
      ((vUndoIPFS.find? fun item => item.1 = reissue.strName).map Prod.snd), ?_, ?_⟩
    · unfold unreissuedAsset
      split <;> rfl
    · grind [assetPart, setBalance, removeRestrictedVerifier]

end CAssetsCache

/-- What an operation that succeeds does to the new assets: only two touch them. -/
def CacheOp.onNewAssets (changes : ChangeSet Bytes CAssetCacheNewAsset compare) :
    CacheOp → ChangeSet Bytes CAssetCacheNewAsset compare
  | .addNewAsset asset address nHeight blockHash =>
    changes.add false asset.strName { asset, address, blockHash, blockHeight := nHeight }
  | .removeNewAsset asset address =>
    changes.remove false asset.strName { asset, address, blockHash := 0, blockHeight := 0 }
  | _ => changes

section

variable {globals : AssetGlobals} {cache changed : CAssetsCache} (operation : CacheOp)
  (applied : operation.apply globals cache = some changed)

include operation applied

/-- What an operation that succeeds does to the assets: a reissue, made or undone, notes the
metadata of an asset that it found. -/
theorem CacheOp.apply_assetPart :
    ∃ reissued reissues,
      changed.assetPart = (operation.onNewAssets cache.setNewAssets, reissued, reissues)
      ∧ (reissued = cache.mapReissuedAssetData ∨ ∃ name found key asset,
        operation.onNewAssets cache.setNewAssets = cache.setNewAssets
          ∧ cache.getAssetMetaDataIfExists globals name = some found
          ∧ (key = name ∨ key = found.asset.strName)
          ∧ reissued = cache.mapReissuedAssetData.insert key asset) := by
  cases operation with
  | addNewAsset | removeNewAsset =>
    obtain ⟨-, isChanged⟩ := Option.ite_none_left_eq_some.mp applied
    cases isChanged
    exact ⟨_, _, CAssetsCache.assetPart_updateBalance _ _ _ _ _, .inl rfl⟩
  | addReissueAsset reissue address out =>
    obtain ⟨found, isFound, part⟩ := CAssetsCache.addReissueAsset_assetPart applied
    exact ⟨_, _, part, .inr ⟨_, found, _, _, rfl, isFound, .inl rfl, rfl⟩⟩
  | removeReissueAsset reissue address out vUndoIPFS =>
    obtain ⟨found, isFound, asset, isName, part⟩ := CAssetsCache.removeReissueAsset_assetPart applied
    exact ⟨_, _, part, .inr ⟨_, found, _, _, rfl, isFound, .inr isName, rfl⟩⟩
  | removeTransfer transfer address out =>
    obtain ⟨undone, isUndone, rfl⟩ := Option.map_eq_some_iff.mp applied
    have same : undone.assetPart = cache.assetPart := by
      unfold CAssetsCache.undoTransfer at isUndone
      grind [CAssetsCache.assetPart, CAssetsCache.setBalance]
    exact ⟨_, _, same, .inl rfl⟩
  | trySpendCoin txOut => exact ⟨_, _, CAssetsCache.assetPart_trySpendCoin applied, .inl rfl⟩
  | undoAssetCoin txOut =>
    simp only [apply, CAssetsCache.undoAssetCoin] at applied
    split at applied
    · cases applied
    · obtain ⟨-, isChanged⟩ := Option.ite_none_left_eq_some.mp applied
      cases isChanged
      exact ⟨_, _, cache.assetPart_updateBalance globals _ _ _, .inl rfl⟩
  | addTransferAsset | addOwnerAsset | removeOwnerAsset =>
    cases applied
    exact ⟨_, _, CAssetsCache.assetPart_updateBalance _ _ _ _ _, .inl rfl⟩
  | addQualifierAddress | removeQualifierAddress =>
    cases applied
    exact ⟨_, _, cache.assetPart_noteSubQualifier _ _ _, .inl rfl⟩
  | addRestrictedAddress | removeRestrictedAddress | addGlobalRestricted | removeGlobalRestricted
  | addRestrictedVerifier | removeRestrictedVerifier =>
    cases applied
    exact ⟨_, _, rfl, .inl rfl⟩

theorem CacheOp.apply_setNewAssets : changed.setNewAssets = operation.onNewAssets cache.setNewAssets := by
  obtain ⟨_, _, part, -⟩ := operation.apply_assetPart applied
  exact congrArg (·.1) part

end

/-! ## Names that are there and names that are gone -/

namespace CacheState

variable {state : CacheState} {name : Bytes}

/-- An asset pending as added, and not as removed, in the cache or in `passets`. -/
structure Lives (state : CacheState) (name : Bytes) : Prop where
  notRemoved : state.cache.setNewAssets.toRemove[name]? = none
  notRemovedBelow : state.globals.passets.setNewAssets.toRemove[name]? = none
  added : state.cache.setNewAssets.toAdd[name]? ≠ none ∨ state.globals.passets.setNewAssets.toAdd[name]? ≠ none

/-- An asset pending as removed, in the cache or in `passets`, and not as added above. -/
structure Gone (state : CacheState) (name : Bytes) : Prop where
  notAdded : state.cache.setNewAssets.toAdd[name]? = none
  removed : state.cache.setNewAssets.toRemove[name]? ≠ none
    ∨ state.globals.passets.setNewAssets.toRemove[name]? ≠ none

theorem Lives.assetExists (lives : state.Lives name) : state.assetExists name = true := by
  unfold CacheState.assetExists CAssetsCache.checkIfAssetExists
  rw [existenceFor_pending, lives.notRemoved, lives.notRemovedBelow]
  rcases lives.added with inCache | inPassets
  · simp [Option.isSome_iff_ne_none.mpr inCache]
  · simp [Option.isSome_iff_ne_none.mpr inPassets]

theorem Gone.not_assetExists (gone : state.Gone name) (notReindexing : state.globals.fReindex = false) :
    state.assetExists name = false := by
  unfold CacheState.assetExists CAssetsCache.checkIfAssetExists
  rw [notReindexing, existenceFor_pending]
  rcases gone.removed with inCache | inPassets
  · simp [Option.isNone_eq_false_iff.mpr (Option.isSome_iff_ne_none.mpr inCache)]
  · simp [Option.isNone_eq_false_iff.mpr (Option.isSome_iff_ne_none.mpr inPassets)]

theorem step_fReindex (state : CacheState) (step : CacheStep) :
    (state.step step).globals.fReindex = state.globals.fReindex := by
  cases step <;> rfl

/-! ## One step -/

theorem step_of_refused (operation : CacheOp) (refused : operation.apply state.globals state.cache = none) :
    state.step (.op operation) = state := by
  simp only [step, refused, Option.getD_none]

theorem step_op_entries (state : CacheState) (operation : CacheOp)
    (untouched : ¬CacheStep.Removes name (.op operation)) (unadded : ¬CacheStep.Adds name (.op operation)) :
    (state.step (.op operation)).cache.setNewAssets.toAdd[name]? = state.cache.setNewAssets.toAdd[name]?
      ∧ (state.step (.op operation)).cache.setNewAssets.toRemove[name]?
        = state.cache.setNewAssets.toRemove[name]? := by
  cases applied : operation.apply state.globals state.cache with
  | none => simp [step, applied]
  | some changed =>
    have after : (state.step (.op operation)).cache.setNewAssets
        = operation.onNewAssets state.cache.setNewAssets := by
      rw [← CacheOp.apply_setNewAssets operation applied]
      simp [step, applied]
    rw [after]
    cases operation with
    | addNewAsset asset address nHeight blockHash =>
      have other : name ≠ asset.strName := fun same => unadded same.symm
      simp [CacheOp.onNewAssets, ChangeSet.add, ChangeSet.getElem?_record, getElem?_erase_eq, other]
    | removeNewAsset asset address =>
      have other : name ≠ asset.strName := fun same => untouched same.symm
      simp [CacheOp.onNewAssets, ChangeSet.remove, ChangeSet.getElem?_record, getElem?_erase_eq, other]
    | _ => exact ⟨rfl, rfl⟩

theorem Lives.step (lives : state.Lives name) {step : CacheStep} (keeps : ¬step.Removes name) :
    (state.step step).Lives name := by
  cases step with
  | flush renew =>
    have flushed := ChangeSet.getElem?_flush false state.cache.setNewAssets
      state.globals.passets.setNewAssets name
    rw [lives.notRemoved, lives.notRemovedBelow] at flushed
    have added := lives.added.symm
    simp only [← Option.isSome_iff_ne_none] at added
    refine ⟨?_, flushed.2.trans (ite_self none), .inr (Option.isSome_iff_ne_none.mp ?_)⟩
    · cases renew with
      | true => rfl
      | false => exact lives.notRemoved
    · exact (congrArg Option.isSome flushed.1).trans (ChangeSet.passOn_isSome false added)
  | op operation =>
    by_cases adds : CacheStep.Adds name (.op operation)
    · -- the asset exists, so that adding it again is refused
      cases operation with
      | addNewAsset asset address nHeight blockHash =>
        have there := lives.assetExists
        have isName : asset.strName = name := adds
        have refused : state.cache.addNewAsset state.globals asset address nHeight blockHash = none :=
          if_pos (isName ▸ there)
        rw [step_of_refused (.addNewAsset asset address nHeight blockHash) refused]
        exact lives
      | _ => exact adds.elim
    · obtain ⟨sameAdded, sameRemoved⟩ := step_op_entries state operation keeps adds
      exact ⟨sameRemoved.trans lives.notRemoved, lives.notRemovedBelow, by rw [sameAdded]; exact lives.added⟩

theorem Gone.step (gone : state.Gone name) (notReindexing : state.globals.fReindex = false)
    {step : CacheStep} (keeps : ¬step.Adds name) : (state.step step).Gone name := by
  cases step with
  | flush renew =>
    have flushed := ChangeSet.getElem?_flush false state.cache.setNewAssets
      state.globals.passets.setNewAssets name
    rw [gone.notAdded] at flushed
    have removed := gone.removed.symm
    simp only [← Option.isSome_iff_ne_none] at removed
    refine ⟨?_, .inr (Option.isSome_iff_ne_none.mp ?_)⟩
    · cases renew with
      | true => rfl
      | false => exact gone.notAdded
    · exact (congrArg Option.isSome flushed.2).trans (ChangeSet.passOn_isSome false removed)
  | op operation =>
    by_cases removes : CacheStep.Removes name (.op operation)
    · -- the asset does not exist, so that removing it again is refused
      cases operation with
      | removeNewAsset asset address =>
        have absent := gone.not_assetExists notReindexing
        have isName : asset.strName = name := removes
        have refused : state.cache.removeNewAsset state.globals asset address = none :=
          if_pos (by rw [isName]; exact congrArg not absent)
        rw [step_of_refused (.removeNewAsset asset address) refused]
        exact gone
      | _ => exact removes.elim
    · obtain ⟨sameAdded, sameRemoved⟩ := step_op_entries state operation removes keeps
      exact ⟨sameAdded.trans gone.notAdded, by rw [sameRemoved]; exact gone.removed⟩

/-! ## Runs -/

theorem Lives.run (lives : state.Lives name) {steps : List CacheStep}
    (keep : ∀ step ∈ steps, ¬step.Removes name) : (state.run steps).Lives name :=
  foldl_invariant (Lives · name) (fun step member _ lives => lives.step (keep step member)) lives

theorem run_fReindex (state : CacheState) (steps : List CacheStep) :
    (state.run steps).globals.fReindex = state.globals.fReindex :=
  foldl_untouched (·.globals.fReindex) (fun step _ state => step_fReindex state step) state

theorem Gone.run (gone : state.Gone name) (notReindexing : state.globals.fReindex = false)
    {steps : List CacheStep} (keep : ∀ step ∈ steps, ¬step.Adds name) : (state.run steps).Gone name := by
  have both := foldl_invariant (fun state => Gone state name ∧ state.globals.fReindex = false)
    (fun step member state held =>
      ⟨held.1.step held.2 (keep step member), (step_fReindex state step).trans held.2⟩)
    ⟨gone, notReindexing⟩
  exact both.1

/-! ## Adding, removing and adding again -/

theorem addNewAsset_isSome (state : CacheState) (asset : CNewAsset) (address : Bytes) (nHeight : Int)
    (blockHash : Uint256) :
    (state.addNewAsset asset address nHeight blockHash).isSome = !state.assetExists asset.strName := by
  unfold CacheState.addNewAsset CAssetsCache.addNewAsset CacheState.assetExists
  cases state.cache.checkIfAssetExists state.globals asset.strName <;> rfl

variable {address : Bytes} {asset : CNewAsset}

theorem addNewAsset_entries {nHeight : Int} {blockHash : Uint256} {added : CacheState}
    (adds : state.addNewAsset asset address nHeight blockHash = some added) :
    added.globals = state.globals
      ∧ added.cache.setNewAssets.toRemove[asset.strName]? = none
      ∧ added.cache.setNewAssets.toAdd[asset.strName]? ≠ none := by
  simp only [CacheState.addNewAsset, Option.map_eq_some_iff] at adds
  obtain ⟨cache, applied, rfl⟩ := adds
  have changes := CacheOp.apply_setNewAssets (.addNewAsset asset address nHeight blockHash) applied
  refine ⟨rfl, ?_, ?_⟩
  · simp [changes, CacheOp.onNewAssets, ChangeSet.add]
  · simp [changes, CacheOp.onNewAssets, ChangeSet.add, ChangeSet.getElem?_record]

theorem removeNewAsset_gone {removed : CacheState}
    (removes : state.removeNewAsset asset address = some removed) :
    removed.globals = state.globals ∧ removed.Gone asset.strName := by
  simp only [CacheState.removeNewAsset, Option.map_eq_some_iff] at removes
  obtain ⟨cache, applied, rfl⟩ := removes
  have changes := CacheOp.apply_setNewAssets (.removeNewAsset asset address) applied
  refine ⟨rfl, ?_, .inl ?_⟩
  · simp [changes, CacheOp.onNewAssets, ChangeSet.remove]
  · simp [changes, CacheOp.onNewAssets, ChangeSet.remove, ChangeSet.getElem?_record]

/-- From a state, an asset that is added exists and cannot be added again until it is
removed; then it does not exist, and can be added, until it is added. -/
def NameHeld (state : CacheState) (asset : CNewAsset) (address : Bytes) (nHeight : Int)
    (blockHash : Uint256) : Prop :=
  ∀ added, state.addNewAsset asset address nHeight blockHash = some added →
    ∀ steps, (∀ step ∈ steps, ¬CacheStep.Removes asset.strName step) →
      (added.run steps).assetExists asset.strName = true
        ∧ (∀ again address nHeight blockHash, again.strName = asset.strName →
            (added.run steps).addNewAsset again address nHeight blockHash = none)
        ∧ ∀ former address removed, former.strName = asset.strName →
            (added.run steps).removeNewAsset former address = some removed →
            ∀ later, (∀ step ∈ later, ¬CacheStep.Adds asset.strName step) →
              (removed.run later).assetExists asset.strName = false
                ∧ ∀ again address nHeight blockHash, again.strName = asset.strName →
                    ((removed.run later).addNewAsset again address nHeight blockHash).isSome = true

theorem nameHeld_of_not_pending_removal {nHeight : Int} {blockHash : Uint256}
    (notPending : state.globals.passets.setNewAssets.toRemove[asset.strName]? = none) :
    state.NameHeld asset address nHeight blockHash := by
  intro added adds steps keep
  obtain ⟨sameGlobals, notRemoved, isAdded⟩ := addNewAsset_entries adds
  have lives : added.Lives asset.strName := ⟨notRemoved, by rw [sameGlobals]; exact notPending, .inl isAdded⟩
  have afterwards := (lives.run keep).assetExists
  have notReindexing : state.globals.fReindex = false := by
    have absent : state.assetExists asset.strName = false := by
      have isSome := addNewAsset_isSome state asset address nHeight blockHash
      rw [adds] at isSome
      simpa using isSome.symm
    exact CAssetsCache.notReindexing_of_absent absent
  refine ⟨afterwards, ?_, ?_⟩
  · intro again otherAddress otherHeight otherHash isName
    have refused := addNewAsset_isSome (added.run steps) again otherAddress otherHeight otherHash
    rw [isName, afterwards] at refused
    simpa using refused
  · intro former formerAddress removed isName removes later keepLater
    obtain ⟨globalsKept, gone⟩ := removeNewAsset_gone removes
    rw [isName] at gone
    have stillNot : removed.globals.fReindex = false := by
      rw [globalsKept, run_fReindex, sameGlobals, notReindexing]
    have absent := (gone.run stillNot keepLater).not_assetExists ((run_fReindex removed later).trans stillNot)
    refine ⟨absent, ?_⟩
    intro again otherAddress otherHeight otherHash sameName
    rw [addNewAsset_isSome, sameName, absent]
    rfl

/-- Names are held exactly where `passets` has no removal of the asset pending; while
reindexing nothing can be added. -/
theorem nameHeld_iff (state : CacheState) (asset : CNewAsset) (address : Bytes) (nHeight : Int)
    (blockHash : Uint256) :
    state.NameHeld asset address nHeight blockHash
      ↔ state.globals.fReindex = true ∨ state.globals.passets.setNewAssets.toRemove[asset.strName]? = none := by
  constructor
  · intro held
    by_contra neither
    rw [not_or, Bool.not_eq_true] at neither
    obtain ⟨entry, pending⟩ := Option.ne_none_iff_exists'.mp neither.2
    have absent : ∀ cache : CAssetsCache,
        CacheState.assetExists ⟨state.globals, cache⟩ asset.strName = false := by
      intro cache
      unfold assetExists CAssetsCache.checkIfAssetExists
      rw [neither.1, existenceFor_pending, pending]
      simp
    have succeeds : (state.addNewAsset asset address nHeight blockHash).isSome = true := by
      rw [addNewAsset_isSome, absent state.cache]
      rfl
    obtain ⟨added, adds⟩ := Option.isSome_iff_exists.mp succeeds
    have there := (held added adds [] (by simp)).1
    have sameGlobals := (addNewAsset_entries adds).1
    have notThere := absent added.cache
    rw [← sameGlobals] at notThere
    exact Bool.false_ne_true (notThere.symm.trans there)
  · intro condition
    rcases condition with reindexing | notPending
    · intro added adds
      have refused := addNewAsset_isSome state asset address nHeight blockHash
      rw [adds] at refused
      simp [assetExists, CAssetsCache.checkIfAssetExists, reindexing] at refused
    · exact nameHeld_of_not_pending_removal notPending

def blackbird : CNewAsset := ⟨ascii "BLACKBIRD", 100000000, 0, 1, 0, []⟩

/-- An asset is issued and flushed, its issue undone and flushed. -/
def undoneIssue : CacheState :=
  let address := ascii "BCuf7Zghzuca6V6xs1mbGXsia7tug15LTw"
  CacheState.run ⟨AssetGlobals.initial ⟨Digests.tabulated [] (by simp), mainAssetParams⟩ false, .empty⟩
    [.op (.addNewAsset blackbird address 1 0), .flush true,
      .op (.removeNewAsset blackbird address), .flush true]

/-- Adding the asset once more succeeds, and it does not exist. -/
theorem undoneIssue_not_held :
    ¬undoneIssue.NameHeld blackbird (ascii "BCuf7Zghzuca6V6xs1mbGXsia7tug15LTw") 2 0 := by
  intro held
  have absent : ((undoneIssue.addNewAsset blackbird (ascii "BCuf7Zghzuca6V6xs1mbGXsia7tug15LTw") 2 0).map
      fun added => (added.run []).assetExists blackbird.strName) = some false := by decide
  obtain ⟨added, adds, isAbsent⟩ := Option.map_eq_some_iff.mp absent
  have there := (held added adds [] (by simp)).1
  exact Bool.false_ne_true (isAbsent.symm.trans there)

end CacheState

end BlackRaven.Assets
