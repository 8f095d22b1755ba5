import BlackRaven.Assets.Agreement
import BlackRaven.Assets.Flush
import BlackRaven.Lib.WriteBack

/-!
Contract: the metadata a cache shows, as a table by asset name, while assets are issued and
reissued and nothing is undone.

Owns: what the functions of a cache, a flush, a dump to the databases and a read do to the
table. The table leaves out the height and the block of the issue, which a pending reissue
hides and a dump then loses.
-/

namespace BlackRaven.Assets

open Lib Lib.WriteBack Primitives CAssetsCache

abbrev AssetTable := Bytes → Option CNewAsset

namespace CAssetsCache

variable (cache : CAssetsCache) (globals : AssetGlobals)

def table : AssetTable := fun name => (cache.getAssetMetaDataIfExists globals name).map (·.asset)

/-- What `CheckIfAssetExists` looks up when the node is not reindexing. -/
def isIssued (name : Bytes) : Bool :=
  existenceFor (globals.storedAsset name).isSome (cache.setNewAssets.pending globals.passets.setNewAssets name)

theorem checkIfAssetExists_of_not_reindexing (notReindexing : globals.fReindex = false) (name : Bytes) :
    cache.checkIfAssetExists globals name = cache.isIssued globals name := by
  rw [checkIfAssetExists, notReindexing]
  rfl

/-- A cache whose functions only issued and reissued. Each outpoint of a reissue belongs to
one asset. -/
structure Additive (nameOf : COutPoint → Bytes) (cache : CAssetsCache) : Prop where
  issues : cache.setNewAssets.KeyedBy (·.asset.strName)
  noRemoval : ∀ name : Bytes, cache.setNewAssets.toRemove[name]? = none
  reissues : ∀ (out : COutPoint) entry, cache.setNewReissue.toAdd[out]? = some entry →
    entry.reissue.strName = nameOf out
  noUndone : ∀ out : COutPoint, cache.setNewReissue.toRemove[out]? = none
  named : ∀ (name : Bytes) asset, cache.mapReissuedAssetData[name]? = some asset → asset.strName = name
  /-- A reissue that changed the metadata is recorded, so that a dump writes it. -/
  recorded : ∀ name : Bytes, cache.mapReissuedAssetData[name]?.isSome = true →
    ∃ out : COutPoint, nameOf out = name ∧ cache.setNewReissue.toAdd[out]?.isSome = true

variable {nameOf : COutPoint → Bytes} {cache globals}

theorem Additive.congr {other : CAssetsCache} (additive : cache.Additive nameOf)
    (same : other.assetPart = cache.assetPart) : other.Additive nameOf := by
  simp only [assetPart, Prod.mk.injEq] at same
  obtain ⟨assets, reissued, reissues⟩ := same
  constructor
  · rw [assets]
    exact additive.issues
  · rw [assets]
    exact additive.noRemoval
  · rw [reissues]
    exact additive.reissues
  · rw [reissues]
    exact additive.noUndone
  · rw [reissued]
    exact additive.named
  · rw [reissued, reissues]
    exact additive.recorded

theorem Additive.empty : CAssetsCache.empty.Additive nameOf where
  issues := .empty
  noRemoval := fun _ => Std.TreeMap.getElem?_emptyc
  reissues := by simp [CAssetsCache.empty, ChangeSet.empty]
  noUndone := fun _ => Std.TreeMap.getElem?_emptyc
  named := by simp [CAssetsCache.empty]
  recorded := by simp [CAssetsCache.empty]

theorem Additive.flush {passets : CAssetsCache} (own : cache.Additive nameOf)
    (below : passets.Additive nameOf) : (cache.flush passets).Additive nameOf := by
  have assetsFlushed := ChangeSet.getElem?_flush false cache.setNewAssets passets.setNewAssets
  have reissuesFlushed := ChangeSet.getElem?_flush false cache.setNewReissue passets.setNewReissue
  simp only [own.noRemoval, below.noRemoval, Option.isSome_none, Bool.false_eq_true, if_false,
    ite_self, ChangeSet.passOn] at assetsFlushed
  simp only [own.noUndone, below.noUndone, Option.isSome_none, Bool.false_eq_true, if_false,
    ite_self] at reissuesFlushed
  constructor
  · exact own.issues.flush below.issues false
  · intro name
    exact (assetsFlushed name).2
  · intro out entry found
    rcases ChangeSet.passOn_eq_some ((reissuesFlushed out).1 ▸ found) with held | incoming
    · exact below.reissues out entry held
    · exact own.reissues out entry incoming
  · intro out
    exact (reissuesFlushed out).2
  · intro name asset found
    exact (overwrite_eq_some found).elim (own.named name asset) (below.named name asset)
  · intro name found
    obtain ⟨asset, isReissued⟩ := Option.isSome_iff_exists.mp found
    have passedOn : ∀ out : COutPoint, passets.setNewReissue.toAdd[out]?.isSome = true
          ∨ cache.setNewReissue.toAdd[out]?.isSome = true →
        (cache.flush passets).setNewReissue.toAdd[out]?.isSome = true := by
      intro out either
      exact (congrArg Option.isSome (reissuesFlushed out).1).trans (ChangeSet.passOn_isSome false either)
    rcases overwrite_eq_some isReissued with above | lower
    · obtain ⟨out, isName, added⟩ := own.recorded name (Option.isSome_of_eq_some above)
      exact ⟨out, isName, passedOn out (.inr added)⟩
    · obtain ⟨out, isName, added⟩ := below.recorded name (Option.isSome_of_eq_some lower)
      exact ⟨out, isName, passedOn out (.inl added)⟩

/-- The cache with changed metadata and the entry of the reissue that changed it. -/
def withReissue (cache : CAssetsCache) (asset : CNewAsset) (out : COutPoint)
    (entry : CAssetCacheReissueAsset) : CAssetsCache :=
  { cache with
    mapReissuedAssetData := cache.mapReissuedAssetData.insert asset.strName asset
    setNewReissue := cache.setNewReissue.add false out entry }

theorem Additive.withReissue (additive : cache.Additive nameOf) {asset : CNewAsset} {out : COutPoint}
    {entry : CAssetCacheReissueAsset} (isOut : nameOf out = asset.strName)
    (isEntry : entry.reissue.strName = asset.strName) :
    (cache.withReissue asset out entry).Additive nameOf := by
  have lookup : ∀ name : Bytes, (cache.withReissue asset out entry).mapReissuedAssetData[name]?
      = if name = asset.strName then some asset else cache.mapReissuedAssetData[name]? :=
    fun name => getElem?_insert_eq _ _ _ _
  have recordedAt : ∀ other : COutPoint,
      (cache.withReissue asset out entry).setNewReissue.toAdd[other]?
        = if other = out then some (cache.setNewReissue.toAdd[out]?.getD entry)
          else cache.setNewReissue.toAdd[other]? :=
    fun other => ChangeSet.getElem?_record false _ _ _ _
  refine { additive with reissues := ?_, noUndone := ?_, named := ?_, recorded := ?_ }
  · intro other held found
    -- an outpoint that was there keeps its entry, which is of the same asset
    rcases ChangeSet.record_eq_some found with before | ⟨rfl, rfl⟩
    · exact additive.reissues other held before
    · exact isEntry.trans isOut.symm
  · intro other
    refine (getElem?_erase_eq _ _ _).trans ?_
    rw [additive.noUndone, ite_self]
  · exact forall_insert additive.named rfl
  · intro name found
    rw [lookup] at found
    by_cases isName : name = asset.strName
    · refine ⟨out, isOut.trans isName.symm, ?_⟩
      rw [recordedAt, if_pos rfl]
      rfl
    · rw [if_neg isName] at found
      obtain ⟨other, isOther, held⟩ := additive.recorded name found
      refine ⟨other, isOther, ?_⟩
      rw [recordedAt]
      by_cases same : other = out
      · rw [if_pos same]
        rfl
      · rw [if_neg same]
        exact held

end CAssetsCache

/-! ## A table in two layers over the stored rows -/

/-- The asset state while a block is connected in a run that undoes nothing. -/
structure TableSound (nameOf : COutPoint → Bytes) (globals : AssetGlobals) (cache : CAssetsCache) :
    Prop where
  own : cache.Additive nameOf
  below : globals.passets.Additive nameOf
  agree : globals.AssetsAgree
  /-- An asset is issued in one of the two layers only. -/
  new : ∀ (name : Bytes) entry, cache.setNewAssets.toAdd[name]? = some entry →
    globals.passets.setNewAssets.toAdd[name]? = none
  /-- What was reissued was issued. -/
  issued : ∀ name : Bytes, cache.mapReissuedAssetData[name]?.isSome = true
    ∨ globals.passets.mapReissuedAssetData[name]?.isSome = true → cache.isIssued globals name = true

namespace TableSound

variable {nameOf : COutPoint → Bytes} {globals : AssetGlobals} {cache : CAssetsCache}

section

variable (sound : TableSound nameOf globals cache)

include sound

theorem isIssued_eq (name : Bytes) :
    cache.isIssued globals name
      = (cache.setNewAssets.toAdd[name]?.isSome || globals.passets.setNewAssets.toAdd[name]?.isSome
        || (globals.storedAsset name).isSome) := by
  unfold isIssued
  rw [existenceFor_pending, sound.own.noRemoval, sound.below.noRemoval]
  rfl

theorem table_eq (name : Bytes) :
    cache.table globals name
      = (cache.mapReissuedAssetData[name]?.or <| globals.passets.mapReissuedAssetData[name]?.or <|
        (cache.setNewAssets.toAdd[name]?.map (·.asset)).or <|
        (globals.passets.setNewAssets.toAdd[name]?.map (·.asset)).or
        ((globals.storedAsset name).map (·.asset))) := by
  unfold table getAssetMetaDataIfExists ChangeSet.pending
  rw [sound.own.noRemoval, sound.below.noRemoval]
  cases cache.mapReissuedAssetData[name]? with
  | some asset => rfl
  | none =>
    cases globals.passets.mapReissuedAssetData[name]? with
    | some asset => rfl
    | none =>
      cases cache.setNewAssets.toAdd[name]? with
      | some entry => rfl
      | none =>
        cases globals.passets.setNewAssets.toAdd[name]? with
        | some entry => rfl
        | none => cases globals.storedAsset name <;> rfl

theorem table_isSome (name : Bytes) : (cache.table globals name).isSome = cache.isIssued globals name := by
  have issued := sound.issued name
  rw [sound.table_eq]
  rw [sound.isIssued_eq] at issued ⊢
  simp only [Option.isSome_or, Option.isSome_map]
  cases own : cache.mapReissuedAssetData[name]?.isSome with
  | true => rw [issued (.inl own), Bool.true_or]
  | false =>
    cases below : globals.passets.mapReissuedAssetData[name]?.isSome with
    | true => rw [issued (.inr below), Bool.true_or, Bool.false_or]
    | false => rw [Bool.false_or, Bool.false_or, Bool.or_assoc]

theorem table_strName {name : Bytes} {asset : CNewAsset} (shown : cache.table globals name = some asset) :
    asset.strName = name := by
  simp only [sound.table_eq, Option.or_eq_some_iff, Option.map_eq_some_iff] at shown
  rcases shown with own | ⟨-, below | ⟨-, ⟨entry, issue, rfl⟩ | ⟨-, ⟨entry, issue, rfl⟩ | ⟨-, data, row, rfl⟩⟩⟩⟩
  · exact sound.own.named name asset own
  · exact sound.below.named name asset below
  · exact sound.own.issues.added name entry issue
  · exact sound.below.issues.added name entry issue
  · rw [AssetGlobals.storedAsset_eq sound.agree] at row
    exact sound.agree.2 name data row

/-- A function that leaves the assets alone leaves the table alone. -/
theorem congr {other : CAssetsCache} (same : other.assetPart = cache.assetPart) :
    TableSound nameOf globals other ∧ other.table globals = cache.table globals := by
  have additive := sound.own.congr same
  simp only [assetPart, Prod.mk.injEq] at same
  obtain ⟨assets, reissued, -⟩ := same
  refine ⟨⟨additive, sound.below, sound.agree, ?_, ?_⟩, ?_⟩
  · rw [assets]
    exact sound.new
  · unfold isIssued
    rw [assets, reissued]
    exact sound.issued
  · funext name
    unfold table getAssetMetaDataIfExists
    rw [assets, reissued]

/-! ## Issues and reissues -/

theorem addIssue {entry : CAssetCacheNewAsset} (absent : cache.table globals entry.asset.strName = none) :
    TableSound nameOf globals
        { cache with setNewAssets := cache.setNewAssets.add false entry.asset.strName entry }
      ∧ table
          { cache with setNewAssets := cache.setNewAssets.add false entry.asset.strName entry } globals
        = update (cache.table globals) entry.asset.strName (some entry.asset) := by
  let issued : CAssetsCache :=
    { cache with setNewAssets := cache.setNewAssets.add false entry.asset.strName entry }
  simp only [sound.table_eq, Option.or_eq_none_iff, Option.map_eq_none_iff] at absent
  obtain ⟨notReissued, notReissuedBelow, notAbove, notBelow, -⟩ := absent
  have lookup : ∀ name : Bytes, issued.setNewAssets.toAdd[name]?
      = if name = entry.asset.strName then some entry else cache.setNewAssets.toAdd[name]? := by
    intro name
    refine (ChangeSet.getElem?_record false _ _ _ _).trans ?_
    rw [notAbove]
    rfl
  have additive : issued.Additive nameOf :=
    { sound.own with
      issues := sound.own.issues.add false entry
      noRemoval := by
        intro name
        refine (getElem?_erase_eq _ _ _).trans ?_
        rw [sound.own.noRemoval, ite_self] }
  have newly : ∀ (name : Bytes) held, issued.setNewAssets.toAdd[name]? = some held →
      globals.passets.setNewAssets.toAdd[name]? = none := by
    intro name held found
    rcases ChangeSet.record_eq_some found with before | ⟨rfl, -⟩
    · exact sound.new name held before
    · exact notBelow
  have pendingElsewhere : ∀ name, name ≠ entry.asset.strName →
      issued.setNewAssets.pending globals.passets.setNewAssets name
        = cache.setNewAssets.pending globals.passets.setNewAssets name := by
    intro name differs
    unfold ChangeSet.pending
    rw [additive.noRemoval, sound.own.noRemoval, lookup, if_neg differs]
  have issuedSound : TableSound nameOf globals issued := by
    refine ⟨additive, sound.below, sound.agree, newly, ?_⟩
    intro name reissued
    by_cases isName : name = entry.asset.strName
    · rw [isName, show issued.mapReissuedAssetData = cache.mapReissuedAssetData from rfl, notReissued,
        notReissuedBelow] at reissued
      simp at reissued
    · unfold isIssued
      rw [pendingElsewhere name isName]
      exact sound.issued name reissued
  refine ⟨issuedSound, ?_⟩
  funext name
  by_cases isName : name = entry.asset.strName
  · rw [isName, update_self]
    refine (issuedSound.table_eq _).trans ?_
    rw [lookup, if_pos rfl, show issued.mapReissuedAssetData = cache.mapReissuedAssetData from rfl,
      notReissued, notReissuedBelow]
    rfl
  · rw [update_of_ne _ _ isName]
    unfold table getAssetMetaDataIfExists
    rw [pendingElsewhere name isName]

/-- The changed metadata and the entry of a reissue in the cache. -/
theorem addReissue {entry : CAssetCacheReissueAsset} {asset prev : CNewAsset}
    (shown : cache.table globals asset.strName = some prev) {out : COutPoint}
    (isOut : nameOf out = asset.strName) (isEntry : entry.reissue.strName = asset.strName) :
    TableSound nameOf globals (cache.withReissue asset out entry)
      ∧ (cache.withReissue asset out entry).table globals
        = update (cache.table globals) asset.strName (some asset) := by
  have lookup : ∀ name : Bytes, (cache.withReissue asset out entry).mapReissuedAssetData[name]?
      = if name = asset.strName then some asset else cache.mapReissuedAssetData[name]? :=
    fun name => getElem?_insert_eq _ _ _ _
  constructor
  · refine ⟨sound.own.withReissue isOut isEntry, sound.below, sound.agree, sound.new, ?_⟩
    intro name found
    by_cases isName : name = asset.strName
    · have issued := sound.table_isSome asset.strName
      rw [shown] at issued
      rw [isName]
      exact issued.symm
    · rw [lookup, if_neg isName] at found
      exact sound.issued name found
  · funext name
    unfold table getAssetMetaDataIfExists
    rw [lookup]
    by_cases isName : name = asset.strName
    · rw [if_pos isName, isName, update_self]
      rfl
    · rw [if_neg isName, update_of_ne _ _ isName]
      rfl

end

/-! ## Flush, dump and read -/

theorem empty_pending (globals : AssetGlobals) (name : Bytes) :
    CAssetsCache.empty.setNewAssets.pending globals.passets.setNewAssets name
      = globals.passets.setNewAssets.pending globals.passets.setNewAssets name := by
  rw [ChangeSet.pending_self]
  simp [ChangeSet.pending, CAssetsCache.empty, ChangeSet.empty]

theorem empty_isIssued (globals : AssetGlobals) (name : Bytes) :
    CAssetsCache.empty.isIssued globals name = globals.passets.isIssued globals name := by
  unfold isIssued
  rw [empty_pending]

theorem empty_table (globals : AssetGlobals) :
    CAssetsCache.empty.table globals = globals.passets.table globals := by
  funext name
  unfold table getAssetMetaDataIfExists
  rw [empty_pending]
  cases globals.passets.mapReissuedAssetData[name]? <;> simp [CAssetsCache.empty]

theorem start (below : globals.passets.Additive nameOf) (agree : globals.AssetsAgree)
    (issued : ∀ name : Bytes, globals.passets.mapReissuedAssetData[name]?.isSome = true →
      globals.passets.setNewAssets.toAdd[name]?.isSome = true ∨ (globals.storedAsset name).isSome = true) :
    TableSound nameOf globals .empty := by
  refine ⟨.empty, below, agree, ?_, ?_⟩
  · intro name entry found
    simp [CAssetsCache.empty, ChangeSet.empty] at found
  · intro name reissued
    rcases reissued with above | lower
    · simp [CAssetsCache.empty] at above
    · unfold isIssued
      rw [existenceFor_pending, below.noRemoval]
      rcases issued name lower with pending | stored
      · simp [CAssetsCache.empty, ChangeSet.empty, pending]
      · simp [CAssetsCache.empty, ChangeSet.empty, stored]

theorem flush (sound : TableSound nameOf globals cache) :
    TableSound nameOf (globals.flushed cache) .empty
      ∧ (globals.flushed cache).passets.table (globals.flushed cache) = cache.table globals := by
  constructor
  · have below : (globals.flushed cache).passets.Additive nameOf := sound.own.flush sound.below
    have agree : (globals.flushed cache).AssetsAgree := sound.agree
    apply start below agree
    intro name reissued
    have found : cache.mapReissuedAssetData[name]?.isSome = true
        ∨ globals.passets.mapReissuedAssetData[name]?.isSome = true := by
      obtain ⟨asset, isReissued⟩ := Option.isSome_iff_exists.mp reissued
      exact (overwrite_eq_some isReissued).imp Option.isSome_of_eq_some Option.isSome_of_eq_some
    have issued := sound.issued name found
    rw [sound.isIssued_eq, Bool.or_eq_true, Bool.or_eq_true] at issued
    have flushed := (ChangeSet.getElem?_flush false cache.setNewAssets globals.passets.setNewAssets name).1
    rw [sound.own.noRemoval] at flushed
    rcases issued with pending | stored
    · exact .inl ((congrArg Option.isSome flushed).trans (ChangeSet.passOn_isSome false pending.symm))
    · exact .inr stored
  · have transparent := (metadata_iff globals cache).mpr (by
      intro name entry adds _ _
      refine ⟨sound.below.noRemoval name, ?_⟩
      intro held isHeld
      rw [sound.new name entry adds.2] at isHeld
      cases isHeld)
    funext name
    unfold table
    rw [transparent name]

def assetRow (name : Bytes) (store : AssetStore) : Option CNewAsset :=
  store.passetsdb.assetData[name]?.map (·.asset)

theorem assetRow_dumpNewReissue (below : cache.Additive nameOf) (fAssetIndex : Bool)
    (entry : CAssetCacheReissueAsset) (name : Bytes) (store : AssetStore) :
    assetRow name (dumpNewReissue fAssetIndex cache store entry)
      = if entry.reissue.strName = name then cache.mapReissuedAssetData[name]?.or (assetRow name store)
        else assetRow name store := by
  unfold dumpNewReissue
  cases found : cache.mapReissuedAssetData[entry.reissue.strName]? with
  | none =>
    by_cases isName : entry.reissue.strName = name
    · rw [if_pos isName, ← isName, found]
      rfl
    · rw [if_neg isName]
  | some asset =>
    have isAsset := below.named _ asset found
    have written : assetRow name (dumpReissuedData store entry asset)
        = if entry.reissue.strName = name then cache.mapReissuedAssetData[name]?.or (assetRow name store)
          else assetRow name store := by
      unfold assetRow
      rw [AssetStore.assetData_dumpReissuedData entry isAsset]
      by_cases isName : entry.reissue.strName = name
      · rw [if_pos isName.symm, if_pos isName, ← isName, found]
        rfl
      · rw [if_neg (Ne.symm isName), if_neg isName]
    cases fAssetIndex with
    | false => exact written
    | true =>
      have frame := cache.dumpBalance_frame (dumpReissuedData store entry asset) (· > 0)
        entry.reissue.strName entry.address
      exact (congrArg (assetRow name) frame :).trans written

theorem assetRow_dumpReissues (below : cache.Additive nameOf) (fAssetIndex : Bool) (name : Bytes)
    (store : AssetStore) :
    assetRow name (dumpReissues fAssetIndex cache store)
      = cache.mapReissuedAssetData[name]?.or (assetRow name store) := by
  refine (foldValues_untouched (assetRow name) ?_ _).trans ?_
  · intro out entry undone
    rw [below.noUndone] at undone
    cases undone
  cases reissued : cache.mapReissuedAssetData[name]? with
  | none =>
    refine (foldValues_untouched (assetRow name) ?_ _).trans rfl
    intro _ entry _ store
    rw [assetRow_dumpNewReissue below, reissued]
    exact ite_self _
  | some asset =>
    have step : ∀ (out : COutPoint) entry, cache.setNewReissue.toAdd[out]? = some entry →
        Stamps (assetRow name) (some asset) (entry.reissue.strName = name)
          fun store => dumpNewReissue fAssetIndex cache store entry := by
      intro _ entry _
      constructor
      · intro isName store
        rw [assetRow_dumpNewReissue below, if_pos isName, reissued]
        rfl
      · intro otherName store
        rw [assetRow_dumpNewReissue below, if_neg otherName]
    have stamps := Stamps.foldValues _ _ step
    obtain ⟨out, isName, recorded⟩ := below.recorded name (by rw [reissued]; rfl)
    obtain ⟨entry, isEntry⟩ := Option.isSome_iff_exists.mp recorded
    exact stamps.written ⟨out, entry, isEntry, (below.reissues out entry isEntry).trans isName⟩ store

section

variable (sound : TableSound nameOf globals .empty)

include sound

theorem storedAsset_dumped (name : Bytes) :
    (globals.dumpCacheToDatabase.storedAsset name).map (·.asset) = CAssetsCache.empty.table globals name := by
  have agree : globals.dumpCacheToDatabase.AssetsAgree := sound.agree.dumpStore sound.below.named
  have separate : globals.passets.setNewAssets.Separate := fun name => .inr (sound.below.noRemoval name)
  let assets := dumpAssets globals.fAssetIndex globals.passets globals.toAssetStore
  have stages := congrArg (assetRow name)
    (dumpStore_assets globals.env globals.fAssetIndex globals.passets globals.toAssetStore)
  have owners := congrArg (assetRow name)
    (dumpOwnersAndTransfers_frame globals.fAssetIndex globals.passets assets)
  have issues := assetData_dumpAssets globals.fAssetIndex globals.toAssetStore sound.below.issues separate name
  rw [AssetGlobals.storedAsset_eq agree]
  refine stages.trans ((assetRow_dumpReissues sound.below _ _ _).trans ?_)
  rw [sound.table_eq, AssetGlobals.storedAsset_eq sound.agree]
  have rows : assetRow name (dumpOwnersAndTransfers globals.fAssetIndex globals.passets assets)
      = (globals.passets.setNewAssets.toAdd[name]?.map (·.asset)).or
        (globals.passetsdb.assetData[name]?.map (·.asset)) := by
    have issued := congrArg (Option.map CDatabasedAssetData.asset) issues
    refine owners.trans (Eq.trans issued ?_)
    rw [ChangeSet.pending_self, sound.below.noRemoval]
    cases globals.passets.setNewAssets.toAdd[name]? <;> rfl
  rw [rows]
  simp [CAssetsCache.empty, ChangeSet.empty]

theorem dump :
    TableSound nameOf globals.dumpCacheToDatabase .empty
      ∧ globals.dumpCacheToDatabase.passets.table globals.dumpCacheToDatabase
        = globals.passets.table globals := by
  have below : globals.dumpCacheToDatabase.passets.Additive nameOf := .empty
  have agree : globals.dumpCacheToDatabase.AssetsAgree := sound.agree.dumpStore sound.below.named
  have dumpedSound : TableSound nameOf globals.dumpCacheToDatabase .empty := by
    apply start below agree
    intro name reissued
    simp [AssetGlobals.dumpCacheToDatabase, CAssetsCache.empty] at reissued
  refine ⟨dumpedSound, ?_⟩
  rw [← empty_table, ← empty_table]
  funext name
  rw [dumpedSound.table_eq, sound.storedAsset_dumped]
  simp [CAssetsCache.empty, ChangeSet.empty, AssetGlobals.dumpCacheToDatabase]

theorem read (item : StoredItem) :
    TableSound nameOf { globals with toAssetStore := globals.toAssetStore.read globals.env item } .empty
      ∧ CAssetsCache.empty.table
          { globals with toAssetStore := globals.toAssetStore.read globals.env item }
        = CAssetsCache.empty.table globals := by
  let after : AssetGlobals :=
    { globals with toAssetStore := globals.toAssetStore.read globals.env item }
  have agree : after.AssetsAgree := sound.agree.read globals.env item
  have rows : after.passetsdb = globals.passetsdb := by cases item <;> rfl
  have stored : after.storedAsset = globals.storedAsset := by
    funext name
    rw [AssetGlobals.storedAsset_eq agree, AssetGlobals.storedAsset_eq sound.agree, rows]
  constructor
  · refine ⟨sound.own, sound.below, agree, sound.new, ?_⟩
    unfold isIssued
    rw [show AssetGlobals.storedAsset _ = _ from stored]
    exact sound.issued
  · funext name
    unfold table getAssetMetaDataIfExists
    rw [show AssetGlobals.storedAsset _ = _ from stored]

end

end TableSound

end BlackRaven.Assets
