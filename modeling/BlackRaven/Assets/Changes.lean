import BlackRaven.Assets.Table

/-!
Contract: issues and reissues as changes of a table of assets.

Owns: that a change which passed its checks keeps every asset of the table well formed,
lowers no amount and no units, leaves an asset that is not reissuable as it is, and
computes no sum outside the range of `int64_t`.
-/

namespace BlackRaven.Assets

open Consensus Lib Lib.WriteBack Primitives

inductive AssetChange where
  | issue (asset : CNewAsset)
  | reissue (reissue : CReissueAsset)

/-- A name is issued once; only what is there is reissued. -/
def AssetTable.perform (table : AssetTable) : AssetChange → AssetTable
  | .issue asset =>
    if (table asset.strName).isSome then table else update table asset.strName (some asset)
  | .reissue reissue =>
    match table reissue.strName with
    | none => table
    | some prev =>
      update table reissue.strName (some (CAssetsCache.reissuedAsset prev reissue))

/-- What `CheckReissueAsset` and `ContextualCheckReissueAsset` have found out about the
numbers of a reissue. -/
structure ReissuePermitted (env : AssetEnv) (prev : CNewAsset) (reissue : CReissueAsset) : Prop where
  checked : checkReissueAsset env reissue = .ok ()
  reissuable : prev.nReissuable ≠ 0
  amount : toInt64 (prev.nAmount + reissue.nAmount) ≤ maxMoney
  divisible : checkAmountWithUnits reissue.nAmount prev.units = some true
  units : reissue.nUnits = -1 ∨ prev.units ≤ reissue.nUnits

def AssetTable.Permits (env : AssetEnv) (table : AssetTable) : AssetChange → Prop
  | .issue asset => checkNewAsset asset = .ok ()
  | .reissue reissue => ∃ prev, table reissue.strName = some prev ∧ ReissuePermitted env prev reissue

/-- Changes one after another, each checked in the table it is made in. -/
def AssetTable.PermitsAll (env : AssetEnv) : AssetTable → List AssetChange → Prop
  | _, [] => True
  | table, change :: rest => table.Permits env change ∧ PermitsAll env (table.perform change) rest

structure WellFormedAsset (asset : CNewAsset) : Prop where
  positive : 0 < asset.nAmount
  bounded : asset.nAmount ≤ maxMoney
  units : 0 ≤ asset.units ∧ asset.units ≤ maxUnit
  divisible : (10 ^ (maxUnit - asset.units).toNat : Int) ∣ asset.nAmount

structure Succeeds (before after : CNewAsset) : Prop where
  amount : before.nAmount ≤ after.nAmount
  units : before.units ≤ after.units
  closed : before.nReissuable = 0 → after = before

theorem Succeeds.refl (asset : CNewAsset) : Succeeds asset asset := ⟨le_rfl, le_rfl, fun _ => rfl⟩

theorem Succeeds.trans {first second third : CNewAsset} (earlier : Succeeds first second)
    (later : Succeeds second third) : Succeeds first third where
  amount := earlier.amount.trans later.amount
  units := earlier.units.trans later.units
  closed := by
    intro notReissuable
    have same := earlier.closed notReissuable
    rw [same] at later
    exact later.closed notReissuable

/-! ## One asset -/

theorem checkAmountWithUnits_dvd {nAmount : CAmount} {nUnits : Int}
    (divides : checkAmountWithUnits nAmount nUnits = some true) :
    (10 ^ (maxUnit - nUnits).toNat : Int) ∣ nAmount := by
  unfold checkAmountWithUnits at divides
  split at divides
  · cases divides
  · exact Int.dvd_of_tmod_eq_zero (of_decide_eq_true (Option.some.inj divides))

theorem checkNewAsset_wellFormed {asset : CNewAsset} (passes : checkNewAsset asset = .ok ()) :
    WellFormedAsset asset := by
  unfold checkNewAsset at passes
  split at passes
  · cases passes
  · obtain ⟨_, -, passes⟩ := bind_eq_ok.mp passes
    simp only [ite_error_eq_ok, not_le, not_lt, not_or, not_not] at passes
    obtain ⟨-, positive, bounded, units, divisible, -⟩ := passes
    exact ⟨positive, bounded, units, checkAmountWithUnits_dvd divisible⟩

variable {env : AssetEnv} {reissue : CReissueAsset} {prev : CNewAsset}

theorem checkReissueAsset_ok (passes : checkReissueAsset env reissue = .ok ()) :
    (0 ≤ reissue.nAmount ∧ reissue.nAmount < maxMoney) ∧ reissue.nUnits ≤ maxUnit ∧ -1 ≤ reissue.nUnits := by
  unfold checkReissueAsset at passes
  simp only [ite_error_eq_ok, not_or, not_lt, not_le] at passes
  exact ⟨⟨passes.1.1, by simpa using passes.1.2⟩, passes.2.1⟩

/-- The sum a reissue is checked by, and then stored as, is exact. -/
theorem reissue_exact (wellFormed : WellFormedAsset prev) (passes : checkReissueAsset env reissue = .ok ()) :
    toInt64 (prev.nAmount + reissue.nAmount) = prev.nAmount + reissue.nAmount := by
  obtain ⟨⟨least, most⟩, -⟩ := checkReissueAsset_ok passes
  have positive := wellFormed.positive
  have bounded := wellFormed.bounded
  simp only [maxMoney, coin] at bounded most
  exact toInt64_of_range (by linarith) (by linarith)

/-- The units of a stored asset are units `CheckAmountWithUnits` is defined for. -/
theorem checkAmountWithUnits_isSome (wellFormed : WellFormedAsset prev) (nAmount : CAmount)
    : (checkAmountWithUnits nAmount prev.units).isSome = true := by
  have units := wellFormed.units
  unfold checkAmountWithUnits
  rw [if_neg (by omega)]
  rfl

theorem ReissuePermitted.succeeds (permitted : ReissuePermitted env prev reissue)
    (wellFormed : WellFormedAsset prev) :
    WellFormedAsset (CAssetsCache.reissuedAsset prev reissue)
      ∧ Succeeds prev (CAssetsCache.reissuedAsset prev reissue) := by
  obtain ⟨⟨least, most⟩, unitsMost, unitsLeast⟩ := checkReissueAsset_ok permitted.checked
  have sum : (CAssetsCache.reissuedAsset prev reissue).nAmount = prev.nAmount + reissue.nAmount :=
    reissue_exact wellFormed permitted.checked
  have amount := permitted.amount
  have positive := wellFormed.positive
  have units := wellFormed.units
  have grow : prev.units ≤ (CAssetsCache.reissuedAsset prev reissue).units
      ∧ (CAssetsCache.reissuedAsset prev reissue).units ≤ maxUnit := by
    simp only [CAssetsCache.reissuedAsset]
    rcases permitted.units with unchanged | larger
    · rw [if_neg (by omega)]
      exact ⟨le_rfl, units.2⟩
    · rw [if_pos (by omega)]
      exact ⟨larger, unitsMost⟩
  rw [reissue_exact wellFormed permitted.checked] at amount
  refine ⟨⟨by linarith, by linarith, ⟨by linarith, grow.2⟩, ?_⟩, ⟨by linarith, grow.1, ?_⟩⟩
  · rw [sum]
    -- with more units, fewer zeros are asked for
    refine (pow_dvd_pow 10 (Int.toNat_le_toNat (Int.sub_le_sub_left grow.1 _))).trans ?_
    exact Int.dvd_add wellFormed.divisible (checkAmountWithUnits_dvd permitted.divisible)
  · intro notReissuable
    exact absurd notReissuable permitted.reissuable

/-! ## The table -/

namespace AssetTable

variable {env : AssetEnv} {table : AssetTable}

def WellFormed (table : AssetTable) : Prop := ∀ name asset, table name = some asset → WellFormedAsset asset

/-- Every asset is still there, as something that may have become of it. -/
def Grows (before after : AssetTable) : Prop :=
  ∀ name asset, before name = some asset → ∃ later, after name = some later ∧ Succeeds asset later

theorem Grows.refl (table : AssetTable) : table.Grows table := fun _ asset found =>
  ⟨asset, found, .refl asset⟩

theorem Grows.trans {first second third : AssetTable} (earlier : first.Grows second)
    (later : second.Grows third) : first.Grows third := by
  intro name asset found
  obtain ⟨between, isBetween, succeeds⟩ := earlier name asset found
  obtain ⟨last, isLast, succeedsAgain⟩ := later name between isBetween
  exact ⟨last, isLast, succeeds.trans succeedsAgain⟩

theorem update_grows {name : Bytes} {after : CNewAsset}
    (succeeds : ∀ before, table name = some before → Succeeds before after) :
    table.Grows (update table name (some after)) := by
  intro other asset found
  by_cases same : other = name
  · subst same
    exact ⟨after, update_self .., succeeds asset found⟩
  · exact ⟨asset, (update_of_ne _ _ same).trans found, .refl asset⟩

theorem update_wellFormed (wellFormed : table.WellFormed) {name : Bytes} {after : CNewAsset}
    (isWellFormed : WellFormedAsset after) : WellFormed (update table name (some after)) := by
  intro other asset found
  by_cases same : other = name
  · rw [same, update_self] at found
    cases found
    exact isWellFormed
  · rw [update_of_ne _ _ same] at found
    exact wellFormed other asset found

theorem perform_grows (wellFormed : table.WellFormed) {change : AssetChange}
    (permits : table.Permits env change) :
    (table.perform change).WellFormed ∧ table.Grows (table.perform change) := by
  cases change with
  | issue asset =>
    unfold perform
    by_cases known : (table asset.strName).isSome = true
    · simp only [known, if_true]
      exact ⟨wellFormed, .refl table⟩
    · simp only [known, Bool.false_eq_true, if_false]
      refine ⟨update_wellFormed wellFormed (checkNewAsset_wellFormed permits), update_grows ?_⟩
      intro before found
      rw [found] at known
      exact absurd rfl known
  | reissue reissue =>
    obtain ⟨prev, isPrev, permitted⟩ := permits
    obtain ⟨isWellFormed, succeeds⟩ := permitted.succeeds (wellFormed _ prev isPrev)
    simp only [perform, isPrev]
    refine ⟨update_wellFormed wellFormed isWellFormed, update_grows ?_⟩
    intro before found
    rw [isPrev] at found
    cases found
    exact succeeds

theorem performAll_grows (wellFormed : table.WellFormed) {changes : List AssetChange}
    (permits : table.PermitsAll env changes) :
    (changes.foldl perform table).WellFormed ∧ table.Grows (changes.foldl perform table) := by
  induction changes generalizing table with
  | nil => exact ⟨wellFormed, .refl table⟩
  | cons change rest ih =>
    obtain ⟨nextWellFormed, grows⟩ := perform_grows wellFormed permits.1
    obtain ⟨lastWellFormed, growsAgain⟩ := ih nextWellFormed permits.2
    exact ⟨lastWellFormed, grows.trans growsAgain⟩

end AssetTable

namespace TableSound

variable {nameOf : COutPoint → Bytes} {globals : AssetGlobals} {cache : CAssetsCache}

theorem addNewAsset (sound : TableSound nameOf globals cache) (notReindexing : globals.fReindex = false)
    (asset : CNewAsset) (address : Bytes) (nHeight : Int) (blockHash : Uint256) :
    let issued := (cache.addNewAsset globals asset address nHeight blockHash).getD cache
    TableSound nameOf globals issued ∧ issued.table globals = (cache.table globals).perform (.issue asset) := by
  unfold CAssetsCache.addNewAsset AssetTable.perform
  dsimp only
  rw [CAssetsCache.checkIfAssetExists_of_not_reindexing _ _ notReindexing, ← sound.table_isSome]
  cases known : cache.table globals asset.strName with
  | some held => exact ⟨sound, rfl⟩
  | none =>
    let entry : CAssetCacheNewAsset := ⟨asset, address, blockHash, nHeight⟩
    have absent : cache.table globals entry.asset.strName = none := known
    obtain ⟨issuedSound, shown⟩ := sound.addIssue absent
    obtain ⟨addedSound, same⟩ := issuedSound.congr
      (CAssetsCache.assetPart_updateBalance _ globals asset.strName address fun _ => asset.nAmount)
    exact ⟨addedSound, same.trans shown⟩

theorem addReissueAsset (sound : TableSound nameOf globals cache) {reissue : CReissueAsset}
    {out : COutPoint} (isOut : nameOf out = reissue.strName) (address : Bytes) :
    let reissued := (cache.addReissueAsset globals reissue address out).getD cache
    TableSound nameOf globals reissued
      ∧ reissued.table globals = (cache.table globals).perform (.reissue reissue) := by
  unfold CAssetsCache.addReissueAsset AssetTable.perform
  dsimp only
  have isTable : cache.table globals reissue.strName
      = (cache.getAssetMetaDataIfExists globals reissue.strName).map (·.asset) := rfl
  rw [isTable]
  cases isFound : cache.getAssetMetaDataIfExists globals reissue.strName with
  | none => exact ⟨sound, rfl⟩
  | some found =>
    have shown : cache.table globals reissue.strName = some found.asset := isTable.trans (congrArg _ isFound)
    have sameName : found.asset.strName = reissue.strName := sound.table_strName shown
    have isName : (CAssetsCache.reissuedAsset found.asset reissue).strName = reissue.strName := sameName
    rw [← isName] at shown isOut
    have isEntry : (CAssetsCache.reissueEntry reissue address out found).reissue.strName
        = (CAssetsCache.reissuedAsset found.asset reissue).strName := isName.symm
    obtain ⟨reissuedSound, changed⟩ := sound.addReissue shown isOut isEntry
    unfold CAssetsCache.withReissue at reissuedSound changed
    rw [isName] at reissuedSound changed
    obtain ⟨addedSound, same⟩ := reissuedSound.congr
      (CAssetsCache.assetPart_updateBalance _ globals reissue.strName address fun best =>
        toInt64 (best + reissue.nAmount))
    exact ⟨addedSound, same.trans changed⟩

end TableSound

end BlackRaven.Assets
