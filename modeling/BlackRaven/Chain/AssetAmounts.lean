import BlackRaven.Chain.Coins

/-!
Contract: `GetAssetAmountFromScript` of `script/script.cpp` beside `GetAssetData` of
`assets/assets.cpp`, with all asset deployments active.

Owns: on which scripts the two give one amount, and on which of them `IsUnspendable` keeps
just the outputs the asset code counts.
-/

namespace BlackRaven.Chain

open Assets Consensus Script

variable (script : Bytes)

/-- `GetAssetAmountFromScript`: an owner script has its amount before its name is read. -/
def getAssetAmountFromScript : Option CAmount :=
  match assetKind script with
  | none => none
  | some .newAsset => (newAssetData script).map CNewAsset.nAmount
  | some .transferAsset => (transferData script).map CAssetTransfer.nAmount
  | some .ownerAsset => some ownerAssetAmount
  | some .reissueAsset => (reissueData script).map CReissueAsset.nAmount

/-- What makes an output unspendable whatever its amount. -/
def unspendableForm : Bool :=
  script.head? == some opReturn || script.head? == some opBlkrAsset
    || decide (script.length > maxScriptSize)

/-- The amount in the record behind the header of an asset script. -/
def recordAmount (kind : AssetScriptKind) (script : Bytes) : Option CAmount :=
  match kind with
  | .newAsset => (newAssetData script).map CNewAsset.nAmount
  | .transferAsset => (transferData script).map CAssetTransfer.nAmount
  | .ownerAsset => (ownerData script).map fun _ => ownerAssetAmount
  | .reissueAsset => (reissueData script).map CReissueAsset.nAmount

theorem getAssetData_amount (env : AssetEnv) (script : Bytes) :
    (getAssetData env script).map CAssetOutputEntry.nAmount
      = (assetKind script).bind fun kind => recordAmount kind script := by
  unfold getAssetData assetAmount
  split <;> simp [recordAmount, Option.map_map, Function.comp_def, *]

theorem getAssetAmountFromScript_eq :
    getAssetAmountFromScript script = (assetKind script).bind fun kind =>
      if kind = .ownerAsset then some ownerAssetAmount else recordAmount kind script := by
  unfold getAssetAmountFromScript
  split <;> simp [recordAmount, *]

/-- The zero test of `IsUnspendable` is the same with either amount. -/
theorem isUnspendable_eq :
    isUnspendable script = (unspendableForm script || (getAssetAmountFromScript script).any (· == 0)) := by
  unfold isUnspendable unspendableForm getAssetAmountFromScript assetAmount
  congr 1
  split <;> simp [Option.any_map, *]
  cases ownerData script <;> rfl

/-- The two decoders agree on a script, and `IsUnspendable` keeps it if and only if the
asset code counts it, unless it is an owner script without a name, or its form and its
record disagree on whether there is anything to spend. -/
theorem asset_amounts_agree_iff (env : AssetEnv) (script : Bytes) :
    (getAssetAmountFromScript script = (getAssetData env script).map CAssetOutputEntry.nAmount ∧
      ∀ kind, assetKind script = some kind → (isUnspendable script = false ↔
        ∃ amount ≠ 0, (getAssetData env script).map CAssetOutputEntry.nAmount = some amount))
    ↔ ∀ kind, assetKind script = some kind →
        (recordAmount kind script = none → kind ≠ .ownerAsset ∧ unspendableForm script = true) ∧
        ∀ amount, recordAmount kind script = some amount → amount ≠ 0 → unspendableForm script = false := by
  rw [isUnspendable_eq, getAssetAmountFromScript_eq, getAssetData_amount]
  cases assetKind script with
  | none => simp
  | some kind =>
    simp only [Option.bind_some, Option.some.injEq, forall_eq']
    by_cases isOwner : kind = .ownerAsset
    · subst isOwner
      cases read : recordAmount .ownerAsset script with
      | none => simp
      | some amount =>
        obtain ⟨_, -, rfl⟩ := Option.map_eq_some_iff.mp read
        simp [ownerAssetAmount, coin]
    · cases recordAmount kind script with
      | none => simp [isOwner]
      | some amount => by_cases zero : amount = 0 <;> simp [isOwner, zero]

/-- An asset script that begins with `first` and holds `payload`. -/
def scriptHolding (first letter : UInt8) (payload : Bytes) : Bytes :=
  first :: List.replicate 24 0 ++ [opBlkrAsset, 9, blkrN, blkrE, blkrX, letter] ++ payload

/-- An owner script without a name is kept and has an amount for one decoder only; a
transfer of one unit of `ABC` behind `OP_RETURN` is counted and dropped. -/
theorem nameless_owner_kept :
    (∀ env, getAssetAmountFromScript (scriptHolding 0x76 blkrO [0xff]) = some ownerAssetAmount ∧
      getAssetData env (scriptHolding 0x76 blkrO [0xff]) = none ∧
      isUnspendable (scriptHolding 0x76 blkrO [0xff]) = false) ∧
    isUnspendable (scriptHolding opReturn blkrT [3, 65, 66, 67, 1, 0, 0, 0, 0, 0, 0, 0]) = true ∧
    assetAmount (scriptHolding opReturn blkrT [3, 65, 66, 67, 1, 0, 0, 0, 0, 0, 0, 0])
      = some ([65, 66, 67], 1) := by
  refine ⟨fun env => ⟨by decide, ?_, by decide⟩, by decide, by decide⟩
  have unread : assetAmount (scriptHolding 0x76 blkrO [0xff]) = none := by decide
  rw [getAssetData, unread]
  rfl

end BlackRaven.Chain
