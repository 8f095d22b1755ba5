import BlackRaven.Consensus.Conservation

/-!
Contract: who can change an asset: the token that controls each change, and when a
transaction accepted by `CheckTransaction` and `CheckTxAssets` has spent it.

Owns: the controlling token of every change, that every accepted change but one shape
comes with a coin of its token, and exactly what that shape must satisfy.

The shape is an issue right behind an owner output. `IsNewAsset` takes it whatever the
name is, unless the name is unique or restricted, and `VerifyNewAsset` asks for the
parent of sub-assets only.
-/

namespace BlackRaven.Consensus

open Assets Lib Primitives Script

/-! ## Controlling tokens -/

/-- The token that controls the issue of a name, if any does. -/
def issueControl (name : Bytes) : Option Bytes :=
  match nameType name with
  | some .sub | some .unique | some .msgchannel => some (getParentName name ++ ownerTag)
  | some .restricted => some (name.drop 1 ++ ownerTag)
  | some .subQualifier => some (getParentName name)
  | _ => none

/-- The token that controls a tag or a freeze of an address. -/
def nullDataControl (name : Bytes) : Option Bytes :=
  if isAssetNameAQualifier name then some name
  else if isAssetNameAnRestricted name then some (name.drop 1 ++ ownerTag)
  else none

/-- The transaction makes a change that a token controls. -/
inductive Controlled (tx : CTransaction) : Bytes → Prop where
  | issue {out : CTxOut} {asset : CNewAsset} {token : Bytes} (member : out ∈ tx.vout)
      (issued : newAssetData out.scriptPubKey = some asset)
      (control : issueControl asset.strName = some token) : Controlled tx token
  | reissue {out : CTxOut} {reissue : CReissueAsset} (member : out ∈ tx.vout)
      (read : reissueData out.scriptPubKey = some reissue) :
      Controlled tx (reissueControlName reissue.strName ++ ownerTag)
  | nullData {out : CTxOut} {data : CNullAssetTxData} {token : Bytes} (member : out ∈ tx.vout)
      (read : nullAssetData out.scriptPubKey = some data)
      (control : nullDataControl data.assetName = some token) : Controlled tx token
  | globalFreeze {out : CTxOut} {data : CNullAssetTxData} (member : out ∈ tx.vout)
      (read : globalAssetNullDataFromScript out.scriptPubKey = some data) :
      Controlled tx (data.assetName.drop 1 ++ ownerTag)

def HoldsToken (inputs : CoinsView) (tx : CTransaction) (token : Bytes) : Prop :=
  ∃ txin ∈ tx.vin, ∃ amount, spentEntry inputs txin = some (token, amount)

/-- A channel or a sub-qualifier issued right behind an owner output: a transfer of the
parent's token is among the outputs. -/
def ParentTransferred (tx : CTransaction) : Prop :=
  isNewAsset tx = true → ∀ asset, newAssetData (lastScript tx) = some asset →
    nameType asset.strName = some .msgchannel ∨ nameType asset.strName = some .subQualifier →
    ∀ token, issueControl asset.strName = some token → transfersToken tx.vout token = true

/-! ## Transferred tokens are spent -/

variable {token : Bytes} {tx : CTransaction} {out : CTxOut} {env : TxEnv}
  {operation : RestrictedOperation} {asset : CNewAsset}

theorem transfersToken_iff :
    transfersToken tx.vout token = true ↔ token ∈ (tx.vout.filterMap transferEntry).map Prod.fst := by
  simp only [transfersToken, List.any_eq_true, Option.any_eq_true, beq_iff_eq, List.mem_map,
    List.mem_filterMap, transferEntry, Option.map_eq_some_iff]
  constructor
  · rintro ⟨out, member, transfer, read, isToken⟩
    exact ⟨(transfer.strName, transfer.nAmount), ⟨out, member, transfer, read, rfl⟩, isToken⟩
  · rintro ⟨_, ⟨out, member, transfer, read, rfl⟩, isToken⟩
    exact ⟨out, member, transfer, read, isToken⟩

theorem holdsToken_iff {inputs : CoinsView} :
    HoldsToken inputs tx token ↔ token ∈ (tx.vin.filterMap (spentEntry inputs)).map Prod.fst := by
  simp only [HoldsToken, List.mem_map, List.mem_filterMap]
  constructor
  · rintro ⟨txin, member, amount, spent⟩
    exact ⟨(token, amount), ⟨txin, member, spent⟩, rfl⟩
  · rintro ⟨⟨name, amount⟩, ⟨txin, member, spent⟩, rfl⟩
    exact ⟨txin, member, amount, spent⟩

/-! ## Issues and reissues -/

/-- The asset operation a transaction is, with what has been verified of it. -/
inductive VerifiedOperation (env : AssetEnv) (tx : CTransaction) : Prop where
  | issue (isNew : isNewAsset tx = true) (verified : verifyNewAsset env tx = .ok ())
  | reissue (isReissue : isReissueAsset tx = true) (verified : verifyReissueAsset env tx = .ok ())
  | unique (isUnique : isNewUniqueAsset tx = true) (verified : verifyNewUniqueAsset env tx = .ok ())
  | msgChannel (isChannel : isNewMsgChannelAsset tx = true)
      (verified : verifyNewMsgChannelAsset env tx = .ok ())
  | qualifier (isQualifier : isNewQualifierAsset tx = true)
      (verified : verifyNewQualifierAsset env tx = .ok ())
  | restricted (isRestricted : isNewRestrictedAsset tx = true)
      (verified : verifyNewRestrictedAsset env tx = .ok ())
  | plain (transfersOnly : ∀ out ∈ tx.vout, ∀ kind,
      assetKind out.scriptPubKey = some kind → kind = .transferAsset)

theorem checkPlainOutput_ok {misplaced : String} (passes : checkPlainOutput misplaced out = .ok ())
    {kind : AssetScriptKind} (isKind : assetKind out.scriptPubKey = some kind)
    : kind = .transferAsset := by
  unfold checkPlainOutput at passes
  simp only [isKind, rejected, ite_error_eq_ok, not_not] at passes
  exact passes.1

/-- The checks of the operations begin with the verification. -/
theorem stages_ok {α : Type} {verification : Except String Unit} {later : Except Failure α}
    {result : α → RestrictedOperation}
    (operated : (orReject verification >>= fun _ => later).map result = .ok operation) :
    verification = .ok () ∧ ∃ value, later = .ok value := by
  obtain ⟨value, checked, -⟩ := map_eq_ok.mp operated
  obtain ⟨_, verified, checked⟩ := bind_eq_ok.mp checked
  exact ⟨orReject_eq_ok.mp verified, value, checked⟩

theorem checkOperation_verified (operated : checkOperation env tx = .ok operation)
    : VerifiedOperation env.assets tx := by
  unfold checkOperation at operated
  split at operated
  case isTrue isNew => exact .issue isNew (stages_ok operated).1
  split at operated
  case isTrue isReissue => exact .reissue isReissue (stages_ok operated).1
  split at operated
  case isTrue isUnique => exact .unique isUnique (stages_ok operated).1
  split at operated
  case isTrue isChannel => exact .msgChannel isChannel (stages_ok operated).1
  split at operated
  case isTrue isQualifier => exact .qualifier isQualifier (stages_ok operated).1
  split at operated
  case isTrue isRestricted => exact .restricted isRestricted (stages_ok operated).1
  obtain ⟨_, checked, -⟩ := map_eq_ok.mp operated
  exact .plain fun out member kind isKind =>
    checkPlainOutput_ok (forM_eq_ok.mp checked out member) isKind

/-- Owner tokens are outputs of issues, and reissues those of reissues. -/
theorem VerifiedOperation.counts {env : AssetEnv} (operation : VerifiedOperation env tx) :
    (verifyNewAsset env tx = .ok () ∨ countKind .ownerAsset tx.vout = 0)
      ∧ (verifyReissueAsset env tx = .ok () ∨ countKind .reissueAsset tx.vout = 0) := by
  have ofOne : issuesOneAsset tx = true →
      countKind .ownerAsset tx.vout = 0 ∧ countKind .reissueAsset tx.vout = 0 :=
    fun one => ⟨((issuesOneAsset_iff tx).mp one).1, ((issuesOneAsset_iff tx).mp one).2.2⟩
  cases operation with
  | issue _ verified => exact ⟨.inl verified, .inr (verifyNewAsset_ok verified).choose_spec.2.2.2.1⟩
  | reissue _ verified =>
    exact ⟨.inr (verifyReissueAsset_ok verified).choose_spec.2.2.2.2, .inl verified⟩
  | unique _ verified =>
    obtain ⟨_, -, -, -, noReissue, noOwner⟩ := verifyNewUniqueAsset_ok verified
    exact ⟨.inr noOwner, .inr noReissue⟩
  | msgChannel _ verified =>
    exact (ofOne (verifyNewMsgChannelAsset_ok verified).choose_spec.2.2).imp .inr .inr
  | qualifier _ verified =>
    exact (ofOne (verifyNewQualifierAsset_ok verified).choose_spec.2.2).imp .inr .inr
  | restricted _ verified =>
    exact (ofOne (verifyNewRestrictedAsset_ok verified).choose_spec.2.2).imp .inr .inr
  | plain transfersOnly =>
    have none_ : ∀ kind : AssetScriptKind, kind ≠ .transferAsset → countKind kind tx.vout = 0 := by
      intro kind other
      apply List.countP_eq_zero.mpr
      intro out member isKind
      exact other (transfersOnly out member kind (beq_iff_eq.mp isKind))
    exact ⟨.inr (none_ _ (by decide)), .inr (none_ _ (by decide))⟩

/-- With a single issue, which is the last output, an issued asset is the last one. -/
theorem issued_last {last : CNewAsset} (once : countKind .newAsset tx.vout = 1)
    (member : out ∈ tx.vout) (issued : newAssetData out.scriptPubKey = some asset)
    (lastIssued : newAssetData (lastScript tx) = some last) : asset = last := by
  have isLast := scriptPubKey_eq_lastScript once (readKind_kind lastIssued) member (readKind_kind issued)
  rw [isLast, lastIssued] at issued
  exact (Option.some.inj issued).symm

theorem nameType_of_typed {accepts : AssetType → Bool} {script : Bytes}
    (typed : isScriptNewTyped accepts script = true) (issued : newAssetData script = some asset) :
    ∃ type, nameType asset.strName = some type ∧ accepts type = true := by
  obtain ⟨other, type, otherIssued, isType, accepted⟩ := isScriptNewTyped_iff.mp typed
  rw [issued] at otherIssued
  cases otherIssued
  exact ⟨type, isType, accepted⟩

theorem assetType_of_nameType {name : Bytes} {type : AssetType} (isType : nameType name = some type) :
    assetType name = type := by
  rw [assetType, isType, Option.getD_some]

/-- Every issue transfers its controlling token, but for the shape that needs
`ParentTransferred`. -/
theorem issue_transfers {env : AssetEnv} (operation : VerifiedOperation env tx)
    (parent : ParentTransferred tx) (member : out ∈ tx.vout)
    (issued : newAssetData out.scriptPubKey = some asset)
    (control : issueControl asset.strName = some token) : transfersToken tx.vout token = true := by
  have isIssue : assetKind out.scriptPubKey = some .newAsset := readKind_kind issued
  have some_ := countKind_pos member isIssue
  cases operation with
  | issue isNew verified =>
    obtain ⟨last, lastIssued, subParent, once, -⟩ := verifyNewAsset_ok verified
    obtain rfl := issued_last once member issued lastIssued
    have excluded := isNew
    simp only [isNewAsset, Bool.and_eq_true, Bool.not_eq_true', Bool.or_eq_false_iff] at excluded
    cases isType : nameType asset.strName with
    | none => simp [issueControl, isType] at control
    | some type =>
      have notTyped : ∀ accepts : AssetType → Bool,
          isScriptNewTyped accepts (lastScript tx) = false → accepts type = false := by
        intro accepts notScript
        rw [Bool.eq_false_iff] at notScript ⊢
        exact fun accepted => notScript (isScriptNewTyped_iff.mpr ⟨asset, type, lastIssued, isType, accepted⟩)
      have notUnique := notTyped _ excluded.2.1
      have notRestricted := notTyped _ excluded.2.2
      cases type with
      | sub =>
        simp only [issueControl, isType, Option.some.injEq] at control
        rw [← control]
        exact subParent (assetType_of_nameType isType)
      | msgchannel => exact parent isNew asset lastIssued (Or.inl isType) token control
      | subQualifier => exact parent isNew asset lastIssued (Or.inr isType) token control
      | unique => cases notUnique
      | restricted => cases notRestricted
      | _ => simp [issueControl, isType] at control
  | reissue isReissue verified =>
    obtain ⟨_, -, -, -, none_⟩ := verifyReissueAsset_ok verified
    omega
  | unique isUnique verified =>
    obtain ⟨scan, scanned, transferred, count, -⟩ := verifyNewUniqueAsset_ok verified
    obtain ⟨-, counted, parents⟩ := uniqueScan_spec scanned
    have outUnique : isScriptNewUniqueAsset out.scriptPubKey = true := by
      apply unique_of_count _ member isIssue
      rw [count, counted]
      exact Nat.zero_add _
    obtain ⟨type, isType, accepted⟩ := nameType_of_typed outUnique issued
    rw [beq_iff_eq.mp accepted] at isType
    simp only [issueControl, isType, Option.some.injEq] at control
    rw [← control, parents out member outUnique asset issued]
    exact transferred
  | msgChannel isChannel verified =>
    obtain ⟨last, lastIssued, transferred, counts⟩ := verifyNewMsgChannelAsset_ok verified
    obtain rfl := issued_last ((issuesOneAsset_iff tx).mp counts).2.1 member issued lastIssued
    simp only [isNewMsgChannelAsset, Bool.and_eq_true] at isChannel
    obtain ⟨type, isType, accepted⟩ := nameType_of_typed isChannel.2 lastIssued
    rw [beq_iff_eq.mp accepted] at isType
    simp only [issueControl, isType, Option.some.injEq] at control
    rw [← control]
    exact transferred
  | qualifier isQualifier verified =>
    obtain ⟨last, lastIssued, transferred, counts⟩ := verifyNewQualifierAsset_ok verified
    obtain rfl := issued_last ((issuesOneAsset_iff tx).mp counts).2.1 member issued lastIssued
    simp only [isNewQualifierAsset, Bool.and_eq_true] at isQualifier
    obtain ⟨type, isType, accepted⟩ := nameType_of_typed isQualifier.2 lastIssued
    rw [Bool.or_eq_true, beq_iff_eq, beq_iff_eq] at accepted
    rcases accepted with isPlain | isSub
    · rw [isPlain] at isType
      simp [issueControl, isType] at control
    · rw [isSub] at isType
      simp only [issueControl, isType, Option.some.injEq] at control
      rw [← control]
      exact transferred (assetType_of_nameType isType)
  | restricted isRestricted verified =>
    obtain ⟨last, lastIssued, transferred, counts⟩ := verifyNewRestrictedAsset_ok verified
    obtain rfl := issued_last ((issuesOneAsset_iff tx).mp counts).2.1 member issued lastIssued
    simp only [isNewRestrictedAsset, Bool.and_eq_true] at isRestricted
    obtain ⟨type, isType, accepted⟩ := nameType_of_typed isRestricted.2 lastIssued
    rw [beq_iff_eq.mp accepted] at isType
    have isParent : getParentName asset.strName = asset.strName := by rw [getParentName, isType]
    simp only [issueControl, isType, Option.some.injEq] at control
    rw [← control, ← isParent]
    exact transferred
  | plain transfersOnly =>
    exact absurd (transfersOnly out member .newAsset isIssue) (by decide)

theorem verified_reissue {env : AssetEnv} (operation : VerifiedOperation env tx)
    (member : out ∈ tx.vout) (isReissue : assetKind out.scriptPubKey = some .reissueAsset) :
    ∃ reissue, reissueData out.scriptPubKey = some reissue
      ∧ transfersToken tx.vout (reissueControlName reissue.strName ++ ownerTag) = true := by
  have verified := operation.counts.2.resolve_right (countKind_pos member isReissue).ne'
  obtain ⟨last, read, transferred, once, -⟩ := verifyReissueAsset_ok verified
  rw [scriptPubKey_eq_lastScript once (readKind_kind read) member isReissue]
  exact ⟨last, read, transferred⟩

/-! ## Null data -/

/-- Every tag and every freeze of an address transfers its controlling token. -/
theorem nullData_transfers {nHeight : Int} {blockReward : CAmount}
    {fMempoolCheck fBlockCheck : Bool} {scan : OutputScan}
    (checked : TransactionChecked env tx nHeight blockReward fMempoolCheck fBlockCheck scan operation)
    {data : CNullAssetTxData} (member : out ∈ tx.vout) (read : nullAssetData out.scriptPubKey = some data)
    (control : nullDataControl data.assetName = some token) :
    transfersToken tx.vout token = true := by
  have recorded := scan_null checked.scanned out member data read
  have passes := (checkNullDataTokens_ok checked.tokens).1 _ recorded
  obtain ⟨char, rest, isName, ifRestricted, ifOther⟩ := checkNullDataToken_ok passes
  simp only at isName ifOther
  apply scan_names checked.scanned
  unfold nullDataControl at control
  split at control
  case isTrue isQualifier =>
    cases control
    obtain ⟨_, isQualifierName⟩ := isAssetNameAQualifier_cons isQualifier
    rw [isQualifierName, List.cons.injEq] at isName
    exact ifOther (by rw [← isName.1]; decide)
  split at control
  case isTrue isRestricted =>
    cases control
    simp only [isAssetNameAnRestricted, Bool.and_eq_true] at isRestricted
    obtain ⟨_, isRestrictedName, -⟩ := isMarkedRun_cons isRestricted.2
    have isChar : char = restrictedChar := by
      rw [isRestrictedName, List.cons.injEq] at isName
      exact isName.1.symm
    rw [isName]
    exact ifRestricted isChar
  cases control

/-! ## Authorization -/

/-- An accepted transaction spends a coin of every token that controls one of its
changes exactly when a channel or sub-qualifier issued behind an owner output comes with
its parent's token. -/
theorem changes_authorized_iff {env : TxEnv} {ctx : TxAssetsContext} {tx : CTransaction}
    (accepted : TxAccepted env ctx tx) :
    (∀ token, Controlled tx token → HoldsToken ctx.inputs tx token) ↔ ParentTransferred tx := by
  obtain ⟨totals, assetsChecked⟩ := accepted.assetsChecked
  obtain ⟨nHeight, blockReward, fMempoolCheck, fBlockCheck, passes⟩ := accepted.checked
  obtain ⟨scan, operation, checked⟩ := checkTransaction_ok passes
  have verified := checkOperation_verified checked.operated
  have spent : ∀ token, transfersToken tx.vout token = true ↔ HoldsToken ctx.inputs tx token := by
    intro token
    rw [transfersToken_iff, holdsToken_iff]
    exact accepted_sameNames assetsChecked token
  constructor
  · intro authorized isNew asset issued _ token control
    obtain ⟨out, member, isLast⟩ := lastScript_mem (readKind_kind issued)
    apply (spent token).mpr
    apply authorized
    exact .issue member (by rw [isLast]; exact issued) control
  · intro parent token controlled
    apply (spent token).mp
    cases controlled with
    | issue member issued control => exact issue_transfers verified parent member issued control
    | reissue member read =>
      obtain ⟨other, otherRead, transferred⟩ := verified_reissue verified member (readKind_kind read)
      cases read.symm.trans otherRead
      exact transferred
    | nullData member read control => exact nullData_transfers checked member read control
    | globalFreeze member read =>
      have recorded := scan_global checked.scanned _ member _ read
      apply scan_names checked.scanned
      exact checkGlobalToken_ok ((checkNullDataTokens_ok checked.tokens).2 _ recorded)

/-! ## Sample transactions -/

def channelAsset : CNewAsset := ⟨ascii "GOLD~NEWS", coin, 0, 0, 0, []⟩

def issuerKey : Bytes := List.replicate 20 7

def channelBurnKey : Bytes := toBytesLE 20 0x9adbc31762b667656a4f26a1d6c945616aa4261f

def channelBurn : CTxOut := ⟨100 * coin, payToPubkeyHash channelBurnKey⟩

def channelIssue : CTxOut := ⟨0, channelAsset.constructTransaction (payToPubkeyHash issuerKey)⟩

def feeCoin : Coin := ⟨⟨200 * coin, payToPubkeyHash issuerKey⟩, 10, false⟩

def feeOutPoint : COutPoint := ⟨1, 0⟩

/-- Issue a channel of GOLD behind an owner output, paying the burn fee out of a plain
coin. -/
def channelTx : CTransaction :=
  .plain [⟨feeOutPoint, [], 0xffffffff#32, []⟩]
    [channelBurn, ⟨0, channelAsset.constructOwnerTransaction (payToPubkeyHash issuerKey)⟩, channelIssue]

/-- SHA-256 on what the checks of `channelTx` hash: the two addresses and the transaction. -/
def channelDigestTable : List (Bytes × Bytes) :=
  Digests.hashRows [(25 :: channelBurnKey,
      0xc57dd5ea51c108beb0328f42d8301b9981962e8b458d2621a0ccca0b095b1168,
      0xe2dea71a178b5f818091c60871c7898f19383b552aa4eed99fd7b946e506161c),
    (25 :: issuerKey,
      0x89c7da402bd4784734d99dd027ce52db6d33c202f26544c62011526321845d76,
      0x5d5edad41b920723b4b5d8639f174b1977dc31e160853d2b61f7b8c7ae5053e7),
    (channelTx.serializeNoWitness,
      0x181d788808ac4816cf18322b26e6fcc8e56321e070a4a8fe46100e9789938999,
      0xdf42069aed3fbd11677a58d3510600f4a0848d2f4dc85a7a61b1b3b60d83b3a1)]

theorem channelDigestTable_sized : ∀ entry ∈ channelDigestTable, entry.2.length = 32 := by
  decide

def channelEnv : TxEnv :=
  ⟨⟨Digests.tabulated channelDigestTable channelDigestTable_sized, mainAssetParams⟩, mainParams, 0⟩

def channelContext : TxAssetsContext :=
  { goldContext with
    env := channelEnv.assets
    inputs := fun prevout => if prevout = feeOutPoint then some feeCoin else none }

theorem channelTx_accepted : TxAccepted channelEnv channelContext channelTx := by
  have checked : checkTransaction channelEnv channelTx 11 0 false true = .ok () := by decide +kernel
  exact .of_outcomes rfl rfl checked (by decide)

theorem channelTx_issues_without_owner :
    TxAccepted channelEnv channelContext channelTx
      ∧ Controlled channelTx (ascii "GOLD!")
      ∧ ¬ HoldsToken channelContext.inputs channelTx (ascii "GOLD!") := by
  refine ⟨channelTx_accepted, ?_, ?_⟩
  · have member : channelIssue ∈ channelTx.vout := by decide
    have issued : newAssetData channelIssue.scriptPubKey = some channelAsset := by decide
    exact .issue member issued (by decide)
  · rw [holdsToken_iff]
    decide

/-- The owner token of GOLD, as a coin and as an output. -/
def goldOwnerOutput : CTxOut :=
  ⟨0, CAssetTransfer.constructTransaction ⟨ascii "GOLD!", ownerAssetAmount, [], 0⟩ (payToPubkeyHash issuerKey)⟩

def goldOwnerOutPoint : COutPoint := ⟨2, 0⟩

/-- The same channel, issued by whoever has the owner token. -/
def ownedChannelTx : CTransaction :=
  { channelTx with
    vin := channelTx.vin ++ [⟨goldOwnerOutPoint, [], 0xffffffff#32, []⟩]
    vout := [channelBurn, goldOwnerOutput, channelIssue] }

def ownedChannelContext : TxAssetsContext :=
  { channelContext with
    inputs := fun prevout =>
      if prevout = goldOwnerOutPoint then some ⟨goldOwnerOutput, 10, false⟩
      else channelContext.inputs prevout }

theorem changes_authorized_ownedChannelTx :
    HoldsToken ownedChannelContext.inputs ownedChannelTx (ascii "GOLD!") := by
  have checked : checkTransaction channelEnv ownedChannelTx 11 0 false true = .ok () := by
    decide +kernel
  have accepted : TxAccepted channelEnv ownedChannelContext ownedChannelTx :=
    .of_outcomes rfl rfl checked (by decide)
  have parent : ParentTransferred ownedChannelTx := fun isNew => absurd isNew (by decide)
  have member : channelIssue ∈ ownedChannelTx.vout := by decide
  have issued : newAssetData channelIssue.scriptPubKey = some channelAsset := by decide
  exact (changes_authorized_iff accepted).mpr parent _ (.issue member issued (by decide))

end BlackRaven.Consensus
