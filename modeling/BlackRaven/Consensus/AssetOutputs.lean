import BlackRaven.Consensus.Authorization

/-!
Contract: the asset outputs of a transaction that passes `CheckTransaction`.

Owns: that each of them can be read as what its script says it is, whichever operation the
transaction is, and that the name read is not empty.
-/

namespace BlackRaven.Consensus

open Assets Lib Primitives Script

/-! ## Names -/

theorem nameType_ne_nil {name : Bytes} {type : AssetType} (isType : nameType name = some type) : name ≠ [] := by
  rintro rfl
  revert type
  decide

theorem checkNewAsset_ne_nil {asset : CNewAsset} (passes : checkNewAsset asset = .ok ()) :
    asset.strName ≠ [] := by
  unfold checkNewAsset at passes
  split at passes
  · cases passes
  next type isType => exact nameType_ne_nil isType

/-! ## Transfers -/

theorem scanTransfer_named {s next : OutputScan} {txout : CTxOut} (steps : scanTransfer s txout = .ok next) :
    ∃ transfer type, transferData txout.scriptPubKey = some transfer
      ∧ nameType transfer.strName = some type := by
  unfold scanTransfer at steps
  cases read : transferData txout.scriptPubKey with
  | none =>
    rw [read] at steps
    cases steps
  | some transfer =>
    cases isType : nameType transfer.strName with
    | none =>
      simp only [read, isType] at steps
      cases steps
    | some type => exact ⟨transfer, type, rfl, isType⟩

variable {env : TxEnv} {out : CTxOut} {tx : CTransaction}

theorem scan_transfers {fMempoolCheck fBlockCheck : Bool} {vout : List CTxOut} {start scan : OutputScan}
    (scanned : vout.foldlM (scanOutput env fMempoolCheck fBlockCheck) start = .ok scan) :
    ∀ out ∈ vout, assetKind out.scriptPubKey = some .transferAsset →
      ∃ transfer type, transferData out.scriptPubKey = some transfer
        ∧ nameType transfer.strName = some type := by
  refine foldlM_established (fun (out : CTxOut) (_ : OutputScan) =>
    assetKind out.scriptPubKey = some .transferAsset →
      ∃ transfer type, transferData out.scriptPubKey = some transfer
        ∧ nameType transfer.strName = some type) ?_ (fun _ _ _ _ _ holds => holds) scanned
  intro s out next steps isTransfer
  obtain ⟨_, -, steps⟩ := bind_eq_ok.mp steps
  obtain ⟨_, -, steps⟩ := bind_eq_ok.mp steps
  unfold scanAsset at steps
  rw [isTransfer] at steps
  exact scanTransfer_named steps

/-! ## Issues -/

theorem issue_of_last {last : CNewAsset} (once : countKind .newAsset tx.vout = 1)
    (read : newAssetData (lastScript tx) = some last) (checked : checkNewAsset last = .ok ())
    (member : out ∈ tx.vout) (isIssue : assetKind out.scriptPubKey = some .newAsset) :
    ∃ asset, newAssetData out.scriptPubKey = some asset ∧ checkNewAsset asset = .ok () := by
  rw [scriptPubKey_eq_lastScript once (readKind_kind read) member isIssue]
  exact ⟨last, read, checked⟩

theorem issuedLast_ok {missing : String} {asset : CNewAsset}
    (issued : issuedLast tx missing = .ok asset) : newAssetData (lastScript tx) = some asset := by
  unfold issuedLast at issued
  split at issued
  · cases issued
  · next read =>
      cases issued
      exact read

theorem issuedLast_bind_ok {α : Type} {missing : String} {later : CNewAsset → Except Failure α}
    {value : α} (passed : (issuedLast tx missing >>= later) = .ok value) :
    ∃ asset, newAssetData (lastScript tx) = some asset ∧ later asset = .ok value := by
  obtain ⟨asset, issued, checked⟩ := bind_eq_ok.mp passed
  exact ⟨asset, issuedLast_ok issued, checked⟩

theorem checkOperation_issues {operation : RestrictedOperation}
    (operated : checkOperation env tx = .ok operation) (member : out ∈ tx.vout)
    (isIssue : assetKind out.scriptPubKey = some .newAsset) :
    ∃ asset, newAssetData out.scriptPubKey = some asset ∧ checkNewAsset asset = .ok () := by
  have some_ := countKind_pos member isIssue
  unfold checkOperation at operated
  split at operated
  case isTrue =>
    obtain ⟨verified, _, checked⟩ := stages_ok operated
    obtain ⟨last, issued, checked⟩ := issuedLast_bind_ok checked
    obtain ⟨_, -, checked⟩ := bind_eq_ok.mp checked
    obtain ⟨_, -, -, once, -⟩ := verifyNewAsset_ok verified
    exact issue_of_last once issued (orReject_eq_ok.mp checked) member isIssue
  split at operated
  case isTrue =>
    obtain ⟨_, -, -, -, none_⟩ := verifyReissueAsset_ok (stages_ok operated).1
    omega
  split at operated
  case isTrue =>
    obtain ⟨verified, _, checked⟩ := stages_ok operated
    obtain ⟨scan, scanned, -, count, -⟩ := verifyNewUniqueAsset_ok verified
    have isUnique : isScriptNewUniqueAsset out.scriptPubKey = true := by
      apply unique_of_count _ member isIssue
      rw [count, (uniqueScan_spec scanned).2.1]
      exact Nat.zero_add _
    have passes := forM_eq_ok.mp checked out member
    obtain ⟨asset, -, read, -⟩ := isScriptNewTyped_iff.mp isUnique
    rw [if_pos isUnique, read] at passes
    exact ⟨asset, read, mapError_eq_ok.mp passes⟩
  split at operated
  case isTrue =>
    obtain ⟨verified, _, checked⟩ := stages_ok operated
    obtain ⟨last, issued, checked⟩ := issuedLast_bind_ok checked
    obtain ⟨_, -, -, counts⟩ := verifyNewMsgChannelAsset_ok verified
    exact issue_of_last ((issuesOneAsset_iff tx).mp counts).2.1 issued (mapError_eq_ok.mp checked)
      member isIssue
  split at operated
  case isTrue =>
    obtain ⟨verified, _, checked⟩ := stages_ok operated
    obtain ⟨last, issued, checked⟩ := issuedLast_bind_ok checked
    obtain ⟨_, -, -, counts⟩ := verifyNewQualifierAsset_ok verified
    exact issue_of_last ((issuesOneAsset_iff tx).mp counts).2.1 issued (mapError_eq_ok.mp checked)
      member isIssue
  split at operated
  case isTrue =>
    obtain ⟨verified, _, checked⟩ := stages_ok operated
    obtain ⟨last, issued, checked⟩ := issuedLast_bind_ok checked
    obtain ⟨_, checked, -⟩ := bind_eq_ok.mp checked
    obtain ⟨_, -, -, counts⟩ := verifyNewRestrictedAsset_ok verified
    exact issue_of_last ((issuesOneAsset_iff tx).mp counts).2.1 issued (mapError_eq_ok.mp checked)
      member isIssue
  obtain ⟨_, checked, -⟩ := map_eq_ok.mp operated
  exact absurd (checkPlainOutput_ok (forM_eq_ok.mp checked out member) isIssue) (by decide)

/-! ## Owner tokens -/

theorem verified_owner {env : AssetEnv} (operation : VerifiedOperation env tx)
    (member : out ∈ tx.vout) (isOwner : assetKind out.scriptPubKey = some .ownerAsset) :
    ∃ asset, newAssetData (lastScript tx) = some asset
      ∧ ownerData out.scriptPubKey = some (asset.strName ++ ownerTag) := by
  have verified := operation.counts.1.resolve_right (countKind_pos member isOwner).ne'
  obtain ⟨asset, issued, -, -, -, once, owned⟩ := verifyNewAsset_ok verified
  obtain ⟨other, otherMember, isScript⟩ := ownerScript_mem (readKind_kind owned)
  have otherOwner : assetKind other.scriptPubKey = some .ownerAsset := by
    rw [isScript]
    exact readKind_kind owned
  rw [countKind_one once member isOwner otherMember otherOwner, isScript]
  exact ⟨asset, issued, owned⟩

/-! ## Every asset output -/

/-- An asset script that `TrySpendCoin` can read. -/
def Readable (script : Bytes) : Prop :=
  (assetKind script).isSome = true → ∃ name amount, assetAmount script = some (name, amount) ∧ name ≠ []

/-- A reissue is of an asset with a name: its owner token is transferred, and a transferred
name is valid. -/
theorem reissue_ne_nil {strName : Bytes}
    (transferred : transfersToken tx.vout (reissueControlName strName ++ ownerTag) = true)
    (named : ∀ out ∈ tx.vout, assetKind out.scriptPubKey = some .transferAsset →
      ∃ transfer type, transferData out.scriptPubKey = some transfer
        ∧ nameType transfer.strName = some type) : strName ≠ [] := by
  rintro rfl
  rw [transfersToken, List.any_eq_true] at transferred
  obtain ⟨out, member, found⟩ := transferred
  obtain ⟨transfer, read, isToken⟩ := Option.any_eq_true _ _ |>.mp found
  obtain ⟨other, type, otherRead, isType⟩ := named out member (readKind_kind read)
  rw [read] at otherRead
  cases otherRead
  rw [beq_iff_eq.mp isToken] at isType
  revert type
  decide

theorem checkTransaction_readable {nHeight : Int} {blockReward : CAmount} {fMempoolCheck fBlockCheck : Bool}
    (passes : checkTransaction env tx nHeight blockReward fMempoolCheck fBlockCheck = .ok ())
    (member : out ∈ tx.vout) : Readable out.scriptPubKey := by
  obtain ⟨scan, operation, checked⟩ := checkTransaction_ok passes
  have transfers := scan_transfers checked.scanned
  have verified := checkOperation_verified checked.operated
  intro isAsset
  obtain ⟨kind, isKind⟩ := Option.isSome_iff_exists.mp isAsset
  unfold assetAmount
  rw [isKind]
  cases kind with
  | transferAsset =>
    obtain ⟨transfer, type, read, isType⟩ := transfers out member isKind
    exact ⟨transfer.strName, transfer.nAmount, by rw [read]; rfl, nameType_ne_nil isType⟩
  | newAsset =>
    obtain ⟨asset, read, checkedAsset⟩ := checkOperation_issues checked.operated member isKind
    exact ⟨asset.strName, asset.nAmount, by rw [read]; rfl, checkNewAsset_ne_nil checkedAsset⟩
  | ownerAsset =>
    obtain ⟨asset, -, read⟩ := verified_owner verified member isKind
    exact ⟨_, ownerAssetAmount, by rw [read]; rfl, by simp [ownerTag]⟩
  | reissueAsset =>
    obtain ⟨reissue, read, transferred⟩ := verified_reissue verified member isKind
    exact ⟨reissue.strName, reissue.nAmount, by rw [read]; rfl, reissue_ne_nil transferred transfers⟩

end BlackRaven.Consensus
