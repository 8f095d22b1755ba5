import BlackRaven.Assets.Records
import Mathlib.Data.List.Basic

/-!
Contract: the `Is…` and `Verify…` members of `CTransaction` in `assets/assets.cpp`
and the burn checks they use.

Owns: which asset operation a transaction is, what its outputs must then look like,
and, for each operation, which token its outputs are seen to transfer.

`IsNewAsset` tells unique and restricted names apart from the rest; a channel or
qualifier name behind an owner output is a new asset to it.
-/

namespace BlackRaven.Assets

open Consensus Lib Primitives Script

/-! ## Outputs -/

/-- The counts of `GetTxOutAssetTypes`. -/
def countKind (kind : AssetScriptKind) (vout : List CTxOut) : Nat :=
  vout.countP fun out => assetKind out.scriptPubKey == some kind

/-- The loop that looks for a transfer of one token. -/
def transfersToken (vout : List CTxOut) (token : Bytes) : Bool :=
  vout.any fun out => (transferData out.scriptPubKey).any fun transfer => transfer.strName == token

/-- The output pays an amount to an address: the common part of `CheckIssueBurnTx` and
`CheckReissueBurnTx`. -/
def paysAddress (env : AssetEnv) (txOut : CTxOut) (amount : CAmount) (address : Bytes) : Bool :=
  txOut.nValue == amount
    && (extractDestination env.digests txOut.scriptPubKey).any fun destination =>
      destination != .noDestination && encodeDestination env.digests env.params.prefixes destination == address

def checkIssueBurnTx (env : AssetEnv) (type : AssetType) (numberIssued : Nat) (txOut : CTxOut) : Bool :=
  type != .reissue && type != .vote && type != .owner && type != .invalid
    && paysAddress env txOut (env.params.getBurnAmount type * numberIssued) (env.params.getBurnAddress type)

def checkReissueBurnTx (env : AssetEnv) (txOut : CTxOut) : Bool :=
  paysAddress env txOut env.params.nReissueAssetBurnAmount env.params.strReissueAssetBurnAddress

-- `BAD_HASH` and `BAD_HASH2`, two transactions of the chain's history.
def badHash : Uint256 := 0xe6cdd54445e6bf69710d54e4340a6486167f866575a878eaedecbb345da056ae#256
def badHash2 : Uint256 := 0x3ba63518dc12599f9b83449c8b5338e224caf363d0327f5156fa4b6efeca5724#256

/-! ## The operation of a transaction -/

/-- The script of the last output, empty when there is none. -/
def lastScript (tx : CTransaction) : Bytes := (tx.vout.getLast?.map CTxOut.scriptPubKey).getD []

def ownerScript (tx : CTransaction) : Bytes :=
  (tx.vout.dropLast.getLast?.map CTxOut.scriptPubKey).getD []

/-- `CheckIssueDataTx` of the last output. -/
def issueDataLast (tx : CTransaction) : Bool := assetKind (lastScript tx) == some .newAsset

/-- `CheckOwnerDataTx` of the output before it. -/
def ownerDataBeforeLast (tx : CTransaction) : Bool := assetKind (ownerScript tx) == some .ownerAsset

/-- `CheckReissueDataTx` of the last output. -/
def reissueDataLast (tx : CTransaction) : Bool := assetKind (lastScript tx) == some .reissueAsset

def isNewAsset (tx : CTransaction) : Bool :=
  decide (3 ≤ tx.vout.length) && issueDataLast tx && ownerDataBeforeLast tx
    && !(isScriptNewUniqueAsset (lastScript tx) || isScriptNewRestrictedAsset (lastScript tx))

def isNewUniqueAsset (tx : CTransaction) : Bool :=
  issueDataLast tx && isScriptNewUniqueAsset (lastScript tx)

def isNewMsgChannelAsset (tx : CTransaction) : Bool :=
  issueDataLast tx && isScriptNewMsgChannelAsset (lastScript tx)

def isNewQualifierAsset (tx : CTransaction) : Bool :=
  issueDataLast tx && isScriptNewQualifierAsset (lastScript tx)

def isNewRestrictedAsset (tx : CTransaction) : Bool :=
  issueDataLast tx && isScriptNewRestrictedAsset (lastScript tx)

def isReissueAsset (tx : CTransaction) : Bool := reissueDataLast tx

/-! ## Verification -/

/-- The state of the loop in `VerifyNewUniqueAsset`. -/
structure UniqueScan where
  setUniqueAssets : List Bytes
  assetRoot : Bytes
  assetOutpointCount : Nat

def uniqueScanStep (scan : UniqueScan) (out : CTxOut) : Except String UniqueScan :=
  if isScriptNewUniqueAsset out.scriptPubKey then
    match newAssetData out.scriptPubKey with
    | none => .error "bad-txns-issue-unique-asset-from-script"
    | some asset =>
      let root := getParentName asset.strName
      let assetRoot := if scan.assetRoot = [] then root else scan.assetRoot
      if assetRoot ≠ root then .error "bad-txns-issue-unique-asset-compare-failed"
      else if scan.setUniqueAssets.contains asset.strName then
        .error "bad-txns-issue-unique-duplicate-name-in-same-tx"
      else .ok ⟨asset.strName :: scan.setUniqueAssets, assetRoot, scan.assetOutpointCount + 1⟩
  else .ok scan

def uniqueScan (vout : List CTxOut) : Except String UniqueScan :=
  vout.foldlM uniqueScanStep ⟨[], [], 0⟩

def verifyNewUniqueAsset (env : AssetEnv) (tx : CTransaction) : Except String Unit :=
  if tx.vout.length < 3 then .error "bad-txns-unique-vout-size-to-small"
  else uniqueScan tx.vout >>= fun scan =>
    if scan.assetOutpointCount = 0 then .error "bad-txns-issue-unique-asset-bad-outpoint-count"
    else if !tx.vout.any (checkIssueBurnTx env .unique scan.assetOutpointCount) then
      .error "bad-txns-issue-unique-asset-burn-outpoints-not-found"
    else if !transfersToken tx.vout (scan.assetRoot ++ ownerTag) then
      .error "bad-txns-issue-unique-asset-missing-owner-asset"
    else if countKind .ownerAsset tx.vout > 0 ∨ countKind .reissueAsset tx.vout > 0
        ∨ countKind .newAsset tx.vout ≠ scan.assetOutpointCount then
      .error "bad-txns-failed-unique-asset-formatting-check"
    else .ok ()

def verifyNewAsset (env : AssetEnv) (tx : CTransaction) : Except String Unit :=
  if tx.vout.length < 3 then .error "bad-txns-issue-vout-size-to-small"
  else if !issueDataLast tx then .error "bad-txns-issue-data-not-found"
  else if !ownerDataBeforeLast tx then .error "bad-txns-issue-owner-data-not-found"
  else
    match newAssetData (lastScript tx) with
    | none => .error "bad-txns-issue-serialzation-failed"
    | some asset =>
      match ownerData (ownerScript tx) with
      | none => .error "bad-txns-issue-owner-serialzation-failed"
      | some strOwnerName =>
        if strOwnerName ≠ asset.strName ++ ownerTag then
          .error "bad-txns-issue-owner-name-doesn't-match"
        else if !(tx.getHash env.digests == badHash || tx.getHash env.digests == badHash2
            || tx.vout.any (checkIssueBurnTx env (assetType asset.strName) 1)) then
          .error "bad-txns-issue-burn-not-found"
        else if assetType asset.strName = .sub
            ∧ !transfersToken tx.vout (getParentName asset.strName ++ ownerTag) then
          .error "bad-txns-issue-new-asset-missing-owner-asset"
        else if countKind .ownerAsset tx.vout ≠ 1 ∨ countKind .newAsset tx.vout ≠ 1
            ∨ countKind .reissueAsset tx.vout > 0 then
          .error "bad-txns-failed-issue-asset-formatting-check"
        else .ok ()

/-- The count check shared by the operations that issue one asset without an owner
token. -/
def issuesOneAsset (tx : CTransaction) : Bool :=
  countKind .ownerAsset tx.vout == 0 && countKind .newAsset tx.vout == 1 && countKind .reissueAsset tx.vout == 0

def verifyNewMsgChannelAsset (env : AssetEnv) (tx : CTransaction) : Except String Unit :=
  if tx.vout.length < 3 then .error "bad-txns-issue-msgchannel-vout-size-to-small"
  else if !issueDataLast tx then .error "bad-txns-issue-data-not-found"
  else if !isScriptNewMsgChannelAsset (lastScript tx) then
    .error "bad-txns-issue-msgchannel-serialzation-failed"
  else
    match newAssetData (lastScript tx) with
    | none => .error "bad-txns-issue-msgchannel-serialzation-failed"
    | some asset =>
      if !tx.vout.any (checkIssueBurnTx env .msgchannel 1) then
        .error "bad-txns-issue-msgchannel-burn-not-found"
      else if !transfersToken tx.vout (getParentName asset.strName ++ ownerTag) then
        .error "bad-txns-issue-msg-channel-asset-bad-owner-asset"
      else if !issuesOneAsset tx then
        .error "bad-txns-failed-issue-msgchannel-asset-formatting-check"
      else .ok ()

/-- `VerifyNewQualfierAsset`. -/
def verifyNewQualifierAsset (env : AssetEnv) (tx : CTransaction) : Except String Unit :=
  if tx.vout.length < 2 then .error "bad-txns-issue-qualifier-vout-size-to-small"
  else if !issueDataLast tx then .error "bad-txns-issue-qualifider-data-not-found"
  else if !isScriptNewQualifierAsset (lastScript tx) then
    .error "bad-txns-issue-qualifier-serialzation-failed"
  else
    match newAssetData (lastScript tx) with
    | none => .error "bad-txns-issue-qualifier-serialzation-failed"
    | some asset =>
      if !tx.vout.any (checkIssueBurnTx env (assetType asset.strName) 1) then
        .error "bad-txns-issue-qualifier-burn-not-found"
      -- A sub-qualifier is controlled by its parent itself, not by an owner token.
      else if assetType asset.strName = .subQualifier
          ∧ !transfersToken tx.vout (getParentName asset.strName) then
        .error "bad-txns-issue-sub-qualifier-parent-outpoint-not-found"
      else if !issuesOneAsset tx then .error "bad-txns-failed-issue-asset-formatting-check"
      else .ok ()

/-- `CTxOut::ToString`. -/
def CTxOut.toText (out : CTxOut) : String :=
  let cents := toString (out.nValue.tmod coin)
  "CTxOut(nValue=" ++ toString (out.nValue.tdiv coin) ++ "."
    ++ String.ofList (List.replicate (8 - cents.length) '0') ++ cents ++ ", scriptPubKey="
    ++ text ((hexStr out.scriptPubKey).take 30) ++ ")"

/-- Why `GetVerifierStringFromTx` gives no verifier string. -/
inductive VerifierStringError where
  | notFound
  | multiple
  | unreadable (out : CTxOut)

/-- The error text of `GetVerifierStringFromTx`. -/
def VerifierStringError.message : VerifierStringError → String
  | .notFound => "Verifier string not found"
  | .multiple => "Multiple verifier strings found in transaction"
  | .unreadable out => "Failed to get verifier string from output: " ++ CTxOut.toText out

def verifierStringStep (found : Option Bytes) (out : CTxOut) :
    Except VerifierStringError (Option Bytes) :=
  if isNullAssetVerifierTxDataScript out.scriptPubKey then
    match found, assetNullVerifierDataFromScript out.scriptPubKey with
    | some _, _ => .error .multiple
    | none, none => .error (.unreadable out)
    | none, some verifier => .ok (some verifier)
  else .ok found

def getVerifierStringFromTx (tx : CTransaction) : Except VerifierStringError Bytes :=
  tx.vout.foldlM verifierStringStep none >>= fun found =>
    match found with
    | none => .error .notFound
    | some verifier => .ok verifier

def verifyNewRestrictedAsset (env : AssetEnv) (tx : CTransaction) : Except String Unit :=
  if tx.vout.length < 4 then .error "bad-txns-issue-restricted-vout-size-to-small"
  else if !issueDataLast tx then .error "bad-txns-issue-restricted-data-not-found"
  else if !isScriptNewRestrictedAsset (lastScript tx) then
    .error "bad-txns-issue-restricted-serialization-failed"
  else
    match newAssetData (lastScript tx) with
    | none => .error "bad-txns-issue-restricted-serialization-failed"
    | some asset =>
      if !tx.vout.any (checkIssueBurnTx env (assetType asset.strName) 1) then
        .error "bad-txns-issue-restricted-burn-not-found"
      -- $TOKEN asks for TOKEN!
      else if !transfersToken tx.vout ((getParentName asset.strName).drop 1 ++ ownerTag) then
        .error "bad-txns-issue-restricted-root-owner-token-outpoint-not-found"
      else
        match getVerifierStringFromTx tx with
        | .error reason => .error reason.message
        | .ok _ =>
          if !issuesOneAsset tx then .error "bad-txns-failed-issue-asset-formatting-check"
          else .ok ()

def reissueControlName (strName : Bytes) : Bytes :=
  if assetType strName = .restricted then strName.drop 1 else strName

def verifyReissueAsset (env : AssetEnv) (tx : CTransaction) : Except String Unit :=
  if tx.vout.length < 3 then .error "bad-txns-vout-size-to-small"
  else if !reissueDataLast tx then .error "bad-txns-reissue-data-not-found"
  else
    match reissueData (lastScript tx) with
    | none => .error "bad-txns-reissue-serialization-failed"
    | some reissue =>
      if !transfersToken tx.vout (reissueControlName reissue.strName ++ ownerTag) then
        .error "bad-txns-reissue-owner-outpoint-not-found"
      else if !tx.vout.any (checkReissueBurnTx env) then
        .error "bad-txns-reissue-burn-outpoint-not-found"
      else if countKind .ownerAsset tx.vout > 0 ∨ countKind .reissueAsset tx.vout ≠ 1
          ∨ countKind .newAsset tx.vout > 0 then
        .error "bad-txns-failed-reissue-asset-formatting-check"
      else .ok ()

def checkAddingTagBurnFee (env : AssetEnv) (tx : CTransaction) (count : Nat) : Bool :=
  tx.vout.any (checkIssueBurnTx env .nullAddQualifier count)

/-! ## What a verified operation has passed -/

variable {env : AssetEnv} {tx : CTransaction} {kind : AssetScriptKind} {out : CTxOut}
  {vout : List CTxOut}

theorem verifyNewAsset_ok (passes : verifyNewAsset env tx = .ok ()) :
    ∃ asset, newAssetData (lastScript tx) = some asset
      ∧ (assetType asset.strName = .sub →
          transfersToken tx.vout (getParentName asset.strName ++ ownerTag) = true)
      ∧ countKind .newAsset tx.vout = 1 ∧ countKind .reissueAsset tx.vout = 0
      ∧ countKind .ownerAsset tx.vout = 1
      ∧ ownerData (ownerScript tx) = some (asset.strName ++ ownerTag) := by
  unfold verifyNewAsset at passes
  simp only [ite_error_eq_ok] at passes
  obtain ⟨-, -, -, passes⟩ := passes
  cases issued : newAssetData (lastScript tx) with
  | none =>
    rw [issued] at passes
    cases passes
  | some asset =>
    cases owned : ownerData (ownerScript tx) with
    | none =>
      simp only [issued, owned] at passes
      cases passes
    | some strOwnerName =>
      simp only [issued, owned, ite_error_eq_ok, not_not] at passes
      obtain ⟨isOwner, -, parent, counts, -⟩ := passes
      refine ⟨asset, rfl, ?_, by omega, by omega, by omega, by rw [isOwner]⟩
      intro isSub
      by_contra missing
      exact parent ⟨isSub, by simpa using missing⟩

theorem issuesOneAsset_iff (tx : CTransaction) :
    issuesOneAsset tx = true ↔ countKind .ownerAsset tx.vout = 0 ∧ countKind .newAsset tx.vout = 1
      ∧ countKind .reissueAsset tx.vout = 0 := by
  simp [issuesOneAsset, and_assoc]

theorem verifyNewMsgChannelAsset_ok (passes : verifyNewMsgChannelAsset env tx = .ok ()) :
    ∃ asset, newAssetData (lastScript tx) = some asset
      ∧ transfersToken tx.vout (getParentName asset.strName ++ ownerTag) = true
      ∧ issuesOneAsset tx = true := by
  unfold verifyNewMsgChannelAsset at passes
  simp only [ite_error_eq_ok] at passes
  obtain ⟨-, -, -, passes⟩ := passes
  split at passes
  · cases passes
  next asset issued =>
    simp only [ite_error_eq_ok, Bool.not_eq_true, Bool.not_eq_false'] at passes
    exact ⟨asset, issued, passes.2.1, passes.2.2.1⟩

theorem verifyNewQualifierAsset_ok (passes : verifyNewQualifierAsset env tx = .ok ()) :
    ∃ asset, newAssetData (lastScript tx) = some asset
      ∧ (assetType asset.strName = .subQualifier → transfersToken tx.vout (getParentName asset.strName) = true)
      ∧ issuesOneAsset tx = true := by
  unfold verifyNewQualifierAsset at passes
  simp only [ite_error_eq_ok] at passes
  obtain ⟨-, -, -, passes⟩ := passes
  split at passes
  · cases passes
  next asset issued =>
    simp only [ite_error_eq_ok] at passes
    obtain ⟨-, parent, counts, -⟩ := passes
    refine ⟨asset, issued, ?_, by simpa using counts⟩
    intro isSubQualifier
    by_contra missing
    exact parent ⟨isSubQualifier, by simpa using missing⟩

theorem verifyNewRestrictedAsset_ok (passes : verifyNewRestrictedAsset env tx = .ok ()) :
    ∃ asset, newAssetData (lastScript tx) = some asset
      ∧ transfersToken tx.vout ((getParentName asset.strName).drop 1 ++ ownerTag) = true
      ∧ issuesOneAsset tx = true := by
  unfold verifyNewRestrictedAsset at passes
  simp only [ite_error_eq_ok] at passes
  obtain ⟨-, -, -, passes⟩ := passes
  split at passes
  · cases passes
  next asset issued =>
    simp only [ite_error_eq_ok] at passes
    obtain ⟨-, parent, passes⟩ := passes
    split at passes
    · cases passes
    next verifier found =>
      simp only [ite_error_eq_ok] at passes
      exact ⟨asset, issued, by simpa using parent, by simpa using passes.1⟩

theorem verifyReissueAsset_ok (passes : verifyReissueAsset env tx = .ok ()) :
    ∃ reissue, reissueData (lastScript tx) = some reissue
      ∧ transfersToken tx.vout (reissueControlName reissue.strName ++ ownerTag) = true
      ∧ countKind .reissueAsset tx.vout = 1 ∧ countKind .newAsset tx.vout = 0
      ∧ countKind .ownerAsset tx.vout = 0 := by
  unfold verifyReissueAsset at passes
  simp only [ite_error_eq_ok] at passes
  obtain ⟨-, -, passes⟩ := passes
  split at passes
  · cases passes
  next reissue read =>
    simp only [ite_error_eq_ok] at passes
    obtain ⟨owner, -, counts, -⟩ := passes
    exact ⟨reissue, read, by simpa using owner, by omega, by omega, by omega⟩

theorem verifyNewUniqueAsset_ok (passes : verifyNewUniqueAsset env tx = .ok ()) :
    ∃ scan, uniqueScan tx.vout = .ok scan
      ∧ transfersToken tx.vout (scan.assetRoot ++ ownerTag) = true
      ∧ countKind .newAsset tx.vout = scan.assetOutpointCount
      ∧ countKind .reissueAsset tx.vout = 0 ∧ countKind .ownerAsset tx.vout = 0 := by
  unfold verifyNewUniqueAsset at passes
  rw [ite_error_eq_ok] at passes
  obtain ⟨-, passes⟩ := passes
  obtain ⟨scan, scanned, passes⟩ := bind_eq_ok.mp passes
  simp only [ite_error_eq_ok] at passes
  obtain ⟨-, -, owner, counts, -⟩ := passes
  exact ⟨scan, scanned, by simpa using owner, by omega, by omega, by omega⟩

/-! ## The outputs of an operation -/

theorem countKind_pos (member : out ∈ vout) (isKind : assetKind out.scriptPubKey = some kind) :
    0 < countKind kind vout := by
  apply List.countP_pos_iff.mpr
  exact ⟨out, member, by rw [isKind, beq_self_eq_true]⟩

theorem countKind_one {other : CTxOut} (once : countKind kind vout = 1) (member : out ∈ vout)
    (isKind : assetKind out.scriptPubKey = some kind) (otherMember : other ∈ vout)
    (otherKind : assetKind other.scriptPubKey = some kind) : out = other := by
  rw [countKind, List.countP_eq_length_filter, List.length_eq_one_iff] at once
  obtain ⟨only, isOnly⟩ := once
  have eq_only : ∀ output ∈ vout, assetKind output.scriptPubKey = some kind → output = only := by
    intro output member isKind
    rw [← List.mem_singleton, ← isOnly]
    exact List.mem_filter.mpr ⟨member, by rw [isKind, beq_self_eq_true]⟩
  rw [eq_only out member isKind, eq_only other otherMember otherKind]

/-- The last script, when it is of some kind, is that of an output. -/
theorem lastScript_mem (isKind : assetKind (lastScript tx) = some kind) :
    ∃ out ∈ tx.vout, out.scriptPubKey = lastScript tx := by
  unfold lastScript at isKind ⊢
  cases last : tx.vout.getLast? with
  | none =>
    rw [last] at isKind
    cases isKind
  | some out => exact ⟨out, List.mem_of_getLast? last, rfl⟩

theorem ownerScript_mem (isKind : assetKind (ownerScript tx) = some kind) :
    ∃ out ∈ tx.vout, out.scriptPubKey = ownerScript tx := by
  unfold ownerScript at isKind ⊢
  cases last : tx.vout.dropLast.getLast? with
  | none =>
    rw [last] at isKind
    cases isKind
  | some out => exact ⟨out, List.dropLast_subset _ (List.mem_of_getLast? last), rfl⟩

/-- With one output of the kind of the last, every output of that kind reads as the
last does. -/
theorem scriptPubKey_eq_lastScript (once : countKind kind tx.vout = 1)
    (lastKind : assetKind (lastScript tx) = some kind) (member : out ∈ tx.vout)
    (isKind : assetKind out.scriptPubKey = some kind) :
    out.scriptPubKey = lastScript tx := by
  obtain ⟨other, otherMember, isLast⟩ := lastScript_mem lastKind
  rw [countKind_one once member isKind otherMember (by rw [isLast]; exact lastKind), isLast]

theorem isScriptNewTyped_iff {accepts : AssetType → Bool} {script : Bytes} :
    isScriptNewTyped accepts script = true ↔ ∃ asset type, newAssetData script = some asset
      ∧ nameType asset.strName = some type ∧ accepts type = true := by
  unfold isScriptNewTyped
  cases newAssetData script with
  | none => simp
  | some asset => simp [Option.any_eq_true]

theorem uniqueScanStep_ok {scan next : UniqueScan} (steps : uniqueScanStep scan out = .ok next) :
    (isScriptNewUniqueAsset out.scriptPubKey = false ∧ next = scan)
      ∨ (∃ asset, newAssetData out.scriptPubKey = some asset
        ∧ nameType asset.strName = some .unique
        ∧ isScriptNewUniqueAsset out.scriptPubKey = true
        ∧ next.assetRoot = getParentName asset.strName
        ∧ (scan.assetRoot ≠ [] → next.assetRoot = scan.assetRoot)
        ∧ next.assetOutpointCount = scan.assetOutpointCount + 1) := by
  unfold uniqueScanStep at steps
  by_cases isUnique : isScriptNewUniqueAsset out.scriptPubKey = true
  · rw [if_pos isUnique] at steps
    obtain ⟨asset, type, issued, isType, accepted⟩ := isScriptNewTyped_iff.mp isUnique
    simp only [issued, ite_error_eq_ok, not_not] at steps
    obtain ⟨sameRoot, -, isNext⟩ := steps
    cases isNext
    rw [beq_iff_eq.mp accepted] at isType
    refine Or.inr ⟨asset, issued, isType, isUnique, sameRoot, ?_, rfl⟩
    intro known
    exact if_neg known
  · rw [if_neg isUnique] at steps
    cases steps
    exact Or.inl ⟨Bool.eq_false_iff.mpr isUnique, rfl⟩

/-- After the loop every unique asset has the root that was found, and the count is that
of the unique assets. -/
theorem uniqueScan_spec {vout : List CTxOut} {start last : UniqueScan}
    (runs : vout.foldlM uniqueScanStep start = .ok last) :
    (start.assetRoot ≠ [] → last.assetRoot = start.assetRoot)
      ∧ last.assetOutpointCount = start.assetOutpointCount
        + vout.countP (fun out => isScriptNewUniqueAsset out.scriptPubKey)
      ∧ ∀ out ∈ vout, isScriptNewUniqueAsset out.scriptPubKey = true →
        ∀ asset, newAssetData out.scriptPubKey = some asset → getParentName asset.strName = last.assetRoot := by
  induction vout generalizing start with
  | nil =>
    cases runs
    exact ⟨fun _ => rfl, rfl, fun out member => by cases member⟩
  | cons head tail ih =>
    obtain ⟨next, first, later⟩ := foldlM_cons_ok.mp runs
    obtain ⟨rootKept, count, parents⟩ := ih later
    rcases uniqueScanStep_ok first with
      ⟨notUnique, isNext⟩ | ⟨asset, issued, isType, isUnique, root, startKept, counted⟩
    · rw [isNext] at rootKept count
      refine ⟨rootKept, by rw [count, List.countP_cons_of_neg (by simp [notUnique])], ?_⟩
      intro out member isUnique
      rcases List.mem_cons.mp member with isHead | inTail
      · rw [isHead, notUnique] at isUnique
        cases isUnique
      · exact parents out inTail isUnique
    · -- A unique name has a non-empty parent, so from here on the root stays.
      have lastRoot := rootKept (by rw [root]; exact getParentName_unique isType)
      refine ⟨fun known => lastRoot.trans (startKept known), ?_, ?_⟩
      · rw [count, counted, List.countP_cons, if_pos isUnique]
        omega
      · intro out member outUnique other otherIssued
        rcases List.mem_cons.mp member with isHead | inTail
        · rw [isHead, issued] at otherIssued
          cases otherIssued
          rw [lastRoot, root]
        · exact parents out inTail outUnique other otherIssued

/-- When as many outputs issue unique assets as issue assets at all, each that issues an
asset issues a unique one. -/
theorem unique_of_count
    (all : countKind .newAsset vout
      = vout.countP fun out => isScriptNewUniqueAsset out.scriptPubKey) (member : out ∈ vout)
    (isIssue : assetKind out.scriptPubKey = some .newAsset) :
    isScriptNewUniqueAsset out.scriptPubKey = true := by
  have subset : ∀ other : CTxOut, isScriptNewUniqueAsset other.scriptPubKey = true →
      assetKind other.scriptPubKey = some .newAsset := by
    intro other isUnique
    obtain ⟨asset, type, issued, -⟩ := isScriptNewTyped_iff.mp isUnique
    exact readKind_kind issued
  have filtered : vout.filter (fun out => isScriptNewUniqueAsset out.scriptPubKey)
      = vout.filter fun out => assetKind out.scriptPubKey == some .newAsset := by
    apply (List.monotone_filter_right vout _).eq_of_length
    · rw [← List.countP_eq_length_filter, ← List.countP_eq_length_filter, ← all, countKind]
    · intro other isUnique
      rw [subset other isUnique, beq_self_eq_true]
  have issues : out ∈ vout.filter fun out => assetKind out.scriptPubKey == some .newAsset :=
    List.mem_filter.mpr ⟨member, beq_iff_eq.mpr isIssue⟩
  rw [← filtered] at issues
  exact (List.mem_filter.mp issues).2

end BlackRaven.Assets
