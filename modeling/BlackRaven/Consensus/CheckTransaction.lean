import BlackRaven.Assets.Checks
import BlackRaven.Consensus.Subsidy
import BlackRaven.Consensus.ValidationState

/-!
Contract: `CheckTransaction` of `consensus/tx_verify.cpp` and `founder_payment.cpp`.

Owns: the checks on a transaction that need no coins: its outputs one by one, its
null asset data, the coinbase and founder rules, and the asset operation it is.
-/

namespace BlackRaven.Consensus

open Assets Lib Primitives Script

/-- What `CheckTransaction` reads from its surroundings. The height of the tip only
matters for `isDIPDIP0003Active(-1)`. -/
structure TxEnv where
  assets : AssetEnv
  consensus : Params
  tipHeight : Int

/-- `state.DoS(100, false, REJECT_INVALID, reason)`. -/
def rejected {α : Type} (reason : String) : Except Failure α := .error (dos 100 rejectInvalid reason)

/-- Turn the text of a failed check into a rejection. -/
def orReject {α : Type} (outcome : Except String α) : Except Failure α :=
  outcome.mapError (dos 100 rejectInvalid)

def orRejectWith {α : Type} (label : String) (outcome : Except String α) : Except Failure α :=
  outcome.mapError fun strError => dos 100 rejectInvalid (label ++ strError)

def witnessScaleFactor : Nat := 4
def maxBlockWeight : Nat := 8000000
def maxTxExtraPayload : Nat := 10000

/-! ## Founder payments -/

def FounderPayment.getFounderPaymentAmount (payment : FounderPayment) (blockHeight : Int)
    (blockReward : CAmount) : CAmount :=
  if blockHeight < payment.startBlock then 0
  else
    match payment.rewardStructures.find? fun rewardStructure =>
        rewardStructure.blockHeight == intMax || decide (blockHeight ≤ rewardStructure.blockHeight) with
    | some rewardStructure => (toInt64 (blockReward * rewardStructure.rewardBasisPoints)).tdiv 10000
    | none => 0

def FounderPayment.isBlockPayeeValid (payment : FounderPayment) (txNew : CTransaction)
    (height : Int) (blockReward : CAmount) : Bool :=
  txNew.vout.any fun out =>
    out.scriptPubKey == payment.payee
      && decide (out.nValue ≥ payment.getFounderPaymentAmount height blockReward)

/-- `isDIPDIP0003Active`: -1 stands for the tip. -/
def isDIPDIP0003Active (env : TxEnv) (nHeight : Int) : Bool :=
  decide ((if nHeight = -1 then env.tipHeight else nHeight) ≥ env.consensus.dip0003Height)

/-! ## The outputs -/

/-- The variables of the loop over the outputs. The count in `mapNullDataTxCount` never
passes one, so the map is the set of its keys. -/
structure OutputScan where
  nValueOut : CAmount
  setAssetTransferNames : Std.TreeSet Bytes
  mapNullDataTxCount : Std.TreeSet (Bytes × Bytes) lexOrd.compare
  setNullGlobalAssetChanges : Std.TreeSet Bytes
  fContainsNullAssetVerifierTx : Bool
  nCountAddTagOuts : Nat

def OutputScan.initial : OutputScan := ⟨0, ∅, ∅, ∅, false, 0⟩

def scanValue (s : OutputScan) (txout : CTxOut) : Except Failure OutputScan :=
  if txout.nValue < 0 then rejected "bad-txns-vout-negative"
  else if txout.nValue > maxMoney then rejected "bad-txns-vout-toolarge"
  else if !moneyRange (s.nValueOut + txout.nValue) then rejected "bad-txns-txouttotal-toolarge"
  else .ok { s with nValueOut := s.nValueOut + txout.nValue }

def scanNullAssetTxData (env : TxEnv) (s : OutputScan) (txout : CTxOut) :
    Except Failure OutputScan :=
  match nullAssetData txout.scriptPubKey with
  | none => rejected "bad-txns-null-asset-data-serialization"
  | some data => orReject (verifyNullAssetDataFlag data.flag) >>= fun _ =>
    let pair := (data.assetName, env.assets.address txout.scriptPubKey)
    if s.mapNullDataTxCount.contains pair then
      rejected "bad-txns-null-data-only-one-change-per-asset-address"
    else .ok { s with
      mapNullDataTxCount := s.mapNullDataTxCount.insert pair
      nCountAddTagOuts :=
        if isAssetNameAQualifier data.assetName && data.flag == 1 then s.nCountAddTagOuts + 1
        else s.nCountAddTagOuts }

def scanGlobalRestriction (s : OutputScan) (txout : CTxOut) : Except Failure OutputScan :=
  match globalAssetNullDataFromScript txout.scriptPubKey with
  | none => rejected "bad-txns-null-global-asset-data-serialization"
  | some data => orReject (verifyNullAssetDataFlag data.flag) >>= fun _ =>
    if s.setNullGlobalAssetChanges.contains data.assetName then
      rejected "bad-txns-null-data-only-one-global-change-per-asset-name"
    else .ok { s with setNullGlobalAssetChanges := s.setNullGlobalAssetChanges.insert data.assetName }

def scanVerifier (s : OutputScan) (txout : CTxOut) : Except Failure OutputScan :=
  orReject (checkVerifierAssetTxOut txout) >>= fun _ =>
    if s.fContainsNullAssetVerifierTx then rejected "bad-txns-null-data-only-one-verifier-per-tx"
    else .ok { s with fContainsNullAssetVerifierTx := true }

def scanNullData (env : TxEnv) (s : OutputScan) (txout : CTxOut) : Except Failure OutputScan :=
  if isNullAssetTxDataScript txout.scriptPubKey then scanNullAssetTxData env s txout
  else if isNullGlobalRestrictionAssetTxDataScript txout.scriptPubKey then
    scanGlobalRestriction s txout
  else if isNullAssetVerifierTxDataScript txout.scriptPubKey then scanVerifier s txout
  else .ok s

def scanTransfer (s : OutputScan) (txout : CTxOut) : Except Failure OutputScan :=
  match transferData txout.scriptPubKey with
  | none => rejected "bad-txns-transfer-asset-bad-deserialize"
  | some transfer =>
    match nameType transfer.strName with
    | none => rejected "bad-txns-transfer-asset-name-invalid"
    | some type =>
      if isAssetNameAnOwner transfer.strName ∧ transfer.nAmount ≠ ownerAssetAmount then
        rejected "bad-txns-transfer-owner-amount-was-not-1"
      else if type = .unique ∧ transfer.nAmount ≠ uniqueAssetAmount then
        rejected "bad-txns-transfer-unique-amount-was-not-1"
      else if (type = .qualifier ∨ type = .subQualifier)
          ∧ (transfer.nAmount < qualifierAssetMinAmount ∨ transfer.nAmount > qualifierAssetMaxAmount) then
        rejected "bad-txns-transfer-qualifier-amount-must be between 1 - 100"
      else if txout.nValue ≠ 0 then rejected "bad-txns-asset-transfer-amount-isn't-zero"
      else .ok { s with setAssetTransferNames := s.setAssetTransferNames.insert transfer.strName }

def scanAsset (fMempoolCheck fBlockCheck : Bool) (s : OutputScan) (txout : CTxOut) :
    Except Failure OutputScan :=
  match assetKind txout.scriptPubKey with
  | none => .ok s
  | some .transferAsset => scanTransfer s txout
  | some .newAsset | some .ownerAsset =>
    if txout.nValue ≠ 0 then rejected "bad-txns-asset-issued-amount-isn't-zero" else .ok s
  | some .reissueAsset =>
    if fBlockCheck ∧ txout.nValue ≠ 0 then
      .error (dos 0 rejectInvalid "bad-txns-asset-reissued-amount-isn't-zero")
    else if fMempoolCheck ∧ txout.nValue ≠ 0 then
      .error (dos 0 rejectInvalid "bad-mempool-txns-asset-reissued-amount-isn't-zero")
    else .ok s

def scanOutput (env : TxEnv) (fMempoolCheck fBlockCheck : Bool) (s : OutputScan) (txout : CTxOut) :
    Except Failure OutputScan :=
  scanValue s txout >>= fun s =>
  scanNullData env s txout >>= fun s =>
  scanAsset fMempoolCheck fBlockCheck s txout

/-! ## Null asset data needs its token -/

/-- One entry of `mapNullDataTxCount`: its controlling token must be transferred. -/
def checkNullDataToken (names : Std.TreeSet Bytes) (assetName : Bytes) : Except Failure Unit :=
  match assetName with
  | [] => .error (.undefined "front of an empty string")
  | char :: ownerToken =>
    if char = restrictedChar then
      if !names.contains (ownerToken ++ ownerTag) then
        rejected "bad-txns-tx-contains-restricted-asset-null-tx-without-asset-transfer"
      else .ok ()
    else if !names.contains assetName then
      rejected "bad-txns-tx-contains-qualifier-asset-null-tx-without-asset-transfer"
    else .ok ()

def checkGlobalToken (names : Std.TreeSet Bytes) (name : Bytes) : Except Failure Unit :=
  if name.isEmpty then rejected "bad-txns-tx-contains-global-asset-null-tx-with-null-asset-name"
  else if !names.contains (name.drop 1 ++ ownerTag) then
    rejected "bad-txns-tx-contains-global-asset-null-tx-without-asset-transfer"
  else .ok ()

def checkNullDataTokens (env : TxEnv) (tx : CTransaction) (s : OutputScan) : Except Failure Unit :=
  if s.nCountAddTagOuts ≠ 0 ∧ !checkAddingTagBurnFee env.assets tx s.nCountAddTagOuts then
    rejected "bad-txns-tx-doesn't-contain-required-burn-fee-for-adding-tags"
  else
    (s.mapNullDataTxCount.toList.forM fun pair => checkNullDataToken s.setAssetTransferNames pair.1)
      >>= fun _ => s.setNullGlobalAssetChanges.toList.forM (checkGlobalToken s.setAssetTransferNames)

/-! ## Inputs and the coinbase -/

/-- The founder rules on a coinbase. The second reads output 1 whether it is there or
not. -/
def checkFounder (env : TxEnv) (tx : CTransaction) (nHeight : Int) (blockReward : CAmount) :
    Except Failure Unit :=
  let founderPayment := env.consensus.nFounderPayment
  let founderReward := founderPayment.getFounderPaymentAmount nHeight blockReward
  if nHeight > founderPayment.startBlock ∧ founderReward ≠ 0
      ∧ !founderPayment.isBlockPayeeValid tx nHeight blockReward then
    rejected "bad-cb-founder-payment-not-found"
  else if nHeight > founderPayment.startBlock ∧ !isDIPDIP0003Active env nHeight
      ∧ founderReward ≠ 0 then
    match tx.vout[1]? with
    | none => .error (.undefined "tx.vout[1]")
    | some out =>
      if out.nValue ≠ founderReward then rejected "bad-cb-community-autonomous-amount" else .ok ()
  else .ok ()

def checkCoinBase (env : TxEnv) (tx : CTransaction) (nHeight : Int) (blockReward : CAmount) :
    Except Failure Unit :=
  let minCbSize := if tx.nType = transactionCoinbase then 1 else 2
  let scriptSig := (tx.vin.head?.map CTxIn.scriptSig).getD []
  if scriptSig.length < minCbSize ∨ scriptSig.length > 100 then rejected "bad-cb-length"
  else if tx.vout.any fun out =>
      (assetKind out.scriptPubKey).isSome || isNullAsset out.scriptPubKey then
    .error (dos 0 rejectInvalid "bad-txns-coinbase-contains-asset-txes")
  else checkFounder env tx nHeight blockReward

def checkInputs (env : TxEnv) (tx : CTransaction) (nHeight : Int) (blockReward : CAmount) :
    Except Failure Unit :=
  if !decide (tx.vin.map CTxIn.prevout).Nodup then rejected "bad-txns-inputs-duplicate"
  else if tx.isCoinBase then checkCoinBase env tx nHeight blockReward
  else if tx.vin.any fun txin => txin.prevout.isNull then
    .error (dos 10 rejectInvalid "bad-txns-prevout-null")
  else .ok ()

/-! ## The asset operation -/

def isNewOwnerTxValid (env : AssetEnv) (tx : CTransaction) (assetName address : Bytes) :
    Except String Unit :=
  match ownerData (ownerScript tx) with
  | none => .error "bad-txns-bad-owner"
  | some ownerName =>
    if env.address (ownerScript tx) ≠ address then .error "bad-txns-owner-address-mismatch"
    else if ownerName.length < 1 + minAssetLength then .error "bad-txns-owner-asset-length"
    else if ownerName ≠ assetName ++ ownerTag then .error "bad-txns-owner-name-mismatch"
    else .ok ()

/-- The new asset of the last output, as the `…AssetFromTransaction` functions find it. -/
def issuedLast (tx : CTransaction) (missing : String) : Except Failure CNewAsset :=
  match newAssetData (lastScript tx) with
  | none => rejected missing
  | some asset => .ok asset

def checkIssue (env : TxEnv) (tx : CTransaction) : Except Failure Unit :=
  orReject (verifyNewAsset env.assets tx) >>= fun _ =>
  issuedLast tx "bad-txns-issue-asset-from-transaction" >>= fun asset =>
  orReject (isNewOwnerTxValid env.assets tx asset.strName (env.assets.address (lastScript tx))) >>= fun _ =>
  orReject (checkNewAsset asset)

/-- The result says whether a restricted asset is reissued. -/
def checkReissue (env : TxEnv) (tx : CTransaction) : Except Failure Bool :=
  orReject (verifyReissueAsset env.assets tx) >>= fun _ =>
  match reissueData (lastScript tx) with
  | none => rejected "bad-txns-reissue-asset"
  | some reissue =>
    orReject (checkReissueAsset env.assets reissue) >>= fun _ =>
    if assetType reissue.strName = .restricted then
      match getVerifierStringFromTx tx with
      | .ok _ => .ok true
      | .error .notFound => .ok true
      | .error reason => rejected ("bad-txns-reissue-restricted-verifier-" ++ reason.message)
    else .ok false

def checkIssueUnique (env : TxEnv) (tx : CTransaction) : Except Failure Unit :=
  orReject (verifyNewUniqueAsset env.assets tx) >>= fun _ =>
  tx.vout.forM fun out =>
    if isScriptNewUniqueAsset out.scriptPubKey then
      match newAssetData out.scriptPubKey with
      | none => rejected "bad-txns-check-transaction-issue-unique-asset-serialization"
      | some asset => orRejectWith "bad-txns-issue-unique" (checkNewAsset asset)
    else .ok ()

def checkIssueMsgChannel (env : TxEnv) (tx : CTransaction) : Except Failure Unit :=
  orReject (verifyNewMsgChannelAsset env.assets tx) >>= fun _ =>
  issuedLast tx "bad-txns-issue-msgchannel-from-transaction" >>= fun asset =>
  orRejectWith "bad-txns-issue-msgchannel" (checkNewAsset asset)

def checkIssueQualifier (env : TxEnv) (tx : CTransaction) : Except Failure Unit :=
  orReject (verifyNewQualifierAsset env.assets tx) >>= fun _ =>
  issuedLast tx "bad-txns-issue-qualifier-from-transaction" >>= fun asset =>
  orRejectWith "bad-txns-issue-qualfier" (checkNewAsset asset)

def checkIssueRestricted (env : TxEnv) (tx : CTransaction) : Except Failure Unit :=
  orReject (verifyNewRestrictedAsset env.assets tx) >>= fun _ =>
  issuedLast tx "bad-txns-issue-restricted-from-transaction" >>= fun asset =>
  orRejectWith "bad-txns-issue-restricted" (checkNewAsset asset) >>= fun _ =>
  orRejectWith "bad-txns-issue-restricted-verifier-search-"
    ((getVerifierStringFromTx tx).mapError VerifierStringError.message |>.map fun _ => ())

/-- An output of a transaction that is no asset operation: transfers only, and
`OP_BLKR_ASSET` nowhere but in front. -/
def checkPlainOutput (misplaced : String) (out : CTxOut) : Except Failure Unit :=
  match assetKind out.scriptPubKey with
  | some kind =>
    if kind ≠ .transferAsset then rejected "bad-txns-bad-asset-transaction" else .ok ()
  | none =>
    if find out.scriptPubKey opBlkrAsset ∧ out.scriptPubKey.getD 0 0 ≠ opBlkrAsset then
      rejected misplaced
    else .ok ()

inductive RestrictedOperation where
  | none
  | issue
  | reissue
  deriving DecidableEq, Repr

def checkOperation (env : TxEnv) (tx : CTransaction) : Except Failure RestrictedOperation :=
  if isNewAsset tx then (checkIssue env tx).map fun _ => .none
  else if isReissueAsset tx then
    (checkReissue env tx).map fun restricted => if restricted then .reissue else .none
  else if isNewUniqueAsset tx then (checkIssueUnique env tx).map fun _ => .none
  else if isNewMsgChannelAsset tx then (checkIssueMsgChannel env tx).map fun _ => .none
  else if isNewQualifierAsset tx then (checkIssueQualifier env tx).map fun _ => .none
  else if isNewRestrictedAsset tx then (checkIssueRestricted env tx).map fun _ => .issue
  else
    (tx.vout.forM (checkPlainOutput "bad-txns-op-BLKR-asset-not-in-right-script-location")).map fun _ => .none

/-- The verifier string goes with a restricted asset. -/
def checkVerifierPresence (containsVerifier : Bool) (operation : RestrictedOperation) :
    Except Failure Unit :=
  if containsVerifier ∧ operation = .none then
    rejected "bad-txns-tx-cointains-verifier-string-without-restricted-asset-issuance-or-reissuance"
  else if operation = .issue ∧ !containsVerifier then
    rejected "bad-txns-tx-cointains-restricted-asset-issuance-without-verifier"
  else .ok ()

/-! ## CheckTransaction -/

def checkTransaction (env : TxEnv) (tx : CTransaction) (nHeight : Int) (blockReward : CAmount)
    (fMempoolCheck fBlockCheck : Bool) : Except Failure Unit :=
  let allowEmptyTxInOut := tx.nType = transactionQuorumCommitment
  if ¬ allowEmptyTxInOut ∧ tx.vin.isEmpty then .error (dos 10 rejectInvalid "bad-txns-vin-empty")
  else if ¬ allowEmptyTxInOut ∧ tx.vout.isEmpty then
    .error (dos 10 rejectInvalid "bad-txns-vout-empty")
  else if tx.serializeNoWitness.length * witnessScaleFactor > maxBlockWeight then
    rejected "bad-txns-oversize"
  else if tx.vExtraPayload.length > maxTxExtraPayload then rejected "bad-txns-payload-oversize"
  else
    tx.vout.foldlM (scanOutput env fMempoolCheck fBlockCheck) .initial >>= fun scan =>
    checkNullDataTokens env tx scan >>= fun _ =>
    checkInputs env tx nHeight blockReward >>= fun _ =>
    checkOperation env tx >>= fun operation =>
    checkVerifierPresence scan.fContainsNullAssetVerifierTx operation

/-! ## What an accepted transaction has passed -/

theorem orReject_eq_ok {α : Type} {outcome : Except String α} {value : α} :
    orReject outcome = .ok value ↔ outcome = .ok value := mapError_eq_ok

/-- The stages of `CheckTransaction`, each of which has passed. -/
structure TransactionChecked (env : TxEnv) (tx : CTransaction) (nHeight : Int)
    (blockReward : CAmount) (fMempoolCheck fBlockCheck : Bool) (scan : OutputScan)
    (operation : RestrictedOperation) : Prop where
  scanned : tx.vout.foldlM (scanOutput env fMempoolCheck fBlockCheck) .initial = .ok scan
  tokens : checkNullDataTokens env tx scan = .ok ()
  inputs : checkInputs env tx nHeight blockReward = .ok ()
  operated : checkOperation env tx = .ok operation
  verifier : checkVerifierPresence scan.fContainsNullAssetVerifierTx operation = .ok ()

variable {env : TxEnv} {fBlockCheck fMempoolCheck : Bool} {next s : OutputScan} {txout : CTxOut}
  {script : Bytes}

theorem checkTransaction_ok {tx : CTransaction} {nHeight : Int} {blockReward : CAmount}
    (passes : checkTransaction env tx nHeight blockReward fMempoolCheck fBlockCheck = .ok ()) :
    ∃ scan operation,
      TransactionChecked env tx nHeight blockReward fMempoolCheck fBlockCheck scan operation := by
  unfold checkTransaction at passes
  simp only [rejected, ite_error_eq_ok] at passes
  obtain ⟨-, -, -, -, passes⟩ := passes
  obtain ⟨scan, scanned, passes⟩ := bind_eq_ok.mp passes
  obtain ⟨_, tokens, passes⟩ := bind_eq_ok.mp passes
  obtain ⟨_, inputs, passes⟩ := bind_eq_ok.mp passes
  obtain ⟨operation, operated, verifier⟩ := bind_eq_ok.mp passes
  exact ⟨scan, operation, scanned, tokens, inputs, operated, verifier⟩

structure NullDataReadable (script : Bytes) : Prop where
  address : isNullAssetTxDataScript script = true → (nullAssetData script).isSome = true
  whole : isNullGlobalRestrictionAssetTxDataScript script = true →
    (globalAssetNullDataFromScript script).isSome = true

/-- What a round of the loop over the outputs does to its sets. -/
structure ScanStep (env : TxEnv) (txout : CTxOut) (s next : OutputScan) : Prop where
  names : ∀ name ∈ next.setAssetTransferNames, name ∈ s.setAssetTransferNames
    ∨ ∃ transfer, transferData txout.scriptPubKey = some transfer ∧ transfer.strName = name
  null : next.mapNullDataTxCount = (nullAssetData txout.scriptPubKey).elim s.mapNullDataTxCount
    fun data => s.mapNullDataTxCount.insert (data.assetName, env.assets.address txout.scriptPubKey)
  global : next.setNullGlobalAssetChanges
    = (globalAssetNullDataFromScript txout.scriptPubKey).elim s.setNullGlobalAssetChanges
      fun data => s.setNullGlobalAssetChanges.insert data.assetName
  readable : NullDataReadable txout.scriptPubKey

theorem scanValue_ok (steps : scanValue s txout = .ok next) :
    next = { s with nValueOut := s.nValueOut + txout.nValue } := by
  unfold scanValue at steps
  simp only [rejected, ite_error_eq_ok] at steps
  cases steps.2.2.2
  rfl

theorem scanNullData_ok (steps : scanNullData env s txout = .ok next) : ScanStep env txout s next := by
  unfold scanNullData at steps
  by_cases isTxData : isNullAssetTxDataScript txout.scriptPubKey = true
  · -- The byte that marks the data differs from the one that marks a global restriction.
    have notGlobal : ¬isNullGlobalRestrictionAssetTxDataScript txout.scriptPubKey = true := by
      intro isGlobal
      simp only [isNullGlobalRestrictionAssetTxDataScript, isNullAssetTxDataScript, Bool.and_eq_true,
        beq_iff_eq] at isGlobal isTxData
      rw [isTxData.2] at isGlobal
      exact absurd isGlobal.1.2 (by decide)
    have noGlobal : globalAssetNullDataFromScript txout.scriptPubKey = none := if_neg notGlobal
    rw [if_pos isTxData, scanNullAssetTxData] at steps
    split at steps
    · cases steps
    next data read =>
      obtain ⟨_, -, steps⟩ := bind_eq_ok.mp steps
      rw [rejected, ite_error_eq_ok] at steps
      cases steps.2
      exact ⟨fun _ => .inl, by rw [read]; rfl, by rw [noGlobal]; rfl, fun _ => by rw [read]; rfl,
        fun isGlobal => absurd isGlobal notGlobal⟩
  · have noTxData : nullAssetData txout.scriptPubKey = none := if_neg isTxData
    rw [if_neg isTxData] at steps
    by_cases isGlobal : isNullGlobalRestrictionAssetTxDataScript txout.scriptPubKey = true
    · rw [if_pos isGlobal, scanGlobalRestriction] at steps
      split at steps
      · cases steps
      next data read =>
        obtain ⟨_, -, steps⟩ := bind_eq_ok.mp steps
        rw [rejected, ite_error_eq_ok] at steps
        cases steps.2
        exact ⟨fun _ => .inl, by rw [noTxData]; rfl, by rw [read]; rfl,
          fun isOther => absurd isOther isTxData, fun _ => by rw [read]; rfl⟩
    · have noGlobal : globalAssetNullDataFromScript txout.scriptPubKey = none := if_neg isGlobal
      have unchanged : ScanStep env txout s s :=
        ⟨fun _ => .inl, by rw [noTxData]; rfl, by rw [noGlobal]; rfl,
          fun isOther => absurd isOther isTxData, fun isOther => absurd isOther isGlobal⟩
      rw [if_neg isGlobal] at steps
      split at steps
      · obtain ⟨_, -, steps⟩ := bind_eq_ok.mp steps
        rw [rejected, ite_error_eq_ok] at steps
        cases steps.2
        exact { unchanged with }
      · cases steps
        exact unchanged

theorem scanTransfer_ok (steps : scanTransfer s txout = .ok next) :
    ∃ transfer, transferData txout.scriptPubKey = some transfer
      ∧ next = { s with setAssetTransferNames := s.setAssetTransferNames.insert transfer.strName } := by
  unfold scanTransfer at steps
  split at steps
  · cases steps
  next transfer read =>
    split at steps
    · cases steps
    next type isType =>
      simp only [rejected, ite_error_eq_ok] at steps
      cases steps.2.2.2.2
      exact ⟨transfer, read, rfl⟩

theorem scanAsset_ok (steps : scanAsset fMempoolCheck fBlockCheck s txout = .ok next) :
    next = s ∨ ∃ transfer, transferData txout.scriptPubKey = some transfer
      ∧ next = { s with setAssetTransferNames := s.setAssetTransferNames.insert transfer.strName } := by
  unfold scanAsset at steps
  split at steps
  · cases steps
    exact Or.inl rfl
  · exact Or.inr (scanTransfer_ok steps)
  · rw [rejected, ite_error_eq_ok] at steps
    cases steps.2
    exact Or.inl rfl
  · rw [rejected, ite_error_eq_ok] at steps
    cases steps.2
    exact Or.inl rfl
  · rw [ite_error_eq_ok, ite_error_eq_ok] at steps
    cases steps.2.2
    exact Or.inl rfl

theorem scanOutput_ok (steps : scanOutput env fMempoolCheck fBlockCheck s txout = .ok next) :
    ScanStep env txout s next := by
  obtain ⟨valued, valueScanned, steps⟩ := bind_eq_ok.mp steps
  obtain ⟨nulled, nullScanned, assetScanned⟩ := bind_eq_ok.mp steps
  have isValued := scanValue_ok valueScanned
  subst isValued
  have nullStep := scanNullData_ok nullScanned
  rcases scanAsset_ok assetScanned with isNext | ⟨transfer, read, isNext⟩
  · subst isNext
    exact { nullStep with }
  · subst isNext
    refine { nullStep with names := ?_ }
    intro name member
    rw [Std.TreeSet.mem_insert, Std.LawfulEqOrd.compare_eq_iff_eq] at member
    rcases member with isName | earlier
    · exact Or.inr ⟨transfer, read, isName⟩
    · exact nullStep.names name earlier

theorem mem_elim_insert {α κ : Type} {cmp : κ → κ → Ordering} [Std.TransCmp cmp] {set : Std.TreeSet κ cmp}
    {read : Option α} {keyOf : α → κ} {key : κ} (member : key ∈ set) :
    key ∈ read.elim set fun item => set.insert (keyOf item) := by
  cases read with
  | none => exact member
  | some item => exact Std.TreeSet.mem_insert.mpr (.inr member)

section Scan

variable {env : TxEnv} {fMempoolCheck fBlockCheck : Bool} {vout : List CTxOut} {scan : OutputScan}

section

variable (scanned : vout.foldlM (scanOutput env fMempoolCheck fBlockCheck) .initial = .ok scan)

include scanned

theorem scan_names : ∀ name ∈ scan.setAssetTransferNames, transfersToken vout name = true := by
  apply foldlM_invariant _ _ _ scanned
  · intro s txout next member holds steps name collected
    rcases (scanOutput_ok steps).names name collected with earlier | ⟨transfer, read, isName⟩
    · exact holds name earlier
    · rw [transfersToken, List.any_eq_true]
      exact ⟨txout, member, by rw [read, Option.any_some, isName, beq_self_eq_true]⟩
  · intro name member
    exact absurd member Std.TreeSet.not_mem_emptyc

theorem scan_null :
    ∀ txout ∈ vout, ∀ data, nullAssetData txout.scriptPubKey = some data →
      (data.assetName, env.assets.address txout.scriptPubKey) ∈ scan.mapNullDataTxCount := by
  apply foldlM_established
    (fun (txout : CTxOut) (s : OutputScan) => ∀ data, nullAssetData txout.scriptPubKey = some data →
      (data.assetName, env.assets.address txout.scriptPubKey) ∈ s.mapNullDataTxCount) _ _ scanned
  · intro s txout next steps data read
    rw [(scanOutput_ok steps).null, read]
    exact Std.TreeSet.mem_insert_self
  · intro s txout next other steps holds data read
    rw [(scanOutput_ok steps).null]
    exact mem_elim_insert (holds data read)

theorem scan_global :
    ∀ txout ∈ vout, ∀ data, globalAssetNullDataFromScript txout.scriptPubKey = some data →
      data.assetName ∈ scan.setNullGlobalAssetChanges := by
  apply foldlM_established
    (fun (txout : CTxOut) (s : OutputScan) =>
      ∀ data, globalAssetNullDataFromScript txout.scriptPubKey = some data →
      data.assetName ∈ s.setNullGlobalAssetChanges) _ _ scanned
  · intro s txout next steps data read
    rw [(scanOutput_ok steps).global, read]
    exact Std.TreeSet.mem_insert_self
  · intro s txout next other steps holds data read
    rw [(scanOutput_ok steps).global]
    exact mem_elim_insert (holds data read)

end

end Scan

/-- Null data on a restricted asset comes with its owner token, other null data with
the asset itself. -/
theorem checkNullDataToken_ok {names : Std.TreeSet Bytes} {assetName : Bytes}
    (passes : checkNullDataToken names assetName = .ok ()) :
    ∃ char rest, assetName = char :: rest
      ∧ (char = restrictedChar → rest ++ ownerTag ∈ names)
      ∧ (char ≠ restrictedChar → assetName ∈ names) := by
  unfold checkNullDataToken at passes
  cases assetName with
  | nil => cases passes
  | cons char rest =>
    refine ⟨char, rest, rfl, ?_, ?_⟩
    · intro isRestricted
      simp only [if_pos isRestricted, rejected, ite_error_eq_ok] at passes
      simpa using passes.1
    · intro notRestricted
      simp only [if_neg notRestricted, rejected, ite_error_eq_ok] at passes
      simpa using passes.1

theorem checkGlobalToken_ok {names : Std.TreeSet Bytes} {name : Bytes}
    (passes : checkGlobalToken names name = .ok ()) : name.drop 1 ++ ownerTag ∈ names := by
  unfold checkGlobalToken at passes
  simp only [rejected, ite_error_eq_ok] at passes
  simpa using passes.2.1

theorem checkNullDataTokens_ok {tx : CTransaction} {scan : OutputScan}
    (passes : checkNullDataTokens env tx scan = .ok ()) :
    (∀ pair ∈ scan.mapNullDataTxCount,
        checkNullDataToken scan.setAssetTransferNames pair.1 = .ok ())
      ∧ ∀ name ∈ scan.setNullGlobalAssetChanges, checkGlobalToken scan.setAssetTransferNames name = .ok () := by
  unfold checkNullDataTokens at passes
  rw [rejected, ite_error_eq_ok] at passes
  obtain ⟨_, nullChecked, globalChecked⟩ := bind_eq_ok.mp passes.2
  constructor
  · intro pair member
    exact forM_eq_ok.mp nullChecked pair (Std.TreeSet.mem_toList.mpr member)
  · intro name member
    exact forM_eq_ok.mp globalChecked name (Std.TreeSet.mem_toList.mpr member)

end BlackRaven.Consensus
