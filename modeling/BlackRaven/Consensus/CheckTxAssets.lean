import BlackRaven.Consensus.CheckTransaction
import BlackRaven.Lib.Tally

/-!
Contract: `CheckTxInputs` and `CheckTxAssets` of `consensus/tx_verify.cpp`.

Owns: the checks on a transaction against the coins it spends and the asset state.

The totals by asset are sums of `int64_t` without a range check. Signed overflow is
undefined in C++; the model has what the addition instruction computes, the sum
modulo 2^64.

Does not own: the wallet's list of its own null asset data.
-/

namespace BlackRaven.Consensus

open Assets Lib Primitives Script

/-! ## Coins -/

structure Coin where
  out : CTxOut
  nHeight : Nat
  fCoinBase : Bool
  deriving DecidableEq, Repr

/-- What `AccessCoin` finds: the coins that are there and not spent. -/
abbrev CoinsView := COutPoint → Option Coin

variable (ctx : TxAssetsContext) (inputs : CoinsView) (cache : AssetView) (tx : CTransaction)
  (mapAddresses : Std.TreeMap Bytes Bytes) (s : OutputTotals) (txout : CTxOut)

def haveInputs : Bool :=
  tx.isCoinBase || tx.vin.all fun txin => (inputs txin.prevout).isSome

/-- The failed `assert(!coin.IsSpent())`. -/
def spentCoin {α : Type} : Except Failure α := .error (.thrown "assert(!coin.IsSpent())")

/-! ## CheckTxInputs -/

def coinbaseMaturity : Int := 100

/-- One input: `nSpendHeight - coin.nHeight` is computed in `int`. -/
def checkTxInput (nSpendHeight : Int) (nValueIn : CAmount) (txin : CTxIn) :
    Except Failure CAmount :=
  match inputs txin.prevout with
  | none => spentCoin
  | some coin_ =>
    if coin_.fCoinBase ∧ toInt32 (nSpendHeight - coin_.nHeight) < coinbaseMaturity then
      .error (invalidState rejectInvalid "bad-txns-premature-spend-of-coinbase")
    else
      let nValueIn := toInt64 (nValueIn + coin_.out.nValue)
      if !moneyRange coin_.out.nValue ∨ !moneyRange nValueIn then
        rejected "bad-txns-inputvalues-outofrange"
      else .ok nValueIn

/-- `GetValueOut`, which throws when a value or the total leaves the range. -/
def getValueOut : Except Failure CAmount :=
  tx.vout.foldlM (fun nValueOut txout =>
    let nValueOut := toInt64 (nValueOut + txout.nValue)
    if !moneyRange txout.nValue ∨ !moneyRange nValueOut then
      .error (.thrown "GetValueOut: value out of range")
    else .ok nValueOut) 0

/-- `CheckTxInputs`: the fee. -/
def checkTxInputs (nSpendHeight : Int) :
    Except Failure CAmount :=
  if !haveInputs inputs tx then rejected "bad-txns-inputs-missingorspent"
  else
    tx.vin.foldlM (checkTxInput inputs nSpendHeight) 0 >>= fun nValueIn =>
    getValueOut tx >>= fun valueOut =>
    if nValueIn < valueOut then rejected "bad-txns-in-belowout"
    else if !moneyRange (nValueIn - valueOut) then rejected "bad-txns-fee-outofrange"
    else .ok (nValueIn - valueOut)

/-! ## CheckTxAssets -/

/-- The part of `CAssetOutputEntry` the checks use. -/
structure CAssetOutputEntry where
  assetName : Bytes
  nAmount : CAmount
  destination : CTxDestination
  deriving DecidableEq, Repr

/-- The name and the amount `GetAssetData` reads off a script. -/
def assetAmount (script : Bytes) : Option (Bytes × CAmount) :=
  match assetKind script with
  | none => none
  | some .newAsset => (newAssetData script).map fun asset => (asset.strName, asset.nAmount)
  | some .transferAsset => (transferData script).map fun transfer => (transfer.strName, transfer.nAmount)
  | some .ownerAsset => (ownerData script).map fun assetName => (assetName, ownerAssetAmount)
  | some .reissueAsset => (reissueData script).map fun reissue => (reissue.strName, reissue.nAmount)

def getAssetData (env : AssetEnv) (script : Bytes) : Option CAssetOutputEntry :=
  (assetAmount script).map fun entry =>
    { assetName := entry.1
      nAmount := entry.2
      destination := decodeDestination env.digests env.params.prefixes (env.address script) }

structure CMessage where
  out : COutPoint
  strName : Bytes
  ipfsHash : Bytes
  nExpiredTime : Int
  time : Int
  deriving DecidableEq, Repr

/-- What `CheckTxAssets` is called with and the globals it reads. -/
structure TxAssetsContext where
  env : AssetEnv
  inputs : CoinsView
  assetCache : Option AssetView
  fCheckMempool : Bool
  fRunningUnitTests : Bool
  /-- `mempool.mapAssetToHash`. -/
  mempoolHasAsset : Bytes → Bool
  mapReissuedAssets : Bytes → Option Uint256
  /-- Whether messages are collected: `fMessaging` and `setMessages`. -/
  collectMessages : Bool
  currentTime : Int
  nBlocktime : Int

structure InputTotals where
  totalInputs : Tally Bytes
  mapAddresses : Std.TreeMap Bytes Bytes

def InputTotals.initial : InputTotals := ⟨∅, ∅⟩

/-- One input of the loop. Only the first address of an asset is kept. -/
def checkAssetInput (s : InputTotals) (txin : CTxIn) :
    Except Failure InputTotals :=
  match ctx.inputs txin.prevout with
  | none => spentCoin
  | some coin_ =>
    if (assetKind coin_.out.scriptPubKey).isNone then .ok s
    else
      match getAssetData ctx.env coin_.out.scriptPubKey with
      | none => rejected "bad-txns-failed-to-get-asset-from-script"
      | some data =>
        let address := encodeDestination ctx.env.digests ctx.env.params.prefixes data.destination
        let next : InputTotals :=
          { totalInputs := s.totalInputs.credit toInt64 (data.assetName, data.nAmount)
            mapAddresses := s.mapAddresses.insertIfNew data.assetName address }
        if isAssetNameAnRestricted data.assetName then
          match ctx.assetCache with
          | none => .error (.undefined "assetCache is null")
          | some cache =>
            if cache.checkForAddressRestriction data.assetName address then
              rejected "bad-txns-restricted-asset-transfer-from-frozen-address"
            else .ok next
        else .ok next

/-- The variables of the loop over the outputs and what it hands back. -/
structure OutputTotals where
  totalOutputs : Tally Bytes
  index : Nat
  vPairReissueAssets : List (Bytes × Uint256)
  setMessages : List CMessage

def OutputTotals.initial : OutputTotals := ⟨∅, 0, [], []⟩

/-- Turn a failed contextual check into the failure of the whole. -/
def orFail {α : Type} (label : String) (outcome : Except CheckError α) : Except Failure α :=
  outcome.mapError fun
    | .rejected strError => dos 100 rejectInvalid (label ++ strError)
    | .undefined what => .undefined what

def checkNullDataOutput : Except Failure Unit :=
  match ctx.assetCache with
  | none => .ok ()
  | some cache =>
    if isNullAssetTxDataScript txout.scriptPubKey then
      orReject (contextualCheckNullAssetTxOut ctx.env cache txout)
    else if isNullGlobalRestrictionAssetTxDataScript txout.scriptPubKey then
      orReject (contextualCheckGlobalAssetTxOut cache txout)
    else if isNullAssetVerifierTxDataScript txout.scriptPubKey then
      orReject (contextualCheckVerifierAssetTxOut cache txout)
    else .ok ()

/-- The units of a transfer, skipped in unit tests. -/
def checkTransferUnits (transfer : CAssetTransfer) : Except Failure Unit :=
  if ctx.fRunningUnitTests then .ok ()
  else if isAssetNameAnOwner transfer.strName then
    if transfer.nAmount ≠ ownerAssetAmount then rejected "bad-txns-transfer-owner-amount-was-not-1"
    else .ok ()
  else
    match ctx.assetCache with
    | none => .error (.undefined "assetCache is null")
    | some cache =>
      match cache.getAssetMetaDataIfExists transfer.strName with
      | none => rejected "bad-txns-transfer-asset-not-exist"
      | some asset =>
        if asset.strName ≠ transfer.strName then rejected "bad-txns-asset-database-corrupted"
        else
          match checkAmountWithUnits transfer.nAmount asset.units with
          | none => .error (.undefined "CheckAmountWithUnits")
          | some false => rejected "bad-txns-transfer-asset-amount-not-match-units"
          | some true => .ok ()

/-- The message of a transfer, sent by an owner or over a channel from the address the
token came from. -/
def transferMessage (transfer : CAssetTransfer) (address : Bytes) (index : Nat) : List CMessage :=
  if ctx.collectMessages
      ∧ (isAssetNameAnOwner transfer.strName ∨ isAssetNameAnMsgChannel transfer.strName)
      ∧ transfer.message ≠ []
      ∧ (transfer.nExpireTime = 0 ∨ transfer.nExpireTime > ctx.currentTime)
      ∧ mapAddresses[transfer.strName]? = some address then
    [{ out := ⟨tx.getHash ctx.env.digests, BitVec.ofNat 32 index⟩
       strName := transfer.strName
       ipfsHash := transfer.message
       nExpiredTime := transfer.nExpireTime
       time := ctx.nBlocktime }]
  else []

def checkTransferOutput :
    Except Failure OutputTotals :=
  match transferData txout.scriptPubKey with
  | none => rejected "bad-tx-asset-transfer-bad-deserialize"
  | some transfer =>
    let address := ctx.env.address txout.scriptPubKey
    orFail "" (contextualCheckTransferAsset ctx.assetCache transfer address) >>= fun _ =>
    checkTransferUnits ctx transfer >>= fun _ =>
    .ok { s with
      totalOutputs := s.totalOutputs.credit toInt64 (transfer.strName, transfer.nAmount)
      setMessages := s.setMessages ++ transferMessage ctx tx mapAddresses transfer address s.index }

def checkReissueOutput : Except Failure OutputTotals :=
  match reissueData txout.scriptPubKey with
  | none => rejected "bad-tx-asset-reissue-bad-deserialize"
  | some reissue =>
    match ctx.mapReissuedAssets reissue.strName with
    | some hash =>
      if hash ≠ tx.getHash ctx.env.digests then rejected "bad-tx-reissue-chaining-not-allowed"
      else .ok s
    | none =>
      .ok { s with
        vPairReissueAssets := s.vPairReissueAssets ++ [(reissue.strName, tx.getHash ctx.env.digests)] }

def checkAssetOutput :
    Except Failure OutputTotals :=
  checkNullDataOutput ctx txout >>= fun _ =>
  (match assetKind txout.scriptPubKey with
    | some .transferAsset => checkTransferOutput ctx tx mapAddresses s txout
    | some .reissueAsset => checkReissueOutput ctx tx s txout
    | _ => .ok s) >>= fun s =>
  .ok { s with index := s.index + 1 }

/-- An issue against the asset state: the family of the branches of the source that
read the last output and check it as a new asset. -/
def checkIssueContext (missing label : String) : Except Failure CNewAsset :=
  issuedLast tx missing >>= fun asset =>
  orRejectWith label (contextualCheckNewAsset cache ctx.mempoolHasAsset ctx.fCheckMempool asset)
    >>= fun _ => .ok asset

def checkRestrictedContext :
    Except Failure Unit :=
  checkIssueContext ctx cache tx "bad-txns-issue-restricted-serialzation-failed"
    "bad-txns-issue-restricted-contextual" >>= fun _ =>
  match getVerifierStringFromTx tx with
  | .error reason => rejected ("bad-txns-issue-restricted-verifier-search-" ++ reason.message)
  | .ok verifier =>
    orReject (contextualCheckVerifierString cache verifier (ctx.env.address (lastScript tx)))

def checkOperationContext :
    Except Failure Unit :=
  if isNewAsset tx then
    (checkIssueContext ctx cache tx "bad-txns-issue-serialzation-failed" "").map fun _ => ()
  else if isReissueAsset tx then
    match reissueData (lastScript tx) with
    | none => rejected "bad-txns-reissue-serialzation-failed"
    | some reissueAsset =>
      orFail "bad-txns-reissue-contextual-" (contextualCheckReissueAsset ctx.env cache reissueAsset tx)
  else if isNewUniqueAsset tx then
    orRejectWith "bad-txns-issue-unique-contextual-" (contextualCheckUniqueAssetTx cache tx)
  else if isNewMsgChannelAsset tx then
    (checkIssueContext ctx cache tx "bad-txns-issue-msgchannel-serialzation-failed"
      "bad-txns-issue-msgchannel-contextual-").map fun _ => ()
  else if isNewQualifierAsset tx then
    (checkIssueContext ctx cache tx "bad-txns-issue-qualifier-serialzation-failed"
      "bad-txns-issue-qualfier-contextual").map fun _ => ()
  else if isNewRestrictedAsset tx then checkRestrictedContext ctx cache tx
  else tx.vout.forM (checkPlainOutput "bad-txns-op-neox-asset-not-in-right-script-location")

def checkTotal (totalInputs : Tally Bytes) (outValue : Bytes × CAmount) : Except Failure Unit :=
  match totalInputs[outValue.1]? with
  | none =>
    rejected ("bad-tx-inputs-outputs-mismatch Bad Transaction - Trying to create outpoint for asset that you don't have: "
      ++ text outValue.1)
  | some total =>
    if total ≠ outValue.2 then
      rejected ("bad-tx-inputs-outputs-mismatch Bad Transaction - Assets would be burnt " ++ text outValue.1)
    else .ok ()

def checkTotals (totalInputs totalOutputs : Tally Bytes) : Except Failure Unit :=
  totalOutputs.toList.forM (checkTotal totalInputs) >>= fun _ =>
    if totalOutputs.size ≠ totalInputs.size then
      rejected "bad-tx-asset-inputs-size-does-not-match-outputs-size"
    else .ok ()

def checkTxAssets : Except Failure OutputTotals :=
  if !haveInputs ctx.inputs tx then rejected "bad-txns-inputs-missing-or-spent"
  else
    tx.vin.foldlM (checkAssetInput ctx) .initial >>= fun inputTotals =>
    tx.vout.foldlM (checkAssetOutput ctx tx inputTotals.mapAddresses) .initial >>= fun outputTotals =>
    (match ctx.assetCache with
      | none => .ok ()
      | some cache => checkOperationContext ctx cache tx) >>= fun _ =>
    checkTotals inputTotals.totalInputs outputTotals.totalOutputs >>= fun _ =>
    .ok outputTotals

end BlackRaven.Consensus
