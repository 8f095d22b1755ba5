import BlackRaven.Assets.LibBoolEE
import BlackRaven.Assets.Operations

/-!
Contract: the checks of `assets/assets.cpp` on asset data: verifier strings, null
asset data, new assets, reissues and transfers.

Owns: the texts they fail with. A check that has no text of its own leaves the empty
one.

Does not own: where the answers about existing assets come from (`AssetView`).
-/

namespace BlackRaven.Assets

open Consensus Primitives

/-- The questions the checks ask a `CAssetsCache`. Where the source can skip the
temporary cache (`fSkipTempCache`) these checks always do, except for the verifier
string. -/
structure AssetView where
  checkIfAssetExists : Bytes → Bool
  getAssetMetaDataIfExists : Bytes → Option CNewAsset
  getAssetVerifierStringIfExists : (fSkipTempCache : Bool) → Bytes → Option Bytes
  checkForAddressQualifier : (qualifierName address : Bytes) → Bool
  checkForAddressRestriction : (restrictedName address : Bytes) → Bool
  checkForGlobalRestriction : Bytes → Bool

/-- How a check on asset data ends that does not pass. -/
inductive CheckError where
  | rejected (strError : String)
  | undefined (what : String)
  deriving DecidableEq, Repr

def ownerAssetAmount : CAmount := 1 * coin
def uniqueAssetAmount : CAmount := 1 * coin
def uniqueAssetUnits : Int := 0
def qualifierAssetMinAmount : CAmount := 1 * coin
def qualifierAssetMaxAmount : CAmount := 10 * coin
def qualifierAssetUnits : Int := 0
def maxUnit : Int := 8

/-! ## Verifier strings -/

/-- The maximal runs of `[A-Z0-9_.]` in a text. -/
def nameRuns : Bytes → Bytes → List Bytes
  | run, [] => if run.isEmpty then [] else [run]
  | run, char :: rest =>
    if isNameChar char then nameRuns (run ++ [char]) rest
    else if run.isEmpty then nameRuns [] rest
    else run :: nameRuns [] rest

variable (env : AssetEnv) (cache : AssetView) (verifier : Bytes) (asset : CNewAsset)
  (data : CNullAssetTxData) (txout : CTxOut)

/-- `ExtractVerifierStringQualifiers`, in the order of the set. -/
def extractVerifierStringQualifiers : List Bytes :=
  (Std.TreeSet.ofList (nameRuns [] verifier) compare).toList

def getStrippedVerifierString : Bytes :=
  LibBoolEE.removeCharacter (LibBoolEE.removeWhitespaces verifier) qualifierChar

/-- The first qualifier, in the order of the set, that makes no valid name. -/
def invalidQualifier (qualifiers : List Bytes) : Option Bytes :=
  qualifiers.find? fun qualifier => !isQualifierNameValid (qualifierChar :: qualifier)

/-- `CheckVerifierString`: the qualifiers it finds. -/
def checkVerifierString : Except String (List Bytes) :=
  if verifier = ascii "true" then .ok []
  else if verifier.isEmpty then
    .error "Verifier string can not be empty. To default to true, use \"true\""
  else if (getStrippedVerifierString verifier).length > 80 then
    .error "Verifier string has length greater than 80 after whitespaces and '#' are removed"
  else
    let setFoundQualifiers := extractVerifierStringQualifiers (getStrippedVerifierString verifier)
    match invalidQualifier setFoundQualifiers with
    | some qualifier => .error ("bad-txns-null-verifier-invalid-asset-name-" ++ text qualifier)
    | none =>
      match LibBoolEE.resolve verifier fun name =>
          if setFoundQualifiers.contains name then some true else none with
      | .ok _ => .ok setFoundQualifiers
      | .error _ => .error "bad-txns-null-verifier-failed-syntax-check"

/-- `ContextualCheckVerifierString`. Without an address only the syntax and the
existence of the qualifiers are checked. -/
def contextualCheckVerifierString (checkAddress : Bytes) :
    Except String Unit :=
  if verifier = ascii "true" then .ok ()
  else checkVerifierString verifier >>= fun setFoundQualifiers =>
    if setFoundQualifiers.any fun qualifier =>
        !cache.checkIfAssetExists (qualifierChar :: qualifier) then
      .error "bad-txns-null-verifier-contains-non-issued-qualifier"
    else if checkAddress.isEmpty then .ok ()
    else
      match LibBoolEE.resolve verifier fun name =>
          if setFoundQualifiers.contains name then
            some (cache.checkForAddressQualifier (qualifierChar :: name) checkAddress)
          else none with
      | .ok true => .ok ()
      | .ok false => .error "bad-txns-null-verifier-address-failed-verification"
      | .error _ => .error "bad-txns-null-verifier-failed-contexual-syntax-check"

/-! ## Null asset data -/

def verifyNullAssetDataFlag (flag : Int) : Except String Unit :=
  if flag ≠ 0 ∧ flag ≠ 1 then .error "bad-txns-null-data-flag-must-be-0-or-1" else .ok ()

/-- A change of a yes-or-no status must change it: the family of
`VerifyQualifierChange`, `VerifyRestrictedAddressChange` and
`VerifyGlobalRestrictedChange`. -/
def verifyStatusChange (current : Bool) (flag : Int) (alreadySet notSet : String) :
    Except String Unit :=
  verifyNullAssetDataFlag flag >>= fun _ =>
    if flag ≠ 0 ∧ current then .error alreadySet
    else if flag = 0 ∧ !current then .error notSet
    else .ok ()

def verifyQualifierChange (address : Bytes) :
    Except String Unit :=
  verifyStatusChange (cache.checkForAddressQualifier data.assetName address) data.flag
    "bad-txns-null-data-add-qualifier-when-already-assigned"
    "bad-txns-null-data-removing-qualifier-when-not-assigned"

def verifyRestrictedAddressChange (address : Bytes) :
    Except String Unit :=
  verifyStatusChange (cache.checkForAddressRestriction data.assetName address) data.flag
    "bad-txns-null-data-freeze-address-when-already-frozen"
    "bad-txns-null-data-unfreeze-address-when-not-frozen"

def verifyGlobalRestrictedChange : Except String Unit :=
  verifyStatusChange (cache.checkForGlobalRestriction data.assetName) data.flag
    "bad-txns-null-data-global-freeze-when-already-frozen"
    "bad-txns-null-data-global-unfreeze-when-not-frozen"

def checkVerifierAssetTxOut : Except String Unit :=
  match assetNullVerifierDataFromScript txout.scriptPubKey with
  | none => .error "bad-txns-null-verifier-data-serialization"
  | some verifier =>
    if verifier.contains 32 then .error "bad-txns-null-verifier-data-contained-whitespaces"
    else if verifier.contains qualifierChar then
      .error "bad-txns-null-verifier-data-contained-qualifier-character-#"
    else (checkVerifierString verifier).map fun _ => ()

def contextualCheckNullAssetTxOut :
    Except String Unit :=
  match nullAssetData txout.scriptPubKey with
  | none => .error "bad-txns-null-asset-data-serialization"
  | some data =>
    let address := env.address txout.scriptPubKey
    if isAssetNameAQualifier data.assetName then verifyQualifierChange cache data address
    else if isAssetNameAnRestricted data.assetName then
      verifyRestrictedAddressChange cache data address
    else .error "bad-txns-null-asset-data-on-non-restricted-or-qualifier-asset"

def contextualCheckGlobalAssetTxOut : Except String Unit :=
  match globalAssetNullDataFromScript txout.scriptPubKey with
  | none => .error "bad-txns-null-global-asset-data-serialization"
  | some data => verifyGlobalRestrictedChange cache data

/-- The text of the inner check does not leave this one: its variable is shadowed. -/
def contextualCheckVerifierAssetTxOut : Except String Unit :=
  match assetNullVerifierDataFromScript txout.scriptPubKey with
  | none => .error "bad-txns-null-verifier-data-serialization"
  | some verifier =>
    match contextualCheckVerifierString cache verifier [] with
    | .error _ => .error ""
    | .ok _ => .ok ()

/-! ## Amounts and hashes -/

/-- `CheckAmountWithUnits`. The divisor is zero above `MAX_UNIT` and leaves the range of
`int64_t` below -10; the result is undefined then. -/
def checkAmountWithUnits (nAmount : CAmount) (nUnits : Int) : Option Bool :=
  if nUnits > maxUnit ∨ nUnits < -10 then none
  else some (decide (nAmount.tmod (10 ^ (maxUnit - nUnits).toNat) = 0))

/-- `EncodeAssetData`. The default is never used, by `encodeBase58_eq`. -/
def encodeAssetData (decoded : Bytes) : Bytes :=
  if decoded.length = 34 then (encodeBase58 decoded).getD []
  else if decoded.length = 32 then hexStr decoded
  else []

def checkEncoded (hash : Bytes) : Except String Unit :=
  let encodedStr := encodeAssetData hash
  if encodedStr.take 2 = ascii "Qm" ∧ encodedStr.length = 46 then .ok ()
  else if isHex encodedStr ∧ encodedStr.length = 64 then .ok ()
  else .error "Invalid parameter: ipfs_hash is not valid, or txid hash is not the right length"

/-! ## New assets and reissues -/

/-- The checks on an indivisible or a qualifier asset: exact units, an amount between
two bounds, not reissuable. -/
def checkFixedAsset (units : Int) (least most : CAmount) (amounts : String) :
    Except String Unit :=
  if asset.units ≠ units then .error ("Invalid parameter: units must be " ++ toString units)
  else if asset.nAmount < least ∨ asset.nAmount > most then
    .error ("Invalid parameter: amount must be " ++ amounts)
  else if asset.nReissuable ≠ 0 then .error "Invalid parameter: reissuable must be 0"
  else .ok ()

def checkTypedAsset : AssetType → Except String Unit
  | .unique | .msgchannel =>
    checkFixedAsset asset uniqueAssetUnits uniqueAssetAmount uniqueAssetAmount (toString uniqueAssetAmount)
  | .qualifier | .subQualifier =>
    checkFixedAsset asset qualifierAssetUnits qualifierAssetMinAmount qualifierAssetMaxAmount
      ("between " ++ toString qualifierAssetMinAmount ++ " - " ++ toString qualifierAssetMaxAmount)
  | _ => .ok ()

def invalidAssetName : String :=
  "Invalid parameter: asset_name must only consist of valid characters and have a size between 3 and 30 characters. See help for more details."

def checkNewAsset : Except String Unit :=
  match nameType asset.strName with
  | none => .error invalidAssetName
  | some type => checkTypedAsset asset type >>= fun _ =>
    if isAssetNameAnOwner asset.strName then
      .error "Invalid parameters: asset_name can't have a '!' at the end of it. See help for more details."
    else if asset.nAmount ≤ 0 then
      .error "Invalid parameter: asset amount can't be equal to or less than zero."
    else if asset.nAmount > maxMoney then
      .error ("Invalid parameter: asset amount greater than max money: " ++ toString (maxMoney / coin))
    else if asset.units < 0 ∨ asset.units > 8 then
      .error "Invalid parameter: units must be between 0-8."
    else if checkAmountWithUnits asset.nAmount asset.units ≠ some true then
      .error "Invalid parameter: amount must be divisible by the smaller unit assigned to the asset"
    else if asset.nReissuable ≠ 0 ∧ asset.nReissuable ≠ 1 then
      .error "Invalid parameter: reissuable must be 0 or 1"
    else if asset.nHasIPFS ≠ 0 ∧ asset.nHasIPFS ≠ 1 then
      .error "Invalid parameter: has_ipfs must be 0 or 1."
    else .ok ()

/-- `ContextualCheckNewAsset`. The mempool is asked with `fCheckMempool` only. -/
def contextualCheckNewAsset (mempoolHasAsset : Bytes → Bool) (fCheckMempool : Bool) (asset : CNewAsset) :
    Except String Unit :=
  checkNewAsset asset >>= fun _ =>
    if cache.checkIfAssetExists asset.strName then
      .error ("Invalid parameter: asset_name '" ++ text asset.strName ++ "' has already been used")
    else if fCheckMempool && mempoolHasAsset asset.strName then
      .error "Asset with this name is already in the mempool"
    else if asset.nHasIPFS ≠ 0 ∧ asset.strIPFSHash.length ≠ 34 ∧ asset.strIPFSHash.length ≠ 32 then
      .error "Invalid parameter: ipfs_hash must be 46 characters. Txid must be valid 64 character hash"
    else if asset.nHasIPFS ≠ 0 then checkEncoded asset.strIPFSHash
    else .ok ()

/-- The reissues of the test network that came before the check on `nReissuable`. -/
def reissuableException (asset : CReissueAsset) : Bool :=
  env.params.isTestnet
    && (asset.strName == ascii "GAMINGWEB" && asset.nReissuable == 109
      || asset.strName == ascii "UINT8" && asset.nReissuable == -47)

def checkReissueAsset (asset : CReissueAsset) : Except String Unit :=
  if asset.nAmount < 0 ∨ asset.nAmount ≥ maxMoney then
    .error "Unable to reissue asset: amount must be 0 or larger"
  else if asset.nUnits > maxUnit ∨ asset.nUnits < -1 then
    .error "Unable to reissue asset: unit must be between 8 and -1"
  else if !reissuableException env asset ∧ asset.nReissuable ≠ 0 ∧ asset.nReissuable ≠ 1 then
    .error "Unable to reissue asset: reissuable must be 0 or 1"
  else .ok ()

def rejectedBy {α : Type} (outcome : Except String α) : Except CheckError α :=
  outcome.mapError .rejected

/-- The verifier string a reissue of a restricted asset is checked against: the one in
the transaction or else the current one. -/
def reissueVerifier (strName : Bytes) (tx : CTransaction) :
    Except String Bytes :=
  match getVerifierStringFromTx tx with
  | .ok newVerifier => .ok newVerifier
  | .error .notFound =>
    match cache.getAssetVerifierStringIfExists false strName with
    | some currentVerifier => .ok currentVerifier
    | none =>
      .error "failed to get verifier string from a restricted asset, database is out of sync. Reindex required. Please report this is to development team"
  | .error reason => .error reason.message

/-- The last part of `ContextualCheckReissueAsset`. -/
def contextualCheckReissueVerifier (reissue : CReissueAsset) (strAddress : Bytes) (tx : CTransaction) :
    Except String Unit :=
  if !isAssetNameAnRestricted reissue.strName then .ok ()
  else if reissue.nAmount > 0 then
    reissueVerifier cache reissue.strName tx >>= fun verifier =>
      contextualCheckVerifierString cache verifier strAddress
  else
    match getVerifierStringFromTx tx with
    | .ok _ => .ok ()
    | .error .notFound => .ok ()
    | .error reason => .error reason.message

def contextualCheckReissueAsset (reissueAsset : CReissueAsset) (tx : CTransaction) :
    Except CheckError Unit :=
  if !isReissueAsset tx ∨ (reissueData (lastScript tx)).isNone then
    .error (.rejected "bad-txns-reissue-asset-contextual-check")
  else rejectedBy (checkReissueAsset env reissueAsset) >>= fun _ =>
    match cache.getAssetMetaDataIfExists reissueAsset.strName with
    | none =>
      .error (.rejected ("Unable to reissue asset: asset_name '" ++ text reissueAsset.strName
        ++ "' doesn't exist in the database"))
    | some prevAsset =>
      if prevAsset.nReissuable = 0 then
        .error (.rejected "Unable to reissue asset: reissuable is set to false")
      else if toInt64 (prevAsset.nAmount + reissueAsset.nAmount) > maxMoney then
        .error (.rejected ("Unable to reissue asset: asset_name '" ++ text reissueAsset.strName
          ++ "' the amount trying to reissue is to large"))
      else
        match checkAmountWithUnits reissueAsset.nAmount prevAsset.units with
        | none => .error (.undefined "CheckAmountWithUnits")
        | some false =>
          .error (.rejected
            "Unable to reissue asset: amount must be divisible by the smaller unit assigned to the asset")
        | some true =>
          if reissueAsset.nUnits < prevAsset.units ∧ reissueAsset.nUnits ≠ -1 then
            .error (.rejected "Unable to reissue asset: unit must be larger than current unit selection")
          else if reissueAsset.strIPFSHash ≠ [] ∧ reissueAsset.strIPFSHash.length ≠ 34
              ∧ reissueAsset.strIPFSHash.length ≠ 32 then
            .error (.rejected "Invalid parameter: ipfs_hash must be 34 bytes, Txid must be 32 bytes")
          else
            rejectedBy (if reissueAsset.strIPFSHash ≠ [] then checkEncoded reissueAsset.strIPFSHash
              else .ok ()) >>= fun _ =>
            rejectedBy (contextualCheckReissueVerifier cache reissueAsset (env.address (lastScript tx)) tx)

def contextualCheckUniqueAssetTx (tx : CTransaction) : Except String Unit :=
  tx.vout.forM fun out =>
    if isScriptNewUniqueAsset out.scriptPubKey then
      match newAssetData out.scriptPubKey with
      | none => .error "bad-txns-issue-unique-serialization-failed"
      | some asset => contextualCheckNewAsset cache (fun _ => false) false asset
    else .ok ()

/-! ## Transfers -/

def contextualCheckAgainstVerifyString (transfer : CAssetTransfer) (address : Bytes) :
    Except String Unit :=
  match cache.getAssetVerifierStringIfExists true transfer.strName with
  | none => .error ("Verifier String doesn't exist for asset: " ++ text transfer.strName)
  | some verifier => contextualCheckVerifierString cache verifier address

/-- `ContextualCheckTransferAsset`. A restricted asset dereferences the cache also when
there is none; the text of its verifier check stays in a shadowed variable. -/
def contextualCheckTransferAsset (assetCache : Option AssetView) (transfer : CAssetTransfer)
    (address : Bytes) : Except CheckError Unit :=
  match nameType transfer.strName with
  | none => .error (.rejected invalidAssetName)
  | some type =>
    if transfer.nAmount ≤ 0 then
      .error (.rejected "Invalid parameter: asset amount can't be equal to or less than zero.")
    else if transfer.message = [] ∧ transfer.nExpireTime > 0 then
      .error (.rejected
        "Invalid parameter: asset transfer expiration time requires a message to be attached to the transfer")
    else if transfer.nExpireTime < 0 then
      .error (.rejected "Invalid parameter: expiration time must be a positive value")
    else
      rejectedBy (if transfer.message ≠ [] then checkEncoded transfer.message else .ok ()) >>= fun _ =>
      if type = .restricted then
        match assetCache with
        | none => .error (.undefined "assetCache is null")
        | some cache =>
          if cache.checkForGlobalRestriction transfer.strName then
            .error (.rejected "bad-txns-transfer-restricted-asset-that-is-globally-restricted")
          else
            match contextualCheckAgainstVerifyString cache transfer address with
            | .error _ => .error (.rejected "")
            | .ok _ => .ok ()
      else .ok ()

end BlackRaven.Assets
