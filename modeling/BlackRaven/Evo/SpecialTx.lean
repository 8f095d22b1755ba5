import BlackRaven.Evo.LLMQ
import BlackRaven.Script.Standard

/-!
Contract: `evo/providertx.cpp`, `CheckLLMQCommitment` of `llmq/quorums_commitment.cpp` and
`CheckSpecialTx` of `evo/specialtx.cpp`.

Owns: the checks of the special transactions against the list of the previous block, with
their reject reasons.

Does not own: the verification of signatures and the coinbase payload; both are parameters.
-/

namespace BlackRaven.Evo

open Consensus Lib Primitives Script

def rejectDuplicate : Nat := 0x12

variable {α : Type} (mnList : CDeterministicMNList) (params : SmartnodeParams) (crypto : Crypto)
  (node : NodeView) (digests : Digests) (memory : LLMQMemory) (tx : CTransaction) (v : UniqueProperty)
  (ptx : CProRegTx)

/-- `state.DoS(nDoS, false, REJECT_INVALID, reason)`. -/
def refused (nDoS : Nat) (reason : String) : Except Failure α :=
  .error (dos nDoS rejectInvalid reason)

/-- A check that ends in a failure when a condition holds. -/
def refuseWhen (condition : Prop) [Decidable condition] (failed : Failure) : Except Failure Unit :=
  if condition then .error failed else .ok ()

structure Crypto where
  digests : Digests
  points : BLSPoints
  /-- `CheckStringSig` of a registration with the key of its collateral. -/
  checkStringSig : CProRegTx → Bytes → Bool
  /-- `CheckHashSig` of an update of the service with the operator key. -/
  checkServiceSig : CProUpServTx → CBLSPublicKey → Bool
  /-- `CheckHashSig` of an update of the registrar with the owner key. -/
  checkRegistrarSig : CProUpRegTx → CKeyID → Bool
  /-- `CheckHashSig` of a revocation with the operator key. -/
  checkRevocationSig : CProUpRevTx → CBLSPublicKey → Bool
  /-- `CheckCbTx`. -/
  checkCbTx : CTransaction → Uint256 → Except Failure Unit

def currentVersion : BitVec 16 := 1

def badVersion (nVersion : BitVec 16) : Bool := nVersion == 0 || decide (nVersion > currentVersion)

def keyDestination (keyID : CKeyID) : CTxDestination := .keyID (u160.encode keyID)

/-! ## Parts the checks share -/

def mainnetDefaultPort : BitVec 16 := 9777

/-- `CheckService`. Assets are deployed on every chain, so the spork alone decides about
IPv6. -/
def checkService (addr : CService) :
    Except Failure Unit :=
  if !addr.isValid then refused 10 "bad-protx-ipaddr"
  else if params.networkID ≠ .regtest ∧ !addr.isRoutable node.fAllowPrivateNet then
    refused 10 "bad-protx-ipaddr"
  else if params.networkID = .main ∧ addr.port ≠ mainnetDefaultPort then
    refused 10 "bad-protx-ipaddr-port"
  else if params.networkID ≠ .main ∧ addr.port = mainnetDefaultPort then
    refused 10 "bad-protx-ipaddr-port"
  else if node.spork22 ≥ node.tipHeight then
    if !addr.isIPv4 && !addr.isIPv6 then refused 10 "bad-protx-ipaddr" else .ok ()
  else if !addr.isIPv4 then refused 10 "bad-protx-ipaddr"
  else .ok ()

def calcTxInputsHash : Uint256 :=
  digests.hash (tx.vin.flatMap fun txin => txin.prevout.serialize)

def checkInputsHash (inputsHash : Uint256) :
    Except Failure Unit :=
  if calcTxInputsHash digests tx ≠ inputsHash then refused 100 "bad-protx-inputs-hash" else .ok ()

def isDIP3Enforced (nHeight : Int) : Bool :=
  decide (nHeight ≥ params.dip0003Height)

def uniquePropertyMN :
    Except Failure CDeterministicMN :=
  required (.undefined "GetUniquePropertyMN(v) is null") (mnList.getUniquePropertyMN v)

/-- `HasUniqueProperty(v) && GetUniquePropertyMN(v)->... != ...`: the property belongs to
nobody or to a smartnode that may have it. -/
def checkHolder (may : CDeterministicMN → Bool) (failed : Failure) : Except Failure Unit :=
  if mnList.hasUniqueProperty v then
    uniquePropertyMN mnList v >>= fun other => refuseWhen (may other = false) failed
  else .ok ()

/-- A check in two parts, the second one against the list of the previous block. The list
is only looked up when the first part passes. -/
def checkAgainstList (first : Except Failure α) (second : α → CDeterministicMNList → Except Failure Unit) :
    Except Failure Unit × LLMQMemory :=
  match first with
  | .error failed => (.error failed, memory)
  | .ok ptx =>
    let (mnList, memory) := getListForBlock params node memory node.prevHash
    (second ptx mnList, memory)

/-! ## Registrations -/

/-- The part of `CheckProRegTx` before the collateral. -/
def checkProRegPayload : Except Failure CProRegTx :=
  if tx.nType ≠ transactionProviderRegister then refused 100 "bad-protx-type"
  else match getTxPayload (readProRegTx crypto.points) tx with
    | none => refused 100 "bad-protx-payload"
    | some ptx =>
      if badVersion ptx.nVersion then refused 100 "bad-protx-version"
      else if ptx.nType ≠ 0 then refused 100 "bad-protx-type"
      else if ptx.nMode ≠ 0 then refused 100 "bad-protx-mode"
      else if ptx.keyIDOwner = 0 ∨ ptx.pubKeyOperator = 0 ∨ ptx.keyIDVoting = 0 then
        refused 10 "bad-protx-key-null"
      else if !isPayToPublicKeyHash ptx.scriptPayout && !isPayToScriptHash ptx.scriptPayout then
        refused 10 "bad-protx-payee"
      else match extractDestination crypto.digests ptx.scriptPayout with
        | none => refused 10 "bad-protx-payee-dest"
        | some payoutDest =>
          if payoutDest = keyDestination ptx.keyIDOwner
              ∨ payoutDest = keyDestination ptx.keyIDVoting then
            refused 10 "bad-protx-payee-reuse"
          else
            (if ptx.addr = CService.null then .ok () else checkService params node ptx.addr) >>= fun _ =>
              if ptx.nOperatorReward > 10000 then refused 10 "bad-protx-operator-reward"
              else .ok ptx

/-- The collateral of a registration: the outpoint, its destination, and the key that has
to sign for a collateral outside the transaction. -/
def checkProRegCollateral :
    Except Failure (COutPoint × CTxDestination × Option Bytes) :=
  if ptx.collateralOutpoint.hash ≠ 0 then
    match node.coins ptx.collateralOutpoint with
    | none => refused 10 "bad-protx-collateral"
    | some out =>
      if !isValidCollateral params.nCollaterals out.nValue then refused 10 "bad-protx-collateral"
      else match extractDestination crypto.digests out.scriptPubKey with
        | none => refused 10 "bad-protx-collateral-dest"
        | some (.keyID keyForPayloadSig) =>
          .ok (ptx.collateralOutpoint, .keyID keyForPayloadSig, some keyForPayloadSig)
        | some _ => refused 10 "bad-protx-collateral-pkh"
  else
    match tx.vout[ptx.collateralOutpoint.n.toNat]? with
    | none => refused 10 "bad-protx-collateral-index"
    | some out =>
      if !isValidCollateral params.nCollaterals out.nValue then refused 10 "bad-protx-collateral"
      else match extractDestination crypto.digests out.scriptPubKey with
        | none => refused 10 "bad-protx-collateral-dest"
        | some collateralTxDest =>
          .ok (⟨tx.getHash crypto.digests, ptx.collateralOutpoint.n⟩, collateralTxDest, none)

/-- The part of `CheckProRegTx` that looks into the list, and the signature. A payload
signed with a null key counts as one with the collateral inside. -/
def checkProRegList (collateralOutpoint : COutPoint) (keyForPayloadSig : Option Bytes)
    (mnList : CDeterministicMNList) : Except Failure Unit := do
  checkHolder mnList (.addr ptx.addr) (·.collateralOutpoint == collateralOutpoint)
    (dos 10 rejectDuplicate "bad-protx-dup-addr")
  refuseWhen (mnList.hasUniqueProperty (.keyIDOwner ptx.keyIDOwner)
      ∨ mnList.hasUniqueProperty (.pubKeyOperator ptx.pubKeyOperator))
    (dos 10 rejectDuplicate "bad-protx-dup-key")
  refuseWhen (isDIP3Enforced params node.prevHeight.toInt = false ∧ ptx.keyIDOwner ≠ ptx.keyIDVoting)
    (dos 10 rejectInvalid "bad-protx-key-not-same")
  checkInputsHash crypto.digests tx ptx.inputsHash
  match keyForPayloadSig with
  | some key =>
    if key = u160.encode 0 then
      if !ptx.vchSig.isEmpty then refused 100 "bad-protx-sig" else .ok ()
    else if !crypto.checkStringSig ptx key then refused 100 "bad-protx-sig"
    else .ok ()
  | none => if !ptx.vchSig.isEmpty then refused 100 "bad-protx-sig" else .ok ()

/-- The part of `CheckProRegTx` before the list. -/
def checkProRegFirst : Except Failure (CProRegTx × COutPoint × Option Bytes) := do
  let ptx ← checkProRegPayload params crypto node tx
  let (collateralOutpoint, collateralTxDest, keyForPayloadSig) ← checkProRegCollateral params crypto node tx ptx
  refuseWhen (collateralTxDest = keyDestination ptx.keyIDOwner
      ∨ collateralTxDest = keyDestination ptx.keyIDVoting)
    (dos 10 rejectInvalid "bad-protx-collateral-reuse")
  return (ptx, collateralOutpoint, keyForPayloadSig)

/-! ## Updates and revocations -/

/-- The part of `CheckProUpServTx` before the list. -/
def checkProUpServPayload : Except Failure CProUpServTx :=
  if tx.nType ≠ transactionProviderUpdateService then refused 100 "bad-protx-type"
  else match getTxPayload (readProUpServTx crypto.points) tx with
    | none => refused 100 "bad-protx-payload"
    | some ptx =>
      if badVersion ptx.nVersion then refused 100 "bad-protx-version"
      else (checkService params node ptx.addr).map fun _ => ptx

def checkProUpServList (ptx : CProUpServTx) (mnList : CDeterministicMNList) : Except Failure Unit :=
  match mnList.getMN ptx.proTxHash with
  | none => refused 100 "bad-protx-hash"
  | some mn => do
      checkHolder mnList (.addr ptx.addr) (·.proTxHash == ptx.proTxHash)
        (dos 10 rejectDuplicate "bad-protx-dup-addr")
      refuseWhen (ptx.scriptOperatorPayout ≠ [] ∧ (mn.nOperatorReward = 0
          ∨ (isPayToPublicKeyHash ptx.scriptOperatorPayout = false
            ∧ isPayToScriptHash ptx.scriptOperatorPayout = false)))
        (dos 10 rejectInvalid "bad-protx-operator-payee")
      checkInputsHash crypto.digests tx ptx.inputsHash
      refuseWhen (crypto.checkServiceSig ptx mn.pdmnState.pubKeyOperator = false)
        (dos 100 rejectInvalid "bad-protx-sig")

/-- The part of `CheckProUpRegTx` before the list, with the destination of the payout. -/
def checkProUpRegPayload :
    Except Failure (CProUpRegTx × CTxDestination) :=
  if tx.nType ≠ transactionProviderUpdateRegistrar then refused 100 "bad-protx-type"
  else match getTxPayload (readProUpRegTx crypto.points) tx with
    | none => refused 100 "bad-protx-payload"
    | some ptx =>
      if badVersion ptx.nVersion then refused 100 "bad-protx-version"
      else if ptx.nMode ≠ 0 then refused 100 "bad-protx-mode"
      else if ptx.pubKeyOperator = 0 ∨ ptx.keyIDVoting = 0 then refused 10 "bad-protx-key-null"
      else if !isPayToPublicKeyHash ptx.scriptPayout && !isPayToScriptHash ptx.scriptPayout then
        refused 10 "bad-protx-payee"
      else match extractDestination crypto.digests ptx.scriptPayout with
        | none => refused 10 "bad-protx-payee-dest"
        | some payoutDest => .ok (ptx, payoutDest)

def checkProUpRegList (ptx : CProUpRegTx) (payoutDest : CTxDestination) (mnList : CDeterministicMNList) :
    Except Failure Unit :=
  match mnList.getMN ptx.proTxHash with
  | none => refused 100 "bad-protx-hash"
  | some dmn =>
    if payoutDest = keyDestination dmn.pdmnState.keyIDOwner
        ∨ payoutDest = keyDestination ptx.keyIDVoting then refused 10 "bad-protx-payee-reuse"
    else match node.coins dmn.collateralOutpoint with
      | none => refused 100 "bad-protx-collateral"
      | some out =>
        match extractDestination crypto.digests out.scriptPubKey with
        | none => refused 100 "bad-protx-collateral-dest"
        | some collateralTxDest => do
            refuseWhen (collateralTxDest = keyDestination dmn.pdmnState.keyIDOwner
                ∨ collateralTxDest = keyDestination ptx.keyIDVoting)
              (dos 10 rejectInvalid "bad-protx-collateral-reuse")
            checkHolder mnList (.pubKeyOperator ptx.pubKeyOperator) (·.proTxHash == ptx.proTxHash)
              (dos 10 rejectDuplicate "bad-protx-dup-key")
            refuseWhen (isDIP3Enforced params node.prevHeight.toInt = false
                ∧ dmn.pdmnState.keyIDOwner ≠ ptx.keyIDVoting)
              (dos 10 rejectInvalid "bad-protx-key-not-same")
            checkInputsHash crypto.digests tx ptx.inputsHash
            refuseWhen (crypto.checkRegistrarSig ptx dmn.pdmnState.keyIDOwner = false)
              (dos 100 rejectInvalid "bad-protx-sig")

/-- The part of `CheckProUpRevTx` before the list. -/
def checkProUpRevPayload : Except Failure CProUpRevTx :=
  if tx.nType ≠ transactionProviderUpdateRevoke then refused 100 "bad-protx-type"
  else match getTxPayload (readProUpRevTx crypto.points) tx with
    | none => refused 100 "bad-protx-payload"
    | some ptx =>
      if badVersion ptx.nVersion then refused 100 "bad-protx-version"
      else if ptx.nReason > reasonLast then refused 100 "bad-protx-reason"
      else .ok ptx

def checkProUpRevList (ptx : CProUpRevTx) (mnList : CDeterministicMNList) : Except Failure Unit :=
  match mnList.getMN ptx.proTxHash with
  | none => refused 100 "bad-protx-hash"
  | some dmn => do
      checkInputsHash crypto.digests tx ptx.inputsHash
      refuseWhen (crypto.checkRevocationSig ptx dmn.pdmnState.pubKeyOperator = false)
        (dos 100 rejectInvalid "bad-protx-sig")

/-! ## Quorum commitments -/

namespace CFinalCommitment

variable (commitment : CFinalCommitment) (llmqs : LLMQs)

def verifySizes (params : LLMQParams) : Bool :=
  commitment.signers.length == params.size && commitment.validMembers.length == params.size

/-- `VerifyNull` of a commitment that is null. -/
def verifyNull : Bool :=
  match llmqs.find commitment.llmqType with
  | none => false
  | some params => commitment.isNull && commitment.verifySizes params

/-- `Verify` without the signatures. -/
def verify (members : List CDeterministicMN) : Bool :=
  if badVersion commitment.nVersion then false
  else match llmqs.find commitment.llmqType with
    | none => false
    | some params =>
      commitment.verifySizes params
        && decide (params.minSize ≤ commitment.countValidMembers)
        && decide (params.minSize ≤ commitment.countSigners)
        && commitment.quorumPublicKey != 0 && commitment.quorumVvecHash != 0
        && commitment.membersSig != 0 && commitment.quorumSig != 0
        && (commitment.validMembers.drop members.length).all (!·)
        && (commitment.signers.drop members.length).all (!·)

end CFinalCommitment

def checkLLMQCommitment : Except Failure Unit × LLMQMemory :=
  match getTxPayload (readFinalCommitmentTxPayload crypto.points) tx with
  | none => (refused 100 "bad-qc-payload", memory)
  | some qcTx =>
    if badVersion qcTx.nVersion then (refused 100 "bad-qc-version", memory)
    else if qcTx.nHeight ≠ (node.prevHeight + 1).toBitVec then (refused 100 "bad-qc-height", memory)
    else if !node.branch.contains qcTx.commitment.quorumHash then
      (refused 100 "bad-qc-quorum-hash", memory)
    else if (memory.llmqs.find qcTx.commitment.llmqType).isNone then
      (refused 100 "bad-qc-type", memory)
    else if qcTx.commitment.isNull then
      if qcTx.commitment.verifyNull memory.llmqs then (.ok (), memory)
      else (refused 100 "bad-qc-invalid-null", memory)
    else
      match getAllQuorumMembers params crypto.digests node memory qcTx.commitment.llmqType
          qcTx.commitment.quorumHash with
      | (.error failed, memory) => (.error failed, memory)
      | (.ok members, memory) =>
        if qcTx.commitment.verify memory.llmqs members then (.ok (), memory)
        else (refused 100 "bad-qc-invalid", memory)

/-! ## All of them -/

def checkSpecialTx : Except Failure Unit × LLMQMemory :=
  if !isSpecial tx then (.ok (), memory)
  else if (node.prevHeight + 1).toInt < params.dip0003Height then (refused 10 "bad-tx-type", memory)
  else if tx.nType = transactionProviderRegister then
    checkAgainstList params node memory (checkProRegFirst params crypto node tx)
      fun found => checkProRegList params crypto node tx found.1 found.2.1 found.2.2
  else if tx.nType = transactionProviderUpdateService then
    checkAgainstList params node memory (checkProUpServPayload params crypto node tx)
      (checkProUpServList crypto tx)
  else if tx.nType = transactionProviderUpdateRegistrar then
    checkAgainstList params node memory (checkProUpRegPayload crypto tx)
      fun found => checkProUpRegList params crypto node tx found.1 found.2
  else if tx.nType = transactionProviderUpdateRevoke then
    checkAgainstList params node memory (checkProUpRevPayload crypto tx) (checkProUpRevList crypto tx)
  else if tx.nType = transactionCoinbase then (crypto.checkCbTx tx node.prevHash, memory)
  else if tx.nType = transactionQuorumCommitment then checkLLMQCommitment params crypto node memory tx
  else (refused 10 "bad-tx-type-check", memory)

end BlackRaven.Evo
