import BlackRaven.Evo.SpecialTx
import BlackRaven.Primitives.Block

/-!
Contract: `BuildNewListFromBlock`, `HandleQuorumCommitment` and `DecreasePoSePenalties` of
`evo/deterministicmns.cpp`.

Owns: the list after a block, from the list before it, in the phases of the source:
confirmations, penalties, special transactions, spent collaterals, the payee.

Does not own: the log.
-/

namespace BlackRaven.Evo

open Consensus Lib Primitives

def asserted {α : Type} (outcome : Except String α) : Except Failure α := outcome.mapError .thrown

/-! ## Before the transactions -/

variable (params : SmartnodeParams) (crypto : Crypto) (digests : Digests) (node : NodeView)
  (nHeight : Int32) (payee : Option CDeterministicMN) (vtx : List CTransaction)
  (newList oldList : CDeterministicMNList) (memory : LLMQMemory) (tx : CTransaction)
  (collaterals : SmartnodeCollaterals) (commitment : CFinalCommitment) (mnList : CDeterministicMNList)
  (proTx : CProRegTx) (state : CDeterministicMNState)

/-- One round of the loop that confirms smartnodes. -/
def confirmMN (prevHeight : Int32) (prevHash : Uint256) (newList : CDeterministicMNList)
    (dmn : CDeterministicMN) :
    Except Failure CDeterministicMNList :=
  if dmn.pdmnState.confirmedHash ≠ 0 then .ok newList
  else if (prevHeight - dmn.pdmnState.nRegisteredHeight).toInt
      ≥ params.nSmartnodeMinimumConfirmations then
    asserted (newList.updateMNByHash dmn.proTxHash
      (dmn.pdmnState.updateConfirmedHash digests dmn.proTxHash prevHash))
  else .ok newList

/-- At which heights penalties decrease: the spork makes it rarer. -/
def isDecrease (spork21 : Bool) (nHeight : Int32) : Bool :=
  if spork21 then nHeight.toInt.tmod 30 == 0 else nHeight.toInt.tmod 2 == 0

/-- Who `DecreasePoSePenalties` decreases. -/
def toDecrease : List Uint256 :=
  ((mnList.validMNs collaterals).filter fun dmn =>
    decide (dmn.pdmnState.nPoSePenalty > 0 ∧ dmn.pdmnState.nPoSeBanHeight = -1)).map (·.proTxHash)

def decreasePoSePenalties :
    Except Failure CDeterministicMNList :=
  (toDecrease collaterals mnList).foldlM (fun mnList proTxHash => asserted (mnList.poSeDecrease proTxHash))
    mnList

/-! ## Provider transactions -/

/-- `GetTxPayload` with the assertion after it. -/
def payloadOf {α : Type} (read : Decoder α) (tx : CTransaction) : Except Failure α :=
  required (.thrown "assert(false)") (getTxPayload read tx)

def collateralOf : COutPoint :=
  if proTx.collateralOutpoint.hash = 0 then ⟨tx.getHash digests, proTx.collateralOutpoint.n⟩
  else proTx.collateralOutpoint

/-- The coin of a collateral outside the transaction, if its amount is one of a collateral. -/
def collateralCoin : Option CTxOut :=
  (node.coins proTx.collateralOutpoint).filter fun out => isValidCollateral params.nCollaterals out.nValue

/-- The amount of the collateral, from the transaction itself or from the coin. -/
def collateralAmountOf : Except Failure CAmount :=
  if proTx.collateralOutpoint.hash = 0 then
    required (.undefined "tx.vout[proTx.collateralOutpoint.n]")
      (tx.vout[proTx.collateralOutpoint.n.toNat]?.map CTxOut.nValue)
  else
    required (.undefined "coin.out.nValue") ((collateralCoin params node proTx).map CTxOut.nValue)

/-- The smartnode with this collateral gives way to a new registration. -/
def removeReplaced (collateralOutpoint : COutPoint) :
    Except Failure CDeterministicMNList :=
  match newList.getMNByCollateral collateralOutpoint with
  | none => .ok newList
  | some replacedDmn => asserted (newList.removeMN replacedDmn.proTxHash)

def registered (internalId : Uint32) (nHeight : Int32) (nCollateralAmount : CAmount) :
    CDeterministicMN where
  proTxHash := tx.getHash digests
  internalId := internalId.setWidth 64
  collateralOutpoint := collateralOf digests tx proTx
  nOperatorReward := proTx.nOperatorReward
  pdmnState := .ofProRegTx proTx nHeight nCollateralAmount

/-- `TRANSACTION_PROVIDER_REGISTER`. The coin of a collateral outside is looked up before
the replaced smartnode goes. -/
def registerMN : Except Failure CDeterministicMNList := do
  let proTx ← payloadOf (readProRegTx crypto.points) tx
  let internalId := newList.nTotalRegisteredCount
  let newList := { newList with nTotalRegisteredCount := newList.nTotalRegisteredCount + 1 }
  refuseWhen (proTx.collateralOutpoint.hash ≠ 0 ∧ (collateralCoin params node proTx).isNone)
    (dos 100 rejectInvalid "bad-protx-collateral")
  let newList ← removeReplaced newList (collateralOf crypto.digests tx proTx)
  refuseWhen (newList.hasUniqueProperty (.addr proTx.addr)) (dos 100 rejectDuplicate "bad-protx-dup-addr")
  refuseWhen (newList.hasUniqueProperty (.keyIDOwner proTx.keyIDOwner)
      ∨ newList.hasUniqueProperty (.pubKeyOperator proTx.pubKeyOperator))
    (dos 100 rejectDuplicate "bad-protx-dup-key")
  let nCollateralAmount ← collateralAmountOf params node tx proTx
  asserted (newList.addMN (registered crypto.digests tx proTx internalId nHeight nCollateralAmount))

def smartnodeOf (proTxHash : Uint256) :
    Except Failure CDeterministicMN :=
  match newList.getMN proTxHash with
  | none => refused 100 "bad-protx-hash"
  | some dmn => .ok dmn

/-- The state after an update of the service: it revives a banned smartnode when all keys
are set. -/
def servedState (proTx : CProUpServTx) (nHeight : Int32) :
    CDeterministicMNState :=
  let newState :=
    { state with addr := proTx.addr, scriptOperatorPayout := proTx.scriptOperatorPayout }
  if newState.nPoSeBanHeight ≠ -1 ∧ newState.pubKeyOperator ≠ 0 ∧ newState.keyIDVoting ≠ 0
      ∧ newState.keyIDOwner ≠ 0 then
    { newState with nPoSePenalty := 0, nPoSeBanHeight := -1, nPoSeRevivedHeight := nHeight }
  else newState

/-- `TRANSACTION_PROVIDER_UPDATE_SERVICE`. -/
def updateService : Except Failure CDeterministicMNList := do
  let proTx ← payloadOf (readProUpServTx crypto.points) tx
  checkHolder newList (.addr proTx.addr) (·.proTxHash == proTx.proTxHash)
    (dos 100 rejectDuplicate "bad-protx-dup-addr")
  let dmn ← smartnodeOf newList proTx.proTxHash
  asserted (newList.updateMNByHash proTx.proTxHash (servedState dmn.pdmnState proTx nHeight))

/-- The state after an update of the registrar: another operator key bans the smartnode. -/
def registrarState (proTx : CProUpRegTx) (nHeight : Int32) :
    CDeterministicMNState :=
  let newState :=
    if state.pubKeyOperator ≠ proTx.pubKeyOperator then
      state.resetOperatorFields.banIfNotBanned nHeight
    else state
  { newState with
    pubKeyOperator := proTx.pubKeyOperator
    keyIDVoting := proTx.keyIDVoting
    scriptPayout := proTx.scriptPayout }

/-- `TRANSACTION_PROVIDER_UPDATE_REGISTRAR`: the new list is not asked for the operator
key. -/
def updateRegistrar : Except Failure CDeterministicMNList := do
  let proTx ← payloadOf (readProUpRegTx crypto.points) tx
  let dmn ← smartnodeOf newList proTx.proTxHash
  asserted (newList.updateMNByHash proTx.proTxHash (registrarState dmn.pdmnState proTx nHeight))

def revokedState (proTx : CProUpRevTx) (nHeight : Int32) :
    CDeterministicMNState :=
  { state.resetOperatorFields.banIfNotBanned nHeight with nRevocationReason := proTx.nReason }

/-- `TRANSACTION_PROVIDER_UPDATE_REVOKE`. -/
def revokeOperator : Except Failure CDeterministicMNList := do
  let proTx ← payloadOf (readProUpRevTx crypto.points) tx
  let dmn ← smartnodeOf newList proTx.proTxHash
  asserted (newList.updateMNByHash proTx.proTxHash (revokedState dmn.pdmnState proTx nHeight))

/-! ## Quorum commitments -/

/-- An outcome with the memory of the process beside it, however it ends. -/
def withMemory {α : Type} (memory : LLMQMemory) (outcome : Except Failure α) :
    Except (Failure × LLMQMemory) (α × LLMQMemory) :=
  match outcome with
  | .error failed => .error (failed, memory)
  | .ok value => .ok (value, memory)

/-- One round of the loop of `HandleQuorumCommitment`. -/
def punishMember (member : CDeterministicMN × Nat) : Except Failure CDeterministicMNList :=
  if !mnList.hasMN member.1.proTxHash then .ok mnList
  else match commitment.validMembers[member.2]? with
    | none => .error (.undefined "qc.validMembers[i]")
    | some true => .ok mnList
    | some false => asserted (mnList.poSePunish member.1.proTxHash (mnList.calcPenalty 66))

def handleQuorumCommitment (quorumHash : Uint256) (mnList : CDeterministicMNList) (memory : LLMQMemory) :
    Except (Failure × LLMQMemory) (CDeterministicMNList × LLMQMemory) :=
  match getAllQuorumMembers params digests node memory commitment.llmqType quorumHash with
  | (.error failed, memory) => .error (failed, memory)
  | (.ok members, memory) =>
    withMemory memory (members.zipIdx.foldlM (punishMember commitment) mnList)

/-- `TRANSACTION_QUORUM_COMMITMENT`. -/
def applyCommitment :
    Except (Failure × LLMQMemory) (CDeterministicMNList × LLMQMemory) :=
  match getTxPayload (readFinalCommitmentTxPayload crypto.points) tx with
  | none => .error (.thrown "assert(false)", memory)
  | some qc =>
    if qc.commitment.isNull then .ok (newList, memory)
    else match memory.llmqs.find qc.commitment.llmqType with
      | none => .error (.thrown "map::at", memory)
      | some llmqParams =>
        let quorumHeight := qc.nHeight.toNat - qc.nHeight.toNat % llmqParams.dkgInterval
        if node.branch[quorumHeight]? ≠ some qc.commitment.quorumHash then
          withMemory memory (refused 100 "bad-qc-quorum-hash")
        else
          handleQuorumCommitment params crypto.digests node qc.commitment
            qc.commitment.quorumHash newList memory

/-! ## The block -/

def processTx (state : CDeterministicMNList × LLMQMemory) (tx : CTransaction) :
    Except (Failure × LLMQMemory) (CDeterministicMNList × LLMQMemory) :=
  let (newList, memory) := state
  if tx.nVersion ≠ 3 then .ok state
  else if tx.nType = transactionProviderRegister then
    withMemory memory (registerMN params crypto node nHeight newList tx)
  else if tx.nType = transactionProviderUpdateService then
    withMemory memory (updateService crypto nHeight newList tx)
  else if tx.nType = transactionProviderUpdateRegistrar then
    withMemory memory (updateRegistrar crypto nHeight newList tx)
  else if tx.nType = transactionProviderUpdateRevoke then
    withMemory memory (revokeOperator crypto nHeight newList tx)
  else if tx.nType = transactionQuorumCommitment then
    applyCommitment params crypto node newList memory tx
  else .ok state

/-- The old list for the new height. The hash of the block is not known yet. -/
def renewed (nHeight : Int32) : CDeterministicMNList :=
  { oldList with blockHash := 0, nHeight := nHeight }

/-- The list the transactions start from, with confirmations and decreased penalties. -/
def beforeTransactions : Except Failure CDeterministicMNList := do
  let newList ← oldList.mns.foldlM (confirmMN params digests node.prevHeight node.prevHash)
    (renewed oldList nHeight)
  if isDecrease node.spork21 nHeight then decreasePoSePenalties params.nCollaterals newList else .ok newList

/-- A spent collateral takes its smartnode off the list. -/
def removeSpent (prevout : COutPoint) :
    Except Failure CDeterministicMNList :=
  match newList.getMNByCollateral prevout with
  | none => .ok newList
  | some dmn =>
    if dmn.collateralOutpoint = prevout then asserted (newList.removeMN dmn.proTxHash)
    else .ok newList

/-- The outpoints the transactions after the coinbase spend, in their order. -/
def spentOutpoints : List COutPoint :=
  vtx.flatMap fun tx => tx.vin.map CTxIn.prevout

def paidState (nHeight : Int32) : CDeterministicMNState :=
  { state with nLastPaidHeight := nHeight }

/-- The payee of the block before is marked as paid if it is still there. -/
def markPaid :
    Except Failure CDeterministicMNList :=
  match payee with
  | none => .ok newList
  | some payee =>
    match newList.getMN payee.proTxHash with
    | none => .ok newList
    | some dmn =>
      asserted (newList.updateMNByHash payee.proTxHash (paidState dmn.pdmnState nHeight))

def afterTransactions : Except Failure CDeterministicMNList :=
  (spentOutpoints vtx).foldlM removeSpent newList >>= markPaid nHeight payee

/-- `BuildNewListFromBlock`; the coinbase is skipped. -/
def buildNewListFromBlock (block : CBlock) :
    Except (Failure × LLMQMemory) (CDeterministicMNList × LLMQMemory) :=
  let nHeight := node.prevHeight + 1
  let (oldList, memory) := getListForBlock params node memory node.prevHash
  let payee := oldList.getMNPayee params.nCollaterals
  withMemory memory (beforeTransactions params crypto.digests node nHeight oldList) >>= fun start =>
  block.vtx.tail.foldlM (processTx params crypto node nHeight) start >>= fun (newList, memory) =>
  withMemory memory (afterTransactions nHeight payee block.vtx.tail newList) >>= fun (newList, memory) =>
  .ok (newList, updateLLMQParams params memory newList.getAllMNsCount nHeight node.spork21)

end BlackRaven.Evo
