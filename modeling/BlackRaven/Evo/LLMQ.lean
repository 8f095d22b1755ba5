import BlackRaven.Consensus.ValidationState
import BlackRaven.Evo.Smartnodes

/-!
Contract: `UpdateLLMQParams` of `chainparams.cpp`, `GetAllQuorumMembers` of
`llmq/quorums_utils.cpp`, `CalculateQuorum` of `evo/deterministicmns.cpp` and the part of
`GetListForBlock` that every caller sees.

Owns: the LLMQ parameters in force, the counters that decide when they change, and the
members of a quorum under them.

Does not own: how `GetListForBlock` assembles a list from snapshots and diffs. What it
assembles for a block is part of the view of the node.
-/

namespace BlackRaven.Evo

open Consensus Lib Primitives

/-! ## Parameters -/

/-- The fields of `LLMQParams` that the smartnode list and the checks read. -/
structure LLMQParams where
  size : Nat
  minSize : Nat
  dkgInterval : Nat
  dkgMiningWindowStart : Int
  dkgMiningWindowEnd : Int
  deriving DecidableEq, Repr

def llmq200_2 : LLMQParams := ⟨200, 2, 30, 10, 18⟩
def llmq3_60 : LLMQParams := ⟨3, 2, 30, 10, 18⟩
def llmq5_60 : LLMQParams := ⟨5, 4, 30 * 12, 20, 28⟩
def llmq5_85 : LLMQParams := ⟨5, 4, 30 * 24, 20, 48⟩
def llmq20_60 : LLMQParams := ⟨20, 15, 30 * 12, 20, 28⟩
def llmq20_85 : LLMQParams := ⟨20, 18, 30 * 24, 20, 48⟩
def llmq40_60 : LLMQParams := ⟨40, 30, 30 * 12, 20, 28⟩
def llmq40_85 : LLMQParams := ⟨40, 35, 30 * 24, 20, 48⟩
def llmq10_60 : LLMQParams := ⟨10, 8, 30, 10, 18⟩
def llmq50_60 : LLMQParams := ⟨50, 40, 30, 10, 18⟩
def llmq400_60 : LLMQParams := ⟨400, 300, 30 * 12, 20, 28⟩
def llmq400_85 : LLMQParams := ⟨400, 350, 30 * 24, 20, 48⟩

/-- `consensus.llmqs`: no other types are ever put into it. -/
structure LLMQs where
  LLMQ_50_60 : Option LLMQParams
  LLMQ_400_60 : Option LLMQParams
  LLMQ_400_85 : Option LLMQParams
  deriving DecidableEq, Repr

variable (params : SmartnodeParams) (digests : Digests) (node : NodeView) (memory : LLMQMemory)
  (llmqs : LLMQs) (llmqType : BitVec 8) (collaterals : SmartnodeCollaterals)
  (list : CDeterministicMNList)

def LLMQs.find : Option LLMQParams :=
  if llmqType = 1 then llmqs.LLMQ_50_60
  else if llmqType = 2 then llmqs.LLMQ_400_60
  else if llmqType = 3 then llmqs.LLMQ_400_85
  else none

inductive NetworkID where
  | main
  | test
  | dev
  | regtest
  deriving DecidableEq, Repr

/-- The parameters of a chain that the smartnode code reads; `llmqs` are those a node
starts with. -/
structure SmartnodeParams where
  networkID : NetworkID
  dip0003Height : Int
  nSmartnodeMinimumConfirmations : Int
  nCollaterals : SmartnodeCollaterals
  llmqs : LLMQs

def regTestSmartnodeParams : SmartnodeParams where
  networkID := .regtest
  dip0003Height := 432
  nSmartnodeMinimumConfirmations := 1
  nCollaterals := [⟨Int32.maxValue, 10 * coin⟩]
  llmqs := ⟨some llmq3_60, some llmq20_60, some llmq20_85⟩

/-! ## Which parameters are in force -/

/-- The LLMQ parameters and the three counters beside them. They belong to the process:
every call that looks up a list may change them. -/
structure LLMQMemory where
  lastCheckMnCount : Nat
  lastCheckHeight : Int32
  lastCheckedLowLLMQParams : Bool
  llmqs : LLMQs
  deriving DecidableEq, Repr

def LLMQMemory.start : LLMQMemory := ⟨0, 0, false, params.llmqs⟩

def isMiningPhase (params : LLMQParams) (nHeight : Int32) : Bool :=
  let phaseIndex := nHeight.toInt.tmod params.dkgInterval
  decide (params.dkgMiningWindowStart ≤ phaseIndex ∧ phaseIndex ≤ params.dkgMiningWindowEnd)

def isLLMQsMiningPhase (nHeight : Int32) : Bool :=
  [llmqs.LLMQ_50_60, llmqs.LLMQ_400_60, llmqs.LLMQ_400_85].any fun entry =>
    entry.any (isMiningPhase · nHeight)

def llmqsFor (networkID : NetworkID) (totalMnCount : Nat) (lowLLMQParams : Bool) : LLMQs :=
  let llmqs : LLMQs :=
    if totalMnCount < 5 then
      if networkID = .test then ⟨some llmq3_60, some llmq5_60, some llmq5_85⟩
      else ⟨some llmq3_60, some llmq20_60, some llmq20_85⟩
    else if totalMnCount < 100 then ⟨some llmq10_60, some llmq20_60, some llmq20_85⟩
    else if totalMnCount < 600 then ⟨some llmq50_60, some llmq40_60, some llmq40_85⟩
    else ⟨some llmq50_60, some llmq400_60, some llmq400_85⟩
  if lowLLMQParams then { llmqs with LLMQ_50_60 := some llmq200_2 } else llmqs

/-- `UpdateLLMQParams`: only for a height above the last one it acted at, only when the
count or the spork differ from that time, and not inside a mining window unless it never
acted before. -/
def updateLLMQParams (totalMnCount : Nat) (height : Int32) (lowLLMQParams : Bool) : LLMQMemory :=
  if memory.lastCheckHeight < height
      ∧ (memory.lastCheckMnCount ≠ totalMnCount ∨ memory.lastCheckedLowLLMQParams ≠ lowLLMQParams)
      ∧ (isLLMQsMiningPhase memory.llmqs height = false ∨ memory.lastCheckHeight = 0) then
    ⟨totalMnCount, height, lowLLMQParams, llmqsFor params.networkID totalMnCount lowLLMQParams⟩
  else memory

/-! ## What a node looks at -/

/-- What the code reads from the node at the time of a call. -/
structure NodeView where
  /-- `GetUTXOCoin`, from `pcoinsTip`. -/
  coins : COutPoint → Option CTxOut
  /-- The height of `chainActive.Tip()`. -/
  tipHeight : Int
  /-- `IsSporkActive(SPORK_21_LOW_LLMQ_PARAMS)`. -/
  spork21 : Bool
  /-- `GetSporkValue(SPORK_22_ENABLE_IPV6)`. -/
  spork22 : Int
  /-- `-allowprivatenet`. -/
  fAllowPrivateNet : Bool
  /-- The list `GetListForBlock` assembles for a block. -/
  lists : Uint256 → CDeterministicMNList
  /-- The hashes of the blocks up to `pindexPrev`, by height. -/
  branch : List Uint256

namespace NodeView

/-- `pindexPrev->GetBlockHash()`. -/
def prevHash (node : NodeView) : Uint256 := node.branch.getLastD 0

/-- `pindexPrev->nHeight`. -/
def prevHeight (node : NodeView) : Int32 := Int32.ofNat (node.branch.length - 1)

end NodeView

def getListForBlock (blockHash : Uint256) : CDeterministicMNList × LLMQMemory :=
  let snapshot := node.lists blockHash
  (snapshot, updateLLMQParams params memory snapshot.getAllMNsCount snapshot.nHeight node.spork21)

/-! ## Quorums -/

/-- `CalculateScores`: the valid and confirmed smartnodes with their scores. -/
def calculateScores (modifier : Uint256) : List (Nat × CDeterministicMN) :=
  ((list.validMNs collaterals).filter (·.pdmnState.confirmedHash != 0)).map fun dmn =>
    (ofBytesLE (digests.sha256
      (u256.encode dmn.pdmnState.confirmedHashWithProRegTxHash ++ u256.encode modifier)), dmn)

/-- The highest score first, the larger outpoint first among equals. -/
def scoreBefore (a b : Nat × CDeterministicMN) : Bool :=
  if a.1 = b.1 then (compare b.2.collateralOutpoint a.2.collateralOutpoint).isLE else decide (b.1 ≤ a.1)

def calculateQuorum (maxSize : Nat) (modifier : Uint256) : List CDeterministicMN :=
  (((calculateScores digests collaterals list modifier).mergeSort scoreBefore).take maxSize).map Prod.snd

/-- `GetAllQuorumMembers`. The parameters are a reference: their size is read after the
list has been looked up. -/
def getAllQuorumMembers (quorumHash : Uint256) :
    Except Failure (List CDeterministicMN) × LLMQMemory :=
  match memory.llmqs.find llmqType with
  | none => (.error (.thrown "map::at"), memory)
  | some _ =>
    let (allMns, memory) := getListForBlock params node memory quorumHash
    let modifier := digests.hash ((word 8 whole_8).encode llmqType ++ u256.encode quorumHash)
    let size := ((memory.llmqs.find llmqType).map LLMQParams.size).getD 0
    (.ok (calculateQuorum digests params.nCollaterals allMns size modifier), memory)

end BlackRaven.Evo
