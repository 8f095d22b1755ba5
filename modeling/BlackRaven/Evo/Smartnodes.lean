import BlackRaven.Evo.ProviderTx
import BlackRaven.Lib.Outcome
import BlackRaven.Lib.UniqueIndex

/-!
Contract: `evo/deterministicmns.h`, the list operations of `evo/deterministicmns.cpp`
and `smartnode/smartnode-collaterals.cpp`.

Owns: smartnodes, the list of them with its index of unique properties, and every
operation that changes the list. A failed assertion is an error that carries its text.

The maps are persistent and never iterated in an order that shows: `mnMap` is sorted by
its keys here, and the other two are functions.
-/

namespace BlackRaven.Evo

open Consensus Lib Primitives

/-! ## Collaterals -/

structure Collateral where
  height : Int32
  amount : CAmount
  deriving DecidableEq, Repr

/-- `SmartnodeCollaterals`: of two entries with one amount the first counts. -/
abbrev SmartnodeCollaterals := List Collateral

variable (proTxHash : Uint256) (index : MnUniquePropertyMap) (collaterals : SmartnodeCollaterals)
  (oldValue : UniqueProperty)

def isValidCollateral (collateralAmount : CAmount) : Bool :=
  collaterals.any (·.amount == collateralAmount)

def isPayableCollateral (height : Int32) (collateralAmount : CAmount) : Bool :=
  match collaterals.find? (·.amount == collateralAmount) with
  | none => false
  | some collateral => collateral.height == Int32.maxValue || decide (height ≤ collateral.height)

/-! ## Smartnodes -/

structure CDeterministicMNState where
  nRegisteredHeight : Int32
  nLastPaidHeight : Int32
  nPoSePenalty : Int32
  nPoSeRevivedHeight : Int32
  nPoSeBanHeight : Int32
  nRevocationReason : BitVec 16
  /-- The block hash some blocks after registration, used in quorum calculations. -/
  confirmedHash : Uint256
  confirmedHashWithProRegTxHash : Uint256
  keyIDOwner : CKeyID
  pubKeyOperator : CBLSPublicKey
  keyIDVoting : CKeyID
  addr : CService
  scriptPayout : Bytes
  scriptOperatorPayout : Bytes
  nCollateralAmount : Int64
  deriving DecidableEq, Repr

namespace CDeterministicMNState

def ofProRegTx (proTx : CProRegTx) (nHeight : Int32) (nCollateralAmount : CAmount) :
    CDeterministicMNState where
  nRegisteredHeight := nHeight
  nLastPaidHeight := 0
  nPoSePenalty := 0
  nPoSeRevivedHeight := -1
  nPoSeBanHeight := if proTx.addr = CService.null then nHeight else -1
  nRevocationReason := 0
  confirmedHash := 0
  confirmedHashWithProRegTxHash := 0
  keyIDOwner := proTx.keyIDOwner
  pubKeyOperator := proTx.pubKeyOperator
  keyIDVoting := proTx.keyIDVoting
  addr := proTx.addr
  scriptPayout := proTx.scriptPayout
  scriptOperatorPayout := []
  nCollateralAmount := Int64.ofInt nCollateralAmount

def resetOperatorFields (state : CDeterministicMNState) : CDeterministicMNState :=
  { state with
    pubKeyOperator := 0
    addr := CService.null
    scriptOperatorPayout := []
    nRevocationReason := 0 }

def banIfNotBanned (state : CDeterministicMNState) (height : Int32) : CDeterministicMNState :=
  if state.nPoSeBanHeight = -1 then { state with nPoSeBanHeight := height } else state

/-- `UpdateConfirmedHash`: a single SHA-256 of the two hashes. -/
def updateConfirmedHash (digests : Digests) (state : CDeterministicMNState)
    (proTxHash confirmedHash : Uint256) : CDeterministicMNState :=
  { state with
    confirmedHash := confirmedHash
    confirmedHashWithProRegTxHash :=
      BitVec.ofNat 256 (ofBytesLE (digests.sha256 (u256.encode proTxHash ++ u256.encode confirmedHash))) }

end CDeterministicMNState

structure CDeterministicMN where
  proTxHash : Uint256
  internalId : Uint64
  collateralOutpoint : COutPoint
  nOperatorReward : BitVec 16
  pdmnState : CDeterministicMNState
  deriving DecidableEq, Repr

/-! ## Unique properties -/

/-- What no two smartnodes may share. The source keeps the hash of the serialization;
the four kinds are serialized with different lengths, so the hashes are told apart like
the properties as long as the hash does not collide. -/
inductive UniqueProperty where
  | collateralOutpoint (value : COutPoint)
  | addr (value : CService)
  | keyIDOwner (value : CKeyID)
  | pubKeyOperator (value : CBLSPublicKey)
  deriving DecidableEq, Repr

namespace UniqueProperty

/-- Equal to a default constructed value of its type. -/
def isNull : UniqueProperty → Bool
  | .collateralOutpoint value => value.isNull
  | .addr value => value == CService.null
  | .keyIDOwner value => value == 0
  | .pubKeyOperator value => value == 0

def nonNull (property : UniqueProperty) : Option UniqueProperty :=
  if property.isNull then none else some property

end UniqueProperty

abbrev MnUniquePropertyMap := UniqueIndex Uint256 UniqueProperty

def addUniqueProperty (v : UniqueProperty) :
    Except String MnUniquePropertyMap :=
  if v.isNull then .error "assert(v != nullValue)"
  else required "assert(!oldEntry || oldEntry->first == dmn->proTxHash)" (index.claim proTxHash v)

def deleteUniqueProperty : Except String MnUniquePropertyMap :=
  if oldValue.isNull then .error "assert(oldValue != nullValue)"
  else required "assert(p && p->first == dmn->proTxHash)" (index.release proTxHash oldValue)

def updateUniqueProperty (newValue : UniqueProperty) : Except String MnUniquePropertyMap :=
  if oldValue = newValue then .ok index
  else do
    let index ← if oldValue.isNull then .ok index else deleteUniqueProperty proTxHash index oldValue
    if newValue.isNull then .ok index else addUniqueProperty proTxHash index newValue

namespace CDeterministicMN

/-- The properties `AddMN` adds and `RemoveMN` deletes, in their order; an address that
is not set and an operator key that is not valid are left out. -/
def uniqueProperties (dmn : CDeterministicMN) : List UniqueProperty :=
  .collateralOutpoint dmn.collateralOutpoint
    :: (UniqueProperty.addr dmn.pdmnState.addr).nonNull.toList
    ++ .keyIDOwner dmn.pdmnState.keyIDOwner
    :: (UniqueProperty.pubKeyOperator dmn.pdmnState.pubKeyOperator).nonNull.toList

end CDeterministicMN

/-! ## The list -/

structure CDeterministicMNList where
  blockHash : Uint256
  nHeight : Int32
  nTotalRegisteredCount : Uint32
  mnMap : Std.TreeMap Uint256 CDeterministicMN
  mnInternalIdMap : Uint64 → Option Uint256
  mnUniquePropertyMap : MnUniquePropertyMap

namespace CDeterministicMNList

/-- `CDeterministicMNList(blockHash, -1, 0)`. -/
def initial (blockHash : Uint256) : CDeterministicMNList :=
  ⟨blockHash, -1, 0, ∅, fun _ => none, fun _ => none⟩

variable (list : CDeterministicMNList) (v : UniqueProperty) (state : CDeterministicMNState)
  (dmn : CDeterministicMN)

def getMN (proTxHash : Uint256) : Option CDeterministicMN :=
  list.mnMap[proTxHash]?

def hasMN (proTxHash : Uint256) : Bool := (list.getMN proTxHash).isSome

def getAllMNsCount : Nat := list.mnMap.size

/-- What `ForEachMN` goes through. -/
def mns : List CDeterministicMN := list.mnMap.toList.map Prod.snd

def isMNPoSeBanned : Bool := dmn.pdmnState.nPoSeBanHeight != -1

/-- `IsMNValid`: the height handed to it is never looked at, the list's own is. -/
def isMNValid : Bool :=
  !isMNPoSeBanned dmn && isPayableCollateral collaterals list.nHeight dmn.pdmnState.nCollateralAmount.toInt

def validMNs :
    List CDeterministicMN :=
  list.mns.filter (list.isMNValid collaterals)

def hasUniqueProperty : Bool :=
  (list.mnUniquePropertyMap v).isSome

def getUniquePropertyMN : Option CDeterministicMN :=
  (list.mnUniquePropertyMap v).bind fun entry => list.getMN entry.1

def getMNByCollateral (collateralOutpoint : COutPoint) :
    Option CDeterministicMN :=
  list.getUniquePropertyMN (.collateralOutpoint collateralOutpoint)

def getMNByInternalId (internalId : Uint64) : Option CDeterministicMN :=
  (list.mnInternalIdMap internalId).bind list.getMN

/-! ### The payee -/

def compareByLastPaidGetHeight : Int32 :=
  let height := dmn.pdmnState.nLastPaidHeight
  if dmn.pdmnState.nPoSeRevivedHeight ≠ -1 ∧ dmn.pdmnState.nPoSeRevivedHeight > height then
    dmn.pdmnState.nPoSeRevivedHeight
  else if height = 0 then dmn.pdmnState.nRegisteredHeight
  else height

/-- Hashes are compared as `memcmp` does. -/
def compareByLastPaid (a b : CDeterministicMN) : Bool :=
  let ah := compareByLastPaidGetHeight a
  let bh := compareByLastPaidGetHeight b
  if ah = bh then decide (u256.encode a.proTxHash < u256.encode b.proTxHash) else decide (ah < bh)

def getMNPayee :
    Option CDeterministicMN :=
  if list.getAllMNsCount ≤ 10 then none
  else
    (list.validMNs collaterals).foldl
      (fun best dmn =>
        match best with
        | none => some dmn
        | some current => if compareByLastPaid dmn current then some dmn else best)
      none

/-! ### Changes -/

def addMN :
    Except String CDeterministicMNList :=
  if list.hasMN dmn.proTxHash then .error "assert(!mnMap.find(dmn->proTxHash))"
  else do
    let index ← dmn.uniqueProperties.foldlM (addUniqueProperty dmn.proTxHash) list.mnUniquePropertyMap
    return { list with
      mnMap := list.mnMap.insert dmn.proTxHash dmn
      mnInternalIdMap := Function.update list.mnInternalIdMap dmn.internalId (some dmn.proTxHash)
      mnUniquePropertyMap := index }

/-- `UpdateMN` of a smartnode found before. -/
def updateMN (oldDmn : CDeterministicMN) (pdmnState : CDeterministicMNState) :
    Except String CDeterministicMNList := do
  let hash := oldDmn.proTxHash
  let oldState := oldDmn.pdmnState
  let index ← updateUniqueProperty hash list.mnUniquePropertyMap (.addr oldState.addr) (.addr pdmnState.addr)
  let index ← updateUniqueProperty hash index (.keyIDOwner oldState.keyIDOwner)
    (.keyIDOwner pdmnState.keyIDOwner)
  let index ← updateUniqueProperty hash index (.pubKeyOperator oldState.pubKeyOperator)
    (.pubKeyOperator pdmnState.pubKeyOperator)
  return { list with
    mnMap := list.mnMap.insert hash { oldDmn with pdmnState := pdmnState }
    mnUniquePropertyMap := index }

def updateMNByHash (proTxHash : Uint256) (pdmnState : CDeterministicMNState) :
    Except String CDeterministicMNList :=
  match list.getMN proTxHash with
  | none => .error "assert(oldDmn != nullptr)"
  | some oldDmn => list.updateMN oldDmn pdmnState

def removeMN (proTxHash : Uint256) :
    Except String CDeterministicMNList :=
  match list.getMN proTxHash with
  | none => .error "assert(dmn != nullptr)"
  | some dmn => do
      let index ← dmn.uniqueProperties.foldlM (deleteUniqueProperty dmn.proTxHash) list.mnUniquePropertyMap
      return { list with
        mnMap := list.mnMap.erase proTxHash
        mnInternalIdMap := Function.update list.mnInternalIdMap dmn.internalId none
        mnUniquePropertyMap := index }

/-! ### Penalties -/

def calcMaxPoSePenalty : Int32 :=
  max 100 (Int32.ofNat list.getAllMNsCount)

def calcPenalty (percent : Int32) : Int32 :=
  list.calcMaxPoSePenalty * percent / 100

/-- The state `PoSePunish` gives to a smartnode. -/
def punished (penalty : Int32) :
    CDeterministicMNState :=
  let maxPenalty := list.calcMaxPoSePenalty
  let nPoSePenalty := min maxPenalty (state.nPoSePenalty + penalty)
  { state with
    nPoSePenalty := nPoSePenalty
    nPoSeBanHeight :=
      if nPoSePenalty ≥ maxPenalty ∧ state.nPoSeBanHeight = -1 then list.nHeight
      else state.nPoSeBanHeight }

def poSePunish (proTxHash : Uint256) (penalty : Int32) :
    Except String CDeterministicMNList :=
  if ¬ penalty > 0 then .error "assert(penalty > 0)"
  else match list.getMN proTxHash with
    | none => .error "assert(dmn)"
    | some dmn => list.updateMNByHash proTxHash (list.punished dmn.pdmnState penalty)

/-- The state `PoSeDecrease` gives to a smartnode. -/
def decreased : CDeterministicMNState :=
  { state with nPoSePenalty := state.nPoSePenalty - 1 }

def poSeDecrease (proTxHash : Uint256) :
    Except String CDeterministicMNList :=
  match list.getMN proTxHash with
  | none => .error "assert(dmn)"
  | some dmn =>
    if dmn.pdmnState.nPoSePenalty > 0 ∧ dmn.pdmnState.nPoSeBanHeight = -1 then
      list.updateMNByHash proTxHash (decreased dmn.pdmnState)
    else .error "assert(dmn->pdmnState->nPoSePenalty > 0 && dmn->pdmnState->nPoSeBanHeight == -1)"

end CDeterministicMNList

end BlackRaven.Evo
