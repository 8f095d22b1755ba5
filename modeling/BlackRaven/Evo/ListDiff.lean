import BlackRaven.Evo.Smartnodes
import BlackRaven.Lib.Ascending
import BlackRaven.Lib.RecordDiff

/-!
Contract: `CDeterministicMNStateDiff`, `CDeterministicMNListDiff`, `BuildDiff` and
`ApplyDiff` of `evo/deterministicmns.h` and `evo/deterministicmns.cpp`.

Owns: the differences of states and lists, their bytes, and their application.

Does not own: the format of older versions.
-/

namespace BlackRaven.Evo

open Lib Primitives RecordDiff

/-! ## Differences of states -/

def int32 : Codec Int32 where
  Admissible := fun _ => True
  encode := fun value => u32.encode value.toBitVec
  decode := do
    let value ← u32.decode
    return Int32.ofBitVec value
  decode_encode := by
    intro value rest _
    rw [u32.run_bind_encode _ _ _ (u32_admissible _)]
    rfl

def int64 : Codec Int64 where
  Admissible := fun _ => True
  encode := fun value => u64.encode value.toBitVec
  decode := do
    let value ← u64.decode
    return Int64.ofBitVec value
  decode_encode := by
    intro value rest _
    rw [u64.run_bind_encode _ _ _ (u64_admissible _)]
    rfl

/-- `DMN_STATE_DIFF_ALL_FIELDS`, with the bits of `Field`. A key is written as its bytes
and read without looking at them: it is a lazy one. -/
def dmnStateDiffAllFields : List (RecordField CDeterministicMNState) :=
  [⟨Int32, 0x0001, (·.nRegisteredHeight), fun f state => { state with nRegisteredHeight := f }, int32⟩,
    ⟨Int32, 0x0002, (·.nLastPaidHeight), fun f state => { state with nLastPaidHeight := f }, int32⟩,
    ⟨Int32, 0x0004, (·.nPoSePenalty), fun f state => { state with nPoSePenalty := f }, int32⟩,
    ⟨Int32, 0x0008, (·.nPoSeRevivedHeight), fun f state => { state with nPoSeRevivedHeight := f }, int32⟩,
    ⟨Int32, 0x0010, (·.nPoSeBanHeight), fun f state => { state with nPoSeBanHeight := f }, int32⟩,
    ⟨BitVec 16, 0x0020, (·.nRevocationReason), fun f state => { state with nRevocationReason := f }, u16⟩,
    ⟨Uint256, 0x0040, (·.confirmedHash), fun f state => { state with confirmedHash := f }, u256⟩,
    ⟨Uint256, 0x0080, (·.confirmedHashWithProRegTxHash),
      fun f state => { state with confirmedHashWithProRegTxHash := f }, u256⟩,
    ⟨CKeyID, 0x0100, (·.keyIDOwner), fun f state => { state with keyIDOwner := f }, u160⟩,
    ⟨CBLSPublicKey, 0x0200, (·.pubKeyOperator), fun f state => { state with pubKeyOperator := f },
      word 384 whole_384⟩,
    ⟨CKeyID, 0x0400, (·.keyIDVoting), fun f state => { state with keyIDVoting := f }, u160⟩,
    ⟨CService, 0x0800, (·.addr), fun f state => { state with addr := f }, service⟩,
    ⟨Bytes, 0x1000, (·.scriptPayout), fun f state => { state with scriptPayout := f }, string⟩,
    ⟨Bytes, 0x2000, (·.scriptOperatorPayout), fun f state => { state with scriptOperatorPayout := f }, string⟩,
    ⟨Int64, 0x4000, (·.nCollateralAmount), fun f state => { state with nCollateralAmount := f }, int64⟩]

/-- `CDeterministicMNState()`. The amount is not initialized; nobody reads it. -/
def CDeterministicMNState.blank : CDeterministicMNState where
  nRegisteredHeight := -1
  nLastPaidHeight := 0
  nPoSePenalty := 0
  nPoSeRevivedHeight := -1
  nPoSeBanHeight := -1
  nRevocationReason := 0
  confirmedHash := 0
  confirmedHashWithProRegTxHash := 0
  keyIDOwner := 0
  pubKeyOperator := 0
  keyIDVoting := 0
  addr := CService.null
  scriptPayout := []
  scriptOperatorPayout := []
  nCollateralAmount := 0

abbrev CDeterministicMNStateDiff := RecordDiff CDeterministicMNState

/-- `CDeterministicMNStateDiff(a, b)`. -/
def CDeterministicMNStateDiff.between (a b : CDeterministicMNState) : CDeterministicMNStateDiff :=
  RecordDiff.between dmnStateDiffAllFields .blank a b

def CDeterministicMNStateDiff.applyToState (diff : CDeterministicMNStateDiff)
    (target : CDeterministicMNState) : CDeterministicMNState :=
  applyTo dmnStateDiffAllFields diff target

theorem dmnStateDiffAllFields_complete : RecordField.Complete dmnStateDiffAllFields where
  get_set := by
    unfold dmnStateDiffAllFields
    simp only [List.forall_mem_cons, List.not_mem_nil, false_imp_iff, implies_true, and_true]
  flag_ne_zero := by
    decide
  apart := by
    unfold dmnStateDiffAllFields
    simp only [List.pairwise_cons, List.forall_mem_cons, List.not_mem_nil, false_imp_iff, implies_true,
      List.Pairwise.nil, and_true]
    all_goals
      repeat' apply And.intro
    all_goals exact ⟨by decide, fun _ _ => rfl, fun _ _ => rfl⟩
  ext := by
    unfold dmnStateDiffAllFields
    simp only [List.forall_mem_cons, List.not_mem_nil, false_imp_iff, implies_true, and_true]
    rintro ⟨⟩ ⟨⟩ ⟨rfl, rfl, rfl, rfl, rfl, rfl, rfl, rfl, rfl, rfl, rfl, rfl, rfl, rfl, rfl⟩
    rfl

/-- The scripts are of a size that can be read back. -/
structure CDeterministicMNState.Readable (state : CDeterministicMNState) : Prop where
  payout : state.scriptPayout.length ≤ maxSize
  operatorPayout : state.scriptOperatorPayout.length ≤ maxSize

theorem CDeterministicMNState.Readable.fields {state : CDeterministicMNState} (readable : state.Readable) :
    ∀ field ∈ dmnStateDiffAllFields, field.codec.Admissible (field.get state) := by
  unfold dmnStateDiffAllFields
  simp only [List.forall_mem_cons, List.not_mem_nil, false_imp_iff, implies_true, and_true]
  exact ⟨trivial, trivial, trivial, trivial, trivial, trivial, trivial, trivial, trivial, trivial, trivial,
    trivial, readable.payout, readable.operatorPayout, trivial⟩

def mnState : Codec CDeterministicMNState where
  Admissible := CDeterministicMNState.Readable
  encode := fun state => encodeFields dmnStateDiffAllFields ⟨BitVec.allOnes 32, state⟩
  decode := decodeFields (BitVec.allOnes 32) dmnStateDiffAllFields .blank
  decode_encode := by
    intro state rest readable
    have runs := @decodeFields_run _ dmnStateDiffAllFields ⟨BitVec.allOnes 32, state⟩
      (fun field member _ => readable.fields field member) .blank rest
    rw [applyTo_allOnes dmnStateDiffAllFields_complete] at runs
    exact runs

/-- `VARINT` of an unsigned integer. -/
def varIntOf (width : Nat) : Codec (BitVec width) where
  Admissible := fun _ => True
  encode := fun value => (varInt (2 ^ width - 1)).encode value.toNat
  decode := do
    let value ← (varInt (2 ^ width - 1)).decode
    return BitVec.ofNat width value
  decode_encode := by
    intro value rest _
    rw [(varInt (2 ^ width - 1)).run_bind_encode _ _ _ (Nat.le_sub_one_of_lt value.isLt)]
    simp

def varInt32 : Codec (BitVec 32) := varIntOf 32
def varInt64 : Codec Uint64 := varIntOf 64

def stateDiff : Codec CDeterministicMNStateDiff where
  Admissible := fun diff => diff.applyToState .blank = diff.state ∧
    ∀ field ∈ dmnStateDiffAllFields, RecordDiff.Marks diff.fields field →
      field.codec.Admissible (field.get diff.state)
  encode := fun diff =>
    varInt32.encode diff.fields ++ encodeFields dmnStateDiffAllFields diff
  decode := do
    let fields ← varInt32.decode
    let state ← decodeFields fields dmnStateDiffAllFields .blank
    return ⟨fields, state⟩
  decode_encode := by
    rintro diff rest ⟨isState, admissible⟩
    rw [List.append_assoc, varInt32.run_bind_encode _ _ _ trivial, StateT.run_bind,
      decodeFields_run admissible .blank rest]
    change some (RecordDiff.mk diff.fields (diff.applyToState .blank), rest) = _
    rw [isState]

theorem stateDiff_admissible (a : CDeterministicMNState) {b : CDeterministicMNState} (readable : b.Readable) :
    stateDiff.Admissible (.between a b) := by
  refine ⟨applyTo_blank dmnStateDiffAllFields_complete _ a b, fun field member marked => ?_⟩
  have differs := (between_marks dmnStateDiffAllFields_complete .blank a b member).mp marked
  have isNew : field.get (CDeterministicMNStateDiff.between a b).state = field.get b := by
    unfold CDeterministicMNStateDiff.between
    rw [get_between dmnStateDiffAllFields_complete member, if_pos differs]
  rw [isNew]
  exact readable.fields field member

/-! ## Differences of lists -/

def smartnode : Codec CDeterministicMN where
  Admissible := fun dmn => dmn.pdmnState.Readable
  encode := fun dmn => u256.encode dmn.proTxHash ++ varInt64.encode dmn.internalId
    ++ outPoint.encode dmn.collateralOutpoint ++ u16.encode dmn.nOperatorReward
    ++ mnState.encode dmn.pdmnState
  decode := do
    let proTxHash ← u256.decode
    let internalId ← varInt64.decode
    let collateralOutpoint ← outPoint.decode
    let nOperatorReward ← u16.decode
    let pdmnState ← mnState.decode
    return ⟨proTxHash, internalId, collateralOutpoint, nOperatorReward, pdmnState⟩
  decode_encode := by
    intro dmn rest readable
    rw [List.append_assoc, List.append_assoc, List.append_assoc, List.append_assoc,
      u256.run_bind_encode _ _ _ trivial, varInt64.run_bind_encode _ _ _ trivial,
      outPoint.run_bind_encode _ _ _ trivial, u16.run_bind_encode _ _ _ trivial,
      mnState.run_bind_encode _ _ _ readable]
    rfl

/-- `updatedMNs` and `removedMns` are ordered by internal id. -/
structure CDeterministicMNListDiff where
  addedMNs : List CDeterministicMN
  updatedMNs : List (Uint64 × CDeterministicMNStateDiff)
  removedMns : List Uint64

def updatedKey (entry : Uint64 × CDeterministicMNStateDiff) : Nat := entry.1.toNat

def updatedEntry : Codec (Uint64 × CDeterministicMNStateDiff) where
  Admissible := fun entry => stateDiff.Admissible entry.2
  encode := fun entry => varInt64.encode entry.1 ++ stateDiff.encode entry.2
  decode := do
    let internalId ← varInt64.decode
    let diff ← stateDiff.decode
    return (internalId, diff)
  decode_encode := by
    rintro ⟨internalId, diff⟩ rest admissible
    rw [List.append_assoc, varInt64.run_bind_encode _ _ _ trivial, stateDiff.run_bind_encode _ _ _ admissible]
    rfl

/-- What is read goes into the map and the set one by one. -/
def listDiff : Codec CDeterministicMNListDiff where
  Admissible := fun diff => (Codec.vector compactSize smartnode).Admissible diff.addedMNs
    ∧ (Codec.vector compactSize updatedEntry).Admissible diff.updatedMNs
    ∧ (Codec.vector compactSize varInt64).Admissible diff.removedMns
    ∧ Ascending updatedKey diff.updatedMNs ∧ Ascending BitVec.toNat diff.removedMns
  encode := fun diff => (Codec.vector compactSize smartnode).encode diff.addedMNs
    ++ (Codec.vector compactSize updatedEntry).encode diff.updatedMNs
    ++ (Codec.vector compactSize varInt64).encode diff.removedMns
  decode := do
    let addedMNs ← (Codec.vector compactSize smartnode).decode
    let updatedMNs ← (Codec.vector compactSize updatedEntry).decode
    let removedMns ← (Codec.vector compactSize varInt64).decode
    return ⟨addedMNs, collect updatedKey updatedMNs, collect BitVec.toNat removedMns⟩
  decode_encode := by
    rintro diff rest ⟨added, updated, removed, updatedAscends, removedAscends⟩
    rw [List.append_assoc, List.append_assoc, Codec.run_bind_encode _ _ _ _ added,
      Codec.run_bind_encode _ _ _ _ updated, Codec.run_bind_encode _ _ _ _ removed,
      collect_eq_self updatedAscends, collect_eq_self removedAscends]
    rfl

namespace CDeterministicMNList

variable (list result : CDeterministicMNList)

/-- The entry of `updatedMNs` for a smartnode of the new list. -/
def updatedEntryOf (toPtr : CDeterministicMN) :
    Option (Uint64 × CDeterministicMNStateDiff) :=
  match list.getMN toPtr.proTxHash with
  | none => none
  | some fromPtr =>
    let stateDiff := CDeterministicMNStateDiff.between fromPtr.pdmnState toPtr.pdmnState
    if stateDiff.fields ≠ 0 then some (toPtr.internalId, stateDiff) else none

def buildDiff (target : CDeterministicMNList) : CDeterministicMNListDiff where
  addedMNs := (target.mns.filter fun toPtr => (list.getMN toPtr.proTxHash).isNone).mergeSort
    fun a b => decide (a.internalId ≤ b.internalId)
  updatedMNs := collect updatedKey (target.mns.filterMap list.updatedEntryOf)
  removedMns := collect BitVec.toNat
    ((list.mns.filter fun fromPtr => (target.getMN fromPtr.proTxHash).isNone).map (·.internalId))

/-- A round of the first loop of `ApplyDiff`. -/
def applyRemoved (id : Uint64) : Except String CDeterministicMNList :=
  match result.getMNByInternalId id with
  | none => .error "assert(dmn)"
  | some dmn => result.removeMN dmn.proTxHash

def applyAdded (dmn : CDeterministicMN) :
    Except String CDeterministicMNList :=
  if dmn.internalId ≠ result.nTotalRegisteredCount.setWidth 64 then
    .error "assert(dmn->internalId == result.GetTotalRegisteredCount())"
  else (result.addMN dmn).map fun result =>
    { result with nTotalRegisteredCount := result.nTotalRegisteredCount + 1 }

/-- A round of the third loop, with `UpdateMN` of a difference. -/
def applyUpdated (entry : Uint64 × CDeterministicMNStateDiff) :
    Except String CDeterministicMNList :=
  match result.getMNByInternalId entry.1 with
  | none => .error "assert(oldDmn != nullptr)"
  | some oldDmn => result.updateMN oldDmn (entry.2.applyToState oldDmn.pdmnState)

def applyDiff (blockHash : Uint256) (nHeight : Int32) (diff : CDeterministicMNListDiff) :
    Except String CDeterministicMNList :=
  diff.removedMns.foldlM applyRemoved { list with blockHash := blockHash, nHeight := nHeight }
    >>= diff.addedMNs.foldlM applyAdded >>= diff.updatedMNs.foldlM applyUpdated

end CDeterministicMNList

end BlackRaven.Evo
