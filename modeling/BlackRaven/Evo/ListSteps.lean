import BlackRaven.Evo.ListDiff
import BlackRaven.Evo.ListUpdate
import BlackRaven.Evo.UniqueProperties
import BlackRaven.Lib.Ends
import Mathlib.Logic.Relation

/-!
Contract: what the phases of `BuildNewListFromBlock` can do to a well kept list.

Owns: the three kinds of steps every phase is made of, and for each phase the steps of a
run that succeeds.
-/

namespace BlackRaven.Evo

open Consensus Lib Primitives
open CDeterministicMNList

/-! ## Steps -/

/-- One change of the list. The owner key and everything outside the state of a smartnode
stay as they were registered, and scripts stay of a size that can be read back. -/
inductive ListStep (crypto : Crypto) (nHeight : Int32) (txs : List CTransaction) :
    CDeterministicMNList → CDeterministicMNList → Prop
  | state {list : CDeterministicMNList} {dmn : CDeterministicMN} {new : CDeterministicMNState}
      {index : MnUniquePropertyMap} (found : list.getMN dmn.proTxHash = some dmn)
      (owner : new.keyIDOwner = dmn.pdmnState.keyIDOwner)
      (scripts : dmn.pdmnState.Readable → new.Readable)
      (kept : (list.withState dmn new index).WellKept) :
      ListStep crypto nHeight txs list (list.withState dmn new index)
  | remove {list : CDeterministicMNList} {dmn : CDeterministicMN} {index : MnUniquePropertyMap}
      (found : list.getMN dmn.proTxHash = some dmn) (kept : (list.withoutMN dmn index).WellKept) :
      ListStep crypto nHeight txs list (list.withoutMN dmn index)
  | register {list : CDeterministicMNList} {tx : CTransaction} {proTx : CProRegTx}
      {nCollateralAmount : CAmount} {index : MnUniquePropertyMap} (member : tx ∈ txs)
      (payload : getTxPayload (readProRegTx crypto.points) tx = some proTx)
      (absent : list.getMN (tx.getHash crypto.digests) = none)
      (kept : (({ list with nTotalRegisteredCount := list.nTotalRegisteredCount + 1 } :
        CDeterministicMNList).withMN (registered crypto.digests tx proTx
          list.nTotalRegisteredCount nHeight nCollateralAmount) index).WellKept) :
      ListStep crypto nHeight txs list
        (({ list with nTotalRegisteredCount := list.nTotalRegisteredCount + 1 } :
          CDeterministicMNList).withMN (registered crypto.digests tx proTx
            list.nTotalRegisteredCount nHeight nCollateralAmount) index)

abbrev ListSteps (crypto : Crypto) (nHeight : Int32) (txs : List CTransaction) :
    CDeterministicMNList → CDeterministicMNList → Prop :=
  Relation.ReflTransGen (ListStep crypto nHeight txs)

section Steps

variable {crypto : Crypto} {nHeight : Int32} {txs : List CTransaction}
  {list next : CDeterministicMNList}

theorem ListStep.wellKept (step : ListStep crypto nHeight txs list next) : next.WellKept := by
  cases step with
  | state _ _ _ kept => exact kept
  | remove _ kept => exact kept
  | register _ _ _ kept => exact kept

theorem ListSteps.wellKept (kept : list.WellKept) (steps : ListSteps crypto nHeight txs list next) :
    next.WellKept := by
  cases steps with
  | refl => exact kept
  | tail _ last => exact last.wellKept

end Steps

/-! ## Updates that touch no unique property -/

namespace CDeterministicMNList

variable {list : CDeterministicMNList} {dmn : CDeterministicMN}

theorem getAllMNsCount_withState (found : list.getMN dmn.proTxHash = some dmn)
    (new : CDeterministicMNState) (index : MnUniquePropertyMap) :
    (list.withState dmn new index).getAllMNsCount = list.getAllMNsCount := by
  have present : dmn.proTxHash ∈ list.mnMap := Std.TreeMap.mem_iff_isSome_getElem?.mpr (by
    have : list.mnMap[dmn.proTxHash]? = some dmn := found
    rw [this]
    rfl)
  exact (Std.TreeMap.size_insert).trans (if_pos present)

theorem mem_mns : dmn ∈ list.mns ↔ ∃ proTxHash, list.getMN proTxHash = some dmn := by
  unfold mns getMN
  rw [List.mem_map]
  constructor
  · rintro ⟨⟨proTxHash, found⟩, member, rfl⟩
    exact ⟨proTxHash, Std.TreeMap.mem_toList_iff_getElem?_eq_some.mp member⟩
  · rintro ⟨proTxHash, found⟩
    exact ⟨(proTxHash, dmn), Std.TreeMap.mem_toList_iff_getElem?_eq_some.mpr found, rfl⟩

end CDeterministicMNList

/-- Two states with the same unique properties and the same scripts. -/
structure SameProperties (old new : CDeterministicMNState) : Prop where
  addr : new.addr = old.addr
  owner : new.keyIDOwner = old.keyIDOwner
  operator : new.pubKeyOperator = old.pubKeyOperator
  payout : new.scriptPayout = old.scriptPayout
  operatorPayout : new.scriptOperatorPayout = old.scriptOperatorPayout

theorem SameProperties.refl (state : CDeterministicMNState) : SameProperties state state :=
  ⟨rfl, rfl, rfl, rfl, rfl⟩

theorem SameProperties.trans {first second third : CDeterministicMNState}
    (left : SameProperties first second) (right : SameProperties second third) :
    SameProperties first third :=
  ⟨right.addr.trans left.addr, right.owner.trans left.owner, right.operator.trans left.operator,
    right.payout.trans left.payout, right.operatorPayout.trans left.operatorPayout⟩

theorem SameProperties.symm {old new : CDeterministicMNState} (same : SameProperties old new) :
    SameProperties new old :=
  ⟨same.addr.symm, same.owner.symm, same.operator.symm, same.payout.symm, same.operatorPayout.symm⟩

theorem SameProperties.readable {old new : CDeterministicMNState} (same : SameProperties old new)
    (readable : old.Readable) : new.Readable :=
  ⟨same.payout ▸ readable.payout, same.operatorPayout ▸ readable.operatorPayout⟩

/-- A list whose smartnodes kept their unique properties. -/
structure Quiet (list next : CDeterministicMNList) : Prop where
  states : ∀ proTxHash dmn, list.getMN proTxHash = some dmn →
    ∃ other, next.getMN proTxHash = some other ∧ SameProperties dmn.pdmnState other.pdmnState
  hashes : ∀ proTxHash, next.hasMN proTxHash = list.hasMN proTxHash
  count : next.getAllMNsCount = list.getAllMNsCount
  nHeight : next.nHeight = list.nHeight

theorem Quiet.refl (list : CDeterministicMNList) : Quiet list list :=
  ⟨fun _ dmn found => ⟨dmn, found, .refl _⟩, fun _ => rfl, rfl, rfl⟩

theorem Quiet.trans {first second third : CDeterministicMNList} (left : Quiet first second)
    (right : Quiet second third) : Quiet first third := by
  refine ⟨?_, fun proTxHash => (right.hashes proTxHash).trans (left.hashes proTxHash),
    right.count.trans left.count, right.nHeight.trans left.nHeight⟩
  intro proTxHash dmn found
  obtain ⟨middle, foundMiddle, same⟩ := left.states proTxHash dmn found
  obtain ⟨last, foundLast, again⟩ := right.states proTxHash middle foundMiddle
  exact ⟨last, foundLast, same.trans again⟩

section Quiet

variable {crypto : Crypto} {nHeight : Int32} {txs : List CTransaction} {list : CDeterministicMNList}

theorem updateMNByHash_eq {proTxHash : Uint256} {dmn : CDeterministicMN}
    (found : list.getMN proTxHash = some dmn) (new : CDeterministicMNState) :
    list.updateMNByHash proTxHash new = list.updateMN dmn new := by
  unfold updateMNByHash
  rw [found]

/-- A new state with the same unique properties always goes through. -/
theorem updateMNByHash_quiet (kept : list.WellKept) {proTxHash : Uint256} {dmn : CDeterministicMN}
    (found : list.getMN proTxHash = some dmn) {new : CDeterministicMNState}
    (same : SameProperties dmn.pdmnState new) :
    ∃ index, list.updateMNByHash proTxHash new = .ok (list.withState dmn new index)
      ∧ ListStep crypto nHeight txs list (list.withState dmn new index)
      ∧ Quiet list (list.withState dmn new index) := by
  obtain rfl := kept.keyed proTxHash dmn found
  have owner : new.keyIDOwner ≠ 0 := same.owner ▸ (kept.proper _ _ found).owner
  obtain ⟨index, runs, keptNext⟩ := updateMN_eq kept found owner
    ⟨absurd same.addr, absurd same.owner, absurd same.operator⟩
  refine ⟨index, (updateMNByHash_eq found new).trans runs,
    .state found same.owner same.readable keptNext, ?_, ?_, ?_, rfl⟩
  · intro other otherDmn foundOther
    rw [getMN_withState]
    by_cases isNew : other = dmn.proTxHash
    · rw [isNew, found] at foundOther
      obtain rfl := Option.some.inj foundOther
      exact ⟨_, if_pos isNew, same⟩
    · exact ⟨otherDmn, by rw [if_neg isNew]; exact foundOther, .refl _⟩
  · intro other
    unfold hasMN
    rw [getMN_withState]
    by_cases isNew : other = dmn.proTxHash
    · rw [if_pos isNew, isNew, found]
      rfl
    · rw [if_neg isNew]
  · exact getAllMNsCount_withState found new index

/-! ## Before the transactions -/

theorem asserted_eq_ok {α : Type} {outcome : Except String α} {value : α} :
    asserted outcome = .ok value ↔ outcome = .ok value :=
  mapError_eq_ok

theorem confirm_loop (params : SmartnodeParams) (digests : Digests) (prevHeight : Int32)
    (prevHash : Uint256) (kept : list.WellKept) :
    ∃ next, list.mns.foldlM (confirmMN params digests prevHeight prevHash) list = .ok next
      ∧ ListSteps crypto nHeight txs list next ∧ Quiet list next := by
  refine Ends.total_iff.mp (Ends.foldlM (fun dmn member middle reached => ?_) ⟨.refl, .refl list⟩)
  unfold confirmMN
  split
  · exact reached
  · split
    · obtain ⟨proTxHash, listed⟩ := mem_mns.mp member
      obtain rfl := kept.keyed proTxHash dmn listed
      obtain ⟨other, found, same⟩ := reached.2.states _ dmn listed
      have confirmedSame : SameProperties other.pdmnState
          (dmn.pdmnState.updateConfirmedHash digests dmn.proTxHash prevHash) :=
        same.symm.trans ⟨rfl, rfl, rfl, rfl, rfl⟩
      obtain ⟨index, runs, step, quiet⟩ := updateMNByHash_quiet (reached.1.wellKept kept) found confirmedSame
      exact .of_ok (asserted_eq_ok.mpr runs) ⟨reached.1.tail step, reached.2.trans quiet⟩
    · exact reached

def Decreasable (list : CDeterministicMNList) (proTxHash : Uint256) : Prop :=
  ∃ dmn, list.getMN proTxHash = some dmn ∧ dmn.pdmnState.nPoSePenalty > 0 ∧ dmn.pdmnState.nPoSeBanHeight = -1

/-- The loop of `DecreasePoSePenalties` comes to its end: a round changes nobody else. -/
theorem decrease_loop {items : List Uint256} (distinct : items.Nodup) {list : CDeterministicMNList}
    (kept : list.WellKept) (decreasable : ∀ proTxHash ∈ items, Decreasable list proTxHash) :
    ∃ next, items.foldlM (fun mnList proTxHash => asserted (mnList.poSeDecrease proTxHash)) list
        = .ok next
      ∧ ListSteps crypto nHeight txs list next ∧ Quiet list next := by
  induction items generalizing list with
  | nil => exact ⟨list, rfl, .refl, .refl list⟩
  | cons head tail ih =>
    obtain ⟨notAgain, distinctTail⟩ := List.nodup_cons.mp distinct
    obtain ⟨dmn, found, penalty, notBanned⟩ := decreasable head List.mem_cons_self
    have same : SameProperties dmn.pdmnState (decreased dmn.pdmnState) := ⟨rfl, rfl, rfl, rfl, rfl⟩
    obtain ⟨index, runs, step, quiet⟩ := updateMNByHash_quiet kept found same
    have isHead := kept.keyed head dmn found
    obtain ⟨next, rest, laterSteps, quietNext⟩ := ih distinctTail step.wellKept (by
      intro proTxHash member
      obtain ⟨other, foundOther, rest⟩ := decreasable proTxHash (List.mem_cons_of_mem head member)
      have differs : proTxHash ≠ dmn.proTxHash := fun same => notAgain (isHead ▸ same ▸ member)
      exact ⟨other, by rw [getMN_withState, if_neg differs]; exact foundOther, rest⟩)
    refine ⟨next, ?_, .head step laterSteps, quiet.trans quietNext⟩
    have first : list.poSeDecrease head
        = .ok (list.withState dmn (decreased dmn.pdmnState) index) := by
      unfold poSeDecrease
      rw [found]
      exact (if_pos ⟨penalty, notBanned⟩).trans runs
    rw [List.foldlM_cons, asserted_eq_ok.mpr first]
    exact rest

theorem toDecrease_decreasable (collaterals : SmartnodeCollaterals) (kept : list.WellKept)
    {proTxHash : Uint256} (member : proTxHash ∈ toDecrease collaterals list) :
    Decreasable list proTxHash := by
  obtain ⟨dmn, chosen, rfl⟩ := List.mem_map.mp member
  obtain ⟨valid, penalized⟩ := List.mem_filter.mp chosen
  obtain ⟨other, found⟩ := mem_mns.mp (List.mem_filter.mp valid).1
  obtain rfl := kept.keyed other dmn found
  exact ⟨dmn, found, of_decide_eq_true penalized⟩

theorem mns_hashes_nodup (kept : list.WellKept) : (list.mns.map (·.proTxHash)).Nodup := by
  have hashes : list.mns.map (·.proTxHash) = list.mnMap.toList.map Prod.fst := by
    unfold mns
    rw [List.map_map]
    refine List.map_congr_left fun entry member => ?_
    exact kept.keyed entry.1 entry.2 (Std.TreeMap.mem_toList_iff_getElem?_eq_some.mp member)
  rw [hashes]
  exact List.pairwise_map.mpr (pairwise_ne_toList list.mnMap)

theorem beforeTransactions_total (params : SmartnodeParams) (digests : Digests) (node : NodeView)
    {oldList : CDeterministicMNList} (kept : oldList.WellKept) :
    ∃ start, beforeTransactions params digests node nHeight oldList = .ok start
      ∧ ListSteps crypto nHeight txs (renewed oldList nHeight) start
      ∧ Quiet (renewed oldList nHeight) start := by
  have keptBase : (renewed oldList nHeight).WellKept := kept.relabel
  obtain ⟨middle, confirms, (steps : ListSteps crypto nHeight txs _ _), quiet⟩ :=
    confirm_loop params digests node.prevHeight node.prevHash keptBase
  have keptMiddle := steps.wellKept keptBase
  have distinct : (toDecrease params.nCollaterals middle).Nodup := by
    unfold toDecrease validMNs
    rw [List.filter_filter]
    exact (mns_hashes_nodup keptMiddle).sublist (List.filter_sublist.map _)
  obtain ⟨last, decreases, laterSteps, laterQuiet⟩ := decrease_loop distinct keptMiddle
    (fun _ => toDecrease_decreasable params.nCollaterals keptMiddle)
  unfold beforeTransactions
  rw [show oldList.mns = (renewed oldList nHeight).mns from rfl, confirms]
  by_cases decrease : isDecrease node.spork21 nHeight = true
  · exact ⟨last, (if_pos decrease).trans decreases, steps.trans laterSteps, quiet.trans laterQuiet⟩
  · exact ⟨middle, if_neg decrease, steps, quiet⟩

end Quiet

/-! ## The transactions -/

section Transactions

variable {params : SmartnodeParams} {crypto : Crypto} {node : NodeView} {nHeight : Int32}
  {txs : List CTransaction} {list next : CDeterministicMNList} {tx : CTransaction}

variable {proTxHash : Uint256} {state : CDeterministicMNState} {memory : LLMQMemory}
  {result : CDeterministicMNList × LLMQMemory}

theorem updateMNByHash_step (kept : list.WellKept) {dmn : CDeterministicMN}
    (found : list.getMN proTxHash = some dmn) {new : CDeterministicMNState}
    (owner : new.keyIDOwner = dmn.pdmnState.keyIDOwner) (scripts : dmn.pdmnState.Readable → new.Readable)
    (updated : list.updateMNByHash proTxHash new = .ok next) :
    ListStep crypto nHeight txs list next := by
  obtain rfl := kept.keyed proTxHash dmn found
  rw [updateMNByHash_eq found] at updated
  obtain ⟨-, index, rfl, keptNext⟩ := updateMN_ok kept found owner updated
  exact .state found owner scripts keptNext

theorem smartnodeOf_eq_ok {dmn : CDeterministicMN} :
    smartnodeOf list proTxHash = .ok dmn ↔ list.getMN proTxHash = some dmn := by
  unfold smartnodeOf
  cases list.getMN proTxHash with
  | none => simp [refused]
  | some found => simp

theorem servedState_owner (state : CDeterministicMNState) (proTx : CProUpServTx) (nHeight : Int32) :
    (servedState state proTx nHeight).keyIDOwner = state.keyIDOwner := by
  unfold servedState
  dsimp only
  split <;> rfl

theorem banIfNotBanned_properties (state : CDeterministicMNState) (height : Int32) :
    SameProperties state (state.banIfNotBanned height) := by
  unfold CDeterministicMNState.banIfNotBanned
  split <;> exact ⟨rfl, rfl, rfl, rfl, rfl⟩

theorem registrarState_owner (state : CDeterministicMNState) (proTx : CProUpRegTx) (nHeight : Int32) :
    (registrarState state proTx nHeight).keyIDOwner = state.keyIDOwner := by
  unfold registrarState
  split
  · exact (banIfNotBanned_properties state.resetOperatorFields nHeight).owner
  · rfl

theorem payloadOf_eq_ok {α : Type} {read : Decoder α} {proTx : α} :
    payloadOf read tx = .ok proTx ↔ getTxPayload read tx = some proTx :=
  required_eq_ok

theorem servedState_readable {proTx : CProUpServTx} (nHeight : Int32)
    (script : proTx.scriptOperatorPayout.length ≤ maxSize) (readable : state.Readable) :
    (servedState state proTx nHeight).Readable := by
  unfold servedState
  dsimp only
  split <;> exact ⟨readable.payout, script⟩

theorem resetState_readable (nHeight : Int32) (readable : state.Readable) :
    (state.resetOperatorFields.banIfNotBanned nHeight).Readable :=
  (banIfNotBanned_properties state.resetOperatorFields nHeight).readable ⟨readable.payout, Nat.zero_le _⟩

theorem registrarState_readable {proTx : CProUpRegTx} (nHeight : Int32)
    (script : proTx.scriptPayout.length ≤ maxSize) (readable : state.Readable) :
    (registrarState state proTx nHeight).Readable := by
  have reset := resetState_readable nHeight readable
  unfold registrarState
  split
  · exact ⟨script, reset.operatorPayout⟩
  · exact ⟨script, readable.operatorPayout⟩

theorem updateService_step (kept : list.WellKept) (updated : updateService crypto nHeight list tx = .ok next) :
    ListStep crypto nHeight txs list next := by
  obtain ⟨proTx, payload, rest⟩ := bind_eq_ok.mp updated
  obtain ⟨-, -, rest⟩ := bind_eq_ok.mp rest
  obtain ⟨dmn, found, rest⟩ := bind_eq_ok.mp rest
  exact updateMNByHash_step kept (smartnodeOf_eq_ok.mp found)
    (servedState_owner dmn.pdmnState proTx nHeight)
    (servedState_readable nHeight (getTxPayload_yields (readProUpServTx_script crypto.points)
      (payloadOf_eq_ok.mp payload))) (asserted_eq_ok.mp rest)

theorem updateRegistrar_step (kept : list.WellKept)
    (updated : updateRegistrar crypto nHeight list tx = .ok next) :
    ListStep crypto nHeight txs list next := by
  obtain ⟨proTx, payload, rest⟩ := bind_eq_ok.mp updated
  obtain ⟨dmn, found, rest⟩ := bind_eq_ok.mp rest
  exact updateMNByHash_step kept (smartnodeOf_eq_ok.mp found)
    (registrarState_owner dmn.pdmnState proTx nHeight)
    (registrarState_readable nHeight (getTxPayload_yields (readProUpRegTx_script crypto.points)
      (payloadOf_eq_ok.mp payload))) (asserted_eq_ok.mp rest)

theorem revokeOperator_step (kept : list.WellKept)
    (updated : revokeOperator crypto nHeight list tx = .ok next) :
    ListStep crypto nHeight txs list next := by
  obtain ⟨proTx, -, rest⟩ := bind_eq_ok.mp updated
  obtain ⟨dmn, found, rest⟩ := bind_eq_ok.mp rest
  refine updateMNByHash_step kept (smartnodeOf_eq_ok.mp found) ?_ ?_ (asserted_eq_ok.mp rest)
  · exact (banIfNotBanned_properties dmn.pdmnState.resetOperatorFields nHeight).owner
  · intro readable
    have reset := resetState_readable nHeight readable
    exact ⟨reset.payout, reset.operatorPayout⟩

theorem removeReplaced_steps (kept : list.WellKept) {collateralOutpoint : COutPoint} {count : Uint32}
    (removed : removeReplaced { list with nTotalRegisteredCount := count } collateralOutpoint = .ok next) :
    ∃ base, next = { base with nTotalRegisteredCount := count }
      ∧ ListSteps crypto nHeight txs list base
      ∧ base.nTotalRegisteredCount = list.nTotalRegisteredCount := by
  unfold removeReplaced at removed
  split at removed
  · cases removed
    exact ⟨list, rfl, .refl, rfl⟩
  · obtain ⟨dmn, index, found, same, rfl, keptNext⟩ := removeMN_ok kept.relabel (asserted_eq_ok.mp removed)
    exact ⟨list.withoutMN dmn index, rfl, .single (.remove (same ▸ found) keptNext.relabel), rfl⟩

/-- What a registration that succeeds does: the replaced smartnode goes, and the new one
gets the next internal id. -/
theorem registerMN_ok (txs : List CTransaction) (kept : list.WellKept)
    (done : registerMN params crypto node nHeight list tx = .ok next) :
    ∃ base proTx nCollateralAmount index, ListSteps crypto nHeight txs list base
      ∧ base.nTotalRegisteredCount = list.nTotalRegisteredCount
      ∧ getTxPayload (readProRegTx crypto.points) tx = some proTx
      ∧ base.getMN (tx.getHash crypto.digests) = none
      ∧ next = ({ base with nTotalRegisteredCount := base.nTotalRegisteredCount + 1 } :
        CDeterministicMNList).withMN (registered crypto.digests tx proTx base.nTotalRegisteredCount
          nHeight nCollateralAmount) index
      ∧ next.WellKept := by
  obtain ⟨proTx, payload, rest⟩ := bind_eq_ok.mp done
  obtain ⟨-, -, rest⟩ := bind_eq_ok.mp rest
  obtain ⟨middle, replaced, rest⟩ := bind_eq_ok.mp rest
  obtain ⟨-, -, rest⟩ := bind_eq_ok.mp rest
  obtain ⟨-, -, rest⟩ := bind_eq_ok.mp rest
  obtain ⟨nCollateralAmount, -, added⟩ := bind_eq_ok.mp rest
  obtain ⟨base, isMiddle, (steps : ListSteps crypto nHeight txs list base), sameCount⟩ :=
    removeReplaced_steps kept replaced
  subst isMiddle
  obtain ⟨-, absent, index, rfl, keptNext⟩ := addMN_ok (steps.wellKept kept).relabel (asserted_eq_ok.mp added)
  rw [← sameCount] at keptNext ⊢
  exact ⟨base, proTx, nCollateralAmount, index, steps, rfl, payloadOf_eq_ok.mp payload, absent, rfl, keptNext⟩

/-! ## Quorum commitments -/

theorem punished_properties (list : CDeterministicMNList) (state : CDeterministicMNState)
    (penalty : Int32) : SameProperties state (list.punished state penalty) :=
  ⟨rfl, rfl, rfl, rfl, rfl⟩

/-- A round of `HandleQuorumCommitment` that is neither out of range nor punishes with
nothing goes through. -/
theorem punishMember_quiet (kept : list.WellKept) {commitment : CFinalCommitment}
    {member : CDeterministicMN × Nat} (fits : list.hasMN member.1.proTxHash = true → ∃ valid,
      commitment.validMembers[member.2]? = some valid ∧ (valid = false → list.calcPenalty 66 > 0)) :
    ∃ next, punishMember commitment list member = .ok next
      ∧ ListSteps crypto nHeight txs list next ∧ Quiet list next := by
  unfold punishMember
  cases present : list.hasMN member.1.proTxHash with
  | false => exact ⟨list, rfl, .refl, .refl list⟩
  | true =>
    obtain ⟨valid, bit, positive⟩ := fits present
    rw [bit]
    cases valid with
    | true => exact ⟨list, rfl, .refl, .refl list⟩
    | false =>
      obtain ⟨dmn, found⟩ := Option.isSome_iff_exists.mp present
      obtain ⟨index, runs, step, quiet⟩ := updateMNByHash_quiet kept found
        (punished_properties list dmn.pdmnState (list.calcPenalty 66))
      refine ⟨_, asserted_eq_ok.mpr ?_, .single step, quiet⟩
      unfold poSePunish
      rw [if_neg (by simpa using positive rfl), found]
      exact runs

theorem punishMember_steps (kept : list.WellKept) {commitment : CFinalCommitment}
    {member : CDeterministicMN × Nat} (done : punishMember commitment list member = .ok next) :
    ListSteps crypto nHeight txs list next := by
  unfold punishMember at done
  split at done
  · cases done
    exact .refl
  · split at done
    · cases done
    · cases done
      exact .refl
    · have punished := asserted_eq_ok.mp done
      unfold poSePunish at punished
      split at punished
      · cases punished
      · split at punished
        · cases punished
        · rename_i found
          have same := punished_properties list
          exact .single (updateMNByHash_step kept found (same _ _).owner (same _ _).readable punished)

theorem withMemory_eq_ok {α : Type} {outcome : Except Failure α} {result : α × LLMQMemory} :
    withMemory memory outcome = .ok result ↔ outcome = .ok result.1 ∧ memory = result.2 := by
  cases outcome with
  | error failed => simp [withMemory]
  | ok value => simp [withMemory, Prod.ext_iff]

/-- A commitment does nothing, or it punishes members of its quorum. -/
theorem applyCommitment_ok (done : applyCommitment params crypto node list memory tx = .ok result) :
    result = (list, memory) ∨ ∃ commitment hash members,
      List.foldlM (punishMember commitment) list members = .ok result.1
      ∧ (getAllQuorumMembers params crypto.digests node memory commitment.llmqType hash).2 = result.2 := by
  unfold applyCommitment at done
  split at done
  · cases done
  · split at done
    · cases done
      exact .inl rfl
    · split at done
      · cases done
      · dsimp only at done
        split at done
        · cases done
        · unfold handleQuorumCommitment at done
          split at done
          · cases done
          · rename_i isMembers
            obtain ⟨runs, later⟩ := withMemory_eq_ok.mp done
            exact .inr ⟨_, _, _, runs, (congrArg Prod.snd isMembers).trans later⟩

/-! ## The block -/

variable {state : CDeterministicMNList × LLMQMemory}

/-- A transaction registers a smartnode, or it takes steps of the other two kinds. Only a
commitment changes the memory. -/
theorem processTx_ok (txs : List CTransaction) (kept : state.1.WellKept)
    (done : processTx params crypto node nHeight state tx = .ok result) :
    (registerMN params crypto node nHeight state.1 tx = .ok result.1
        ∨ ListSteps crypto nHeight txs state.1 result.1)
      ∧ (state.2 = result.2 ∨ applyCommitment params crypto node state.1 state.2 tx = .ok result) := by
  have alone : ∀ {outcome : Except Failure CDeterministicMNList}, withMemory state.2 outcome = .ok result →
      outcome = .ok result.1 ∧ state.2 = result.2 := withMemory_eq_ok.mp
  unfold processTx at done
  dsimp only at done
  split at done
  · cases done
    exact ⟨.inr .refl, .inl rfl⟩
  · split at done
    · exact (alone done).imp .inl .inl
    · split at done
      · exact (alone done).imp (fun run => .inr (.single (updateService_step kept run))) .inl
      · split at done
        · exact (alone done).imp (fun run => .inr (.single (updateRegistrar_step kept run))) .inl
        · split at done
          · exact (alone done).imp (fun run => .inr (.single (revokeOperator_step kept run))) .inl
          · split at done
            · refine ⟨.inr ?_, .inr done⟩
              obtain rfl | ⟨_, _, _, runs, -⟩ := applyCommitment_ok done
              · exact .refl
              · exact foldlM_invariant _ (fun _ _ _ _ reached run =>
                  reached.trans (punishMember_steps (reached.wellKept kept) run)) .refl runs
            · cases done
              exact ⟨.inr .refl, .inl rfl⟩

theorem processTx_steps (kept : state.1.WellKept) (member : tx ∈ txs)
    (done : processTx params crypto node nHeight state tx = .ok result) :
    ListSteps crypto nHeight txs state.1 result.1 := by
  rcases (processTx_ok txs kept done).1 with registers | steps
  · obtain ⟨_, _, _, _, steps, -, payload, absent, isNext, keptNext⟩ := registerMN_ok txs kept registers
    rw [isNext] at keptNext ⊢
    exact steps.tail (.register member payload absent keptNext)
  · exact steps

theorem transactions_steps (kept : state.1.WellKept)
    (done : txs.foldlM (processTx params crypto node nHeight) state = .ok result) :
    ListSteps crypto nHeight txs state.1 result.1 := by
  exact foldlM_invariant (fun middle => ListSteps crypto nHeight txs state.1 middle.1)
    (fun middle tx following member reached run =>
      reached.trans (processTx_steps (reached.wellKept kept) member run)) .refl done

theorem removeSpent_total (kept : list.WellKept) (prevout : COutPoint) :
    Ends (fun _ => False) (ListSteps crypto nHeight txs list) (removeSpent list prevout) := by
  unfold removeSpent
  cases found : list.getMNByCollateral prevout with
  | none => exact .refl
  | some dmn =>
    dsimp only
    split
    · have listed := (kept.getUniquePropertyMN_eq_some.mp found).1
      obtain ⟨index, removes, keptNext⟩ := removeMN_eq kept listed
      exact .of_ok (asserted_eq_ok.mpr removes) (.single (.remove listed keptNext))
    · exact .refl

theorem markPaid_total (kept : list.WellKept) (payee : Option CDeterministicMN) :
    Ends (fun _ => False) (ListSteps crypto nHeight txs list) (markPaid nHeight payee list) := by
  unfold markPaid
  cases payee with
  | none => exact .refl
  | some payee =>
    dsimp only
    cases found : list.getMN payee.proTxHash with
    | none => exact .refl
    | some dmn =>
      obtain ⟨index, runs, step, -⟩ := updateMNByHash_quiet kept found
        (show SameProperties _ (paidState _ nHeight) from ⟨rfl, rfl, rfl, rfl, rfl⟩)
      exact .of_ok (asserted_eq_ok.mpr runs) (.single step)

theorem afterTransactions_total (kept : list.WellKept) (payee : Option CDeterministicMN)
    (vtx : List CTransaction) :
    ∃ next, afterTransactions nHeight payee vtx list = .ok next ∧ ListSteps crypto nHeight txs list next := by
  have spends : Ends (fun _ => False) (ListSteps crypto nHeight txs list)
      ((spentOutpoints vtx).foldlM removeSpent list) :=
    .foldlM (fun prevout _ _ steps =>
      (removeSpent_total (steps.wellKept kept) prevout).mono fun _ => steps.trans) .refl
  exact Ends.total_iff.mp (spends.bind fun _ steps =>
    (markPaid_total (steps.wellKept kept) payee).mono fun _ => steps.trans)

theorem buildNewListFromBlock_ok (txs : List CTransaction) {block : CBlock}
    (kept : (node.lists node.prevHash).WellKept)
    (done : buildNewListFromBlock params crypto node memory block = .ok result) :
    ∃ start middle, ListSteps crypto (node.prevHeight + 1) txs
        (renewed (node.lists node.prevHash) (node.prevHeight + 1)) start.1
      ∧ block.vtx.tail.foldlM (processTx params crypto node (node.prevHeight + 1)) start = .ok middle
      ∧ (middle.1.WellKept → ListSteps crypto (node.prevHeight + 1) txs middle.1 result.1) := by
  obtain ⟨start, before, rest⟩ := bind_eq_ok.mp done
  obtain ⟨middle, transactions, rest⟩ := bind_eq_ok.mp rest
  obtain ⟨last, after, rest⟩ := bind_eq_ok.mp rest
  obtain rfl := Except.ok.inj rest
  obtain ⟨first, runs, (steps : ListSteps crypto (node.prevHeight + 1) txs _ _), -⟩ :=
    beforeTransactions_total params crypto.digests node kept
  have isFirst := (withMemory_eq_ok.mp before).1
  rw [show beforeTransactions params crypto.digests node (node.prevHeight + 1)
    (node.lists node.prevHash) = .ok first from runs] at isFirst
  rw [Except.ok.inj isFirst] at steps
  refine ⟨start, middle, steps, transactions, fun keptMiddle => ?_⟩
  obtain ⟨next, ends, steps⟩ := afterTransactions_total keptMiddle
    ((node.lists node.prevHash).getMNPayee params.nCollaterals) block.vtx.tail
  rwa [Except.ok.inj (ends.symm.trans (withMemory_eq_ok.mp after).1)] at steps

/-- The list after a block comes from the one before by steps of the three kinds. -/
theorem buildNewListFromBlock_steps {block : CBlock} (kept : (node.lists node.prevHash).WellKept)
    (done : buildNewListFromBlock params crypto node memory block = .ok result) :
    ListSteps crypto (node.prevHeight + 1) block.vtx.tail
      (renewed (node.lists node.prevHash) (node.prevHeight + 1)) result.1 := by
  obtain ⟨start, middle, steps, transactions, after⟩ := buildNewListFromBlock_ok block.vtx.tail kept done
  have keptStart := steps.wellKept kept.relabel
  have middleSteps := transactions_steps keptStart transactions
  exact steps.trans (middleSteps.trans (after (middleSteps.wellKept keptStart)))

theorem buildNewListFromBlock_wellKept {block : CBlock} (kept : (node.lists node.prevHash).WellKept)
    (done : buildNewListFromBlock params crypto node memory block = .ok result) : result.1.WellKept :=
  (buildNewListFromBlock_steps kept done).wellKept kept.relabel

end Transactions

end BlackRaven.Evo
