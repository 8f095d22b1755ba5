import BlackRaven.Evo.ListSteps

/-!
Contract: when `BuildNewListFromBlock` comes to a verdict.

Owns: what `CheckSpecialTx` leaves to the list, the condition under which no transaction
of a block runs into an assertion, and the lists a chain can reach.

The ids of transactions are taken to commit to their payloads.
-/

namespace BlackRaven.Evo

open Consensus Lib Primitives
open CDeterministicMNList

/-! ## What a passed check says -/

section Checks

variable {params : SmartnodeParams} {crypto : Crypto} {node : NodeView} {memory : LLMQMemory}
  {tx : CTransaction}

/-- A special transaction that passes is one the chain knows at this height. -/
theorem checkSpecialTx_special (version : tx.nVersion = 3) (special : tx.nType ≠ transactionNormal)
    (passes : (checkSpecialTx params crypto node memory tx).1 = .ok ()) :
    ¬ (node.prevHeight + 1).toInt < params.dip0003Height := by
  unfold checkSpecialTx at passes
  rw [if_neg (by simp [isSpecial, version, special])] at passes
  intro early
  rw [if_pos early] at passes
  cases passes

theorem checkAgainstList_ok {α : Type} {first : Except Failure α}
    {second : α → CDeterministicMNList → Except Failure Unit}
    (passes : (checkAgainstList params node memory first second).1 = .ok ()) :
    ∃ found, first = .ok found := by
  cases first with
  | error failed => cases passes
  | ok found => exact ⟨found, rfl⟩

theorem checkProRegPayload_ok {ptx : CProRegTx} (passes : checkProRegPayload params crypto node tx = .ok ptx) :
    getTxPayload (readProRegTx crypto.points) tx = some ptx ∧ ptx.keyIDOwner ≠ 0 := by
  unfold checkProRegPayload at passes
  simp only [refused, ite_error_eq_ok] at passes
  obtain ⟨-, passes⟩ := passes
  split at passes
  · cases passes
  · rename_i found payload
    simp only [ite_error_eq_ok, not_or] at passes
    obtain ⟨-, -, -, ⟨owner, -⟩, -, passes⟩ := passes
    split at passes
    · cases passes
    · rw [ite_error_eq_ok] at passes
      obtain ⟨-, -, last⟩ := bind_eq_ok.mp passes.2
      rw [ite_error_eq_ok] at last
      cases last.2
      exact ⟨payload, owner⟩

/-- The output a registration names as its own collateral is there. -/
theorem checkProRegCollateral_ok {ptx : CProRegTx} {found : COutPoint × CTxDestination × Option Bytes}
    (passes : checkProRegCollateral params crypto node tx ptx = .ok found)
    (inside : ptx.collateralOutpoint.hash = 0) :
    ∃ out, tx.vout[ptx.collateralOutpoint.n.toNat]? = some out := by
  unfold checkProRegCollateral at passes
  rw [if_neg (not_not_intro inside)] at passes
  split at passes
  · cases passes
  · rename_i out present
    exact ⟨out, present⟩

/-- What `CheckSpecialTx` leaves to `BuildNewListFromBlock`: the payload can be read, a
registration names an owner and an output it has, and the type of a quorum is known. -/
structure LeftToTheList (crypto : Crypto) (llmqs : LLMQs) (tx : CTransaction) : Prop where
  register : tx.nType = transactionProviderRegister →
    ∃ proTx, getTxPayload (readProRegTx crypto.points) tx = some proTx ∧ proTx.keyIDOwner ≠ 0
      ∧ (proTx.collateralOutpoint.hash = 0 → ∃ out, tx.vout[proTx.collateralOutpoint.n.toNat]? = some out)
  service : tx.nType = transactionProviderUpdateService →
    ∃ proTx, getTxPayload (readProUpServTx crypto.points) tx = some proTx
  registrar : tx.nType = transactionProviderUpdateRegistrar →
    ∃ proTx, getTxPayload (readProUpRegTx crypto.points) tx = some proTx
  revoke : tx.nType = transactionProviderUpdateRevoke →
    ∃ proTx, getTxPayload (readProUpRevTx crypto.points) tx = some proTx
  commitment : tx.nType = transactionQuorumCommitment →
    ∃ qc, getTxPayload (readFinalCommitmentTxPayload crypto.points) tx = some qc
      ∧ (llmqs.find qc.commitment.llmqType).isSome

theorem leftToTheList (version : tx.nVersion = 3)
    (passes : (checkSpecialTx params crypto node memory tx).1 = .ok ()) :
    LeftToTheList crypto memory.llmqs tx := by
  have reaches : tx.nType ≠ transactionNormal → checkSpecialTx params crypto node memory tx = _ :=
    fun special => by
      unfold checkSpecialTx
      rw [if_neg (by simp [isSpecial, version, special]),
        if_neg (checkSpecialTx_special version special passes)]
  refine ⟨?_, ?service, ?registrar, ?revoke, ?_⟩
  case service | registrar | revoke =>
    intro type
    rw [reaches (by rw [type]; decide), type] at passes
    obtain ⟨found, first⟩ := checkAgainstList_ok passes
    simp only [checkProUpServPayload, checkProUpRegPayload, checkProUpRevPayload, refused,
      ite_error_eq_ok] at first
    obtain ⟨-, first⟩ := first
    split at first
    · cases first
    · rename_i ptx payload
      exact ⟨ptx, payload⟩
  · intro type
    rw [reaches (by rw [type]; decide), if_pos type] at passes
    obtain ⟨found, first⟩ := checkAgainstList_ok passes
    obtain ⟨ptx, payload, rest⟩ := bind_eq_ok.mp first
    obtain ⟨collateral, checked, -⟩ := bind_eq_ok.mp rest
    obtain ⟨read, owner⟩ := checkProRegPayload_ok payload
    exact ⟨ptx, read, owner, checkProRegCollateral_ok checked⟩
  · intro type
    rw [reaches (by rw [type]; decide), type, if_neg (by decide), if_neg (by decide),
      if_neg (by decide), if_neg (by decide), if_neg (by decide), if_pos rfl] at passes
    unfold checkLLMQCommitment at passes
    split at passes
    · cases passes
    · rename_i qc payload
      refine ⟨qc, payload, ?_⟩
      by_contra unknown
      have absent : (memory.llmqs.find qc.commitment.llmqType).isNone = true :=
        Option.isNone_iff_eq_none.mpr (Option.not_isSome_iff_eq_none.mp unknown)
      split at passes
      · cases passes
      · split at passes
        · cases passes
        · split at passes
          · cases passes
          · simp [refused] at passes

end Checks

/-! ## Parameters stay known -/

/-- A memory the process can come to from an earlier one. -/
inductive Later (params : SmartnodeParams) (earlier : LLMQMemory) : LLMQMemory → Prop
  | refl : Later params earlier earlier
  | update {memory : LLMQMemory} (later : Later params earlier memory) (totalMnCount : Nat)
      (height : Int32) (lowLLMQParams : Bool) :
      Later params earlier (updateLLMQParams params memory totalMnCount height lowLLMQParams)

theorem Later.trans {params : SmartnodeParams} {first second third : LLMQMemory}
    (left : Later params first second) (right : Later params second third) :
    Later params first third := by
  induction right with
  | refl => exact left
  | update _ totalMnCount height lowLLMQParams ih =>
    exact .update ih totalMnCount height lowLLMQParams

theorem LLMQs.find_isSome {llmqs : LLMQs} {llmqType : BitVec 8}
    (known : (llmqs.find llmqType).isSome) (networkID : NetworkID) (totalMnCount : Nat) (lowLLMQParams : Bool) :
    ((llmqsFor networkID totalMnCount lowLLMQParams).find llmqType).isSome := by
  have full : ∀ (llmqs : LLMQs), llmqs.LLMQ_50_60.isSome → llmqs.LLMQ_400_60.isSome →
      llmqs.LLMQ_400_85.isSome → llmqType = 1 ∨ llmqType = 2 ∨ llmqType = 3 →
      (llmqs.find llmqType).isSome := by
    rintro llmqs first second third (rfl | rfl | rfl)
    · exact first
    · exact second
    · exact third
  refine full _ ?_ ?_ ?_ ?_
  rotate_right
  · unfold LLMQs.find at known
    by_contra other
    simp only [not_or] at other
    rw [if_neg other.1, if_neg other.2.1, if_neg other.2.2] at known
    cases known
  all_goals
    unfold llmqsFor
    repeat' split
    all_goals rfl

theorem Later.find_isSome {params : SmartnodeParams} {earlier memory : LLMQMemory}
    {llmqType : BitVec 8} (later : Later params earlier memory)
    (known : (earlier.llmqs.find llmqType).isSome) : (memory.llmqs.find llmqType).isSome := by
  induction later with
  | refl => exact known
  | update _ totalMnCount height lowLLMQParams ih =>
    unfold updateLLMQParams
    split
    · exact LLMQs.find_isSome ih _ _ _
    · exact ih

/-! ## The condition -/

/-- An outcome that is a verdict on the block: the block is accepted or rejected. -/
def Verdict (failed : Failure) : Prop := ∃ reject, failed = .invalid reject

/-- The bit of a member that is still listed is there, and a member to punish gets a
penalty. -/
def Fits (commitment : CFinalCommitment) (list : CDeterministicMNList)
    (member : CDeterministicMN × Nat) : Prop :=
  list.hasMN member.1.proTxHash = true → ∃ valid,
    commitment.validMembers[member.2]? = some valid ∧ (valid = false → list.calcPenalty 66 > 0)

/-- What a transaction must not find in the list it meets. -/
structure TxSafe (params : SmartnodeParams) (crypto : Crypto) (node : NodeView)
    (state : CDeterministicMNList × LLMQMemory) (tx : CTransaction) : Prop where
  /-- Nobody else has the operator key that an update of the registrar sets. -/
  registrar : tx.nType = transactionProviderUpdateRegistrar → ∀ proTx,
    getTxPayload (readProUpRegTx crypto.points) tx = some proTx →
    state.1.hasMN proTx.proTxHash = true →
    ∀ holder, state.1.Holds holder (.pubKeyOperator proTx.pubKeyOperator) → holder = proTx.proTxHash
  /-- The bits of a commitment cover the members of its quorum. -/
  commitment : tx.nType = transactionQuorumCommitment → ∀ qc,
    getTxPayload (readFinalCommitmentTxPayload crypto.points) tx = some qc →
    qc.commitment.isNull = false → ∀ llmqParams,
    state.2.llmqs.find qc.commitment.llmqType = some llmqParams →
    node.branch[qc.nHeight.toNat - qc.nHeight.toNat % llmqParams.dkgInterval]? = some qc.commitment.quorumHash →
    ∀ members memory, getAllQuorumMembers params crypto.digests node state.2 qc.commitment.llmqType
      qc.commitment.quorumHash = (.ok members, memory) →
    ∀ member ∈ members.zipIdx, Fits qc.commitment state.1 member

/-! ## Updates of the registrar -/

section Registrar

variable {crypto : Crypto} {nHeight : Int32} {list : CDeterministicMNList} {tx : CTransaction}

theorem registrarState_addr (state : CDeterministicMNState) (proTx : CProUpRegTx) (nHeight : Int32) :
    (registrarState state proTx nHeight).addr = state.addr
      ∨ (registrarState state proTx nHeight).addr = CService.null := by
  unfold registrarState
  split
  · exact .inr (banIfNotBanned_properties state.resetOperatorFields nHeight).addr
  · exact .inl rfl

/-- An update of a smartnode found under its hash, with nobody in the way. -/
theorem updateMNByHash_ends (kept : list.WellKept) {proTxHash : Uint256} {dmn : CDeterministicMN}
    (found : list.getMN proTxHash = some dmn) {new : CDeterministicMNState}
    (owner : new.keyIDOwner = dmn.pdmnState.keyIDOwner) (free : list.Free dmn.pdmnState new) :
    Ends Verdict (fun _ => True) (asserted (list.updateMNByHash proTxHash new)) := by
  obtain rfl := kept.keyed proTxHash dmn found
  have ownerValid : new.keyIDOwner ≠ 0 := owner ▸ (kept.proper _ _ found).owner
  obtain ⟨index, runs, -⟩ := updateMN_eq kept found ownerValid free
  exact .of_ok (asserted_eq_ok.mpr ((updateMNByHash_eq found new).trans runs)) trivial

/-- An update of the registrar is stopped by an assertion exactly when another smartnode
has its operator key. -/
theorem updateRegistrar_ends_iff (kept : list.WellKept) {proTx : CProUpRegTx}
    (payload : getTxPayload (readProUpRegTx crypto.points) tx = some proTx) :
    Ends Verdict (fun _ => True) (updateRegistrar crypto nHeight list tx) ↔
      (list.hasMN proTx.proTxHash = true → ∀ holder,
        list.Holds holder (.pubKeyOperator proTx.pubKeyOperator) → holder = proTx.proTxHash) := by
  unfold updateRegistrar
  rw [payloadOf_eq_ok.mpr payload]
  simp only [bind, Except.bind]
  cases found : list.getMN proTx.proTxHash with
  | none =>
    have refusedHash : smartnodeOf list proTx.proTxHash = refused 100 "bad-protx-hash" := by
      unfold smartnodeOf
      rw [found]
    rw [refusedHash]
    exact ⟨fun _ absent => by simp [hasMN, found] at absent, fun _ => ⟨_, rfl⟩⟩
  | some dmn =>
    rw [smartnodeOf_eq_ok.mpr found]
    have isHash := kept.keyed _ dmn found
    rw [← isHash] at found ⊢
    have freeAddr : (registrarState dmn.pdmnState proTx nHeight).addr ≠ dmn.pdmnState.addr →
        (registrarState dmn.pdmnState proTx nHeight).addr ≠ CService.null →
        ∀ holder, ¬ list.Holds holder (.addr (registrarState dmn.pdmnState proTx nHeight).addr) := by
      intro changes valid
      rcases registrarState_addr dmn.pdmnState proTx nHeight with same | null
      · exact absurd same changes
      · exact absurd null valid
    have owner := registrarState_owner dmn.pdmnState proTx nHeight
    constructor
    · intro ends _ holder held
      by_contra differs
      have valid : proTx.pubKeyOperator ≠ 0 := by
        obtain ⟨other, -, member⟩ := held
        exact (CDeterministicMN.operator_mem.mp member).2
      have stops := updateMN_taken kept found owner freeAddr valid held differs
      simp only [updateMNByHash_eq found, stops] at ends
      obtain ⟨reject, impossible⟩ := ends
      cases impossible
    · intro free
      have freeOperator : (registrarState dmn.pdmnState proTx nHeight).pubKeyOperator
          ≠ dmn.pdmnState.pubKeyOperator → proTx.pubKeyOperator ≠ 0 →
          ∀ holder, ¬ list.Holds holder (.pubKeyOperator proTx.pubKeyOperator) := by
        intro changes _ holder held
        obtain rfl := free (by simp [hasMN, found]) holder held
        obtain ⟨other, foundOther, member⟩ := held
        obtain rfl := Option.mem_unique found foundOther
        exact changes (CDeterministicMN.operator_mem.mp member).1.symm
      exact updateMNByHash_ends kept found owner ⟨freeAddr, fun changes => absurd owner changes, freeOperator⟩

end Registrar

/-! ## The other provider transactions -/

section Others

variable {params : SmartnodeParams} {crypto : Crypto} {node : NodeView} {nHeight : Int32}
  {list : CDeterministicMNList} {tx : CTransaction}

theorem verdict_dos (nDoS code : Nat) (reason : String) : Verdict (dos nDoS code reason) := ⟨_, rfl⟩

theorem refuseWhen_ends {condition : Prop} [Decidable condition] {failed : Failure}
    (verdict : Verdict failed) : Ends Verdict (fun _ => ¬ condition) (refuseWhen condition failed) :=
  .guard verdict fun passes => passes

/-- Asking for the holder of a property never meets a dangling entry. -/
theorem checkHolder_ends (kept : list.WellKept) {v : UniqueProperty} {may : CDeterministicMN → Bool}
    {failed : Failure} (verdict : Verdict failed) :
    Ends Verdict (fun _ => ∀ dmn, list.getMN dmn.proTxHash = some dmn → v ∈ dmn.uniqueProperties →
      may dmn = true) (checkHolder list v may failed) := by
  unfold checkHolder
  cases holder : list.getUniquePropertyMN v with
  | none =>
    have nobody := kept.getUniquePropertyMN_eq_none.mp holder
    rw [if_neg (by simp [kept.hasUniqueProperty_eq_false.mpr nobody])]
    intro dmn found member
    exact absurd ⟨dmn, found, member⟩ (nobody dmn.proTxHash)
  | some other =>
    obtain ⟨found, member⟩ := kept.getUniquePropertyMN_eq_some.mp holder
    have present : list.hasUniqueProperty v = true := by
      by_contra absent
      exact kept.hasUniqueProperty_eq_false.mp (by simpa using absent) _ ⟨other, found, member⟩
    rw [if_pos present]
    have named : uniquePropertyMN list v = .ok other := required_eq_ok.mpr holder
    rw [named]
    refine (refuseWhen_ends verdict).mono fun _ allowed dmn foundDmn memberDmn => ?_
    have sameHash := kept.unique ⟨dmn, foundDmn, memberDmn⟩ ⟨other, found, member⟩
    rw [sameHash, found] at foundDmn
    rw [← Option.some.inj foundDmn]
    simpa using allowed

theorem smartnodeOf_ends (proTxHash : Uint256) :
    Ends Verdict (fun dmn => list.getMN proTxHash = some dmn) (smartnodeOf list proTxHash) := by
  unfold smartnodeOf
  cases list.getMN proTxHash with
  | none => exact verdict_dos 100 rejectInvalid "bad-protx-hash"
  | some dmn => exact rfl

theorem servedState_properties (state : CDeterministicMNState) (proTx : CProUpServTx) (nHeight : Int32) :
    (servedState state proTx nHeight).addr = proTx.addr
      ∧ (servedState state proTx nHeight).pubKeyOperator = state.pubKeyOperator := by
  unfold servedState
  dsimp only
  split <;> exact ⟨rfl, rfl⟩

theorem updateService_ends (kept : list.WellKept) {proTx : CProUpServTx}
    (payload : getTxPayload (readProUpServTx crypto.points) tx = some proTx) :
    Ends Verdict (fun _ => True) (updateService crypto nHeight list tx) := by
  unfold updateService
  rw [payloadOf_eq_ok.mpr payload]
  refine (checkHolder_ends kept (verdict_dos _ _ _)).bind fun _ mayHave => ?_
  refine (smartnodeOf_ends proTx.proTxHash).bind fun dmn found => ?_
  obtain ⟨addr, operator⟩ := servedState_properties dmn.pdmnState proTx nHeight
  refine updateMNByHash_ends kept found (servedState_owner dmn.pdmnState proTx nHeight) ⟨?_, ?_, ?_⟩
  · intro changes _ holder held
    rw [addr] at changes held
    obtain ⟨other, foundOther, member⟩ := held
    obtain rfl := kept.keyed holder other foundOther
    have isHash : other.proTxHash = proTx.proTxHash := by
      simpa using mayHave other foundOther member
    rw [isHash, found] at foundOther
    obtain rfl := Option.some.inj foundOther
    exact changes (CDeterministicMN.addr_mem.mp member).1.symm
  · exact fun changes => absurd (servedState_owner dmn.pdmnState proTx nHeight) changes
  · exact fun changes => absurd operator changes

theorem revokeOperator_ends (kept : list.WellKept) {proTx : CProUpRevTx}
    (payload : getTxPayload (readProUpRevTx crypto.points) tx = some proTx) :
    Ends Verdict (fun _ => True) (revokeOperator crypto nHeight list tx) := by
  unfold revokeOperator
  rw [payloadOf_eq_ok.mpr payload]
  refine (smartnodeOf_ends proTx.proTxHash).bind fun dmn found => ?_
  have reset := banIfNotBanned_properties dmn.pdmnState.resetOperatorFields nHeight
  have noAddr : (revokedState dmn.pdmnState proTx nHeight).addr = CService.null := reset.addr
  have noKey : (revokedState dmn.pdmnState proTx nHeight).pubKeyOperator = 0 := reset.operator
  exact updateMNByHash_ends kept found reset.owner
    ⟨fun _ valid => absurd noAddr valid, fun changes => absurd reset.owner changes,
      fun _ valid => absurd noKey valid⟩

end Others

/-! ## Registrations -/

/-- The transactions of a chain: of sizes a reader takes, with ids that commit to their
bytes. -/
structure Committed (digests : Digests) (txs : List CTransaction) : Prop where
  sized : ∀ tx ∈ txs, tx.Sized
  collisionFree : ∀ left ∈ txs, ∀ right ∈ txs, left.getHash digests = right.getHash digests →
    left.serializeNoWitness = right.serializeNoWitness

theorem Committed.payload {digests : Digests} {txs : List CTransaction}
    (committed : Committed digests txs) {left right : CTransaction} (isLeft : left ∈ txs)
    (isRight : right ∈ txs) (same : left.getHash digests = right.getHash digests)
    (version : right.nVersion = 3) (special : right.nType ≠ transactionNormal) :
    left.vExtraPayload = right.vExtraPayload := by
  have stripped := CTransaction.serializeNoWitness_inj (committed.sized left isLeft)
    (committed.sized right isRight) (committed.collisionFree left isLeft right isRight same)
  have leftVersion : left.nVersion = 3 := (congrArg CTransaction.nVersion stripped).trans version
  have leftType : left.nType = right.nType := by
    have stored := congrArg CTransaction.nType stripped
    have positive : (3#16).msb = false := by decide
    simpa [CTransaction.stripped, CTransaction.storedType, version, leftVersion, positive] using stored
  have payloads := congrArg CTransaction.vExtraPayload stripped
  simpa [CTransaction.stripped, version, leftVersion, leftType, special] using payloads

/-- Every smartnode stands where a transaction of the chain has put it. -/
def Rooted (crypto : Crypto) (history : List CTransaction) (list : CDeterministicMNList) : Prop :=
  ∀ proTxHash dmn, list.getMN proTxHash = some dmn → ∃ tx ∈ history, ∃ proTx,
    tx.getHash crypto.digests = proTxHash ∧ getTxPayload (readProRegTx crypto.points) tx = some proTx
      ∧ dmn.collateralOutpoint = collateralOf crypto.digests tx proTx

section

variable {crypto : Crypto} {txs history : List CTransaction} {list : CDeterministicMNList}
  (rooted : Rooted crypto history list) (included : ∀ tx ∈ txs, tx ∈ history)

include rooted included

theorem Rooted.step {nHeight : Int32} {next : CDeterministicMNList}
    (step : ListStep crypto nHeight txs list next) :
    Rooted crypto history next := by
  cases step with
  | @state dmn new index found => exact forall_insert rooted (rooted dmn.proTxHash dmn found)
  | remove => exact forall_erase rooted
  | @register tx proTx nCollateralAmount index member payload =>
    exact forall_insert rooted ⟨tx, included tx member, proTx, rfl, payload, rfl⟩

theorem Rooted.steps {nHeight : Int32} {next : CDeterministicMNList}
    (steps : ListSteps crypto nHeight txs list next) :
    Rooted crypto history next := by
  induction steps with
  | refl => exact rooted
  | tail _ step ih => exact ih.step included step

end

section Register

variable {params : SmartnodeParams} {crypto : Crypto} {node : NodeView} {nHeight : Int32}
  {history : List CTransaction} {list : CDeterministicMNList} {tx : CTransaction}

/-- After the replaced smartnode is gone the collateral is nobody's. -/
theorem removeReplaced_total (kept : list.WellKept) (collateralOutpoint : COutPoint) :
    ∃ next, removeReplaced list collateralOutpoint = .ok next ∧ next.WellKept
      ∧ (∀ holder, ¬ next.Holds holder (.collateralOutpoint collateralOutpoint))
      ∧ ∀ proTxHash dmn, next.getMN proTxHash = some dmn → list.getMN proTxHash = some dmn := by
  unfold removeReplaced
  cases replaced : list.getMNByCollateral collateralOutpoint with
  | none =>
    exact ⟨list, rfl, kept, kept.getUniquePropertyMN_eq_none.mp replaced, fun _ _ found => found⟩
  | some dmn =>
    obtain ⟨found, member⟩ := kept.getUniquePropertyMN_eq_some.mp replaced
    obtain ⟨index, removes, keptNext⟩ := removeMN_eq kept found
    refine ⟨_, asserted_eq_ok.mpr removes, keptNext, ?_, fun _ _ foundNext => (getMN_of_withoutMN foundNext).2⟩
    rintro holder ⟨other, foundOther, memberOther⟩
    obtain ⟨differs, foundOld⟩ := getMN_of_withoutMN foundOther
    exact differs (kept.unique ⟨other, foundOld, memberOther⟩ ⟨dmn, found, member⟩)

/-- The output of a readable transaction is never the null outpoint. -/
theorem collateralOf_not_null (sized : tx.Sized) {proTx : CProRegTx}
    (inside : proTx.collateralOutpoint.hash = 0 →
      ∃ out, tx.vout[proTx.collateralOutpoint.n.toNat]? = some out) :
    (collateralOf crypto.digests tx proTx).isNull = false := by
  unfold collateralOf
  by_cases null : proTx.collateralOutpoint.hash = 0
  · rw [if_pos null]
    obtain ⟨out, present⟩ := inside null
    have bound : proTx.collateralOutpoint.n.toNat < tx.vout.length := (List.getElem?_eq_some_iff.mp present).1
    have length : tx.vout.length ≤ maxSize := sized.outputs.1
    have notLast : proTx.collateralOutpoint.n ≠ 0xffffffff#32 := by
      intro isLast
      rw [isLast] at bound
      exact absurd (bound.trans_le length) (by decide)
    simp [COutPoint.isNull, notLast]
  · rw [if_neg null]
    unfold COutPoint.isNull
    rw [beq_eq_false_iff_ne.mpr null]
    rfl

/-- A registration that has passed its check is never stopped by an assertion. -/
theorem registerMN_ends (kept : list.WellKept) (rooted : Rooted crypto history list)
    (committed : Committed crypto.digests history) (member : tx ∈ history) (version : tx.nVersion = 3)
    (type : tx.nType = transactionProviderRegister) {llmqs : LLMQs} (left : LeftToTheList crypto llmqs tx) :
    Ends Verdict (fun _ => True) (registerMN params crypto node nHeight list tx) := by
  obtain ⟨proTx, payload, owner, inside⟩ := left.register type
  unfold registerMN
  rw [payloadOf_eq_ok.mpr payload]
  refine (refuseWhen_ends (verdict_dos _ _ _)).bind fun _ hasCoin => ?_
  obtain ⟨next, removes, keptNext, noCollateral, before⟩ := removeReplaced_total kept.relabel
    (collateralOf crypto.digests tx proTx)
  rw [removes]
  refine (refuseWhen_ends (verdict_dos _ _ _)).bind fun _ noAddr => ?_
  refine (refuseWhen_ends (verdict_dos _ _ _)).bind fun _ noKeys => ?_
  have amount : ∃ nCollateralAmount, collateralAmountOf params node tx proTx = .ok nCollateralAmount := by
    unfold collateralAmountOf
    by_cases null : proTx.collateralOutpoint.hash = 0
    · obtain ⟨out, present⟩ := inside null
      exact ⟨out.nValue, by rw [if_pos null, present]; rfl⟩
    · obtain ⟨out, present⟩ := Option.isSome_iff_exists.mp (show
        (collateralCoin params node proTx).isSome by
          rw [← Option.isNone_eq_false_iff, Bool.eq_false_iff]
          exact fun absent => hasCoin ⟨null, absent⟩)
      exact ⟨out.nValue, by rw [if_neg null, present]; rfl⟩
  obtain ⟨nCollateralAmount, isAmount⟩ := amount
  rw [isAmount]
  -- A smartnode under the same hash would have the same collateral.
  have absent : next.getMN (tx.getHash crypto.digests) = none := by
    by_contra present
    obtain ⟨dmn, found⟩ := Option.ne_none_iff_exists'.mp present
    obtain ⟨root, isRoot, rootTx, sameId, rootPayload, collateral⟩ := rooted _ dmn (before _ _ found)
    have samePayload := committed.payload isRoot member sameId version (by rw [type]; decide)
    obtain rfl : rootTx = proTx := by
      unfold getTxPayload at rootPayload payload
      rw [samePayload, payload] at rootPayload
      exact (Option.some.inj rootPayload).symm
    refine noCollateral _ ⟨dmn, found, CDeterministicMN.collateral_mem.mpr ?_⟩
    rw [collateral]
    unfold collateralOf
    rw [sameId]
  obtain ⟨index, adds, -⟩ := @addMN_eq next
    (registered crypto.digests tx proTx list.nTotalRegisteredCount nHeight nCollateralAmount) keptNext
    ⟨collateralOf_not_null (committed.sized tx member) inside, owner⟩ absent (by
      intro property isProperty
      rcases CDeterministicMN.mem_uniqueProperties.mp isProperty with rfl | isAddr | rfl | isKey
      · exact keptNext.hasUniqueProperty_eq_false.mpr noCollateral
      · obtain ⟨rfl, -⟩ := UniqueProperty.nonNull_eq_some.mp isAddr
        exact Bool.eq_false_iff.mpr noAddr
      · exact Bool.eq_false_iff.mpr fun held => noKeys (.inl held)
      · obtain ⟨rfl, -⟩ := UniqueProperty.nonNull_eq_some.mp isKey
        exact Bool.eq_false_iff.mpr fun held => noKeys (.inr held))
  exact .of_ok (asserted_eq_ok.mpr adds) trivial

end Register

end BlackRaven.Evo
