import BlackRaven.Evo.ListSafety

/-!
Contract: `BuildNewListFromBlock` comes to a verdict on every block whose transactions are
safe in the lists they meet.

Owns: quorum commitments, one transaction, the whole block, and the lists a chain can
reach.
-/

namespace BlackRaven.Evo

open Consensus Lib Primitives Script
open CDeterministicMNList

section Commitments

variable {params : SmartnodeParams} {crypto : Crypto} {node : NodeView}
  {list next : CDeterministicMNList} {memory : LLMQMemory} {tx : CTransaction}
  {commitment : CFinalCommitment}

theorem Fits.quiet (quiet : Quiet list next) {member : CDeterministicMN × Nat} :
    Fits commitment next member ↔ Fits commitment list member := by
  have samePenalty : next.calcPenalty 66 = list.calcPenalty 66 := by
    unfold calcPenalty calcMaxPoSePenalty
    rw [quiet.count]
  unfold Fits
  rw [quiet.hashes, samePenalty]

theorem punishMember_ends_iff (crypto : Crypto) (kept : list.WellKept) {member : CDeterministicMN × Nat} :
    Ends Verdict (fun _ => True) (punishMember commitment list member) ↔ Fits commitment list member := by
  constructor
  · intro ends present
    unfold punishMember at ends
    rw [present] at ends
    cases bit : commitment.validMembers[member.2]? with
    | none =>
      rw [bit] at ends
      obtain ⟨reject, impossible⟩ := ends
      cases impossible
    | some valid =>
      refine ⟨valid, rfl, ?_⟩
      rintro rfl
      by_contra nothing
      rw [bit] at ends
      unfold poSePunish at ends
      simp only [if_pos nothing] at ends
      obtain ⟨reject, impossible⟩ := ends
      cases impossible
  · intro fits
    obtain ⟨next, runs, -⟩ := @punishMember_quiet crypto 0 [] list kept commitment member fits
    exact .of_ok runs trivial

theorem punish_loop_ends_iff (crypto : Crypto) {members : List (CDeterministicMN × Nat)}
    {list : CDeterministicMNList} (kept : list.WellKept) :
    Ends Verdict (fun _ => True) (members.foldlM (punishMember commitment) list) ↔
      ∀ member ∈ members, Fits commitment list member := by
  induction members generalizing list with
  | nil => exact ⟨fun _ => List.forall_mem_nil _, fun _ => trivial⟩
  | cons head tail ih =>
    rw [List.foldlM_cons, List.forall_mem_cons]
    by_cases fits : Fits commitment list head
    · obtain ⟨next, runs, (steps : ListSteps crypto 0 [] _ _), quiet⟩ := punishMember_quiet kept fits
      rw [runs]
      refine (ih (steps.wellKept kept)).trans ?_
      exact ⟨fun rest => ⟨fits, fun member isMember => (Fits.quiet quiet).mp (rest member isMember)⟩,
        fun both member isMember => (Fits.quiet quiet).mpr (both.2 member isMember)⟩
    · refine iff_of_false (fun ends => ?_) fun both => fits both.1
      exact fits ((punishMember_ends_iff crypto kept).mp ends.left)

theorem withMemory_ends {α : Type} {outcome : Except Failure α} :
    Ends (fun failed => Verdict failed.1) (fun _ => True) (withMemory memory outcome) ↔
      Ends Verdict (fun _ => True) outcome := by
  cases outcome <;> exact Iff.rfl

theorem getAllQuorumMembers_ok {llmqType : BitVec 8} (quorumHash : Uint256)
    (known : (memory.llmqs.find llmqType).isSome) :
    ∃ members, (getAllQuorumMembers params crypto.digests node memory llmqType quorumHash).1 = .ok members := by
  obtain ⟨llmqParams, found⟩ := Option.isSome_iff_exists.mp known
  unfold getAllQuorumMembers
  rw [found]
  exact ⟨_, rfl⟩

/-- A commitment of a known type is stopped by undefined behaviour or an assertion exactly
when its bits do not fit its quorum. -/
theorem applyCommitment_ends_iff (kept : list.WellKept) {qc : CFinalCommitmentTxPayload}
    (payload : getTxPayload (readFinalCommitmentTxPayload crypto.points) tx = some qc)
    (known : (memory.llmqs.find qc.commitment.llmqType).isSome)
    (type : tx.nType = transactionQuorumCommitment) :
    Ends (fun failed => Verdict failed.1) (fun _ => True)
        (applyCommitment params crypto node list memory tx) ↔
      TxSafe params crypto node (list, memory) tx := by
  have notRegistrar : tx.nType ≠ transactionProviderUpdateRegistrar := by
    rw [type]
    decide
  obtain ⟨llmqParams, found⟩ := Option.isSome_iff_exists.mp known
  obtain ⟨members, isMembers⟩ := @getAllQuorumMembers_ok params crypto node memory _
    qc.commitment.quorumHash known
  have safe_iff : TxSafe params crypto node (list, memory) tx ↔
      (qc.commitment.isNull = false →
        node.branch[qc.nHeight.toNat - qc.nHeight.toNat % llmqParams.dkgInterval]?
          = some qc.commitment.quorumHash →
        ∀ member ∈ members.zipIdx, Fits qc.commitment list member) := by
    constructor
    · intro safe notNull inBranch
      exact safe.commitment type qc payload notNull llmqParams found inBranch members _ (Prod.ext isMembers rfl)
    · refine fun fits => ⟨fun isRegistrar => absurd isRegistrar notRegistrar, ?_⟩
      intro _ other otherPayload notNull otherParams otherFound inBranch others later isOthers
      obtain rfl := Option.mem_unique payload otherPayload
      obtain rfl := Option.mem_unique found otherFound
      obtain rfl := Except.ok.inj (isMembers.symm.trans (congrArg Prod.fst isOthers))
      exact fits notNull inBranch
  rw [safe_iff]
  unfold applyCommitment
  rw [payload]
  cases null : qc.commitment.isNull with
  | true =>
    simp only [null, if_true]
    exact ⟨fun _ => nofun, fun _ => trivial⟩
  | false =>
    simp only [found, null, Bool.false_eq_true, if_false]
    by_cases inBranch : node.branch[qc.nHeight.toNat - qc.nHeight.toNat % llmqParams.dkgInterval]?
        = some qc.commitment.quorumHash
    · rw [if_neg (not_not_intro inBranch)]
      unfold handleQuorumCommitment
      rw [show getAllQuorumMembers params crypto.digests node memory qc.commitment.llmqType
        qc.commitment.quorumHash = (.ok members, _) from Prod.ext isMembers rfl]
      refine withMemory_ends.trans ((punish_loop_ends_iff crypto kept).trans ?_)
      simp [inBranch]
    · rw [if_pos inBranch]
      exact ⟨fun _ _ isIn => absurd isIn inBranch, fun _ => verdict_dos _ _ _⟩

end Commitments

/-! ## One transaction -/

section Transaction

variable {params : SmartnodeParams} {crypto : Crypto} {node : NodeView} {nHeight : Int32}
  {history : List CTransaction} {state result : CDeterministicMNList × LLMQMemory} {tx : CTransaction}

theorem TxSafe.of_other (notRegistrar : tx.nType ≠ transactionProviderUpdateRegistrar)
    (notCommitment : tx.nType ≠ transactionQuorumCommitment) : TxSafe params crypto node state tx :=
  ⟨fun isRegistrar => absurd isRegistrar notRegistrar, fun isCommitment => absurd isCommitment notCommitment⟩

/-- What `CheckSpecialTx` leaves to the list is left to it at any later time. -/
theorem LeftToTheList.later {earlier memory : LLMQMemory} (later : Later params earlier memory)
    (left : LeftToTheList crypto earlier.llmqs tx) : LeftToTheList crypto memory.llmqs tx := by
  refine ⟨left.register, left.service, left.registrar, left.revoke, fun type => ?_⟩
  obtain ⟨qc, payload, known⟩ := left.commitment type
  exact ⟨qc, payload, later.find_isSome known⟩

theorem processTx_ends_iff (kept : state.1.WellKept) (rooted : Rooted crypto history state.1)
    (committed : Committed crypto.digests history) (member : tx ∈ history)
    (left : tx.nVersion = 3 → LeftToTheList crypto state.2.llmqs tx) :
    Ends (fun failed => Verdict failed.1) (fun _ => True)
        (processTx params crypto node nHeight state tx) ↔
      (tx.nVersion = 3 → TxSafe params crypto node state tx) := by
  unfold processTx
  dsimp only
  by_cases version : tx.nVersion = 3
  swap
  · rw [if_pos version]
    exact ⟨fun _ isThree => absurd isThree version, fun _ => trivial⟩
  have left := left version
  rw [if_neg (not_not_intro version)]
  simp only [version, true_imp_iff]
  by_cases register : tx.nType = transactionProviderRegister
  · rw [if_pos register, withMemory_ends]
    exact iff_of_true (registerMN_ends kept rooted committed member version register left)
      (.of_other (by rw [register]; decide) (by rw [register]; decide))
  rw [if_neg register]
  by_cases service : tx.nType = transactionProviderUpdateService
  · obtain ⟨proTx, payload⟩ := left.service service
    rw [if_pos service, withMemory_ends]
    exact iff_of_true (updateService_ends kept payload)
      (.of_other (by rw [service]; decide) (by rw [service]; decide))
  rw [if_neg service]
  by_cases registrar : tx.nType = transactionProviderUpdateRegistrar
  · obtain ⟨proTx, payload⟩ := left.registrar registrar
    rw [if_pos registrar, withMemory_ends, updateRegistrar_ends_iff kept payload]
    constructor
    · refine fun free => ⟨?_, fun isCommitment => absurd isCommitment (by rw [registrar]; decide)⟩
      intro _ other otherPayload
      obtain rfl := Option.mem_unique payload otherPayload
      exact free
    · exact fun safe => safe.registrar registrar proTx payload
  rw [if_neg registrar]
  by_cases revoke : tx.nType = transactionProviderUpdateRevoke
  · obtain ⟨proTx, payload⟩ := left.revoke revoke
    rw [if_pos revoke, withMemory_ends]
    exact iff_of_true (revokeOperator_ends kept payload) (.of_other registrar (by rw [revoke]; decide))
  rw [if_neg revoke]
  by_cases commitment : tx.nType = transactionQuorumCommitment
  · obtain ⟨qc, payload, known⟩ := left.commitment commitment
    rw [if_pos commitment]
    exact applyCommitment_ends_iff kept payload known commitment
  · rw [if_neg commitment]
    exact iff_of_true trivial (.of_other registrar commitment)

theorem applyCommitment_later {list : CDeterministicMNList} {memory : LLMQMemory}
    (done : applyCommitment params crypto node list memory tx = .ok result) :
    Later params memory result.2 := by
  obtain rfl | ⟨_, _, _, -, isLater⟩ := applyCommitment_ok done
  · exact .refl
  rw [← isLater]
  unfold getAllQuorumMembers
  split
  · exact .refl
  · exact .update .refl _ _ _

theorem processTx_later (kept : state.1.WellKept)
    (done : processTx params crypto node nHeight state tx = .ok result) :
    Later params state.2 result.2 := by
  obtain same | applied := (processTx_ok [] kept done).2
  · rw [same]
    exact .refl
  · exact applyCommitment_later applied

end Transaction

/-! ## The block -/

/-- The lists of the chains of a network, with the transactions of the chain so far. -/
inductive Reachable (params : SmartnodeParams) (crypto : Crypto) :
    List CTransaction → CDeterministicMNList → Prop
  /-- There are no smartnodes before the first list is built. -/
  | start (history : List CTransaction) (blockHash : Uint256) :
      Reachable params crypto history (initial blockHash)
  /-- A block that is accepted gets the list that was built for it. -/
  | connect {history : List CTransaction} {node : NodeView} {memory : LLMQMemory} {block : CBlock}
      {result : CDeterministicMNList × LLMQMemory}
      (previous : Reachable params crypto history (node.lists node.prevHash))
      (accepted : buildNewListFromBlock params crypto node memory block = .ok result)
      (blockHash : Uint256) :
      Reachable params crypto (history ++ block.vtx) { result.1 with blockHash := blockHash }

section Block

variable {params : SmartnodeParams} {crypto : Crypto} {node : NodeView} {history : List CTransaction}
  {list : CDeterministicMNList} {memory : LLMQMemory} {block : CBlock}

theorem Rooted.mono {longer : List CTransaction} (rooted : Rooted crypto history list)
    (included : ∀ tx ∈ history, tx ∈ longer) : Rooted crypto longer list := by
  intro proTxHash dmn found
  obtain ⟨tx, member, rest⟩ := rooted proTxHash dmn found
  exact ⟨tx, included tx member, rest⟩

/-- A list of a chain is well kept, and its smartnodes come from the chain. -/
theorem Reachable.wellKept_rooted (reachable : Reachable params crypto history list) :
    list.WellKept ∧ Rooted crypto history list := by
  induction reachable with
  | start history blockHash =>
    refine ⟨wellKept_initial blockHash, fun proTxHash dmn found => ?_⟩
    cases found
  | @connect history node memory block result previous accepted blockHash ih =>
    obtain ⟨kept, rooted⟩ := ih
    have rootedRenewed : Rooted crypto (history ++ block.vtx)
        (renewed (node.lists node.prevHash) (node.prevHeight + 1)) :=
      rooted.mono fun tx member => List.mem_append_left _ member
    have rootedResult : Rooted crypto (history ++ block.vtx) result.1 :=
      rootedRenewed.steps (fun tx member => List.mem_append_right _ (List.mem_of_mem_tail member))
        (buildNewListFromBlock_steps kept accepted)
    exact ⟨(buildNewListFromBlock_wellKept kept accepted).relabel, rootedResult⟩

/-- The list and the memory that the transactions of a block start from, and those that
the transaction after `before` meets. -/
def metBy (params : SmartnodeParams) (crypto : Crypto) (node : NodeView) (memory : LLMQMemory)
    (before : List CTransaction) : Except (Failure × LLMQMemory) (CDeterministicMNList × LLMQMemory) :=
  let nHeight := node.prevHeight + 1
  let (oldList, memory) := getListForBlock params node memory node.prevHash
  withMemory memory (beforeTransactions params crypto.digests node nHeight oldList) >>= fun start =>
  before.foldlM (processTx params crypto node nHeight) start

/-- Every transaction of the block is safe in the list it meets. -/
def BlockSafe (params : SmartnodeParams) (crypto : Crypto) (node : NodeView) (memory : LLMQMemory)
    (block : CBlock) : Prop :=
  ∀ before tx after reached, block.vtx.tail = before ++ tx :: after →
    metBy params crypto node memory before = .ok reached → tx.nVersion = 3 →
    TxSafe params crypto node reached tx

/-- The transaction has passed `CheckSpecialTx` on top of the same block, some time
before. -/
def Checked (params : SmartnodeParams) (crypto : Crypto) (node : NodeView) (memory : LLMQMemory)
    (tx : CTransaction) : Prop :=
  ∃ nodeThen earlier, nodeThen.branch = node.branch ∧ Later params earlier memory
    ∧ (checkSpecialTx params crypto nodeThen earlier tx).1 = .ok ()

theorem Checked.leftToTheList {tx : CTransaction} {later : LLMQMemory}
    (checked : Checked params crypto node memory tx) (isLater : Later params memory later)
    (version : tx.nVersion = 3) : LeftToTheList crypto later.llmqs tx := by
  obtain ⟨nodeThen, earlier, -, before, passes⟩ := checked
  exact (Evo.leftToTheList version passes).later (before.trans isLater)

theorem buildNewListFromBlock_eq :
    buildNewListFromBlock params crypto node memory block
      = metBy params crypto node memory block.vtx.tail >>= fun reached =>
        withMemory reached.2 (afterTransactions (node.prevHeight + 1)
          ((node.lists node.prevHash).getMNPayee params.nCollaterals) block.vtx.tail reached.1)
        >>= fun last => .ok (last.1, updateLLMQParams params last.2 last.1.getAllMNsCount
          (node.prevHeight + 1) node.spork21) := by
  exact (bind_assoc _ _ _).symm

/-- What holds of the list and the memory a transaction of the block meets. -/
structure Met (params : SmartnodeParams) (crypto : Crypto) (history : List CTransaction)
    (memory : LLMQMemory) (reached : CDeterministicMNList × LLMQMemory) : Prop where
  kept : reached.1.WellKept
  rooted : Rooted crypto history reached.1
  later : Later params memory reached.2

/-- The run before the transactions succeeds, and its list is met by the first. -/
theorem metBy_start (kept : (node.lists node.prevHash).WellKept)
    (rooted : Rooted crypto history (node.lists node.prevHash)) :
    ∃ start, Met params crypto history memory start ∧ ∀ before,
      metBy params crypto node memory before
        = before.foldlM (processTx params crypto node (node.prevHeight + 1)) start := by
  obtain ⟨start, starts, (steps : ListSteps crypto (node.prevHeight + 1) [] _ _), -⟩ :=
    beforeTransactions_total params crypto.digests node kept
  have rootedRenewed : Rooted crypto history (renewed (node.lists node.prevHash) (node.prevHeight + 1)) :=
    rooted
  refine ⟨(start, (getListForBlock params node memory node.prevHash).2),
    ⟨steps.wellKept kept.relabel, rootedRenewed.steps (List.forall_mem_nil _) steps,
      .update .refl _ _ _⟩, fun before => ?_⟩
  unfold metBy
  rw [show getListForBlock params node memory node.prevHash
    = (node.lists node.prevHash, (getListForBlock params node memory node.prevHash).2) from rfl]
  dsimp only
  rw [starts]
  rfl

theorem Met.run {start reached : CDeterministicMNList × LLMQMemory} {nHeight : Int32}
    (met : Met params crypto history memory start) {txs : List CTransaction}
    (inChain : ∀ tx ∈ txs, tx ∈ history)
    (runs : txs.foldlM (processTx params crypto node nHeight) start = .ok reached) :
    Met params crypto history memory reached := by
  refine foldlM_invariant (Met params crypto history memory) ?_ met runs
  intro state tx next member met done
  have steps := @processTx_steps params crypto node nHeight txs tx next state met.kept member done
  exact ⟨steps.wellKept met.kept, met.rooted.steps inChain steps, met.later.trans (processTx_later met.kept done)⟩

/-- `BuildNewListFromBlock` comes to a verdict exactly on the blocks whose transactions are
safe in the lists they meet; in a list it accepts, every property is held by one smartnode
and the map holds exactly those. -/
theorem buildNewListFromBlock_verdict_iff
    (reachable : Reachable params crypto history (node.lists node.prevHash))
    (committed : Committed crypto.digests (history ++ block.vtx))
    (checked : ∀ tx ∈ block.vtx, Checked params crypto node memory tx) :
    Ends (fun failed => Verdict failed.1)
        (fun result => UniqueIndex.Exact result.1.Holds result.1.mnUniquePropertyMap
          ∧ ∀ property left right, result.1.Holds left property → result.1.Holds right property → left = right)
        (buildNewListFromBlock params crypto node memory block) ↔
      BlockSafe params crypto node memory block := by
  obtain ⟨kept, rooted⟩ := reachable.wellKept_rooted
  have inChain : ∀ tx ∈ block.vtx.tail, tx ∈ history ++ block.vtx :=
    fun tx member => List.mem_append_right _ (List.mem_of_mem_tail member)
  obtain ⟨start, metStart, runs⟩ := @metBy_start params crypto node (history ++ block.vtx) memory kept
    (rooted.mono fun tx member => List.mem_append_left _ member)
  rw [buildNewListFromBlock_eq, Ends.bind_iff, runs, foldlM_ends_iff]
  · unfold BlockSafe
    simp only [runs]
    refine forall_congr' fun before => forall_congr' fun tx => forall_congr' fun after =>
      forall_congr' fun reached => forall_congr' fun splits => forall_congr' fun reaches => ?_
    have isMember : tx ∈ block.vtx.tail := by
      rw [splits]
      simp
    have metReached := metStart.run (fun other member => inChain other (by
      rw [splits]
      exact List.mem_append_left _ member)) reaches
    exact processTx_ends_iff metReached.kept metReached.rooted committed (inChain tx isMember)
      fun version => (checked tx (List.mem_of_mem_tail isMember)).leftToTheList metReached.later version
  · intro reached reaches
    rw [runs] at reaches
    have metReached := metStart.run inChain reaches
    obtain ⟨list, ends, (steps : ListSteps crypto (node.prevHeight + 1) [] _ _)⟩ :=
      afterTransactions_total metReached.kept
        ((node.lists node.prevHash).getMNPayee params.nCollaterals) block.vtx.tail
    have keptList := steps.wellKept metReached.kept
    rw [ends]
    exact ⟨keptList.exact, fun property left right => keptList.unique⟩

end Block

/-- How a build fails, without the memory it leaves. -/
def failureOf {α : Type} (outcome : Except (Failure × LLMQMemory) α) : Option Failure :=
  match outcome with
  | .error (failed, _) => some failed
  | .ok _ => none

theorem failureOf_eq_some {α : Type} {outcome : Except (Failure × LLMQMemory) α} {failed : Failure} :
    failureOf outcome = some failed ↔ ∃ memory, outcome = .error (failed, memory) := by
  rcases outcome with ⟨other, memory⟩ | value
  · simp [failureOf]
  · simp [failureOf]

/-! ## A key that changes hands within a block

The regression test network, where lists are built from height 432 on. Block 432
registers the smartnode `first`. Block 433 either registers two more, after the null commitment
of its mining window, or registers `second` and then gives the operator key of `second` to
`first`. -/

namespace Handover

/-- A registration with ten coins of its own as collateral. -/
def registration (funding inputsHash : Uint256) (owner : CKeyID) (operator : CBLSPublicKey) : CTransaction :=
  ⟨3, transactionProviderRegister, [⟨⟨funding, 0⟩, [], 0xffffffff, []⟩],
    [⟨10 * coin, payToPubkeyHash (u160.encode 0xc0)⟩], 0, CProRegTx.serialize ⟨1, 0, 0, ⟨0, 0⟩, CService.null,
      owner, operator, owner, 0, payToPubkeyHash (u160.encode 0xd0), inputsHash, []⟩⟩

def firstInputs : Uint256 := 0x3a86af564a17374ce750b38bdc835bc2a85321773ddc231b1bb9c5e817bd181b
def firstHash : Uint256 := 0x71087fa8bca8a87cf221450160cc7f1041dc66bd899bb0aa34e5962f1f1e36cf
def secondInputs : Uint256 := 0x1168c4ffeb718a0df5657e663bc178aae8196119cca4405c67f578b2941ca03c
def thirdHash : Uint256 := 0x957814a62e786ed31a53b4e3b11d1ecc9a1246598441a0e31db3555c8f877177
def updateInputs : Uint256 := 0xd54a650d1b9c5879e57cbe703fb6dfc3b0c3f364e3904f1e4d8edbba5e69269d

def first : CTransaction := registration 0xa firstInputs 0xa1 0xa2
def second : CTransaction := registration 0xb secondInputs 0xb1 0xb2
def third : CTransaction := registration 0xe updateInputs 0xc1 0xc2

def update : CTransaction :=
  ⟨3, transactionProviderUpdateRegistrar, [⟨⟨0xe, 0⟩, [], 0xffffffff, []⟩], [⟨0, []⟩], 0,
    CProUpRegTx.serialize ⟨1, firstHash, 0, 0xb2, 0xa1, payToPubkeyHash (u160.encode 0xd0), updateInputs, []⟩⟩

/-- The null commitment for a quorum of three that started at block 420. -/
def nullCommitment : CTransaction :=
  ⟨3, transactionQuorumCommitment, [], [], 0, u16.encode 1 ++ u32.encode 433 ++ u16.encode 1 ++ 1 :: u256.encode 420
    ++ [3, 0, 3, 0] ++ List.replicate (48 + 32 + 96 + 96) 0⟩

def coinbase (height : Bytes) : CTransaction :=
  .plain [⟨⟨0, 0xffffffff⟩, 2 :: height, 0xffffffff, []⟩] [⟨5000 * coin, payToPubkeyHash (u160.encode 0xee)⟩]

/-- SHA-256 on the inputs and the bytes of the transactions. -/
def digestTable : List (Bytes × Bytes) :=
  Digests.hashRows [(COutPoint.serialize ⟨0xa, 0⟩,
      0x39accd17215045c6209875eaa5cf5db0b9b49a3a9594d30b6fa7fb1b73903a5a, firstInputs.toNat),
    (COutPoint.serialize ⟨0xb, 0⟩,
      0xa89ab7c0d3d6b347f041847afc454b5f50876ac44836204ea322e12506cafed4, secondInputs.toNat),
    (COutPoint.serialize ⟨0xe, 0⟩,
      0x1589f6fed2d7824de8bf7483247a412850866212d9e6d6798c8a1ef6b7781c95, updateInputs.toNat),
    (first.serializeNoWitness,
      0xa0cf029cc677c67d053fda52dd5bd9eaaebbf13bfeb380530d290d990d644177, firstHash.toNat),
    (second.serializeNoWitness,
      0x66525236e4488aaa2e1b0640ece746f582ff1fcf5f2d0c41c05eaf9162133b99,
      0x25d68e7bc2718dc21fec2a54759049cac35c8fe822fc2980555fb53baac805b8),
    (third.serializeNoWitness,
      0x3344edfa93f5e0e396e79c0056730eddb0a8acf4b4c91e9418516ba4a84a4b84, thirdHash.toNat),
    (nullCommitment.serializeNoWitness,
      0xfa7fbda5c491f5620a7502b5d9ba2cd2c3e94afa82db29e42c1fbbf3927f7594,
      0xd3801706d85d6c44054df5f35a416938e4b88869cca250955861cea9ad57f955),
    (update.serializeNoWitness,
      0x6bc27c71d23ce3f42b5d40626dfeeaa2cd164405c757c6757d30175e123c1683,
      0xcb41f8165ce668c60334ef454e858bfecb67a9bd838450e18571e15a42878618),
    ((coinbase [0xb0, 1]).serializeNoWitness,
      0x8466e4679aae8de56e0292758d649bd6b5a36c1f4a0159abdd0daed10c0fc8c5,
      0x31d3f87b06e93dbed329a35ea93a55e87453bf5defb779bec4fb1752d0742611),
    ((coinbase [0xb1, 1]).serializeNoWitness,
      0x82310c4db2fcc7c73f17f601099284cc3412409be5dc5108a5eabd058c9e3920,
      0xa3cffbd593c7d3d59c0f67e941beeada1e1f4c501ae1df5e486c246bfcf6dcfb)]

def crypto : Crypto where
  digests := Digests.tabulated digestTable (by decide +kernel)
  points := ⟨fun _ => true, fun _ => true⟩
  checkStringSig := fun _ _ => true
  checkServiceSig := fun _ _ => true
  checkRegistrarSig := fun _ _ => true
  checkRevocationSig := fun _ _ => true
  checkCbTx := fun _ _ => .ok ()

def block (vtx : List CTransaction) : CBlock := ⟨⟨4, 0, 0, 0, 0, 0, 0, 0, 0⟩, vtx, false⟩

/-- A node on a chain whose blocks are named by their heights. -/
def node (length : Nat) (lists : Uint256 → CDeterministicMNList) : NodeView where
  coins := fun outpoint => if outpoint = ⟨firstHash, 0⟩ then first.vout.head? else none
  tipHeight := length - 1
  spork21 := false
  spork22 := 0
  fAllowPrivateNet := false
  lists := lists
  branch := (List.range length).map (BitVec.ofNat 256)

def memory : LLMQMemory := .start regTestSmartnodeParams

def build (length : Nat) (lists : Uint256 → CDeterministicMNList) (block : CBlock) :
    Except (Failure × LLMQMemory) (CDeterministicMNList × LLMQMemory) :=
  buildNewListFromBlock regTestSmartnodeParams crypto (node length lists) memory block

def built (length : Nat) (lists : Uint256 → CDeterministicMNList) (block : CBlock) : CDeterministicMNList :=
  match build length lists block with
  | .ok result => { result.1 with blockHash := BitVec.ofNat 256 length }
  | .error _ => initial (BitVec.ofNat 256 length)

def firstBlock : CBlock := block [coinbase [0xb0, 1], first]

def lists (hash : Uint256) : CDeterministicMNList :=
  if hash = 432 then built 432 initial firstBlock else initial hash

def secondBlock : CBlock := block [coinbase [0xb1, 1], second, update]
def laterBlock : CBlock := block [coinbase [0xb1, 1], nullCommitment, second, third]

def laterList : CDeterministicMNList := built 433 lists laterBlock

def transactions : List CTransaction :=
  [coinbase [0xb0, 1], first, coinbase [0xb1, 1], nullCommitment, second, third, update]

theorem built_reachable {length : Nat} {lists : Uint256 → CDeterministicMNList} {history : List CTransaction}
    {block : CBlock} (previous : Reachable regTestSmartnodeParams crypto history
      ((node length lists).lists (node length lists).prevHash))
    (accepted : (build length lists block).toOption.isSome = true) :
    Reachable regTestSmartnodeParams crypto (history ++ block.vtx) (built length lists block) := by
  obtain ⟨result, builds⟩ := toOption_isSome.mp accepted
  unfold built
  rw [builds]
  exact .connect previous builds _

theorem node_lists (length : Nat) (lists : Uint256 → CDeterministicMNList) :
    (node length lists).lists = lists :=
  rfl

theorem node_previous : (node 433 lists).lists (node 433 lists).prevHash = lists 432 := by
  rw [node_lists]
  exact congrArg lists (by decide +kernel)

theorem lists_reachable : Reachable regTestSmartnodeParams crypto firstBlock.vtx
    ((node 433 lists).lists (node 433 lists).prevHash) := by
  rw [node_previous, lists, if_pos rfl]
  refine @built_reachable _ _ [] firstBlock ?_ (by decide +kernel)
  rw [node_lists]
  exact .start [] _

theorem committed {vtx : List CTransaction} (among : vtx ⊆ transactions) : Committed crypto.digests vtx := by
  have small : ∀ tx ∈ transactions, tx.serializeNoWitness.length ≤ maxSize
      ∧ ∀ txout ∈ tx.vout, -2 ^ 63 ≤ txout.nValue ∧ txout.nValue < 2 ^ 63 := by decide +kernel
  have apart : ∀ left ∈ transactions, ∀ right ∈ transactions, left.getHash crypto.digests
      = right.getHash crypto.digests → left.serializeNoWitness = right.serializeNoWitness := by decide +kernel
  exact ⟨fun tx member => CTransaction.sized_of_length (small tx (among member)).1 (small tx (among member)).2,
    fun left isLeft right isRight => apart left (among isLeft) right (among isRight)⟩

theorem checked {length : Nat} {lists : Uint256 → CDeterministicMNList} {vtx : List CTransaction}
    (passes : ∀ tx ∈ vtx,
      (checkSpecialTx regTestSmartnodeParams crypto (node length lists) memory tx).1 = .ok ()) :
    ∀ tx ∈ vtx, Checked regTestSmartnodeParams crypto (node length lists) memory tx :=
  fun tx member => ⟨node length lists, memory, rfl, .refl, passes tx member⟩

/-- Both special transactions of block 433 pass `CheckSpecialTx`, and building its list
ends in an assertion. -/
theorem secondBlock_asserts :
    Reachable regTestSmartnodeParams crypto firstBlock.vtx
        ((node 433 lists).lists (node 433 lists).prevHash)
      ∧ Committed crypto.digests (firstBlock.vtx ++ secondBlock.vtx)
      ∧ (∀ tx ∈ secondBlock.vtx, Checked regTestSmartnodeParams crypto (node 433 lists) memory tx)
      ∧ (∃ memory, build 433 lists secondBlock = .error
        (.thrown "assert(!oldEntry || oldEntry->first == dmn->proTxHash)", memory)) := by
  have fails : failureOf (build 433 lists secondBlock)
      = some (.thrown "assert(!oldEntry || oldEntry->first == dmn->proTxHash)") := by decide +kernel
  exact ⟨lists_reachable, committed (by decide +kernel), checked (by decide +kernel),
    failureOf_eq_some.mp fails⟩

end Handover

/-- The block with a null commitment and two registrations gets a verdict. -/
theorem buildNewListFromBlock_verdict_laterBlock :
    Ends (fun failed => Verdict failed.1)
      (fun result => UniqueIndex.Exact result.1.Holds result.1.mnUniquePropertyMap
        ∧ ∀ property left right, result.1.Holds left property → result.1.Holds right property → left = right)
      (Handover.build 433 Handover.lists Handover.laterBlock) := by
  unfold Handover.build
  rw [buildNewListFromBlock_verdict_iff Handover.lists_reachable (Handover.committed (by decide +kernel))
    (Handover.checked (by decide +kernel))]
  intro before tx after reached splits _ _
  have member : tx ∈ [Handover.nullCommitment, Handover.second, Handover.third] := by
    change tx ∈ Handover.laterBlock.vtx.tail
    simp [splits]
  simp only [List.mem_cons, List.not_mem_nil, or_false] at member
  obtain rfl | rfl | rfl := member
  · refine ⟨fun type => absurd type (by decide), fun _ qc payload notNull => ?_⟩
    have null : (getTxPayload (readFinalCommitmentTxPayload Handover.crypto.points)
        Handover.nullCommitment).all (·.commitment.isNull) = true := by decide +kernel
    rw [payload] at null
    cases notNull.symm.trans null
  all_goals exact .of_other (by decide) (by decide)

end BlackRaven.Evo
