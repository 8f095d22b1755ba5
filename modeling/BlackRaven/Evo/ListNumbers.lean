import BlackRaven.Evo.BlockVerdict

/-!
Contract: the internal ids of a list.

Owns: the map of the ids is exact, ids are below the number of registrations, and what a
block does to them.

The number of registrations is a `uint32_t`; the results are about chains with fewer
transactions than it can count.
-/

namespace BlackRaven.Evo

open Lib Primitives
open CDeterministicMNList

namespace CDeterministicMNList

structure Numbered (list : CDeterministicMNList) : Prop where
  ids : ∀ id proTxHash, list.mnInternalIdMap id = some proTxHash ↔
    ∃ dmn, list.getMN proTxHash = some dmn ∧ dmn.internalId = id
  below : ∀ proTxHash dmn, list.getMN proTxHash = some dmn →
    dmn.internalId.toNat < list.nTotalRegisteredCount.toNat
  readable : ∀ proTxHash dmn, list.getMN proTxHash = some dmn → dmn.pdmnState.Readable

theorem numbered_initial (blockHash : Uint256) : (initial blockHash).Numbered := by
  have empty : ∀ proTxHash, (initial blockHash).getMN proTxHash = none := fun _ => Std.TreeMap.getElem?_emptyc
  refine ⟨fun id proTxHash => ?_, fun proTxHash dmn found => ?_, fun proTxHash dmn found => ?_⟩
  · refine iff_of_false nofun ?_
    rintro ⟨dmn, found, -⟩
    cases found
  · cases found
  · cases found

variable {list : CDeterministicMNList}

theorem Numbered.unique (numbered : list.Numbered) {left right : Uint256}
    {leftDmn rightDmn : CDeterministicMN} (foundLeft : list.getMN left = some leftDmn)
    (foundRight : list.getMN right = some rightDmn) (same : leftDmn.internalId = rightDmn.internalId) :
    left = right := by
  have atLeft := (numbered.ids leftDmn.internalId left).mpr ⟨leftDmn, foundLeft, rfl⟩
  have atRight := (numbered.ids leftDmn.internalId right).mpr ⟨rightDmn, foundRight, same.symm⟩
  exact Option.mem_unique atLeft atRight

variable {dmn : CDeterministicMN}

section

variable (numbered : list.Numbered)

include numbered

theorem Numbered.getMNByInternalId_eq_some (kept : list.WellKept) {id : Uint64} :
    list.getMNByInternalId id = some dmn ↔ list.getMN dmn.proTxHash = some dmn ∧ dmn.internalId = id := by
  unfold getMNByInternalId
  rw [Option.bind_eq_some_iff]
  constructor
  · rintro ⟨proTxHash, atId, found⟩
    obtain ⟨other, foundOther, isId⟩ := (numbered.ids id proTxHash).mp atId
    obtain rfl := Option.mem_unique found foundOther
    rw [kept.keyed proTxHash dmn found]
    exact ⟨found, isId⟩
  · rintro ⟨found, isId⟩
    exact ⟨dmn.proTxHash, (numbered.ids id dmn.proTxHash).mpr ⟨dmn, found, isId⟩, found⟩

theorem Numbered.withState (found : list.getMN dmn.proTxHash = some dmn) {new : CDeterministicMNState}
    (readable : dmn.pdmnState.Readable → new.Readable) (index : MnUniquePropertyMap) :
    (list.withState dmn new index).Numbered := by
  refine ⟨fun id proTxHash => (numbered.ids id proTxHash).trans ?_,
    forall_insert numbered.below (numbered.below _ dmn found),
    forall_insert numbered.readable (readable (numbered.readable _ dmn found))⟩
  rw [getMN_withState]
  by_cases isDmn : proTxHash = dmn.proTxHash
  · simp [isDmn, found]
  · rw [if_neg isDmn]

theorem Numbered.withoutMN (found : list.getMN dmn.proTxHash = some dmn) (index : MnUniquePropertyMap) :
    (list.withoutMN dmn index).Numbered := by
  refine ⟨fun id proTxHash => ?_, forall_erase numbered.below, forall_erase numbered.readable⟩
  change Function.update list.mnInternalIdMap dmn.internalId none id = some proTxHash ↔ _
  rw [Function.update_apply, getMN_withoutMN]
  by_cases isId : id = dmn.internalId
  · rw [if_pos isId]
    refine iff_of_false nofun ?_
    rintro ⟨other, foundOther, sameId⟩
    split at foundOther
    · cases foundOther
    · rename_i differs
      exact differs (numbered.unique foundOther found (sameId.trans isId))
  · rw [if_neg isId, numbered.ids]
    by_cases isDmn : proTxHash = dmn.proTxHash
    · rw [if_pos isDmn, isDmn, found]
      refine iff_of_false ?_ nofun
      rintro ⟨other, same, sameId⟩
      obtain rfl := Option.some.inj same
      exact isId sameId.symm
    · rw [if_neg isDmn]

theorem Numbered.inserted (absent : list.getMN dmn.proTxHash = none)
    (fresh : ∀ proTxHash other, list.getMN proTxHash = some other → other.internalId ≠ dmn.internalId)
    (below : dmn.internalId.toNat < list.nTotalRegisteredCount.toNat)
    (readable : dmn.pdmnState.Readable) (index : MnUniquePropertyMap) :
    (list.withMN dmn index).Numbered := by
  refine ⟨fun id proTxHash => ?_, forall_insert numbered.below below, forall_insert numbered.readable readable⟩
  change Function.update list.mnInternalIdMap dmn.internalId (some dmn.proTxHash) id = some proTxHash ↔ _
  rw [Function.update_apply, getMN_withMN]
  by_cases isId : id = dmn.internalId
  · rw [if_pos isId, Option.some.injEq]
    constructor
    · rintro rfl
      exact ⟨dmn, if_pos rfl, isId.symm⟩
    · rintro ⟨other, foundOther, sameId⟩
      split at foundOther
      · exact Eq.symm ‹_›
      · exact absurd (sameId.trans isId) (fresh _ other foundOther)
  · rw [if_neg isId, numbered.ids]
    by_cases isNew : proTxHash = dmn.proTxHash
    · rw [if_pos isNew, isNew, absent]
      simp [Ne.symm isId]
    · rw [if_neg isNew]

theorem Numbered.withMN (absent : list.getMN dmn.proTxHash = none)
    (isNext : dmn.internalId = list.nTotalRegisteredCount.setWidth 64)
    (fits : list.nTotalRegisteredCount.toNat + 1 < 2 ^ 32) (readable : dmn.pdmnState.Readable)
    (index : MnUniquePropertyMap) :
    (({ list with nTotalRegisteredCount := list.nTotalRegisteredCount + 1 } :
      CDeterministicMNList).withMN dmn index).Numbered := by
  have number : dmn.internalId.toNat = list.nTotalRegisteredCount.toNat := by
    rw [isNext, BitVec.toNat_setWidth_of_le (by decide)]
  have count : (list.nTotalRegisteredCount + 1).toNat = list.nTotalRegisteredCount.toNat + 1 := by
    exact Nat.mod_eq_of_lt fits
  have counted : ({ list with nTotalRegisteredCount := list.nTotalRegisteredCount + 1 } :
      CDeterministicMNList).Numbered := by
    refine ⟨numbered.ids, fun proTxHash other found => ?_, numbered.readable⟩
    exact (numbered.below proTxHash other found).trans (count ▸ Nat.lt_succ_self _)
  refine counted.inserted absent (fun proTxHash other found same => ?_) ?_ readable index
  · have below := numbered.below proTxHash other found
    rw [same, number] at below
    exact lt_irrefl _ below
  · rw [number]
    exact count ▸ Nat.lt_succ_self _

end

end CDeterministicMNList

/-! ## What a block does -/

/-- One smartnode at two times: its state may differ, its owner does not. -/
structure SameSmartnode (before dmn : CDeterministicMN) : Prop where
  rest : dmn = { before with pdmnState := dmn.pdmnState }
  owner : dmn.pdmnState.keyIDOwner = before.pdmnState.keyIDOwner

theorem SameSmartnode.proTxHash {before dmn : CDeterministicMN} (same : SameSmartnode before dmn) :
    dmn.proTxHash = before.proTxHash := by
  rw [same.rest]

theorem SameSmartnode.internalId {before dmn : CDeterministicMN} (same : SameSmartnode before dmn) :
    dmn.internalId = before.internalId := by
  rw [same.rest]

/-- A list on the way through a block: a smartnode is an old one with perhaps another
state, or its id was given out since. -/
structure Since (old list : CDeterministicMNList) : Prop where
  numbered : list.Numbered
  grows : old.nTotalRegisteredCount.toNat ≤ list.nTotalRegisteredCount.toNat
  origin : ∀ proTxHash dmn, list.getMN proTxHash = some dmn →
    (∃ before, old.getMN proTxHash = some before ∧ SameSmartnode before dmn)
      ∨ old.nTotalRegisteredCount.toNat ≤ dmn.internalId.toNat

theorem Since.refl {list : CDeterministicMNList} (numbered : list.Numbered) : Since list list :=
  ⟨numbered, le_rfl, fun _ dmn found => .inl ⟨dmn, found, rfl, rfl⟩⟩

section Since

variable {params : SmartnodeParams} {crypto : Crypto} {node : NodeView} {nHeight : Int32}
  {old list next : CDeterministicMNList} {tx : CTransaction}

theorem Since.step (since : Since old list) (step : ListStep crypto nHeight [] list next) :
    Since old next ∧ next.nTotalRegisteredCount = list.nTotalRegisteredCount := by
  cases step with
  | @state dmn new index found owner scripts _ =>
    refine ⟨⟨since.numbered.withState found scripts index, since.grows, ?_⟩, rfl⟩
    refine forall_insert since.origin ((since.origin _ dmn found).imp ?_ id)
    rintro ⟨before, foundBefore, same⟩
    refine ⟨before, foundBefore, ?_, owner.trans same.owner⟩
    rw [same.rest]
  | @remove dmn index found _ =>
    exact ⟨⟨since.numbered.withoutMN found index, since.grows, forall_erase since.origin⟩, rfl⟩
  | register member => cases member

theorem Since.steps (since : Since old list) (steps : ListSteps crypto nHeight [] list next) :
    Since old next ∧ next.nTotalRegisteredCount = list.nTotalRegisteredCount := by
  induction steps with
  | refl => exact ⟨since, rfl⟩
  | tail _ step ih =>
    obtain ⟨sinceNext, sameCount⟩ := ih.1.step step
    exact ⟨sinceNext, sameCount.trans ih.2⟩

theorem Since.registerMN (since : Since old list) (kept : list.WellKept)
    (fits : list.nTotalRegisteredCount.toNat + 1 < 2 ^ 32)
    (done : registerMN params crypto node nHeight list tx = .ok next) :
    Since old next ∧ next.nTotalRegisteredCount.toNat = list.nTotalRegisteredCount.toNat + 1 := by
  obtain ⟨base, proTx, nCollateralAmount, index, steps, sameCount, payload, absent, rfl, -⟩ :=
    registerMN_ok [] kept done
  obtain ⟨sinceBase, -⟩ := since.steps steps
  rw [← sameCount] at fits ⊢
  have script : proTx.scriptPayout.length ≤ maxSize :=
    getTxPayload_yields (readProRegTx_script crypto.points) payload
  have count : (base.nTotalRegisteredCount + 1).toNat = base.nTotalRegisteredCount.toNat + 1 := by
    exact Nat.mod_eq_of_lt fits
  refine ⟨⟨sinceBase.numbered.withMN absent rfl fits ⟨script, Nat.zero_le _⟩ index, ?_, ?_⟩, count⟩
  · exact sinceBase.grows.trans (count ▸ Nat.le_succ _)
  · apply forall_insert sinceBase.origin
    right
    exact sinceBase.grows

theorem Since.processTx {state result : CDeterministicMNList × LLMQMemory} (since : Since old state.1)
    (kept : state.1.WellKept) (fits : state.1.nTotalRegisteredCount.toNat + 1 < 2 ^ 32)
    (done : processTx params crypto node nHeight state tx = .ok result) :
    Since old result.1 ∧ result.1.nTotalRegisteredCount.toNat ≤ state.1.nTotalRegisteredCount.toNat + 1 := by
  rcases (processTx_ok [] kept done).1 with registers | steps
  · obtain ⟨sinceNext, count⟩ := since.registerMN kept fits registers
    exact ⟨sinceNext, count.le⟩
  · obtain ⟨sinceNext, sameCount⟩ := since.steps steps
    exact ⟨sinceNext, sameCount ▸ Nat.le_succ _⟩

theorem Since.transactions {txs : List CTransaction} {state result : CDeterministicMNList × LLMQMemory}
    (since : Since old state.1) (kept : state.1.WellKept)
    (fits : state.1.nTotalRegisteredCount.toNat + txs.length < 2 ^ 32)
    (done : txs.foldlM (Evo.processTx params crypto node nHeight) state = .ok result) :
    Since old result.1 ∧ result.1.WellKept
      ∧ result.1.nTotalRegisteredCount.toNat ≤ state.1.nTotalRegisteredCount.toNat + txs.length := by
  induction txs generalizing state with
  | nil =>
    cases done
    exact ⟨since, kept, le_rfl⟩
  | cons head tail ih =>
    rw [List.length_cons] at fits ⊢
    obtain ⟨middle, first, rest⟩ := foldlM_cons_ok.mp done
    obtain ⟨sinceMiddle, count⟩ := since.processTx kept (by omega) first
    have keptMiddle := (@processTx_steps _ _ _ _ [head] head _ _ kept List.mem_cons_self first).wellKept kept
    obtain ⟨sinceLast, keptLast, countLast⟩ := ih sinceMiddle keptMiddle (by omega) rest
    exact ⟨sinceLast, keptLast, by omega⟩

theorem Since.block {memory : LLMQMemory} {block : CBlock} {result : CDeterministicMNList × LLMQMemory}
    (kept : (node.lists node.prevHash).WellKept) (numbered : (node.lists node.prevHash).Numbered)
    (fits : (node.lists node.prevHash).nTotalRegisteredCount.toNat + block.vtx.length < 2 ^ 32)
    (accepted : buildNewListFromBlock params crypto node memory block = .ok result) :
    Since (node.lists node.prevHash) result.1
      ∧ result.1.nTotalRegisteredCount.toNat
        ≤ (node.lists node.prevHash).nTotalRegisteredCount.toNat + block.vtx.length := by
  obtain ⟨start, middle, steps, transactions, after⟩ := buildNewListFromBlock_ok [] kept accepted
  have sinceRenewed : Since (node.lists node.prevHash)
      (renewed (node.lists node.prevHash) (node.prevHeight + 1)) :=
    ⟨⟨numbered.ids, numbered.below, numbered.readable⟩, le_rfl, (Since.refl numbered).origin⟩
  obtain ⟨sinceStart, countStart⟩ := sinceRenewed.steps steps
  have shorter : block.vtx.tail.length ≤ block.vtx.length := by simp
  have sameCount : start.1.nTotalRegisteredCount
      = (node.lists node.prevHash).nTotalRegisteredCount := countStart
  obtain ⟨sinceMiddle, keptMiddle, countMiddle⟩ := sinceStart.transactions
    (steps.wellKept kept.relabel) (by rw [sameCount]; omega) transactions
  obtain ⟨sinceLast, countLast⟩ := sinceMiddle.steps (after keptMiddle)
  rw [sameCount] at countMiddle
  exact ⟨sinceLast, by rw [countLast]; omega⟩

end Since

theorem Reachable.numbered {params : SmartnodeParams} {crypto : Crypto} {history : List CTransaction}
    {list : CDeterministicMNList} (reachable : Reachable params crypto history list)
    (fits : history.length < 2 ^ 32) :
    list.Numbered ∧ list.nTotalRegisteredCount.toNat ≤ history.length := by
  induction reachable with
  | start history blockHash => exact ⟨numbered_initial blockHash, Nat.zero_le _⟩
  | @connect history node memory block result previous accepted blockHash ih =>
    rw [List.length_append] at fits ⊢
    obtain ⟨numbered, count⟩ := ih (by omega)
    obtain ⟨since, grows⟩ := Since.block previous.wellKept_rooted.1 numbered (by omega) accepted
    exact ⟨⟨since.numbered.ids, since.numbered.below, since.numbered.readable⟩, le_trans grows (by omega)⟩

/-- In every list a chain leads to, the index of unique properties and the map of internal ids
find exactly who has them, and each smartnode was registered by a transaction of the chain. -/
theorem reachable_lookups_exact {params : SmartnodeParams} {crypto : Crypto}
    {history : List CTransaction} {list : CDeterministicMNList}
    (reachable : Reachable params crypto history list) (fits : history.length < 2 ^ 32)
    (dmn : CDeterministicMN) :
    (∀ property, list.getUniquePropertyMN property = some dmn ↔
        list.getMN dmn.proTxHash = some dmn ∧ property ∈ dmn.uniqueProperties)
      ∧ (∀ id, list.getMNByInternalId id = some dmn ↔ list.getMN dmn.proTxHash = some dmn ∧ dmn.internalId = id)
      ∧ (list.getMN dmn.proTxHash = some dmn → dmn.internalId.toNat < history.length
        ∧ ∃ tx ∈ history, tx.getHash crypto.digests = dmn.proTxHash) := by
  obtain ⟨kept, rooted⟩ := reachable.wellKept_rooted
  obtain ⟨numbered, count⟩ := reachable.numbered fits
  refine ⟨fun _ => kept.getUniquePropertyMN_eq_some,
    fun _ => numbered.getMNByInternalId_eq_some kept, fun found => ?_⟩
  obtain ⟨tx, member, _, isId, -⟩ := rooted _ dmn found
  exact ⟨(numbered.below _ dmn found).trans_le count, tx, member, isId⟩

theorem laterList_lookups_exact : ∃ dmn, dmn.proTxHash = Handover.thirdHash
    ∧ Handover.laterList.getMNByInternalId dmn.internalId = some dmn := by
  have present : (Handover.laterList.getMN Handover.thirdHash).any
      (·.proTxHash == Handover.thirdHash) = true := by decide +kernel
  obtain ⟨dmn, found, isThird⟩ := (Option.any_eq_true _ _).mp present
  rw [beq_iff_eq] at isThird
  rw [← isThird] at found
  exact ⟨dmn, isThird, ((reachable_lookups_exact (Handover.built_reachable Handover.lists_reachable
    (by decide +kernel)) (by decide) dmn).2.1 _).mpr ⟨found, rfl⟩⟩

end BlackRaven.Evo
