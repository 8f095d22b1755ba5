import BlackRaven.Evo.StoredDiffs

/-!
Contract: `GetListForBlock` from a snapshot and the differences that `ProcessBlock` wrote.

Owns: what is written and read back, the condition for one block, and the list of any
block of a chain that keeps to it.
-/

namespace BlackRaven.Evo

open Consensus Lib Primitives Script Handover
open CDeterministicMNList

/-! ## Sizes -/

theorem readCompactSize_refused {nSize : Nat} (large : maxSize < nSize) (word : nSize < 2 ^ 32)
    (rest : List UInt8) : readCompactSize.run (writeCompactSize nSize ++ rest) = none := by
  have top : maxSize = 33554432 := rfl
  have notByte : ¬ nSize < 253 := by omega
  have notShort : ¬ nSize ≤ 0xffff := by omega
  have long : nSize ≤ 0xffffffff := by omega
  have number := readNumber_run (show nSize < 256 ^ 4 by omega) rest
  have notTwo : ¬ nSize < 0x10000 := by omega
  unfold writeCompactSize readCompactSize
  rw [if_neg notByte, if_neg notShort, if_pos long, List.cons_append, StateT.run_bind,
    show (254 : UInt8) = UInt8.ofNat 254 from rfl, readNumber_byte (by omega)]
  simp [number, notTwo, large]

theorem vector_refused {α : Type} {codec : Codec α} {items : List α} (large : maxSize < items.length)
    (word : items.length < 2 ^ 32) {β : Type} (next : List α → Decoder β) (rest : List UInt8) :
    ((Codec.vector compactSize codec).decode >>= next).run
      ((Codec.vector compactSize codec).encode items ++ rest) = none := by
  have sizes := readCompactSize_refused large word (items.flatMap codec.encode ++ rest)
  change ((compactSize.decode >>= codec.decodeMany).run
    (writeCompactSize items.length ++ items.flatMap codec.encode ++ rest) >>= _) = none
  rw [StateT.run_bind, List.append_assoc]
  change ((readCompactSize.run (writeCompactSize items.length ++ _) >>= _) >>= _) = none
  rw [sizes]
  rfl

/-- No more smartnodes come, change or go than a reader takes. -/
structure Sizable (old new : CDeterministicMNList) : Prop where
  added : (new.mns.countP fun dmn => (old.getMN dmn.proTxHash).isNone) ≤ maxSize
  updated : (new.mns.countP fun dmn => (old.getMN dmn.proTxHash).any fun before =>
    decide (before.pdmnState ≠ dmn.pdmnState)) ≤ maxSize
  removed : (old.mns.countP fun dmn => (new.getMN dmn.proTxHash).isNone) ≤ maxSize

section Stored

variable {old new : CDeterministicMNList}

section

variable (keptOld : old.WellKept) (numberedOld : old.Numbered) (keptNew : new.WellKept)

include keptOld numberedOld keptNew

theorem sizable_iff (numberedNew : new.Numbered) :
    Sizable old new ↔ (old.buildDiff new).addedMNs.length ≤ maxSize
      ∧ (old.buildDiff new).updatedMNs.length ≤ maxSize
      ∧ (old.buildDiff new).removedMns.length ≤ maxSize := by
  have added : (old.buildDiff new).addedMNs.length
      = new.mns.countP fun dmn => (old.getMN dmn.proTxHash).isNone := by
    unfold buildDiff
    rw [List.length_mergeSort, List.countP_eq_length_filter]
  have updated : (old.buildDiff new).updatedMNs.length
      = new.mns.countP fun dmn => (old.getMN dmn.proTxHash).any fun before =>
        decide (before.pdmnState ≠ dmn.pdmnState) := by
    unfold buildDiff
    rw [length_collect (updatedEntries_distinct old keptNew numberedNew), List.length_filterMap_eq_countP]
    refine List.countP_congr fun after _ => ?_
    rw [Option.isSome_iff_exists, Option.any_eq_true]
    simp only [updatedEntryOf_eq_some, decide_eq_true_eq]
    exact ⟨fun ⟨_, before, found, differs, _⟩ => ⟨before, found, differs⟩,
      fun ⟨before, found, differs⟩ => ⟨_, before, found, differs, rfl⟩⟩
  have removed : (old.buildDiff new).removedMns.length
      = old.mns.countP fun dmn => (new.getMN dmn.proTxHash).isNone := by
    unfold buildDiff
    rw [length_collect (removedIds_distinct new keptOld numberedOld), List.length_map,
      List.countP_eq_length_filter]
  rw [added, updated, removed]
  exact ⟨fun sizable => ⟨sizable.added, sizable.updated, sizable.removed⟩,
    fun ⟨added, updated, removed⟩ => ⟨added, updated, removed⟩⟩

/-- A difference has no more entries than there were registrations. -/
theorem buildDiff_lengths (numberedNew : new.Numbered) :
    (old.buildDiff new).addedMNs.length ≤ new.nTotalRegisteredCount.toNat
      ∧ (old.buildDiff new).updatedMNs.length ≤ new.nTotalRegisteredCount.toNat
      ∧ (old.buildDiff new).removedMns.length ≤ old.nTotalRegisteredCount.toNat := by
  refine ⟨(addedMNs_ascending keptNew numberedNew).length_le fun dmn member => ?_,
    updatedMNs_ascending.length_le fun entry member => ?_,
    removedMns_ascending.length_le fun id member => ?_⟩
  · exact numberedNew.below _ dmn ((mem_addedMNs keptNew).mp member).1
  · obtain ⟨proTxHash, before, after, changed, rfl⟩ := (mem_updatedMNs keptNew numberedNew).mp member
    exact numberedNew.below proTxHash after changed.foundNew
  · obtain ⟨proTxHash, before, found, -, rfl⟩ := (mem_removedMns keptOld numberedOld).mp member
    exact numberedOld.below proTxHash before found

/-- A difference that is too large belongs to a list with registrations. -/
theorem registered_of_large (since : Since old new) (large : ¬ Sizable old new) :
    new.nTotalRegisteredCount ≠ 0 := by
  intro none
  obtain ⟨added, updated, removed⟩ := buildDiff_lengths keptOld numberedOld keptNew since.numbered
  have grows := since.grows
  have zero : new.nTotalRegisteredCount.toNat = 0 := congrArg BitVec.toNat none
  refine large ((sizable_iff keptOld numberedOld keptNew since.numbered).mpr ⟨?_, ?_, ?_⟩) <;> omega

/-- The difference is read back exactly if it has no more entries than a reader takes. -/
theorem listDiff_read (numberedNew : new.Numbered) :
    (Sizable old new → listDiff.decode.run (listDiff.encode (old.buildDiff new))
        = some (old.buildDiff new, []))
      ∧ (¬ Sizable old new → listDiff.decode.run (listDiff.encode (old.buildDiff new)) = none) := by
  have addedReadable : ∀ dmn ∈ (old.buildDiff new).addedMNs, smartnode.Admissible dmn := fun dmn member =>
    numberedNew.readable _ dmn ((mem_addedMNs keptNew).mp member).1
  have updatedReadable : ∀ entry ∈ (old.buildDiff new).updatedMNs, updatedEntry.Admissible entry := by
    intro entry member
    obtain ⟨proTxHash, before, after, changed, rfl⟩ := (mem_updatedMNs keptNew numberedNew).mp member
    exact stateDiff_admissible _ (numberedNew.readable proTxHash after changed.foundNew)
  obtain ⟨addedCount, updatedCount, removedCount⟩ := buildDiff_lengths keptOld numberedOld keptNew numberedNew
  have addedWord := addedCount.trans_lt new.nTotalRegisteredCount.isLt
  have updatedWord := updatedCount.trans_lt new.nTotalRegisteredCount.isLt
  have removedWord := removedCount.trans_lt old.nTotalRegisteredCount.isLt
  rw [sizable_iff keptOld numberedOld keptNew numberedNew]
  constructor
  · rintro ⟨addedFew, updatedFew, removedFew⟩
    have reads := listDiff.decode_encode (old.buildDiff new) []
      ⟨⟨addedFew, addedReadable⟩, ⟨updatedFew, updatedReadable⟩,
        ⟨removedFew, fun _ _ => trivial⟩, updatedMNs_ascending, removedMns_ascending⟩
    rwa [List.append_nil] at reads
  · intro tooLarge
    have bytes : listDiff.encode (old.buildDiff new)
        = (Codec.vector compactSize smartnode).encode (old.buildDiff new).addedMNs
          ++ ((Codec.vector compactSize updatedEntry).encode (old.buildDiff new).updatedMNs
          ++ ((Codec.vector compactSize varInt64).encode (old.buildDiff new).removedMns ++ [])) := by
      rw [List.append_nil]
      exact List.append_assoc _ _ _
    rw [bytes]
    by_cases added : (old.buildDiff new).addedMNs.length ≤ maxSize
    swap
    · exact vector_refused (not_le.mp added) addedWord _ _
    change ((Codec.vector compactSize smartnode).decode >>= _).run _ = none
    have addedFits : (Codec.vector compactSize smartnode).Admissible (old.buildDiff new).addedMNs :=
      ⟨added, addedReadable⟩
    rw [Codec.run_bind_encode _ _ _ _ addedFits]
    by_cases updated : (old.buildDiff new).updatedMNs.length ≤ maxSize
    swap
    · exact vector_refused (not_le.mp updated) updatedWord _ _
    have updatedFits : (Codec.vector compactSize updatedEntry).Admissible (old.buildDiff new).updatedMNs :=
      ⟨updated, updatedReadable⟩
    rw [Codec.run_bind_encode _ _ _ _ updatedFits]
    refine vector_refused (not_le.mp fun removed => ?_) removedWord _ _
    exact tooLarge ⟨added, updated, removed⟩

end

end Stored

/-! ## Snapshots -/

namespace CDeterministicMNList

/-- `Serialize`. The order of the map is that of the tree. -/
def serialize (list : CDeterministicMNList) : Bytes :=
  u256.encode list.blockHash ++ int32.encode list.nHeight ++ u32.encode list.nTotalRegisteredCount
    ++ (Codec.vector compactSize smartnode).encode list.mns

def vacant (blockHash : Uint256) (nHeight : Int32) (nTotalRegisteredCount : Uint32) :
    CDeterministicMNList :=
  { initial blockHash with nHeight := nHeight, nTotalRegisteredCount := nTotalRegisteredCount }

def unserialize : Decoder (Except String CDeterministicMNList) := do
  let blockHash ← u256.decode
  let nHeight ← int32.decode
  let nTotalRegisteredCount ← u32.decode
  let mns ← (Codec.vector compactSize smartnode).decode
  return mns.foldlM addMN (vacant blockHash nHeight nTotalRegisteredCount)

end CDeterministicMNList

section Snapshots

variable {list read : CDeterministicMNList}

variable (blockHash : Uint256) (nHeight : Int32) (nTotalRegisteredCount : Uint32)

theorem getMN_vacant (proTxHash : Uint256) :
    (vacant blockHash nHeight nTotalRegisteredCount).getMN proTxHash = none :=
  Std.TreeMap.getElem?_emptyc

theorem mixed_vacant :
    Mixed (vacant blockHash nHeight nTotalRegisteredCount) list []
      (vacant blockHash nHeight nTotalRegisteredCount) := by
  refine .start ((wellKept_initial blockHash).relabel) ⟨(numbered_initial blockHash).ids, ?_, ?_⟩
  all_goals
    intro proTxHash dmn found
    cases found

theorem snapshot_loop (kept : list.WellKept) (numbered : list.Numbered)
    {remaining : CDeterministicMNList} (empty : ∀ proTxHash, remaining.getMN proTxHash = none)
    {items : List CDeterministicMN} {ids : List Uint64} {read : CDeterministicMNList}
    (mixed : Mixed remaining list ids read)
    (members : ∀ dmn ∈ items, list.getMN dmn.proTxHash = some dmn ∧ dmn.internalId ∉ ids)
    (distinct : (items.map (·.proTxHash)).Nodup)
    (count : read.nTotalRegisteredCount = list.nTotalRegisteredCount) :
    ∃ next, items.foldlM addMN read = .ok next
      ∧ Mixed remaining list (ids ++ items.map (·.internalId)) next
      ∧ next.nTotalRegisteredCount = list.nTotalRegisteredCount ∧ SameLabels read next := by
  induction items generalizing ids read with
  | nil => exact ⟨_, rfl, by simpa using mixed, count, rfl, rfl⟩
  | cons head tail ih =>
    obtain ⟨found, notYet⟩ := members head List.mem_cons_self
    rw [List.map_cons, List.nodup_cons] at distinct
    obtain ⟨notAgain, distinctTail⟩ := distinct
    have absent : read.getMN head.proTxHash = none :=
      (mixed.unwritten _ (mt (written_iff found).mp notYet)).trans (empty _)
    have holder_in : ∀ {proTxHash : Uint256} {other : CDeterministicMN},
        read.getMN proTxHash = some other → list.getMN proTxHash = some other := by
      intro proTxHash other foundOther
      by_cases written : Written list ids proTxHash
      · exact (mixed.written _ written).symm.trans foundOther
      · rw [mixed.unwritten _ written, empty] at foundOther
        cases foundOther
    obtain ⟨index, adds, keptNext⟩ := mixed.addMN_eq kept found absent (by
      rintro waiting property - - ⟨other, foundOther, -⟩
      rw [empty] at foundOther
      cases foundOther)
    have numberedNext : (read.withMN head index).Numbered := by
      refine mixed.numbered.inserted absent (fun proTxHash other foundOther sameId => ?_) ?_
        (numbered.readable _ head found) index
      · rw [numbered.unique (holder_in foundOther) found sameId, absent] at foundOther
        cases foundOther
      · rw [count]
        exact numbered.below _ head found
    obtain ⟨next, rest, mixedLast, countLast, labels⟩ := ih
      (mixed.write numbered found keptNext numberedNext (getMN_withMN read head index))
      (fun dmn member => by
        obtain ⟨foundDmn, notIn⟩ := members dmn (List.mem_cons_of_mem head member)
        refine ⟨foundDmn, ?_⟩
        rw [List.mem_append, List.mem_singleton, not_or]
        refine ⟨notIn, fun sameId => notAgain ?_⟩
        rw [← numbered.unique foundDmn found sameId]
        exact List.mem_map_of_mem member)
      distinctTail count
    refine ⟨next, ?_, ?_, countLast, labels.blockHash, labels.nHeight⟩
    · rw [List.foldlM_cons, adds]
      exact rest
    · simpa using mixedLast

theorem unserialize_serialize (kept : list.WellKept) (numbered : list.Numbered)
    (sizable : list.mns.length ≤ maxSize) :
    ∃ read, unserialize.run list.serialize = some (.ok read, []) ∧ Same read list ∧ SameLabels list read := by
  obtain ⟨read, runs, mixed, count, labels⟩ := snapshot_loop kept numbered
    (getMN_vacant list.blockHash list.nHeight list.nTotalRegisteredCount)
    (mixed_vacant list.blockHash list.nHeight list.nTotalRegisteredCount)
    (fun dmn member => ⟨(mem_mns_iff kept).mp member, List.not_mem_nil⟩) (mns_hashes_nodup kept) rfl
  have complete : ∀ proTxHash, read.getMN proTxHash = list.getMN proTxHash := by
    intro proTxHash
    by_cases written : Written list ([] ++ list.mns.map (·.internalId)) proTxHash
    · exact mixed.written _ written
    · rw [mixed.unwritten _ written, getMN_vacant]
      cases found : list.getMN proTxHash with
      | none => rfl
      | some dmn =>
        exact absurd ⟨dmn, found, List.mem_map_of_mem (mem_mns.mpr ⟨proTxHash, found⟩)⟩ written
  have admissible : (Codec.vector compactSize smartnode).Admissible list.mns :=
    ⟨sizable, fun dmn member => numbered.readable _ dmn ((mem_mns_iff kept).mp member)⟩
  refine ⟨read, ?_, .of_mns mixed.kept kept mixed.numbered numbered complete count,
    labels.blockHash, labels.nHeight⟩
  unfold unserialize CDeterministicMNList.serialize
  rw [← List.append_nil (Codec.encode _ list.mns), List.append_assoc, List.append_assoc,
    u256.run_bind_encode _ _ _ trivial, int32.run_bind_encode _ _ _ trivial,
    u32.run_bind_encode _ _ _ trivial, Codec.run_bind_encode _ _ _ _ admissible, runs]
  rfl

end Snapshots

/-! ## One block -/

/-- What `ProcessBlock` writes for a block: its hash, its height and the bytes of the
difference. -/
structure StoredDiff where
  blockHash : Uint256
  nHeight : Int32
  bytes : Bytes

def storedDiff (old new : CDeterministicMNList) (nHeight : Int32) : StoredDiff :=
  ⟨new.blockHash, nHeight, listDiff.encode (old.buildDiff new)⟩

def CDeterministicMNListDiff.hasChanges (diff : CDeterministicMNListDiff) : Bool :=
  !diff.addedMNs.isEmpty || !diff.updatedMNs.isEmpty || !diff.removedMns.isEmpty

/-- A block of `GetListForBlock`. A difference without changes only moves the list to its
block; one that cannot be read counts as none, and its block gets the initial list. -/
def applyStored (snapshot : CDeterministicMNList) (stored : StoredDiff) :
    Except String CDeterministicMNList :=
  match listDiff.decode.run stored.bytes with
  | some (diff, _) =>
    if diff.hasChanges then snapshot.applyDiff stored.blockHash stored.nHeight diff
    else .ok { snapshot with blockHash := stored.blockHash, nHeight := stored.nHeight }
  | none => .ok (initial stored.blockHash)

theorem applyDiff_unchanged (snapshot : CDeterministicMNList) (blockHash : Uint256) (nHeight : Int32)
    {diff : CDeterministicMNListDiff} (unchanged : diff.hasChanges = false) :
    snapshot.applyDiff blockHash nHeight diff
      = .ok { snapshot with blockHash := blockHash, nHeight := nHeight } := by
  obtain ⟨addedMNs, updatedMNs, removedMns⟩ := diff
  simp only [CDeterministicMNListDiff.hasChanges, Bool.or_eq_false_iff, Bool.not_eq_false',
    List.isEmpty_iff] at unchanged
  obtain ⟨⟨rfl, rfl⟩, rfl⟩ := unchanged
  rfl

/-- From any list with the content of the old one, the stored difference gives the new
one. -/
def Rebuilds (old new : CDeterministicMNList) (nHeight : Int32) : Prop :=
  ∀ base, Same base old → ∃ rebuilt, applyStored base (storedDiff old new nHeight) = .ok rebuilt
    ∧ Same rebuilt new ∧ SameLabels new rebuilt

structure Diffable (old new : CDeterministicMNList) : Prop where
  sizable : Sizable old new
  survive : Survive old new
  orderly : Orderly old new

theorem rebuilds_iff {old new : CDeterministicMNList} (keptOld : old.WellKept) (numberedOld : old.Numbered)
    (keptNew : new.WellKept) (since : Since old new) :
    Rebuilds old new new.nHeight ↔ Diffable old new := by
  obtain ⟨reads, refuses⟩ := listDiff_read keptOld numberedOld keptNew since.numbered
  have stored : ∀ base, Sizable old new → applyStored base (storedDiff old new new.nHeight)
      = base.applyDiff new.blockHash new.nHeight (old.buildDiff new) := by
    intro base sizable
    unfold applyStored storedDiff
    rw [reads sizable]
    dsimp only
    split
    · rfl
    · rename_i unchanged
      exact (applyDiff_unchanged base _ _ (Bool.eq_false_iff.mpr unchanged)).symm
  constructor
  · intro rebuilds
    by_cases sizable : Sizable old new
    · obtain ⟨rebuilt, runs, same, labels⟩ := rebuilds old (.refl old)
      rw [stored old sizable] at runs
      obtain ⟨survive, orderly⟩ := (applyDiff_iff (.refl old) keptOld numberedOld keptNew since).mp
        ⟨rebuilt, runs, same, labels⟩
      exact ⟨sizable, survive, orderly⟩
    · obtain ⟨rebuilt, runs, same, -⟩ := rebuilds old (.refl old)
      unfold applyStored storedDiff at runs
      rw [refuses sizable] at runs
      cases runs
      exact absurd same.count.symm (registered_of_large keptOld numberedOld keptNew since sizable)
  · intro diffable base sameBase
    rw [stored base diffable.sizable]
    exact (applyDiff_iff sameBase keptOld numberedOld keptNew since).mpr ⟨diffable.survive, diffable.orderly⟩

/-! ## The chain -/

theorem ListSteps.nHeight {crypto : Crypto} {nHeight : Int32} {txs : List CTransaction}
    {list next : CDeterministicMNList} (steps : ListSteps crypto nHeight txs list next) :
    next.nHeight = list.nHeight := by
  induction steps with
  | refl => rfl
  | tail _ step ih =>
    refine Eq.trans ?_ ih
    cases step with
    | state => rfl
    | remove => rfl
    | register => rfl

/-- A snapshot and what was stored for the blocks after it, all of which kept to the
condition; with the transactions of the chain and the list of its last block. -/
inductive StoredChain (params : SmartnodeParams) (crypto : Crypto) (snapshot : CDeterministicMNList) :
    List CTransaction → List StoredDiff → CDeterministicMNList → Prop
  | snapshot {history : List CTransaction} (reachable : Reachable params crypto history snapshot) :
      StoredChain params crypto snapshot history [] snapshot
  | connect {history : List CTransaction} {stored : List StoredDiff} {node : NodeView}
      {memory : LLMQMemory} {block : CBlock} {result : CDeterministicMNList × LLMQMemory}
      {blockHash : Uint256}
      (previous : StoredChain params crypto snapshot history stored (node.lists node.prevHash))
      (accepted : buildNewListFromBlock params crypto node memory block = .ok result)
      (diffable : Diffable (node.lists node.prevHash) { result.1 with blockHash := blockHash }) :
      StoredChain params crypto snapshot (history ++ block.vtx)
        (stored ++ [storedDiff (node.lists node.prevHash) { result.1 with blockHash := blockHash }
          (node.prevHeight + 1)]) { result.1 with blockHash := blockHash }

section Chain

variable {params : SmartnodeParams} {crypto : Crypto} {snapshot list : CDeterministicMNList}
  {history : List CTransaction} {stored : List StoredDiff} {node : NodeView} {memory : LLMQMemory}
  {block : CBlock} {result : CDeterministicMNList × LLMQMemory}

theorem StoredChain.reachable (chain : StoredChain params crypto snapshot history stored list) :
    Reachable params crypto history list := by
  induction chain with
  | snapshot reachable => exact reachable
  | @connect history stored node memory block result blockHash _ accepted _ ih =>
    exact .connect ih accepted blockHash

theorem block_rebuilds_iff (reachable : Reachable params crypto history (node.lists node.prevHash))
    (fits : (history ++ block.vtx).length < 2 ^ 32)
    (accepted : buildNewListFromBlock params crypto node memory block = .ok result) (blockHash : Uint256) :
    Rebuilds (node.lists node.prevHash) { result.1 with blockHash := blockHash } (node.prevHeight + 1) ↔
      Diffable (node.lists node.prevHash) { result.1 with blockHash := blockHash } := by
  rw [List.length_append] at fits
  have keptOld := reachable.wellKept_rooted.1
  obtain ⟨numberedOld, count⟩ := reachable.numbered (by omega)
  obtain ⟨since, -⟩ := Since.block keptOld numberedOld (by omega) accepted
  have height : result.1.nHeight = node.prevHeight + 1 := (buildNewListFromBlock_steps keptOld accepted).nHeight
  have rebuilds := @rebuilds_iff _ { result.1 with blockHash := blockHash } keptOld numberedOld
    (buildNewListFromBlock_wellKept keptOld accepted).relabel
    ⟨⟨since.numbered.ids, since.numbered.below, since.numbered.readable⟩, since.grows, since.origin⟩
  rw [← height]
  exact rebuilds

section

variable (chain : StoredChain params crypto snapshot history stored list)

include chain

/-- Along a chain that keeps to the condition, the differences take the content of the
snapshot to that of the last block. -/
theorem StoredChain.replay (fits : history.length < 2 ^ 32) {base : CDeterministicMNList}
    (sameBase : Same base snapshot) :
    ∃ rebuilt, stored.foldlM applyStored base = .ok rebuilt ∧ Same rebuilt list := by
  induction chain with
  | snapshot => exact ⟨base, rfl, sameBase⟩
  | @connect history stored node memory block result blockHash previous accepted diffable ih =>
    have shorter : history.length < 2 ^ 32 := by
      rw [List.length_append] at fits
      omega
    obtain ⟨before, runs, same⟩ := ih shorter
    obtain ⟨rebuilt, last, sameLast, -⟩ :=
      (block_rebuilds_iff previous.reachable fits accepted blockHash).mpr diffable before same
    refine ⟨rebuilt, ?_, sameLast⟩
    rw [List.foldlM_append, runs]
    change applyStored before _ >>= _ = _
    rw [last]
    rfl

theorem StoredChain.origin :
    ∃ earlier later, history = earlier ++ later ∧ Reachable params crypto earlier snapshot := by
  induction chain with
  | @snapshot history reachable => exact ⟨history, [], (List.append_nil _).symm, reachable⟩
  | @connect history stored node memory block result blockHash _ _ _ ih =>
    obtain ⟨earlier, later, rfl, reachable⟩ := ih
    exact ⟨earlier, later ++ block.vtx, List.append_assoc _ _ _, reachable⟩

theorem StoredChain.rebuild (fits : history.length < 2 ^ 32) (sizable : snapshot.mns.length ≤ maxSize) :
    ∃ read rebuilt, unserialize.run snapshot.serialize = some (.ok read, [])
      ∧ stored.foldlM applyStored read = .ok rebuilt ∧ Same rebuilt list := by
  obtain ⟨earlier, later, isHistory, reachable⟩ := chain.origin
  have shorter : earlier.length < 2 ^ 32 := by
    rw [isHistory, List.length_append] at fits
    omega
  obtain ⟨read, reads, sameRead, -⟩ := unserialize_serialize reachable.wellKept_rooted.1
    (reachable.numbered shorter).1 sizable
  obtain ⟨rebuilt, replays, same⟩ := chain.replay fits sameRead
  exact ⟨read, rebuilt, reads, replays, same⟩

end

/-- The stored difference of an accepted block rebuilds its list exactly if the block keeps
to the condition; then `GetListForBlock` rebuilds it from any snapshot of a chain that
does. -/
theorem stored_diff_rebuilds_iff
    (reachable : Reachable params crypto history (node.lists node.prevHash))
    (fits : (history ++ block.vtx).length < 2 ^ 32)
    (accepted : buildNewListFromBlock params crypto node memory block = .ok result) (blockHash : Uint256) :
    (Rebuilds (node.lists node.prevHash) { result.1 with blockHash := blockHash } (node.prevHeight + 1) ↔
        Diffable (node.lists node.prevHash) { result.1 with blockHash := blockHash })
      ∧ (Diffable (node.lists node.prevHash) { result.1 with blockHash := blockHash } →
        ∀ snapshot stored, StoredChain params crypto snapshot history stored (node.lists node.prevHash) →
          snapshot.mns.length ≤ maxSize →
          ∃ read rebuilt, unserialize.run snapshot.serialize = some (.ok read, [])
            ∧ (stored ++ [storedDiff (node.lists node.prevHash)
              { result.1 with blockHash := blockHash } (node.prevHeight + 1)]).foldlM applyStored read
                = .ok rebuilt
            ∧ Same rebuilt { result.1 with blockHash := blockHash }) :=
  ⟨block_rebuilds_iff reachable fits accepted blockHash, fun diffable _ _ chain sizable =>
    (StoredChain.connect chain accepted diffable).rebuild fits sizable⟩

end Chain

/-! ## A smartnode of one block -/

namespace Handover

/-- Spends the collateral of the first registration. -/
def spending : CTransaction :=
  .plain [⟨⟨firstHash, 0⟩, [], 0xffffffff, []⟩] [⟨9 * coin, payToPubkeyHash (u160.encode 0xc0)⟩]

def briefBlock : CBlock := block [coinbase [0xb0, 1], first, spending]

/-- The registration of a smartnode whose collateral is spent in the same block is counted
in the list and not in the rebuilt one. -/
theorem briefBlock_not_rebuilt :
    ∃ result, build 432 initial briefBlock = .ok result
      ∧ Reachable regTestSmartnodeParams crypto [] (initial 431)
      ∧ ¬ Rebuilds (initial 431) { result.1 with blockHash := 432 } 432 := by
  -- the count of the rebuilt list against that of the built one
  have lost : (build 432 initial briefBlock).toOption.any (fun result => (applyStored (initial 431)
      (storedDiff (initial 431) { result.1 with blockHash := 432 } 432)).toOption.all
        (·.nTotalRegisteredCount != result.1.nTotalRegisteredCount)) = true := by decide +kernel
  obtain ⟨result, builds, lost⟩ := toOption_any.mp lost
  refine ⟨result, builds, .start [] 431, fun rebuilds => ?_⟩
  obtain ⟨rebuilt, runs, same, -⟩ := rebuilds (initial 431) (.refl _)
  rw [runs] at lost
  exact absurd same.count (bne_iff_ne.mp lost)

end Handover

/-- The difference of the block that registers two more smartnodes rebuilds its list. -/
theorem stored_diff_rebuilds_laterBlock : Rebuilds (lists 432) laterList 433 := by
  have accepted : (build 433 lists laterBlock).toOption.isSome = true := by decide +kernel
  obtain ⟨result, builds⟩ := toOption_isSome.mp accepted
  have isList : laterList = { result.1 with blockHash := 433 } := by
    unfold laterList built
    rw [builds]
    rfl
  have height : (node 433 lists).prevHeight + 1 = 433 := by decide +kernel
  have iff := (stored_diff_rebuilds_iff lists_reachable (by decide) builds 433).1
  rw [← isList, node_previous, height] at iff
  refine iff.mpr ⟨⟨?_, ?_, ?_⟩, ?_, ?_⟩
  any_goals exact List.countP_le_length.trans (by decide +kernel)
  · intro id least below
    have registered : ∀ id < laterList.nTotalRegisteredCount.toNat, (lists 432).nTotalRegisteredCount.toNat ≤ id →
        ∃ entry ∈ laterList.mnMap.toList, (lists 432).getMN entry.1 = none ∧ entry.2.internalId.toNat = id := by
      decide +kernel
    obtain ⟨entry, member, absent, isId⟩ := registered id below least
    exact ⟨entry.1, entry.2, Std.TreeMap.mem_toList_iff_getElem?_eq_some.mp member, absent, isId⟩
  · rintro giver taker property other ⟨before, isGiver, gives⟩ - ⟨after, isTaker, takes⟩
    have apart : ∀ old ∈ (lists 432).mnMap.toList, ∀ new ∈ laterList.mnMap.toList, old.1 ≠ new.1 →
        ∀ property ∈ old.2.uniqueProperties, property ∉ new.2.uniqueProperties := by decide +kernel
    exact absurd takes (apart (giver, before) (Std.TreeMap.mem_toList_iff_getElem?_eq_some.mpr isGiver)
      (taker, after) (Std.TreeMap.mem_toList_iff_getElem?_eq_some.mpr isTaker) other property gives)

end BlackRaven.Evo
