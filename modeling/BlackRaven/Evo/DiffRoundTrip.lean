import BlackRaven.Evo.ListNumbers

/-!
Contract: `ApplyDiff` of a stored `BuildDiff`.

Owns: when the list before a block and the difference that was written for the block give
the list after it.
-/

namespace BlackRaven.Evo

open Lib
open CDeterministicMNList

/-- Two lists with the same content; the trees behind them may differ. -/
structure Same (left right : CDeterministicMNList) : Prop where
  mns : ∀ proTxHash, left.getMN proTxHash = right.getMN proTxHash
  ids : left.mnInternalIdMap = right.mnInternalIdMap
  count : left.nTotalRegisteredCount = right.nTotalRegisteredCount
  properties : left.mnUniquePropertyMap = right.mnUniquePropertyMap

theorem Same.refl (list : CDeterministicMNList) : Same list list := ⟨fun _ => rfl, rfl, rfl, rfl⟩

section Same

variable {left right : CDeterministicMNList}

theorem Same.holds (same : Same left right) {proTxHash : Uint256} {property : UniqueProperty} :
    left.Holds proTxHash property ↔ right.Holds proTxHash property := by
  unfold Holds
  rw [same.mns]

theorem Same.wellKept (same : Same left right) (kept : right.WellKept) : left.WellKept := by
  refine ⟨fun proTxHash dmn found => kept.keyed _ _ (same.mns proTxHash ▸ found),
    fun proTxHash dmn found => kept.proper proTxHash dmn (same.mns proTxHash ▸ found), ?_⟩
  rw [same.properties]
  exact kept.exact.congr fun proTxHash property => same.holds.symm

theorem Same.numbered (same : Same left right) (numbered : right.Numbered) : left.Numbered := by
  refine ⟨fun id proTxHash => ?_, fun proTxHash dmn found => ?_, fun proTxHash dmn found => ?_⟩
  · rw [same.ids, same.mns]
    exact numbered.ids id proTxHash
  · rw [same.count]
    exact numbered.below proTxHash dmn (same.mns proTxHash ▸ found)
  · exact numbered.readable proTxHash dmn (same.mns proTxHash ▸ found)

theorem Same.of_mns (leftKept : left.WellKept) (rightKept : right.WellKept) (leftNumbered : left.Numbered)
    (rightNumbered : right.Numbered) (mns : ∀ proTxHash, left.getMN proTxHash = right.getMN proTxHash)
    (count : left.nTotalRegisteredCount = right.nTotalRegisteredCount) : Same left right := by
  refine ⟨mns, funext fun id => Option.ext fun proTxHash => ?_, count, funext fun property => ?_⟩
  · rw [leftNumbered.ids, rightNumbered.ids, mns]
  · have holds : ∀ proTxHash, left.Holds proTxHash property ↔ right.Holds proTxHash property := by
      intro proTxHash
      unfold Holds
      rw [mns]
    cases held : left.mnUniquePropertyMap property with
    | none =>
      have nobody := leftKept.exact.eq_none_iff.mp held
      exact (rightKept.exact.eq_none_iff.mpr fun proTxHash => mt (holds proTxHash).mpr (nobody proTxHash)).symm
    | some entry =>
      obtain ⟨holder, count⟩ := entry
      obtain ⟨rfl, holdsLeft⟩ := leftKept.exact.held holder property count held
      exact (rightKept.exact.indexed holder property ((holds holder).mp holdsLeft)).symm

end Same

/-! ## The difference -/

section Difference

variable {old new list : CDeterministicMNList}

variable {dmn : CDeterministicMN} {entry : Uint64 × CDeterministicMNStateDiff}

theorem mem_mns_iff (kept : list.WellKept) : dmn ∈ list.mns ↔ list.getMN dmn.proTxHash = some dmn := by
  rw [mem_mns]
  constructor
  · rintro ⟨proTxHash, found⟩
    rw [kept.keyed proTxHash dmn found]
    exact found
  · exact fun found => ⟨_, found⟩

theorem mns_ids_nodup (kept : list.WellKept) (numbered : list.Numbered) :
    (list.mns.map fun dmn => dmn.internalId.toNat).Nodup := by
  refine (mns_hashes_nodup kept).of_map.map_on fun left isLeft right isRight same => ?_
  have foundLeft := (mem_mns_iff kept).mp isLeft
  have foundRight := (mem_mns_iff kept).mp isRight
  have sameHash := numbered.unique foundLeft foundRight (BitVec.eq_of_toNat_eq same)
  rw [sameHash, foundRight] at foundLeft
  exact (Option.some.inj foundLeft).symm

theorem mem_addedMNs (keptNew : new.WellKept) :
    dmn ∈ (old.buildDiff new).addedMNs ↔
      new.getMN dmn.proTxHash = some dmn ∧ old.getMN dmn.proTxHash = none := by
  unfold buildDiff
  rw [List.mem_mergeSort, List.mem_filter, mem_mns_iff keptNew, Option.isNone_iff_eq_none]

theorem addedMNs_ascending (keptNew : new.WellKept) (numbered : new.Numbered) :
    Ascending (fun dmn : CDeterministicMN => dmn.internalId.toNat) (old.buildDiff new).addedMNs := by
  have sorted : (old.buildDiff new).addedMNs.Pairwise fun a b => a.internalId.toNat ≤ b.internalId.toNat := by
    refine (List.pairwise_mergeSort ?transitive ?total _).imp of_decide_eq_true
    case transitive => simpa using fun a b c : CDeterministicMN => Nat.le_trans
    case total => simpa using fun a b : CDeterministicMN => Nat.le_total _ _
  have distinct : ((old.buildDiff new).addedMNs.map fun dmn => dmn.internalId.toNat).Nodup := by
    refine ((List.mergeSort_perm _ _).map _).nodup_iff.mpr ?_
    exact (mns_ids_nodup keptNew numbered).sublist (List.filter_sublist.map _)
  exact (List.pairwise_map.mp distinct).imp₂ (fun _ _ differs below => lt_of_le_of_ne below differs) sorted

/-- The smartnode has changed its state between the lists. -/
structure Changed (old new : CDeterministicMNList) (proTxHash : Uint256)
    (before after : CDeterministicMN) : Prop where
  foundOld : old.getMN proTxHash = some before
  foundNew : new.getMN proTxHash = some after
  differs : before.pdmnState ≠ after.pdmnState

theorem updatedMNs_ascending : Ascending updatedKey (old.buildDiff new).updatedMNs := ascending_collect _

theorem removedMns_ascending : Ascending BitVec.toNat (old.buildDiff new).removedMns := ascending_collect _

theorem updatedEntryOf_eq_some {after : CDeterministicMN} :
    old.updatedEntryOf after = some entry ↔ ∃ before, old.getMN after.proTxHash = some before
      ∧ before.pdmnState ≠ after.pdmnState
      ∧ (after.internalId, .between before.pdmnState after.pdmnState) = entry := by
  unfold updatedEntryOf
  cases found : old.getMN after.proTxHash with
  | none => simp
  | some before =>
    have marks := RecordDiff.between_fields_eq_zero dmnStateDiffAllFields_complete .blank
    simp only [CDeterministicMNStateDiff.between, ne_eq, marks, Option.ite_none_right_eq_some,
      Option.some.injEq, exists_eq_left']

theorem updatedEntries_distinct (old : CDeterministicMNList) (keptNew : new.WellKept)
    (numbered : new.Numbered) : ((new.mns.filterMap old.updatedEntryOf).map updatedKey).Nodup := by
  refine List.pairwise_map.mpr ((List.pairwise_map.mp (mns_ids_nodup keptNew numbered)).filterMap _ ?_)
  intro left right differs leftEntry isLeft rightEntry isRight
  obtain ⟨-, -, -, rfl⟩ := updatedEntryOf_eq_some.mp isLeft
  obtain ⟨-, -, -, rfl⟩ := updatedEntryOf_eq_some.mp isRight
  exact differs

theorem removedIds_distinct (new : CDeterministicMNList) (keptOld : old.WellKept) (numbered : old.Numbered) :
    (((old.mns.filter fun fromPtr => (new.getMN fromPtr.proTxHash).isNone).map
      (·.internalId)).map BitVec.toNat).Nodup := by
  rw [List.map_map]
  exact (mns_ids_nodup keptOld numbered).sublist (List.filter_sublist.map _)

theorem mem_updatedMNs (keptNew : new.WellKept) (numbered : new.Numbered) :
    entry ∈ (old.buildDiff new).updatedMNs ↔ ∃ proTxHash before after,
      Changed old new proTxHash before after
        ∧ entry = (after.internalId, .between before.pdmnState after.pdmnState) := by
  change entry ∈ collect updatedKey (new.mns.filterMap old.updatedEntryOf) ↔ _
  rw [mem_collect (updatedEntries_distinct old keptNew numbered), List.mem_filterMap]
  constructor
  · rintro ⟨after, member, isEntry⟩
    obtain ⟨before, foundOld, differs, rfl⟩ := updatedEntryOf_eq_some.mp isEntry
    exact ⟨_, before, after, ⟨foundOld, (mem_mns_iff keptNew).mp member, differs⟩, rfl⟩
  · rintro ⟨proTxHash, before, after, changed, rfl⟩
    obtain rfl := keptNew.keyed proTxHash after changed.foundNew
    exact ⟨after, (mem_mns_iff keptNew).mpr changed.foundNew,
      updatedEntryOf_eq_some.mpr ⟨before, changed.foundOld, changed.differs, rfl⟩⟩

theorem mem_removedMns (keptOld : old.WellKept) (numbered : old.Numbered) {id : Uint64} :
    id ∈ (old.buildDiff new).removedMns ↔ ∃ proTxHash before, old.getMN proTxHash = some before
      ∧ new.getMN proTxHash = none ∧ before.internalId = id := by
  change id ∈ collect BitVec.toNat _ ↔ _
  rw [mem_collect (removedIds_distinct new keptOld numbered), List.mem_map]
  constructor
  · rintro ⟨before, member, rfl⟩
    obtain ⟨isOld, gone⟩ := List.mem_filter.mp member
    exact ⟨_, before, (mem_mns_iff keptOld).mp isOld, Option.isNone_iff_eq_none.mp gone, rfl⟩
  · rintro ⟨proTxHash, before, found, gone, rfl⟩
    obtain rfl := keptOld.keyed proTxHash before found
    exact ⟨before, List.mem_filter.mpr ⟨(mem_mns_iff keptOld).mpr found,
      Option.isNone_iff_eq_none.mpr gone⟩, rfl⟩

end Difference

/-! ## Removing -/

structure SameLabels (list next : CDeterministicMNList) : Prop where
  blockHash : next.blockHash = list.blockHash
  nHeight : next.nHeight = list.nHeight

theorem SameLabels.trans {first second third : CDeterministicMNList} (left : SameLabels first second)
    (right : SameLabels second third) : SameLabels first third :=
  ⟨right.blockHash.trans left.blockHash, right.nHeight.trans left.nHeight⟩

/-- The first loop takes off the smartnodes with these ids and nobody else. -/
theorem removed_loop {ids : List Uint64} (distinct : ids.Nodup) {list : CDeterministicMNList}
    (kept : list.WellKept) (numbered : list.Numbered)
    (present : ∀ id ∈ ids, ∃ dmn, list.getMN dmn.proTxHash = some dmn ∧ dmn.internalId = id) :
    ∃ next, ids.foldlM applyRemoved list = .ok next ∧ next.WellKept ∧ next.Numbered
      ∧ (∀ proTxHash dmn, next.getMN proTxHash = some dmn ↔
        list.getMN proTxHash = some dmn ∧ dmn.internalId ∉ ids)
      ∧ next.nTotalRegisteredCount = list.nTotalRegisteredCount ∧ SameLabels list next := by
  induction ids generalizing list with
  | nil => exact ⟨list, rfl, kept, numbered, by simp, rfl, rfl, rfl⟩
  | cons head tail ih =>
    obtain ⟨notAgain, distinctTail⟩ := List.nodup_cons.mp distinct
    obtain ⟨dmn, found, rfl⟩ := present head List.mem_cons_self
    obtain ⟨index, removes, keptNext⟩ := removeMN_eq kept found
    have step : applyRemoved list dmn.internalId = .ok (list.withoutMN dmn index) := by
      unfold applyRemoved
      rw [(numbered.getMNByInternalId_eq_some kept).mpr ⟨found, rfl⟩]
      exact removes
    have lookup : ∀ proTxHash other, (list.withoutMN dmn index).getMN proTxHash = some other ↔
        list.getMN proTxHash = some other ∧ other.internalId ≠ dmn.internalId := by
      intro proTxHash other
      rw [getMN_withoutMN, Option.ite_none_left_eq_some, and_comm]
      refine and_congr_right fun foundOther => not_congr ⟨?_, numbered.unique foundOther found⟩
      rintro rfl
      exact congrArg _ (Option.mem_unique foundOther found)
    obtain ⟨next, rest, keptLast, numberedLast, lookupLast, count, labels⟩ :=
      ih distinctTail keptNext (numbered.withoutMN found index) (by
        intro id member
        obtain ⟨other, foundOther, rfl⟩ := present id (List.mem_cons_of_mem _ member)
        exact ⟨other, (lookup _ other).mpr ⟨foundOther, fun same => notAgain (same ▸ member)⟩, rfl⟩)
    refine ⟨next, ?_, keptLast, numberedLast, fun proTxHash other => ?_, count,
      labels.blockHash, labels.nHeight⟩
    · rw [List.foldlM_cons, step]
      exact rest
    · rw [lookupLast, lookup, List.mem_cons, not_or, and_assoc]

/-! ## Writing -/

/-- The smartnode of the new list has an id that was written. -/
def Written (new : CDeterministicMNList) (ids : List Uint64) (proTxHash : Uint256) : Prop :=
  ∃ dmn, new.getMN proTxHash = some dmn ∧ dmn.internalId ∈ ids

/-- A list between the remaining smartnodes and the new list: the written ones are as in
the new list, the others as they were. -/
structure Mixed (remaining new : CDeterministicMNList) (ids : List Uint64) (list : CDeterministicMNList) :
    Prop where
  kept : list.WellKept
  numbered : list.Numbered
  written : ∀ proTxHash, Written new ids proTxHash → list.getMN proTxHash = new.getMN proTxHash
  unwritten : ∀ proTxHash, ¬ Written new ids proTxHash → list.getMN proTxHash = remaining.getMN proTxHash

/-- Nobody who waits holds what the smartnode is going to hold. -/
def Unblocked (remaining new : CDeterministicMNList) (ids : List Uint64) (proTxHash : Uint256) : Prop :=
  ∀ waiting property, waiting ≠ proTxHash → ¬ Written new ids waiting → remaining.Holds waiting property →
    ¬ new.Holds proTxHash property

section Writing

variable {remaining new list next : CDeterministicMNList} {ids : List Uint64} {dmn : CDeterministicMN}

theorem written_iff {proTxHash : Uint256} (found : new.getMN proTxHash = some dmn) :
    Written new ids proTxHash ↔ dmn.internalId ∈ ids := by
  refine ⟨?_, fun member => ⟨dmn, found, member⟩⟩
  rintro ⟨other, foundOther, member⟩
  obtain rfl := Option.mem_unique found foundOther
  exact member

theorem Mixed.start (kept : remaining.WellKept) (numbered : remaining.Numbered) :
    Mixed remaining new [] remaining :=
  ⟨kept, numbered, fun _ ⟨_, _, impossible⟩ => absurd impossible List.not_mem_nil, fun _ _ => rfl⟩

variable {property : UniqueProperty} {items : List (Uint64 × CDeterministicMNStateDiff)}

section

variable (mixed : Mixed remaining new ids list)

include mixed

theorem Mixed.apart {waiting proTxHash : Uint256} (isWaiting : ¬ Written new ids waiting)
    (isWritten : Written new ids proTxHash) (holds : remaining.Holds waiting property)
    (holdsNew : new.Holds proTxHash property) :
    waiting = proTxHash := by
  refine @WellKept.unique _ property mixed.kept _ _ ?_ ?_
  · unfold Holds
    rw [mixed.unwritten waiting isWaiting]
    exact holds
  · unfold Holds
    rw [mixed.written proTxHash isWritten]
    exact holdsNew

theorem Mixed.free (keptNew : new.WellKept) {proTxHash : Uint256}
    (unblocked : Unblocked remaining new ids proTxHash) (holdsNew : new.Holds proTxHash property)
    {holder : Uint256} (differs : holder ≠ proTxHash) : ¬ list.Holds holder property := by
  intro held
  by_cases written : Written new ids holder
  · refine differs (@WellKept.unique _ property keptNew _ _ ?_ holdsNew)
    unfold Holds at held ⊢
    rw [← mixed.written holder written]
    exact held
  · refine unblocked holder property differs written ?_ holdsNew
    unfold Holds at held ⊢
    rw [← mixed.unwritten holder written]
    exact held

theorem Mixed.write (numberedNew : new.Numbered) (foundNew : new.getMN dmn.proTxHash = some dmn)
    (kept : next.WellKept) (numbered : next.Numbered) (lookup : ∀ proTxHash, next.getMN proTxHash = if
      proTxHash = dmn.proTxHash then some dmn else list.getMN proTxHash) :
    Mixed remaining new (ids ++ [dmn.internalId]) next := by
  have written_iff : ∀ proTxHash, proTxHash ≠ dmn.proTxHash →
      (Written new (ids ++ [dmn.internalId]) proTxHash ↔ Written new ids proTxHash) := by
    intro proTxHash differs
    refine exists_congr fun other => and_congr_right fun foundOther => ?_
    rw [List.mem_append, List.mem_singleton]
    exact or_iff_left fun same => differs (numberedNew.unique foundOther foundNew same)
  refine ⟨kept, numbered, fun proTxHash written => ?_, fun proTxHash waiting => ?_⟩
  · rw [lookup]
    by_cases isDmn : proTxHash = dmn.proTxHash
    · rw [if_pos isDmn, isDmn, foundNew]
    · rw [if_neg isDmn]
      exact mixed.written proTxHash ((written_iff proTxHash isDmn).mp written)
  · have isOther : proTxHash ≠ dmn.proTxHash := by
      rintro rfl
      exact waiting ⟨dmn, foundNew, List.mem_append_right _ (List.mem_singleton_self _)⟩
    rw [lookup, if_neg isOther]
    exact mixed.unwritten proTxHash (mt (written_iff proTxHash isOther).mpr waiting)

/-! ## Adding -/

theorem Mixed.added (numberedNew : new.Numbered) (foundNew : new.getMN dmn.proTxHash = some dmn)
    (done : applyAdded list dmn = .ok next) :
    dmn.internalId.toNat = list.nTotalRegisteredCount.toNat
      ∧ Mixed remaining new (ids ++ [dmn.internalId]) next
      ∧ next.nTotalRegisteredCount.toNat = list.nTotalRegisteredCount.toNat + 1
      ∧ SameLabels list next := by
  unfold applyAdded at done
  split at done
  · cases done
  · rename_i notOther
    have isNext : dmn.internalId = list.nTotalRegisteredCount.setWidth 64 := not_not.mp notOther
    obtain ⟨middle, adds, rfl⟩ := map_eq_ok.mp done
    obtain ⟨-, absent, index, rfl, keptMiddle⟩ := addMN_ok mixed.kept adds
    have number : dmn.internalId.toNat = list.nTotalRegisteredCount.toNat := by
      rw [isNext, BitVec.toNat_setWidth_of_le (by decide)]
    have fits : list.nTotalRegisteredCount.toNat + 1 < 2 ^ 32 := by
      have below := numberedNew.below _ dmn foundNew
      omega
    refine ⟨number, mixed.write numberedNew foundNew ?_ ?_ ?_, ?_, rfl, rfl⟩
    · exact keptMiddle.relabel
    · exact mixed.numbered.withMN absent isNext fits (numberedNew.readable _ dmn foundNew) index
    · exact fun proTxHash => getMN_withMN list dmn index proTxHash
    · exact Nat.mod_eq_of_lt fits

theorem Mixed.addMN_eq (keptNew : new.WellKept) (foundNew : new.getMN dmn.proTxHash = some dmn)
    (absent : list.getMN dmn.proTxHash = none) (unblocked : Unblocked remaining new ids dmn.proTxHash) :
    ∃ index, list.addMN dmn = .ok (list.withMN dmn index) ∧ (list.withMN dmn index).WellKept := by
  apply CDeterministicMNList.addMN_eq mixed.kept (keptNew.proper _ dmn foundNew) absent
  intro property member
  rw [mixed.kept.hasUniqueProperty_eq_false]
  intro holder held
  refine mixed.free keptNew unblocked ⟨dmn, foundNew, member⟩ ?_ held
  rintro rfl
  obtain ⟨other, foundOther, -⟩ := held
  rw [absent] at foundOther
  cases foundOther

/-- A round of the second loop with the right number and nobody in the way. -/
theorem Mixed.applyAdded_ok (keptNew : new.WellKept) (foundNew : new.getMN dmn.proTxHash = some dmn)
    (absent : list.getMN dmn.proTxHash = none)
    (number : dmn.internalId.toNat = list.nTotalRegisteredCount.toNat)
    (unblocked : Unblocked remaining new ids dmn.proTxHash) : ∃ next, applyAdded list dmn = .ok next := by
  have isNext : dmn.internalId = list.nTotalRegisteredCount.setWidth 64 := by
    refine BitVec.eq_of_toNat_eq ?_
    rw [number, BitVec.toNat_setWidth_of_le (by decide)]
  obtain ⟨index, adds, -⟩ := mixed.addMN_eq keptNew foundNew absent unblocked
  unfold applyAdded
  rw [if_neg (not_not_intro isNext), adds]
  exact ⟨_, rfl⟩

end

theorem Mixed.added_loop (numberedNew : new.Numbered) {items : List CDeterministicMN}
    (mixed : Mixed remaining new ids list) (inNew : ∀ dmn ∈ items, new.getMN dmn.proTxHash = some dmn)
    (done : items.foldlM applyAdded list = .ok next) :
    items.map (fun dmn => dmn.internalId.toNat)
        = List.range' list.nTotalRegisteredCount.toNat items.length
      ∧ Mixed remaining new (ids ++ items.map (·.internalId)) next
      ∧ next.nTotalRegisteredCount.toNat = list.nTotalRegisteredCount.toNat + items.length
      ∧ SameLabels list next := by
  induction items generalizing ids list with
  | nil =>
    cases done
    exact ⟨rfl, by simpa using mixed, rfl, rfl, rfl⟩
  | cons head tail ih =>
    obtain ⟨middle, first, rest⟩ := foldlM_cons_ok.mp done
    obtain ⟨number, mixedMiddle, count, labels⟩ := mixed.added numberedNew (inNew head List.mem_cons_self) first
    obtain ⟨numbers, mixedLast, countLast, labelsLast⟩ := ih mixedMiddle (List.forall_mem_cons.mp inNew).2 rest
    refine ⟨?_, by simpa using mixedLast, ?_, labels.trans labelsLast⟩
    · rw [List.map_cons, numbers, count, number, List.length_cons, List.range'_succ]
    · rw [countLast, count, List.length_cons]
      omega

theorem Mixed.added_loop_ok (keptNew : new.WellKept) (numberedNew : new.Numbered)
    (unblocked : ∀ dmn, new.getMN dmn.proTxHash = some dmn → remaining.getMN dmn.proTxHash = none →
      ∀ waiting property, remaining.Holds waiting property → ¬ new.Holds dmn.proTxHash property)
    {items : List CDeterministicMN} (mixed : Mixed remaining new ids list)
    (fresh : ∀ dmn ∈ items, new.getMN dmn.proTxHash = some dmn ∧ remaining.getMN dmn.proTxHash = none
      ∧ dmn.internalId ∉ ids)
    (numbers : items.map (fun dmn => dmn.internalId.toNat)
      = List.range' list.nTotalRegisteredCount.toNat items.length) :
    ∃ next, items.foldlM applyAdded list = .ok next := by
  induction items generalizing ids list with
  | nil => exact ⟨_, rfl⟩
  | cons head tail ih =>
    obtain ⟨foundNew, notRemaining, notWritten⟩ := fresh head List.mem_cons_self
    rw [List.map_cons, List.length_cons, List.range'_succ] at numbers
    obtain ⟨number, later⟩ := List.cons.inj numbers
    have absent : list.getMN head.proTxHash = none :=
      (mixed.unwritten _ (mt (written_iff foundNew).mp notWritten)).trans notRemaining
    obtain ⟨middle, first⟩ := mixed.applyAdded_ok keptNew foundNew absent number
      fun waiting property _ _ => unblocked head foundNew notRemaining waiting property
    obtain ⟨-, mixedMiddle, count, -⟩ := mixed.added numberedNew foundNew first
    obtain ⟨next, rest⟩ := ih mixedMiddle (by
      intro dmn member
      obtain ⟨found, notOld, notIn⟩ := fresh dmn (List.mem_cons_of_mem head member)
      refine ⟨found, notOld, fun again => ?_⟩
      rcases List.mem_append.mp again with before | isHead
      · exact notIn before
      · have above : dmn.internalId.toNat ∈ tail.map fun dmn => dmn.internalId.toNat :=
          List.mem_map_of_mem member
        rw [later, List.mem_range'_1, ← number, List.mem_singleton.mp isHead] at above
        omega) (by rw [later, count])
    exact ⟨next, bind_eq_ok.mpr ⟨middle, first, rest⟩⟩

/-! ## Updating -/

/-- The entry of a smartnode that stays and changes its state. -/
structure EntryFor (remaining new : CDeterministicMNList) (entry : Uint64 × CDeterministicMNStateDiff)
    (before after : CDeterministicMN) : Prop where
  foundOld : remaining.getMN after.proTxHash = some before
  foundNew : new.getMN after.proTxHash = some after
  same : SameSmartnode before after
  isEntry : entry = (after.internalId, .between before.pdmnState after.pdmnState)

variable {after before : CDeterministicMN} {entry : Uint64 × CDeterministicMNStateDiff}

/-- The third loop finds the old smartnode and gives it its new state. -/
theorem Mixed.applyUpdated_eq (mixed : Mixed remaining new ids list)
    (isFor : EntryFor remaining new entry before after) (waiting : entry.1 ∉ ids) :
    list.getMN after.proTxHash = some before
      ∧ applyUpdated list entry = list.updateMN before after.pdmnState := by
  obtain rfl := isFor.isEntry
  have found : list.getMN after.proTxHash = some before :=
    (mixed.unwritten _ (mt (written_iff isFor.foundNew).mp waiting)).trans isFor.foundOld
  refine ⟨found, ?_⟩
  have byId : list.getMNByInternalId after.internalId = some before := by
    rw [mixed.numbered.getMNByInternalId_eq_some mixed.kept, ← isFor.same.proTxHash]
    exact ⟨found, isFor.same.internalId.symm⟩
  have applies : (CDeterministicMNStateDiff.between before.pdmnState after.pdmnState).applyToState
      before.pdmnState = after.pdmnState :=
    RecordDiff.applyTo_between dmnStateDiffAllFields_complete .blank _ _
  unfold applyUpdated
  rw [byId]
  dsimp only
  rw [applies]

theorem Mixed.updated (mixed : Mixed remaining new ids list) (numberedNew : new.Numbered)
    (isFor : EntryFor remaining new entry before after) (waiting : entry.1 ∉ ids)
    (done : applyUpdated list entry = .ok next) :
    Mixed remaining new (ids ++ [entry.1]) next
      ∧ next.nTotalRegisteredCount = list.nTotalRegisteredCount ∧ SameLabels list next := by
  obtain ⟨found, updates⟩ := mixed.applyUpdated_eq isFor waiting
  rw [isFor.same.proTxHash] at found
  rw [updates] at done
  obtain ⟨-, index, rfl, keptNext⟩ := updateMN_ok mixed.kept found isFor.same.owner done
  obtain rfl := isFor.isEntry
  refine ⟨mixed.write numberedNew isFor.foundNew keptNext
    (mixed.numbered.withState found (fun _ => numberedNew.readable _ after isFor.foundNew) index)
    fun proTxHash => ?_, rfl, rfl, rfl⟩
  rw [getMN_withState, isFor.same.proTxHash, ← isFor.same.rest]

theorem Mixed.applyUpdated_ok (mixed : Mixed remaining new ids list) (keptNew : new.WellKept)
    (isFor : EntryFor remaining new entry before after) (waiting : entry.1 ∉ ids)
    (unblocked : Unblocked remaining new ids after.proTxHash) :
    ∃ next, applyUpdated list entry = .ok next := by
  obtain ⟨found, updates⟩ := mixed.applyUpdated_eq isFor waiting
  -- A property that is new in the state is not held by the smartnode itself.
  have nobody : ∀ {property : UniqueProperty}, property ∈ after.uniqueProperties →
      property ∉ before.uniqueProperties → ∀ holder, ¬ list.Holds holder property := by
    intro property isNew isNotOld holder held
    refine mixed.free keptNew unblocked ⟨after, isFor.foundNew, isNew⟩ ?_ held
    rintro rfl
    obtain ⟨other, foundOther, member⟩ := held
    obtain rfl := Option.mem_unique found foundOther
    exact isNotOld member
  have free : list.Free before.pdmnState after.pdmnState := by
    refine ⟨fun changes valid => nobody (CDeterministicMN.addr_mem.mpr ⟨rfl, valid⟩) ?_,
      fun changes => absurd isFor.same.owner changes,
      fun changes valid => nobody (CDeterministicMN.operator_mem.mpr ⟨rfl, valid⟩) ?_⟩
    · exact fun member => changes (CDeterministicMN.addr_mem.mp member).1.symm
    · exact fun member => changes (CDeterministicMN.operator_mem.mp member).1.symm
  rw [isFor.same.proTxHash] at found
  obtain ⟨index, runs, -⟩ := updateMN_eq mixed.kept found (keptNew.proper _ after isFor.foundNew).owner free
  exact ⟨_, updates.trans runs⟩

/-- The entries after the first one wait for an id that is not written with it either. -/
theorem waiting_after {head : Uint64 × CDeterministicMNStateDiff}
    {tail : List (Uint64 × CDeterministicMNStateDiff)} (ascends : Ascending updatedKey (head :: tail))
    (entries : ∀ entry ∈ head :: tail, entry.1 ∉ ids
      ∧ ∃ before after, EntryFor remaining new entry before after) :
    ∀ entry ∈ tail, entry.1 ∉ ids ++ [head.1] ∧ ∃ before after, EntryFor remaining new entry before after := by
  intro entry member
  obtain ⟨notIn, isEntry⟩ := entries entry (List.mem_cons_of_mem head member)
  refine ⟨fun again => ?_, isEntry⟩
  rcases List.mem_append.mp again with earlier | isHead
  · exact notIn earlier
  · have higher := (List.pairwise_cons.mp ascends).1 entry member
    unfold updatedKey at higher
    rw [List.mem_singleton.mp isHead] at higher
    exact lt_irrefl _ higher

theorem Mixed.updated_loop (numberedNew : new.Numbered) (ascends : Ascending updatedKey items)
    (mixed : Mixed remaining new ids list) (entries : ∀ entry ∈ items, entry.1 ∉ ids ∧ ∃ before after,
      EntryFor remaining new entry before after) (done : items.foldlM applyUpdated list = .ok next) :
    Mixed remaining new (ids ++ items.map Prod.fst) next
      ∧ next.nTotalRegisteredCount = list.nTotalRegisteredCount ∧ SameLabels list next := by
  induction items generalizing ids list with
  | nil =>
    cases done
    exact ⟨by simpa using mixed, rfl, rfl, rfl⟩
  | cons head tail ih =>
    obtain ⟨middle, first, rest⟩ := foldlM_cons_ok.mp done
    obtain ⟨waiting, before, after, isFor⟩ := entries head List.mem_cons_self
    obtain ⟨mixedMiddle, count, labels⟩ := mixed.updated numberedNew isFor waiting first
    obtain ⟨mixedLast, countLast, labelsLast⟩ := ih (List.pairwise_cons.mp ascends).2
      mixedMiddle (waiting_after ascends entries) rest
    exact ⟨by simpa using mixedLast, countLast.trans count, labels.trans labelsLast⟩

/-- The third loop, when whoever gives up a property comes before the one who gets it. -/
theorem Mixed.updated_loop_ok (keptNew : new.WellKept) (numberedNew : new.Numbered)
    (ascends : Ascending updatedKey items) (mixed : Mixed remaining new ids list) (entries : ∀ entry ∈
      items, entry.1 ∉ ids ∧ ∃ before after, EntryFor remaining new entry before after) (orderly : ∀
      entry ∈ items, ∀ before after, EntryFor remaining new entry before after → ∀ waiting property,
      waiting ≠ after.proTxHash → ¬ Written new ids waiting → remaining.Holds waiting property →
      new.Holds after.proTxHash property → ∃ other ∈ items, other.1.toNat < entry.1.toNat ∧ Written new
      [other.1] waiting) :
    ∃ next, items.foldlM applyUpdated list = .ok next := by
  induction items generalizing ids list with
  | nil => exact ⟨_, rfl⟩
  | cons head tail ih =>
    obtain ⟨above, tailAscends⟩ := List.pairwise_cons.mp ascends
    obtain ⟨waiting, before, after, isFor⟩ := entries head List.mem_cons_self
    obtain ⟨middle, first⟩ := mixed.applyUpdated_ok keptNew isFor waiting (by
      intro other property differs notWritten holds holdsNew
      obtain ⟨earlier, member, below, -⟩ := orderly head List.mem_cons_self before after isFor
        other property differs notWritten holds holdsNew
      rcases List.mem_cons.mp member with rfl | later
      · exact lt_irrefl _ below
      · exact lt_asymm below (above earlier later))
    obtain ⟨mixedMiddle, -, -⟩ := mixed.updated numberedNew isFor waiting first
    obtain ⟨next, rest⟩ := ih tailAscends mixedMiddle (waiting_after ascends entries) (by
      intro entry member entryBefore entryAfter isEntryFor other property differs notWritten holds holdsNew
      obtain ⟨earlier, isEarlier, below, isOther⟩ := orderly entry (List.mem_cons_of_mem head member)
        entryBefore entryAfter isEntryFor other property differs
        (fun ⟨dmn, found, written⟩ => notWritten ⟨dmn, found, List.mem_append_left _ written⟩)
        holds holdsNew
      rcases List.mem_cons.mp isEarlier with rfl | later
      · obtain ⟨dmn, found, isHead⟩ := isOther
        exact absurd ⟨dmn, found, List.mem_append_right _ isHead⟩ notWritten
      · exact ⟨earlier, later, below, isOther⟩)
    exact ⟨next, bind_eq_ok.mpr ⟨middle, first, rest⟩⟩

end Writing

end BlackRaven.Evo
