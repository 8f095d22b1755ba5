import BlackRaven.Evo.DiffRoundTrip

/-!
Contract: rebuilding the list of a block from the list before it and the stored
difference.

Owns: the condition under which this gives the list that `BuildNewListFromBlock` built, for
one block and for a chain of them.
-/

namespace BlackRaven.Evo

open Lib
open CDeterministicMNList

/-- Every id that was given out belongs to a smartnode that is in the new list and was not
in the old one. -/
def Survive (old new : CDeterministicMNList) : Prop :=
  ∀ id, old.nTotalRegisteredCount.toNat ≤ id → id < new.nTotalRegisteredCount.toNat →
    ∃ proTxHash dmn, new.getMN proTxHash = some dmn ∧ old.getMN proTxHash = none ∧ dmn.internalId.toNat = id

/-- A property that passes from a smartnode that stays to another one passes to an old one
with a higher id. -/
def Orderly (old new : CDeterministicMNList) : Prop :=
  ∀ giver taker property, giver ≠ taker → old.Holds giver property → new.hasMN giver = true →
    new.Holds taker property → ∃ before after, old.getMN giver = some before
      ∧ old.getMN taker = some after ∧ before.internalId.toNat < after.internalId.toNat

section Apply

variable {base old new : CDeterministicMNList}

variable {proTxHash : Uint256} {property : UniqueProperty}

theorem Survive.same (survive : Survive old new) (since : Since old new)
    {before after : CDeterministicMN} (foundOld : old.getMN proTxHash = some before)
    (foundNew : new.getMN proTxHash = some after) : SameSmartnode before after := by
  rcases since.origin proTxHash after foundNew with ⟨other, foundOther, same⟩ | late
  · obtain rfl := Option.mem_unique foundOld foundOther
    exact same
  · obtain ⟨other, dmn, found, absent, sameId⟩ := survive after.internalId.toNat late
      (since.numbered.below proTxHash after foundNew)
    obtain rfl := since.numbered.unique found foundNew (BitVec.eq_of_toNat_eq sameId)
    rw [foundOld] at absent
    cases absent

/-- What is left after the first loop: the old smartnodes that stay. -/
structure Remains (old new remaining : CDeterministicMNList) : Prop where
  kept : remaining.WellKept
  numbered : remaining.Numbered
  lookup : ∀ proTxHash dmn, remaining.getMN proTxHash = some dmn ↔
    old.getMN proTxHash = some dmn ∧ new.hasMN proTxHash = true
  count : remaining.nTotalRegisteredCount = old.nTotalRegisteredCount

theorem removed_phase (same : Same base old) (keptOld : old.WellKept) (numberedOld : old.Numbered)
    (blockHash : Uint256) (nHeight : Int32) :
    ∃ remaining, (old.buildDiff new).removedMns.foldlM applyRemoved
          { base with blockHash := blockHash, nHeight := nHeight } = .ok remaining
      ∧ Remains old new remaining ∧ remaining.blockHash = blockHash ∧ remaining.nHeight = nHeight := by
  have distinct : (old.buildDiff new).removedMns.Nodup :=
    removedMns_ascending.imp fun below same => absurd (congrArg BitVec.toNat same) below.ne
  have keptBase := same.wellKept keptOld
  have numberedBase := same.numbered numberedOld
  obtain ⟨remaining, runs, kept, numbered, lookup, count, labels⟩ := removed_loop distinct
    (@WellKept.relabel _ keptBase blockHash nHeight _)
    ⟨numberedBase.ids, numberedBase.below, numberedBase.readable⟩ (by
      intro id member
      obtain ⟨proTxHash, before, found, -, isId⟩ := (mem_removedMns keptOld numberedOld).mp member
      obtain rfl := keptOld.keyed proTxHash before found
      exact ⟨before, (same.mns before.proTxHash).trans found, isId⟩)
  refine ⟨remaining, runs, ⟨kept, numbered, fun proTxHash dmn => ?_, count.trans same.count⟩,
    labels.blockHash, labels.nHeight⟩
  rw [lookup]
  change base.getMN proTxHash = some dmn ∧ _ ↔ _
  rw [same.mns]
  refine and_congr_right fun found => ?_
  rw [mem_removedMns keptOld numberedOld]
  constructor
  · intro stays
    by_contra gone
    exact stays ⟨proTxHash, dmn, found, by simpa [hasMN] using gone, rfl⟩
  · rintro stays ⟨other, before, foundOther, gone, sameId⟩
    obtain rfl := numberedOld.unique foundOther found sameId
    simp [hasMN, gone] at stays

variable {remaining middle last : CDeterministicMNList}

theorem Remains.holds (remains : Remains old new remaining) :
    remaining.Holds proTxHash property ↔ old.Holds proTxHash property ∧ new.hasMN proTxHash = true := by
  constructor
  · rintro ⟨dmn, found, member⟩
    obtain ⟨foundOld, stays⟩ := (remains.lookup proTxHash dmn).mp found
    exact ⟨⟨dmn, foundOld, member⟩, stays⟩
  · rintro ⟨⟨dmn, foundOld, member⟩, stays⟩
    exact ⟨dmn, (remains.lookup proTxHash dmn).mpr ⟨foundOld, stays⟩, member⟩

theorem Remains.absent (remains : Remains old new remaining) (absent : old.getMN proTxHash = none) :
    remaining.getMN proTxHash = none := by
  refine Option.eq_none_iff_forall_ne_some.mpr fun dmn found => ?_
  rw [((remains.lookup proTxHash dmn).mp found).1] at absent
  cases absent

theorem not_added (keptNew : new.WellKept) (numberedNew : new.Numbered) {before : CDeterministicMN}
    (foundOld : old.getMN proTxHash = some before) :
    ¬ Written new ((old.buildDiff new).addedMNs.map (·.internalId)) proTxHash := by
  rintro ⟨after, foundNew, member⟩
  obtain ⟨dmn, isAdded, sameId⟩ := List.mem_map.mp member
  obtain ⟨found, absent⟩ := (mem_addedMNs keptNew).mp isAdded
  rw [numberedNew.unique found foundNew sameId, foundOld] at absent
  cases absent

/-- The added smartnodes have exactly the ids that were given out. -/
theorem Survive.numbers (survive : Survive old new) (keptNew : new.WellKept) (since : Since old new) :
    (old.buildDiff new).addedMNs.map (fun dmn => dmn.internalId.toNat)
      = List.range' old.nTotalRegisteredCount.toNat
        (new.nTotalRegisteredCount.toNat - old.nTotalRegisteredCount.toNat) := by
  have ascends : ((old.buildDiff new).addedMNs.map fun dmn => dmn.internalId.toNat).Pairwise (· < ·) :=
    List.pairwise_map.mpr (addedMNs_ascending keptNew since.numbered)
  have steps : (List.range' old.nTotalRegisteredCount.toNat
      (new.nTotalRegisteredCount.toNat - old.nTotalRegisteredCount.toNat)).Pairwise (· < ·) :=
    List.pairwise_lt_range' 1
  refine List.Perm.eq_of_pairwise (fun a b _ _ below above => absurd above (lt_asymm below)) ascends steps ?_
  rw [List.perm_ext_iff_of_nodup (ascends.imp fun below => below.ne) (steps.imp fun below => below.ne)]
  intro id
  have grows := since.grows
  rw [List.mem_map, List.mem_range'_1, Nat.add_sub_cancel' grows]
  constructor
  · rintro ⟨dmn, isAdded, rfl⟩
    obtain ⟨found, absent⟩ := (mem_addedMNs keptNew).mp isAdded
    refine ⟨?_, since.numbered.below _ dmn found⟩
    rcases since.origin _ dmn found with ⟨before, foundOld, -⟩ | late
    · rw [absent] at foundOld
      cases foundOld
    · exact late
  · rintro ⟨above, below⟩
    obtain ⟨proTxHash, dmn, found, absent, isId⟩ := survive id above below
    obtain rfl := keptNew.keyed proTxHash dmn found
    exact ⟨dmn, (mem_addedMNs keptNew).mpr ⟨found, absent⟩, isId⟩

/-- A property that a smartnode that stays has lost: its state has changed. -/
theorem changed_of_lost (keptNew : new.WellKept) (since : Since old new) (survive : Survive old new)
    {giver taker : Uint256} (differs : giver ≠ taker) (holdsOld : old.Holds giver property)
    (stays : new.hasMN giver = true) (holdsNew : new.Holds taker property) :
    ∃ before after, Changed old new giver before after ∧ SameSmartnode before after := by
  obtain ⟨before, foundOld, member⟩ := holdsOld
  obtain ⟨after, foundNew⟩ := Option.isSome_iff_exists.mp stays
  have same := survive.same since foundOld foundNew
  refine ⟨before, after, ⟨foundOld, foundNew, fun sameState => ?_⟩, same⟩
  have equal : after = before := by
    rw [same.rest, ← sameState]
  rw [equal] at foundNew
  exact differs (keptNew.unique ⟨before, foundNew, member⟩ holdsNew)

section

variable (remains : Remains old new remaining) (keptNew : new.WellKept) (since : Since old new)
  (survive : Survive old new)

include remains keptNew since survive

/-- The second loop comes to its end when the added ids are all the ids given out and no
added smartnode needs what an old one still has. -/
theorem added_phase (orderly : Orderly old new) :
    ∃ middle, (old.buildDiff new).addedMNs.foldlM applyAdded remaining = .ok middle := by
  have numbers := survive.numbers keptNew since
  have length := congrArg List.length numbers
  rw [List.length_map, List.length_range'] at length
  refine Mixed.added_loop_ok keptNew since.numbered ?_ (.start remains.kept remains.numbered) ?_ ?_
  · intro dmn foundNew notRemaining giver property holds holdsNew
    obtain ⟨holdsOld, stays⟩ := remains.holds.mp holds
    have differs : giver ≠ dmn.proTxHash := by
      rintro rfl
      obtain ⟨other, found, -⟩ := holds
      rw [notRemaining] at found
      cases found
    obtain ⟨-, before, -, foundOld, -⟩ := orderly giver dmn.proTxHash property differs holdsOld stays holdsNew
    have foundRemaining : remaining.getMN dmn.proTxHash = some before :=
      (remains.lookup _ before).mpr ⟨foundOld, by simp [hasMN, foundNew]⟩
    rw [notRemaining] at foundRemaining
    cases foundRemaining
  · intro dmn isAdded
    obtain ⟨found, absent⟩ := (mem_addedMNs keptNew).mp isAdded
    exact ⟨found, remains.absent absent, List.not_mem_nil⟩
  · rw [numbers, remains.count, length]

theorem entries_for :
    ∀ entry ∈ (old.buildDiff new).updatedMNs,
      entry.1 ∉ (old.buildDiff new).addedMNs.map (·.internalId)
        ∧ ∃ before after, EntryFor remaining new entry before after := by
  intro entry member
  obtain ⟨proTxHash, before, after, changed, isEntry⟩ := (mem_updatedMNs keptNew since.numbered).mp member
  obtain rfl := keptNew.keyed proTxHash after changed.foundNew
  refine ⟨fun isAdded => ?_, before, after, ?_, changed.foundNew,
    survive.same since changed.foundOld changed.foundNew, isEntry⟩
  · rw [isEntry] at isAdded
    exact not_added keptNew since.numbered changed.foundOld ⟨after, changed.foundNew, isAdded⟩
  · exact (remains.lookup _ before).mpr ⟨changed.foundOld, by simp [hasMN, changed.foundNew]⟩

theorem updated_phase (orderly : Orderly old new)
    (mixed : Mixed remaining new ((old.buildDiff new).addedMNs.map (·.internalId)) middle) :
    ∃ last, (old.buildDiff new).updatedMNs.foldlM applyUpdated middle = .ok last := by
  refine mixed.updated_loop_ok keptNew since.numbered (ascending_collect _)
    (entries_for remains keptNew since survive) ?_
  intro entry _ before after isFor giver property differs _ holds holdsNew
  obtain ⟨holdsOld, stays⟩ := remains.holds.mp holds
  obtain ⟨giverBefore, giverAfter, changed, sameGiver⟩ :=
    changed_of_lost keptNew since survive differs holdsOld stays holdsNew
  obtain ⟨other, takerBefore, foundGiver, foundTaker, below⟩ :=
    orderly giver after.proTxHash property differs holdsOld stays holdsNew
  obtain rfl := Option.mem_unique foundGiver changed.foundOld
  have isTaker : takerBefore = before :=
    Option.some.inj (foundTaker.symm.trans ((remains.lookup _ before).mp isFor.foundOld).1)
  refine ⟨(giverAfter.internalId, _), (mem_updatedMNs keptNew since.numbered).mpr
    ⟨giver, other, giverAfter, changed, rfl⟩, ?_, giverAfter, changed.foundNew,
    List.mem_singleton_self _⟩
  rw [isFor.isEntry]
  rw [sameGiver.internalId, isFor.same.internalId, ← isTaker]
  exact below

theorem Mixed.complete (mixed : Mixed remaining new ((old.buildDiff new).addedMNs.map (·.internalId) ++
      (old.buildDiff new).updatedMNs.map Prod.fst) last) (proTxHash : Uint256) :
    last.getMN proTxHash = new.getMN proTxHash := by
  by_cases written : Written new ((old.buildDiff new).addedMNs.map (·.internalId)
      ++ (old.buildDiff new).updatedMNs.map Prod.fst) proTxHash
  · exact mixed.written proTxHash written
  rw [mixed.unwritten proTxHash written]
  cases foundNew : new.getMN proTxHash with
  | none =>
    refine Option.eq_none_iff_forall_ne_some.mpr fun dmn found => ?_
    have stays := ((remains.lookup proTxHash dmn).mp found).2
    simp [hasMN, foundNew] at stays
  | some after =>
    cases foundOld : old.getMN proTxHash with
    | none =>
      obtain rfl := keptNew.keyed proTxHash after foundNew
      exact absurd ⟨after, foundNew, List.mem_append_left _ (List.mem_map_of_mem
        ((mem_addedMNs keptNew).mpr ⟨foundNew, foundOld⟩))⟩ written
    | some before =>
      have same := survive.same since foundOld foundNew
      have sameState : before.pdmnState = after.pdmnState := by
        by_contra differs
        refine written ⟨after, foundNew, List.mem_append_right _ (List.mem_map.mpr
          ⟨_, (mem_updatedMNs keptNew since.numbered).mpr
            ⟨proTxHash, before, after, ⟨foundOld, foundNew, differs⟩, rfl⟩, rfl⟩)⟩
      have equal : after = before := by
        rw [same.rest, ← sameState]
      rw [equal]
      exact (remains.lookup proTxHash before).mpr ⟨foundOld, by simp [hasMN, foundNew]⟩

end

theorem applyUpdated_count {list next : CDeterministicMNList} {entry : Uint64 × CDeterministicMNStateDiff}
    (done : applyUpdated list entry = .ok next) :
    next.nTotalRegisteredCount = list.nTotalRegisteredCount := by
  unfold applyUpdated at done
  split at done
  · cases done
  · obtain ⟨_, -, rest⟩ := bind_eq_ok.mp done
    obtain ⟨_, -, rest⟩ := bind_eq_ok.mp rest
    obtain ⟨_, -, rest⟩ := bind_eq_ok.mp rest
    cases rest
    rfl

/-- If the counters agree in the end, every id given out was added. -/
theorem survive_of_added (remains : Remains old new remaining) (keptNew : new.WellKept)
    (numberedNew : new.Numbered) (adds : (old.buildDiff new).addedMNs.foldlM applyAdded remaining = .ok middle)
    (count : middle.nTotalRegisteredCount = new.nTotalRegisteredCount) : Survive old new := by
  obtain ⟨numbers, -, total, -⟩ := Mixed.added_loop numberedNew (.start remains.kept remains.numbered)
    (fun dmn member => ((mem_addedMNs keptNew).mp member).1) adds
  intro id above below
  have isNumber : id ∈ (old.buildDiff new).addedMNs.map fun dmn => dmn.internalId.toNat := by
    rw [numbers, remains.count, List.mem_range'_1]
    rw [count, remains.count] at total
    omega
  obtain ⟨dmn, isAdded, isId⟩ := List.mem_map.mp isNumber
  obtain ⟨found, absent⟩ := (mem_addedMNs keptNew).mp isAdded
  exact ⟨_, dmn, found, absent, isId⟩

/-- If all three loops come to their end, properties passed in the order of the ids. -/
theorem orderly_of_runs (remains : Remains old new remaining) (keptOld : old.WellKept)
    (keptNew : new.WellKept) (since : Since old new) (survive : Survive old new)
    (mixed : Mixed remaining new ((old.buildDiff new).addedMNs.map (·.internalId)) middle)
    (updates : (old.buildDiff new).updatedMNs.foldlM applyUpdated middle = .ok last) :
    Orderly old new := by
  intro giver taker property differs holdsOld stays holdsNew
  have holds : remaining.Holds giver property := remains.holds.mpr ⟨holdsOld, stays⟩
  obtain ⟨before, after, changed, same⟩ := changed_of_lost keptNew since survive differs holdsOld stays holdsNew
  have notAdded := not_added keptNew since.numbered changed.foundOld
  obtain ⟨takerAfter, foundNew, member⟩ := holdsNew
  obtain rfl := keptNew.keyed taker takerAfter foundNew
  cases foundTaker : old.getMN takerAfter.proTxHash with
  | none =>
    have isAdded : Written new ((old.buildDiff new).addedMNs.map (·.internalId)) takerAfter.proTxHash :=
      ⟨takerAfter, foundNew, List.mem_map_of_mem ((mem_addedMNs keptNew).mpr ⟨foundNew, foundTaker⟩)⟩
    exact absurd (mixed.apart notAdded isAdded holds ⟨takerAfter, foundNew, member⟩) differs
  | some takerBefore =>
    refine ⟨before, takerBefore, changed.foundOld, rfl, ?_⟩
    have sameTaker := survive.same since foundTaker foundNew
    by_contra notBelow
    -- The taker gets the property, so it is in the loop, before the giver.
    have gains : takerBefore.pdmnState ≠ takerAfter.pdmnState := by
      intro sameState
      have equal : takerAfter = takerBefore := by
        rw [sameTaker.rest, ← sameState]
      rw [← equal] at foundTaker
      exact differs (keptOld.unique holdsOld ⟨takerAfter, foundTaker, member⟩)
    obtain ⟨earlier, later, splits⟩ := List.append_of_mem
      ((mem_updatedMNs keptNew since.numbered).mpr
        ⟨_, takerBefore, takerAfter, ⟨foundTaker, foundNew, gains⟩, rfl⟩)
    have ascends := @updatedMNs_ascending old new
    have entries := entries_for remains keptNew since survive
    rw [splits] at ascends entries updates
    rw [List.append_cons, List.foldlM_append] at updates
    obtain ⟨reached, front, -⟩ := bind_eq_ok.mp updates
    rw [List.append_cons] at ascends entries
    obtain ⟨mixedReached, -, -⟩ := mixed.updated_loop since.numbered
      (List.pairwise_append.mp ascends).1
      (List.forall_mem_append.mp entries).1 front
    refine differs (mixedReached.apart ?_ ?_ holds ⟨takerAfter, foundNew, member⟩)
    · rintro ⟨other, foundOther, written⟩
      obtain rfl := Option.mem_unique changed.foundNew foundOther
      rcases List.mem_append.mp written with isAdded | isUpdated
      · exact notAdded ⟨after, foundOther, isAdded⟩
      · obtain ⟨entry, isEntry, isId⟩ := List.mem_map.mp isUpdated
        have notAbove : updatedKey entry ≤ takerAfter.internalId.toNat := by
          rcases List.mem_append.mp isEntry with isEarlier | isLast
          · exact ((List.pairwise_append.mp (List.pairwise_append.mp ascends).1).2.2 entry isEarlier _
              (List.mem_singleton_self _)).le
          · rw [List.mem_singleton.mp isLast]
            exact le_rfl
        have sameId : after.internalId = takerAfter.internalId := by
          refine BitVec.eq_of_toNat_eq ?_
          unfold updatedKey at notAbove
          rw [isId, same.internalId] at notAbove
          rw [same.internalId]
          rw [sameTaker.internalId] at notAbove ⊢
          omega
        exact differs (since.numbered.unique foundOther foundNew sameId)
    · refine ⟨takerAfter, foundNew, ?_⟩
      simp

theorem applyDiff_iff (sameBase : Same base old) (keptOld : old.WellKept) (numberedOld : old.Numbered)
    (keptNew : new.WellKept) (since : Since old new) :
    (∃ rebuilt, base.applyDiff new.blockHash new.nHeight (old.buildDiff new) = .ok rebuilt
        ∧ Same rebuilt new ∧ SameLabels new rebuilt) ↔
      Survive old new ∧ Orderly old new := by
  obtain ⟨remaining, removes, remains, isHash, isHeight⟩ :=
    @removed_phase _ _ new sameBase keptOld numberedOld new.blockHash new.nHeight
  have start : Mixed remaining new [] remaining := .start remains.kept remains.numbered
  have inNew : ∀ dmn ∈ (old.buildDiff new).addedMNs, new.getMN dmn.proTxHash = some dmn :=
    fun dmn member => ((mem_addedMNs keptNew).mp member).1
  unfold applyDiff
  rw [removes]
  constructor
  · rintro ⟨rebuilt, runs, same, -⟩
    obtain ⟨middle, adds, updates⟩ := bind_eq_ok.mp runs
    have count : rebuilt.nTotalRegisteredCount = middle.nTotalRegisteredCount :=
      foldlM_unchanged CDeterministicMNList.nTotalRegisteredCount
        (fun _ _ _ done => applyUpdated_count done) updates
    have survive := survive_of_added remains keptNew since.numbered adds (count.symm.trans same.count)
    obtain ⟨-, mixed, -, -⟩ := start.added_loop since.numbered inNew adds
    exact ⟨survive, orderly_of_runs remains keptOld keptNew since survive (by simpa using mixed) updates⟩
  · rintro ⟨survive, orderly⟩
    obtain ⟨middle, adds⟩ := added_phase remains keptNew since survive orderly
    obtain ⟨numbers, mixed, count, labels⟩ := start.added_loop since.numbered inNew adds
    obtain ⟨last, updates⟩ := updated_phase remains keptNew since survive orderly mixed
    obtain ⟨mixedLast, countLast, labelsLast⟩ := mixed.updated_loop since.numbered (ascending_collect _)
      (entries_for remains keptNew since survive) updates
    have length := congrArg List.length (survive.numbers keptNew since)
    rw [List.length_map, List.length_range'] at length
    have grows := since.grows
    have total : last.nTotalRegisteredCount = new.nTotalRegisteredCount := by
      refine BitVec.eq_of_toNat_eq ?_
      rw [countLast, count, remains.count, length]
      omega
    refine ⟨last, bind_eq_ok.mpr ⟨middle, adds, updates⟩,
      .of_mns mixedLast.kept keptNew mixedLast.numbered since.numbered
        (mixedLast.complete remains keptNew since survive) total,
      labelsLast.blockHash.trans (labels.blockHash.trans isHash),
      labelsLast.nHeight.trans (labels.nHeight.trans isHeight)⟩

end Apply

end BlackRaven.Evo
