import BlackRaven.Lib.Ends
import BlackRaven.Net.BlockEncodings

/-!
Contract: `InitData` stays inside `txn_available`.

Owns: the positions of its loops, and under which condition on a message it comes to a
status.
-/

namespace BlackRaven.Net

open Consensus Lib Primitives

/-! ## Free positions -/

section Slots

variable {α : Type} {slots : List (Option α)} {position : Nat}

def freeBefore (slots : List (Option α)) (position : Nat) : Nat := (slots.take position).countP Option.isNone

theorem freeBefore_succ {slot : Option α} (found : slots[position]? = some slot) :
    freeBefore slots (position + 1) = freeBefore slots position + [slot].countP Option.isNone := by
  rw [freeBefore, List.take_add_one, found, List.countP_append]
  rfl

theorem le_taken (inside : position ≤ slots.length) :
    position ≤ freeBefore slots position + slots.countP Option.isSome := by
  have split := @List.length_eq_countP_add_countP _ Option.isNone (slots.take position)
  rw [List.length_take, Nat.min_eq_left inside] at split
  have same : (fun slot : Option α => decide ¬ slot.isNone = true) = Option.isSome := by
    funext slot
    cases slot <;> rfl
  have rest : (slots.take position).countP Option.isSome ≤ slots.countP Option.isSome :=
    (List.take_sublist position slots).countP_le
  rw [same] at split
  unfold freeBefore
  omega

theorem countP_set_some {value : α} (free : slots[position]? = some none) :
    (slots.set position (some value)).countP Option.isSome = slots.countP Option.isSome + 1 := by
  obtain ⟨inside, isNone⟩ := List.getElem?_eq_some_iff.mp free
  rw [List.countP_set inside, isNone]
  simp

end Slots

/-! ## Prefilled transactions -/

/-- A phase stops with one of the two statuses that `InitData` has for that. -/
def Orderly : Halt → Prop
  | .crash _ => False
  | .status status => status = .invalid ∨ status = .failed

/-- After a number of prefilled transactions: so many positions are taken, none of them
behind the last one. -/
structure Prefilled (total placed : Nat) (state : List CTransactionRef × Int) : Prop where
  length : state.1.length = total
  taken : state.1.countP Option.isSome = placed
  last : -1 ≤ state.2
  behind : ∀ position : Nat, state.2 < position → position < total → state.1[position]? = some none

theorem prefilled_start (total : Nat) : Prefilled total 0 (List.replicate total none, -1) where
  length := List.length_replicate
  taken := by simp
  last := le_refl _
  behind := fun position _ inside => List.getElem?_replicate_of_lt inside

variable {state : List CTransactionRef × Int} {total : Nat} {txn_available : List CTransactionRef}
  {env : ShortIDs} {cmpctblock : CBlockHeaderAndShortTxIDs}
  {extra_txn : List (Uint256 × CTransactionRef)} {vTxHashes : List (Uint256 × CTransaction)}

theorem placePrefilled_ends {shortCount placed : Nat} (prefilled : Prefilled total placed state)
    (room : shortCount + placed < total) (entry : PrefilledTransaction) :
    Ends Orderly (Prefilled total (placed + 1)) (placePrefilled shortCount state (entry, placed)) := by
  obtain ⟨txn_available, lastprefilledindex⟩ := state
  have last : (-1 : Int) ≤ lastprefilledindex := prefilled.last
  unfold placePrefilled
  dsimp only
  split
  · exact .inl rfl
  split
  · exact .inl rfl
  split
  · exact .inl rfl
  have advances : lastprefilledindex < ((lastprefilledindex + entry.index.toNat + 1).toNat : Int) := by omega
  have inside : (lastprefilledindex + entry.index.toNat + 1).toNat < total := by omega
  have free := prefilled.behind _ advances inside
  rw [if_pos (prefilled.length ▸ inside)]
  refine ⟨?_, ?_, ?_, fun position behind below => ?_⟩
  · rw [List.length_set]
    exact prefilled.length
  · rw [countP_set_some free]
    exact congrArg (· + 1) prefilled.taken
  · omega
  · rw [List.getElem?_set_ne (by omega)]
    exact prefilled.behind position (show lastprefilledindex < (position : Int) by omega) below

theorem prefilled_loop (cmpctblock : CBlockHeaderAndShortTxIDs) :
    Ends Orderly (Prefilled cmpctblock.blockTxCount cmpctblock.prefilledtxn.length)
      (cmpctblock.prefilledtxn.zipIdx.foldlM (placePrefilled cmpctblock.shorttxids.length)
        (List.replicate cmpctblock.blockTxCount none, -1)) := by
  have loop := @Ends.foldlM_zipIdx _ _ _ Orderly (placePrefilled cmpctblock.shorttxids.length)
    (Prefilled cmpctblock.blockTxCount) cmpctblock.prefilledtxn 0
    (List.replicate cmpctblock.blockTxCount none, -1)
    (fun entry index state _ below prefilled => placePrefilled_ends prefilled (by
      unfold CBlockHeaderAndShortTxIDs.blockTxCount
      omega) entry)
    (prefilled_start _)
  rwa [Nat.zero_add] at loop

/-! ## Short ids -/

theorem skipAvailable_eq {i : Nat} (few : txn_available.countP Option.isSome ≤ 65535)
    (more : i < freeBefore txn_available txn_available.length) {untried index_offset : Nat}
    (inside : i + index_offset ≤ txn_available.length) (free : freeBefore txn_available (i + index_offset) = i)
    (fuel : txn_available.countP Option.isSome < untried + index_offset) :
    ∃ next, skipAvailable txn_available i untried index_offset = .ok next
      ∧ txn_available[i + next]? = some none ∧ freeBefore txn_available (i + next) = i := by
  induction untried generalizing index_offset with
  | zero =>
    have taken := le_taken inside
    omega
  | succ untried ih =>
    unfold skipAvailable
    cases found : txn_available[i + index_offset]? with
    | none =>
      have atEnd : i + index_offset = txn_available.length :=
        le_antisymm inside (List.getElem?_eq_none_iff.mp found)
      rw [atEnd] at free
      omega
    | some slot =>
      cases slot with
      | none => exact ⟨index_offset, rfl, found, free⟩
      | some tx =>
        have below := (List.getElem?_eq_some_iff.mp found).1
        have freeNext : freeBefore txn_available (i + (index_offset + 1)) = i :=
          (freeBefore_succ found).trans free
        have taken := @le_taken _ txn_available (i + (index_offset + 1)) (by omega)
        have narrow : (index_offset + 1) % 65536 = index_offset + 1 := Nat.mod_eq_of_lt (by omega)
        rw [narrow]
        exact ih (by omega) freeNext (by omega)

/-- After a number of short ids: so many free positions have been passed, and every entry of
the map is a short id with a position inside. -/
structure Assigned (txn_available : List CTransactionRef) (shorttxids : List Uint64) (placed : Nat)
    (state : List (Uint64 × Nat) × Nat) : Prop where
  inside : placed + state.2 ≤ txn_available.length
  free : freeBefore txn_available (placed + state.2) = placed
  entries : ∀ entry ∈ state.1, entry.1 ∈ shorttxids ∧ entry.2 < txn_available.length

theorem placeShortID_ends {shorttxids : List Uint64} {placed : Nat}
    {state : List (Uint64 × Nat) × Nat} {id : Uint64} (few : txn_available.countP Option.isSome ≤ 65535)
    (more : placed < freeBefore txn_available txn_available.length)
    (assigned : Assigned txn_available shorttxids placed state) (announced : id ∈ shorttxids) :
    Ends Orderly (Assigned txn_available shorttxids (placed + 1))
      (placeShortID env txn_available state (id, placed)) := by
  obtain ⟨next, skips, free, passed⟩ := skipAvailable_eq few more assigned.inside assigned.free
    (show _ < 65536 + state.2 by omega)
  have below := (List.getElem?_eq_some_iff.mp free).1
  unfold placeShortID
  rw [skips]
  change Ends _ _ (if env.crowded _ _ then _ else _)
  split
  · exact .inr rfl
  refine ⟨?_, ?_, fun entry member => ?_⟩
  · omega
  · rw [Nat.add_right_comm, freeBefore_succ free, passed]
    rfl
  · rcases List.mem_cons.mp member with rfl | earlier
    · exact ⟨announced, (Nat.mod_le _ _).trans_lt below⟩
    · exact assigned.entries entry (List.mem_filter.mp earlier).1

/-- As many positions are free after the prefilled transactions as there are short ids. -/
theorem Prefilled.free
    (prefilled : Prefilled cmpctblock.blockTxCount cmpctblock.prefilledtxn.length state) :
    cmpctblock.shorttxids.length ≤ freeBefore state.1 state.1.length := by
  have taken := @le_taken _ state.1 _ le_rfl
  have length := prefilled.length
  have count := prefilled.taken
  unfold CBlockHeaderAndShortTxIDs.blockTxCount at length
  omega

theorem shortID_loop
    (prefilled : Prefilled cmpctblock.blockTxCount cmpctblock.prefilledtxn.length state)
    (few : cmpctblock.prefilledtxn.length ≤ 65535 ∨ cmpctblock.shorttxids = []) :
    Ends Orderly (Assigned state.1 cmpctblock.shorttxids cmpctblock.shorttxids.length)
      (cmpctblock.shorttxids.zipIdx.foldlM (placeShortID env state.1) ([], 0)) := by
  have loop := @Ends.foldlM_zipIdx _ _ _ Orderly (placeShortID env state.1)
    (Assigned state.1 cmpctblock.shorttxids) cmpctblock.shorttxids 0 ([], 0)
    (fun id index reached announced below assigned => by
      have narrow : cmpctblock.prefilledtxn.length ≤ 65535 := few.resolve_right (List.ne_nil_of_mem announced)
      refine placeShortID_ends (prefilled.taken.trans_le narrow) ?_ assigned announced
      have free := prefilled.free
      omega)
    ⟨Nat.zero_le _, rfl, fun _ impossible => absurd impossible List.not_mem_nil⟩
  rwa [Nat.zero_add] at loop

/-! ## Pools -/

structure Matching.Sized (total : Nat) (state : Matching) : Prop where
  txn_available : state.txn_available.length = total
  have_txn : state.have_txn.length = total

variable {state : Matching} {shorttxids : List (Uint64 × Nat)}

theorem matchAt_ends {differs : CTransaction → Except Failure Bool} {ref : CTransactionRef}
    {position : Nat} (sized : state.Sized total) (inside : position < total)
    (compares : ∀ present, Ends (fun _ => False) (fun _ => True) (differs present)) :
    Ends (fun _ => False) (Matching.Sized total) (matchAt differs ref state position) := by
  have haveInside : position < state.have_txn.length := sized.have_txn ▸ inside
  have available : position < state.txn_available.length := sized.txn_available ▸ inside
  unfold matchAt
  rw [List.getElem?_eq_getElem haveInside, List.getElem?_eq_getElem available]
  cases state.have_txn[position] with
  | false =>
    exact ⟨List.length_set.trans sized.txn_available, List.length_set.trans sized.have_txn⟩
  | true =>
    cases state.txn_available[position] with
    | none => exact sized
    | some present =>
      refine (compares present).bind fun different _ => ?_
      cases different with
      | false => exact sized
      | true => exact ⟨List.length_set.trans sized.txn_available, sized.have_txn⟩

theorem matchPool_ends {α : Type} {shortID : α → Uint64}
    {round : α → Matching → Nat → Except Failure Matching} {entries : List α} (rounds : ∀ entry ∈
      entries, ∀ state position, (shortID entry, position) ∈ shorttxids → state.Sized total → Ends (fun
      _ => False) (Matching.Sized total) (round entry state position)) (sized : state.Sized total) :
    Ends (fun _ => False) (Matching.Sized total) (matchPool shorttxids shortID round entries state) := by
  induction entries generalizing state with
  | nil => exact sized
  | cons head tail ih =>
    unfold matchPool
    refine Ends.bind (show Ends _ (Matching.Sized total) _ from ?_) fun next sizedNext => ?_
    · cases found : shorttxids.lookup (shortID head) with
      | none => exact sized
      | some position =>
        obtain ⟨before, after, splits, -⟩ := List.lookup_eq_some_iff.mp found
        have member : (shortID head, position) ∈ shorttxids := by
          rw [splits]
          exact List.mem_append_right _ List.mem_cons_self
        exact rounds head List.mem_cons_self state position member sized
    split
    · exact sizedNext
    · exact ih (List.forall_mem_cons.mp rounds).2 sizedNext

/-- The message announces no entry of `extra_txn` that holds no transaction. -/
def NoneAnnounced (env : ShortIDs) (cmpctblock : CBlockHeaderAndShortTxIDs)
    (extra_txn : List (Uint256 × CTransactionRef)) : Prop :=
  ∀ entry ∈ extra_txn, entry.2 = none →
    env.getShortID cmpctblock.header cmpctblock.nonce entry.1 ∉ cmpctblock.shorttxids

theorem matchExtra_ends {entry : Uint256 × CTransactionRef} {position : Nat} (present : entry.2 ≠ none)
    (sized : state.Sized total) (inside : position < total) :
    Ends (fun _ => False) (Matching.Sized total) (matchExtra env entry state position) := by
  obtain ⟨extra, isExtra⟩ := Option.ne_none_iff_exists'.mp present
  refine matchAt_ends sized inside fun _ => ?_
  rw [isExtra]
  trivial

theorem matchPools_ends
    (entries : ∀ entry ∈ shorttxids, entry.1 ∈ cmpctblock.shorttxids ∧ entry.2 < txn_available.length)
    (noneAnnounced : NoneAnnounced env cmpctblock extra_txn) :
    Ends (fun _ => False) (fun matched => matched.length = txn_available.length)
      (matchPools env cmpctblock vTxHashes extra_txn shorttxids txn_available) := by
  refine Ends.map (Ends.bind (matchPool_ends ?_ ?_) fun state sized => matchPool_ends ?_ sized)
    fun _ sized => sized.txn_available
  · intro entry _ state position mapped sized
    exact matchAt_ends sized (entries _ mapped).2 fun _ => trivial
  · exact ⟨rfl, List.length_replicate⟩
  · intro entry member state position mapped sized
    exact matchExtra_ends (fun isNone => noneAnnounced entry member isNone (entries _ mapped).1) sized
      (entries _ mapped).2

/-! ## The status -/

/-- A compact block that `InitData` reads to a status: the search for free positions cannot
come round, and no empty entry of `extra_txn` is announced. -/
structure Readable (env : ShortIDs) (extra_txn : List (Uint256 × CTransactionRef))
    (cmpctblock : CBlockHeaderAndShortTxIDs) : Prop where
  few : cmpctblock.prefilledtxn.length ≤ 65535 ∨ cmpctblock.shorttxids = []
  noneAnnounced : NoneAnnounced env cmpctblock extra_txn

theorem initTransactions_ends (readable : Readable env extra_txn cmpctblock) :
    Ends (fun _ => False)
      (fun result => ¬ (result.1 = .invalid ∨ result.1 = .failed) → result.2.length = cmpctblock.blockTxCount)
      (initTransactions env cmpctblock vTxHashes extra_txn) := by
  have prefilled := prefilled_loop cmpctblock
  unfold initTransactions
  split
  case h_1 crashes =>
    rw [crashes] at prefilled
    exact prefilled
  case h_2 stops =>
    rw [stops] at prefilled
    exact fun goesOn => absurd prefilled goesOn
  case h_3 txn_available last runs =>
    rw [runs] at prefilled
    have assigned := @shortID_loop (txn_available, last) env cmpctblock prefilled readable.few
    split
    case h_1 crashes =>
      rw [crashes] at assigned
      exact assigned
    case h_2 stops =>
      rw [stops] at assigned
      exact fun goesOn => absurd assigned goesOn
    case h_3 shorttxids offset runs =>
      rw [runs] at assigned
      split
      · exact fun goesOn => absurd (.inr rfl) goesOn
      · refine (matchPools_ends assigned.entries readable.noneAnnounced).map fun matched length _ => ?_
        exact length.trans prefilled.length

/-- What `InitData` leaves behind: a block with its header unless it is to be thrown away,
and with a position for every transaction if all went well. -/
structure Initialised (cmpctblock : CBlockHeaderAndShortTxIDs)
    (result : ReadStatus × PartiallyDownloadedBlock) : Prop where
  header : result.1 ≠ .invalid → isNullHeader result.2.header = false
  positions : ¬ (result.1 = .invalid ∨ result.1 = .failed) →
    result.2.txn_available.length = cmpctblock.blockTxCount

theorem initData_ends (readable : Readable env extra_txn cmpctblock) :
    Ends (fun _ => False) (Initialised cmpctblock) (initData env .empty cmpctblock vTxHashes extra_txn) := by
  unfold initData
  split
  · exact ⟨fun valid => absurd rfl valid, fun goesOn => absurd (.inl rfl) goesOn⟩
  split
  · exact ⟨fun valid => absurd rfl valid, fun goesOn => absurd (.inl rfl) goesOn⟩
  rename_i present _
  have notNull := Bool.eq_false_iff.mpr fun isNull => present (.inl isNull)
  exact (initTransactions_ends readable).map fun result length => ⟨fun _ => notNull, length⟩

end BlackRaven.Net
