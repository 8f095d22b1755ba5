import BlackRaven.Chain.Ancestors

/-!
Contract: `CChainLocksHandler` of `quorums_chainlocks.cpp`.

Owns: the best lock and the block it locks, through `ProcessNewChainLock`,
`AcceptedBlockHeader` and `CheckActiveState`, and what a later lock leaves of an earlier one.

Does not own: quorums and their signatures. Whether a lock verifies when it comes in is part
of the step. Nor the enforcement on the active chain, which reads the locks only.
-/

namespace BlackRaven.Llmq

open Chain Consensus Lib

structure CChainLockSig where
  nHeight : Int
  blockHash : Uint256
  sig : Bytes
  deriving DecidableEq, Repr

def CChainLockSig.null : CChainLockSig := ⟨-1, 0, []⟩

variable (s : LocksState) (events : List Event) (clsig : CChainLockSig) (map : BlockMap)
  (pindex : CBlockIndex) (nHeight : Int) (blockHash : Uint256)

def CChainLockSig.isNull : Bool := clsig.nHeight == -1 && clsig.blockHash == 0

/-- The handler, and the index of headers it looks blocks up in. -/
structure LocksState where
  mapBlockIndex : BlockMap
  seenChainLocks : List Uint256
  bestChainLockHash : Uint256
  bestChainLock : CChainLockSig
  bestChainLockWithKnownBlock : CChainLockSig
  bestChainLockBlockIndex : Option CBlockIndex
  isSporkActive : Bool
  isEnforced : Bool

def LocksState.start : LocksState where
  mapBlockIndex := fun _ => none
  seenChainLocks := []
  bestChainLockHash := 0
  bestChainLock := .null
  bestChainLockWithKnownBlock := .null
  bestChainLockBlockIndex := none
  isSporkActive := false
  isEnforced := false

/-! ## Queries -/

/-- `GetAncestor` with its range check. -/
def ancestorAt (height : Int) : Option CBlockIndex :=
  if height > pindex.nHeight ∨ height < 0 then none else getAncestor map pindex height.toNat

def hasChainLock : Bool :=
  if !s.isEnforced then false
  else match s.bestChainLockBlockIndex with
    | none => false
    | some locked =>
      if nHeight > locked.nHeight then false
      else if nHeight = locked.nHeight then blockHash == locked.hashBlock
      else (ancestorAt s.mapBlockIndex locked nHeight).any (·.hashBlock == blockHash)

def hasConflictingChainLock : Except Failure Bool :=
  if !s.isEnforced then .ok false
  else match s.bestChainLockBlockIndex with
    | none => .ok false
    | some locked =>
      if nHeight > locked.nHeight then .ok false
      else if nHeight = locked.nHeight then .ok (blockHash != locked.hashBlock)
      else match ancestorAt s.mapBlockIndex locked nHeight with
        | none => .error (.thrown "assert(pAncestor)")
        | some pAncestor => .ok (pAncestor.hashBlock != blockHash)

/-! ## Steps -/

def signHeightOffset : Int := 8

/-- `VerifyRecoveredSig`, given what the signature is worth. The quorums are those active
`SIGN_HEIGHT_OFFSET` below the height; below the genesis block there is no index to ask. -/
def verifyRecoveredSig (signedAtHeight : Int) (signed : Bool) : Except Failure Bool :=
  if signedAtHeight < signHeightOffset then .error (.undefined "pindexStart->GetBlockHash()")
  else .ok signed

/-- `ProcessNewChainLock` on a lock with its `SerializeHash`. -/
def processNewChainLock (hash : Uint256) (signed : Bool) :
    Except Failure LocksState :=
  if s.seenChainLocks.contains hash then .ok s
  else
    let s := { s with seenChainLocks := hash :: s.seenChainLocks }
    if !s.bestChainLock.isNull ∧ clsig.nHeight ≤ s.bestChainLock.nHeight then .ok s
    else
      verifyRecoveredSig clsig.nHeight signed >>= fun verified =>
      if !verified then .ok s
      else
        hasConflictingChainLock s clsig.nHeight clsig.blockHash >>= fun conflicting =>
        if conflicting then .ok s
        else
          let s := { s with bestChainLockHash := hash, bestChainLock := clsig }
          match s.mapBlockIndex clsig.blockHash with
          | none => .ok s
          | some pindex =>
            if (pindex.nHeight : Int) ≠ clsig.nHeight then .ok s
            else .ok { s with
              bestChainLockWithKnownBlock := clsig
              bestChainLockBlockIndex := some pindex }

def acceptedBlockHeader (pindexNew : CBlockIndex) : LocksState :=
  if pindexNew.hashBlock = s.bestChainLock.blockHash then
    if s.bestChainLock.nHeight ≠ pindexNew.nHeight then s
    else { s with
      bestChainLockWithKnownBlock := s.bestChainLock
      bestChainLockBlockIndex := some pindexNew }
  else s

/-- `CheckActiveState`, given DIP0008 and the two readings of spork 19. -/
def checkActiveState (fDIP0008Active isSporkActive fEnforcedBySpork : Bool) : LocksState :=
  let isEnforced := (fDIP0008Active && isSporkActive) || fEnforcedBySpork
  if !s.isEnforced && isEnforced then
    { s with
      isSporkActive := isSporkActive
      isEnforced := isEnforced
      bestChainLockHash := 0
      bestChainLock := .null
      bestChainLockWithKnownBlock := .null
      bestChainLockBlockIndex := none }
  else { s with isSporkActive := isSporkActive, isEnforced := isEnforced }

/-- A header that is new to the index, over a known parent. -/
def placeable : Bool :=
  (map pindex.hashBlock).isNone
    && match pindex.pprev with
      | none => pindex.nHeight == 0
      | some prev => (map prev).any fun pprev => pindex.nHeight == pprev.nHeight + 1

inductive Event where
  | newChainLock (clsig : CChainLockSig) (hash : Uint256) (signed : Bool)
  /-- A header enters the index and is announced. -/
  | acceptedBlockHeader (pindexNew : CBlockIndex)
  /-- A header enters the index as `BLOCK_CONFLICT_CHAINLOCK`, which is not announced. -/
  | conflictingHeader (pindexNew : CBlockIndex)
  | checkActiveState (fDIP0008Active isSporkActive fEnforcedBySpork : Bool)
  /-- `Cleanup` forgets old entries of `seenChainLocks`. -/
  | cleanup (kept : Uint256 → Bool)

def step : Event → Except Failure LocksState
  | .newChainLock clsig hash signed => processNewChainLock s clsig hash signed
  | .acceptedBlockHeader pindexNew =>
    if placeable s.mapBlockIndex pindexNew then
      .ok (acceptedBlockHeader { s with mapBlockIndex := s.mapBlockIndex.set pindexNew } pindexNew)
    else .ok s
  | .conflictingHeader pindexNew =>
    if placeable s.mapBlockIndex pindexNew then
      .ok { s with mapBlockIndex := s.mapBlockIndex.set pindexNew }
    else .ok s
  | .checkActiveState fDIP0008Active isSporkActive fEnforcedBySpork =>
    .ok (checkActiveState s fDIP0008Active isSporkActive fEnforcedBySpork)
  | .cleanup kept => .ok { s with seenChainLocks := s.seenChainLocks.filter kept }

def run : Except Failure LocksState := events.foldlM step s

/-! ## What a step does -/

theorem placeable_iff {map : BlockMap} {pindex : CBlockIndex} : placeable map pindex = true ↔ Placeable map pindex := by
  unfold placeable Placeable
  cases pindex.pprev with
  | none => simp
  | some prev => simp [Option.any_eq_true]

/-- The check against older locks is asked only of a lock that is above them, and passes it. -/
theorem hasConflictingChainLock_above {s : LocksState} {nHeight : Int}
    (above : ∀ locked, s.bestChainLockBlockIndex = some locked → (locked.nHeight : Int) < nHeight)
    (blockHash : Uint256) : hasConflictingChainLock s nHeight blockHash = .ok false := by
  unfold hasConflictingChainLock
  split
  · rfl
  split
  · rfl
  · rename_i locked isLocked
    rw [if_pos (above locked isLocked)]

/-- The block that an event makes the locked one. -/
def newlyLocked : Event → Option CBlockIndex
  | .newChainLock clsig hash signed =>
    if signed ∧ ¬ s.seenChainLocks.contains hash
        ∧ (s.bestChainLock.isNull ∨ s.bestChainLock.nHeight < clsig.nHeight) then
      (s.mapBlockIndex clsig.blockHash).filter fun pindex => (pindex.nHeight : Int) = clsig.nHeight
    else none
  | .acceptedBlockHeader pindexNew =>
    if placeable s.mapBlockIndex pindexNew ∧ pindexNew.hashBlock = s.bestChainLock.blockHash
        ∧ s.bestChainLock.nHeight = pindexNew.nHeight then some pindexNew
    else none
  | _ => none

/-- The locked block is in the index, and not above the best lock. -/
structure Grounded (s : LocksState) : Prop where
  rooted : Rooted s.mapBlockIndex
  known : ∀ locked, s.bestChainLockBlockIndex = some locked → s.mapBlockIndex locked.hashBlock = some locked
  below : ∀ locked, s.bestChainLockBlockIndex = some locked →
    s.bestChainLock.isNull = false ∧ (locked.nHeight : Int) ≤ s.bestChainLock.nHeight

theorem start_grounded : Grounded .start := ⟨⟨nofun, nofun, nofun⟩, nofun, nofun⟩

theorem notNull_of_height {clsig : CChainLockSig} (height : 0 ≤ clsig.nHeight) : clsig.isNull = false := by
  have notNull : clsig.nHeight ≠ -1 := by omega
  simp [CChainLockSig.isNull, notNull]

/-- `CheckActiveState` does not find locks switched off. -/
def KeepsEnforced : Event → Prop
  | .checkActiveState fDIP0008Active isSporkActive fEnforcedBySpork =>
    ((fDIP0008Active && isSporkActive) || fEnforcedBySpork) = true
  | _ => True

/-- What a step does to the locks while they stay enforced. -/
structure Advances (s : LocksState) (event : Event) (next : LocksState) : Prop where
  index : Extends s.mapBlockIndex next.mapBlockIndex
  best : s.bestChainLock.isNull = false →
    next.bestChainLock.isNull = false ∧ s.bestChainLock.nHeight ≤ next.bestChainLock.nHeight
  locked : next.bestChainLockBlockIndex = (newlyLocked s event).or s.bestChainLockBlockIndex
  higher : ∀ lower upper, s.bestChainLockBlockIndex = some lower → newlyLocked s event = some upper →
    lower.nHeight ≤ upper.nHeight
  enforced : s.isEnforced = true → next.isEnforced = true

section Steps

variable {s next : LocksState} {event : Event}

theorem Advances.of_unlocked (notLocked : newlyLocked s event = none) : Advances s event s where
  index := .refl _
  best := fun present => ⟨present, le_rfl⟩
  locked := by rw [notLocked, Option.none_or]
  higher := by
    intro lower upper _ isUpper
    rw [notLocked] at isUpper
    cases isUpper
  enforced := id

theorem processNewChainLock_step {clsig : CChainLockSig} {hash : Uint256} {signed : Bool}
    (grounded : Grounded s) (steps : processNewChainLock s clsig hash signed = .ok next) :
    Grounded next ∧ Advances s (.newChainLock clsig hash signed) next := by
  unfold processNewChainLock at steps
  split at steps
  case isTrue seen =>
    cases steps
    exact ⟨grounded, .of_unlocked (if_neg fun takes => takes.2.1 seen)⟩
  rename_i notSeen
  dsimp only at steps
  split at steps
  case isTrue notAbove =>
    cases steps
    have notLocked : newlyLocked s (.newChainLock clsig hash signed) = none := by
      refine if_neg ?_
      rintro ⟨-, -, isNull | above⟩
      · rw [isNull] at notAbove
        exact absurd notAbove.1 Bool.false_ne_true
      · omega
    exact ⟨{ grounded with }, { Advances.of_unlocked notLocked with }⟩
  rename_i isAbove
  have above : s.bestChainLock.isNull = false → s.bestChainLock.nHeight < clsig.nHeight := by
    intro present
    by_contra notAbove
    exact isAbove ⟨by rw [present]; rfl, not_lt.mp notAbove⟩
  obtain ⟨verified, verifies, steps⟩ := bind_eq_ok.mp steps
  unfold verifyRecoveredSig at verifies
  split at verifies
  · cases verifies
  rename_i height
  cases verifies
  split at steps
  case isTrue notSigned =>
    cases steps
    have notLocked : newlyLocked s (.newChainLock clsig hash signed) = none := by
      refine if_neg fun takes => ?_
      simp [takes.1] at notSigned
    exact ⟨{ grounded with }, { Advances.of_unlocked notLocked with }⟩
  rename_i isSigned
  have lower : ∀ locked, s.bestChainLockBlockIndex = some locked → (locked.nHeight : Int) < clsig.nHeight := by
    intro locked isLocked
    obtain ⟨present, below⟩ := grounded.below locked isLocked
    exact below.trans_lt (above present)
  obtain ⟨conflicting, asked, steps⟩ := bind_eq_ok.mp steps
  obtain rfl := Except.ok.inj (asked.symm.trans (hasConflictingChainLock_above lower clsig.blockHash))
  rw [if_neg Bool.false_ne_true] at steps
  have notNull : clsig.isNull = false :=
    notNull_of_height ((show (0 : Int) ≤ signHeightOffset by decide).trans (not_lt.mp height))
  have best : s.bestChainLock.isNull = false →
      clsig.isNull = false ∧ s.bestChainLock.nHeight ≤ clsig.nHeight :=
    fun present => ⟨notNull, (above present).le⟩
  have takes : newlyLocked s (.newChainLock clsig hash signed)
      = (s.mapBlockIndex clsig.blockHash).filter fun pindex => (pindex.nHeight : Int) = clsig.nHeight := by
    refine if_pos ⟨by simpa using isSigned, notSeen, ?_⟩
    cases isNull : s.bestChainLock.isNull with
    | true => exact .inl rfl
    | false => exact .inr (above isNull)
  have unknown : newlyLocked s (.newChainLock clsig hash signed) = none →
      Grounded { s with seenChainLocks := hash :: s.seenChainLocks, bestChainLockHash := hash, bestChainLock := clsig }
        ∧ Advances s (.newChainLock clsig hash signed)
          { s with seenChainLocks := hash :: s.seenChainLocks, bestChainLockHash := hash, bestChainLock := clsig } :=
    fun notLocked => ⟨{ grounded with below := fun locked isLocked => ⟨notNull, (lower locked isLocked).le⟩ },
      { Advances.of_unlocked notLocked with best }⟩
  split at steps
  case h_1 absent =>
    cases steps
    exact unknown (by rw [takes, absent, Option.filter_none])
  case h_2 pindex found =>
    rw [found] at takes
    split at steps
    case isTrue otherHeight =>
      cases steps
      exact unknown (by rw [takes, Option.filter_some_neg (by simpa using otherHeight)])
    case isFalse isHeight =>
      have sameHeight := not_not.mp isHeight
      rw [Option.filter_some_pos (by simpa using sameHeight)] at takes
      cases steps
      constructor
      · refine ⟨grounded.rooted, ?_, ?_⟩
        · rintro locked ⟨⟩
          rw [grounded.rooted.keyed _ pindex found]
          exact found
        · rintro locked ⟨⟩
          exact ⟨notNull, sameHeight.le⟩
      · refine ⟨.refl _, best, by rw [takes]; rfl, fun locked upper isLocked isUpper => ?_, id⟩
        rw [takes] at isUpper
        cases isUpper
        have := lower locked isLocked
        omega

variable {pindexNew : CBlockIndex} {fDIP0008Active isSporkActive fEnforcedBySpork : Bool}

theorem Grounded.indexed (grounded : Grounded s) (isPlaceable : Placeable s.mapBlockIndex pindexNew) :
    Grounded { s with mapBlockIndex := s.mapBlockIndex.set pindexNew } :=
  { grounded with
    rooted := grounded.rooted.set isPlaceable
    known := fun locked found => isPlaceable.extends _ _ (grounded.known locked found) }

theorem acceptedBlockHeader_step (grounded : Grounded s) (isPlaceable : placeable s.mapBlockIndex pindexNew = true) :
    let next := acceptedBlockHeader { s with mapBlockIndex := s.mapBlockIndex.set pindexNew } pindexNew
    Grounded next ∧ Advances s (.acceptedBlockHeader pindexNew) next := by
  have indexed := grounded.indexed (placeable_iff.mp isPlaceable)
  have extension := (placeable_iff.mp isPlaceable).extends
  by_cases isLock : pindexNew.hashBlock = s.bestChainLock.blockHash ∧ s.bestChainLock.nHeight = pindexNew.nHeight
  · have takes : newlyLocked s (.acceptedBlockHeader pindexNew) = some pindexNew := if_pos ⟨isPlaceable, isLock⟩
    have notNull : s.bestChainLock.isNull = false := notNull_of_height (by omega)
    simp only [acceptedBlockHeader]
    rw [if_pos isLock.1, if_neg (not_not.mpr isLock.2)]
    constructor
    · refine ⟨indexed.rooted, ?_, ?_⟩
      · rintro locked ⟨⟩
        exact BlockMap.set_self s.mapBlockIndex pindexNew
      · rintro locked ⟨⟩
        exact ⟨notNull, isLock.2.ge⟩
    · refine ⟨extension, fun present => ⟨present, le_rfl⟩, by rw [takes]; rfl, ?_, id⟩
      intro locked upper isLocked isUpper
      rw [takes] at isUpper
      cases isUpper
      have := (grounded.below locked isLocked).2
      omega
  · have kept : acceptedBlockHeader { s with mapBlockIndex := s.mapBlockIndex.set pindexNew } pindexNew
        = { s with mapBlockIndex := s.mapBlockIndex.set pindexNew } := by
      simp only [acceptedBlockHeader]
      split
      case isFalse => rfl
      case isTrue sameHash => exact if_pos fun sameHeight => isLock ⟨sameHash, sameHeight⟩
    simp only [kept]
    have notLocked : newlyLocked s (.acceptedBlockHeader pindexNew) = none := if_neg fun takes => isLock takes.2
    exact ⟨indexed, { Advances.of_unlocked notLocked with index := extension }⟩

theorem checkActiveState_grounded (grounded : Grounded s) :
    Grounded (checkActiveState s fDIP0008Active isSporkActive fEnforcedBySpork) := by
  unfold checkActiveState
  dsimp only
  split
  · exact ⟨grounded.rooted, nofun, nofun⟩
  · exact { grounded with }

theorem checkActiveState_advances (enforced : s.isEnforced = true)
    (stays : ((fDIP0008Active && isSporkActive) || fEnforcedBySpork) = true) :
    Advances s (.checkActiveState fDIP0008Active isSporkActive fEnforcedBySpork)
      (checkActiveState s fDIP0008Active isSporkActive fEnforcedBySpork) := by
  unfold checkActiveState
  dsimp only
  rw [enforced, Bool.not_true, Bool.false_and, if_neg Bool.false_ne_true]
  exact { Advances.of_unlocked rfl with enforced := fun _ => stays }

theorem step_grounded (grounded : Grounded s) (steps : step s event = .ok next) :
    Grounded next ∧ (s.isEnforced = true → KeepsEnforced event → Advances s event next) := by
  cases event with
  | newChainLock clsig hash signed =>
    obtain ⟨stays, advances⟩ := processNewChainLock_step grounded steps
    exact ⟨stays, fun _ _ => advances⟩
  | acceptedBlockHeader pindexNew =>
    simp only [step] at steps
    split at steps
    case isTrue isPlaceable =>
      cases steps
      obtain ⟨stays, advances⟩ := acceptedBlockHeader_step grounded isPlaceable
      exact ⟨stays, fun _ _ => advances⟩
    case isFalse notPlaceable =>
      cases steps
      exact ⟨grounded, fun _ _ => .of_unlocked (if_neg fun takes => notPlaceable takes.1)⟩
  | conflictingHeader pindexNew =>
    simp only [step] at steps
    split at steps
    case isTrue isPlaceable =>
      cases steps
      have fits := placeable_iff.mp isPlaceable
      exact ⟨grounded.indexed fits, fun _ _ => { Advances.of_unlocked rfl with index := fits.extends }⟩
    case isFalse =>
      cases steps
      exact ⟨grounded, fun _ _ => .of_unlocked rfl⟩
  | checkActiveState fDIP0008Active isSporkActive fEnforcedBySpork =>
    cases steps
    exact ⟨checkActiveState_grounded grounded, checkActiveState_advances⟩
  | cleanup kept =>
    cases steps
    exact ⟨{ grounded with }, fun _ _ => { Advances.of_unlocked rfl with }⟩

/-! ## Runs -/

theorem run_grounded {events : List Event} (grounded : Grounded s) (runs : run s events = .ok next) :
    Grounded next := by
  apply foldlM_invariant _ _ grounded runs
  intro s event next _ grounded steps
  exact (step_grounded grounded steps).1

/-- The best lock never gets lower, whatever the locks are about. -/
theorem run_best {events : List Event} (grounded : Grounded s) (enforced : s.isEnforced = true)
    (keeps : ∀ event ∈ events, KeepsEnforced event) (runs : run s events = .ok next)
    (present : s.bestChainLock.isNull = false) :
    next.bestChainLock.isNull = false ∧ s.bestChainLock.nHeight ≤ next.bestChainLock.nHeight := by
  induction events generalizing s with
  | nil =>
    cases runs
    exact ⟨present, le_rfl⟩
  | cons event rest ih =>
    obtain ⟨middle, first, later⟩ := bind_eq_ok.mp runs
    obtain ⟨stays, advances⟩ := step_grounded grounded first
    have one := advances enforced (keeps event List.mem_cons_self)
    obtain ⟨still, higher⟩ := one.best present
    obtain ⟨after, highest⟩ := ih stays (one.enforced enforced) (List.forall_mem_cons.mp keeps).2 later still
    exact ⟨after, higher.trans highest⟩

end Steps

/-- Each block that becomes the locked one, with a lock or after it with its header, descends from
the block that was locked before. -/
def descending (s : LocksState) : List Event → Bool
  | [] => true
  | event :: rest =>
    match step s event with
    | .error _ => true
    | .ok next =>
      ((newlyLocked s event).all fun upper => s.bestChainLockBlockIndex.all fun lower =>
        getAncestor next.mapBlockIndex upper lower.nHeight == some lower) && descending next rest

/-- A block that was locked stays in the index, below the one that is locked now. -/
structure Under (s next : LocksState) (lower : CBlockIndex) : Prop where
  index : Extends s.mapBlockIndex next.mapBlockIndex
  locked : ∃ upper, next.bestChainLockBlockIndex = some upper ∧ lower.nHeight ≤ upper.nHeight
    ∧ IsAncestor next.mapBlockIndex lower upper

section Finality

variable {s next : LocksState} {lower : CBlockIndex}

theorem run_under {events : List Event} (grounded : Grounded s) (enforced : s.isEnforced = true)
    (keeps : ∀ event ∈ events, KeepsEnforced event) (descends : descending s events = true)
    (runs : run s events = .ok next) (isLower : s.bestChainLockBlockIndex = some lower) :
    Under s next lower := by
  induction events generalizing s lower with
  | nil =>
    cases runs
    exact ⟨.refl _, lower, isLower, le_rfl, getAncestor_self _ _⟩
  | cons event rest ih =>
    obtain ⟨middle, first, later⟩ := bind_eq_ok.mp runs
    obtain ⟨stays, advances⟩ := step_grounded grounded first
    have one := advances enforced (keeps event List.mem_cons_self)
    simp only [descending, first, Bool.and_eq_true] at descends
    -- The block locked after this step, with the one before it as its ancestor.
    obtain ⟨upper, isUpper, below, isAncestor⟩ : ∃ upper, middle.bestChainLockBlockIndex = some upper
        ∧ lower.nHeight ≤ upper.nHeight ∧ IsAncestor middle.mapBlockIndex lower upper := by
      cases isNew : newlyLocked s event with
      | none => exact ⟨lower, by rw [one.locked, isNew, isLower]; rfl, le_rfl, getAncestor_self _ _⟩
      | some upper =>
        have linked := descends.1
        rw [isNew, isLower] at linked
        exact ⟨upper, by rw [one.locked, isNew]; rfl, one.higher lower upper isLower isNew, beq_iff_eq.mp linked⟩
    obtain ⟨index, last, isLast, under, ends⟩ := ih stays (one.enforced enforced)
      (List.forall_mem_cons.mp keeps).2 descends.2 later isUpper
    have finalGrounded := run_grounded stays later
    refine ⟨one.index.trans index, last, isLast, below.trans under, ?_⟩
    unfold IsAncestor
    rw [finalGrounded.rooted.getAncestor_trans (finalGrounded.known last isLast) under ends below,
      stays.rooted.getAncestor_extends index (stays.known upper isUpper)]
    exact isAncestor

end Finality

/-- A covered block is the locked block's ancestor at its height. -/
theorem hasChainLock_covers {s : LocksState} {nHeight : Int} {blockHash : Uint256}
    (covered : hasChainLock s nHeight blockHash = true) :
    ∃ locked height ancestor, s.bestChainLockBlockIndex = some locked ∧ nHeight = (height : Nat)
      ∧ height ≤ locked.nHeight ∧ getAncestor s.mapBlockIndex locked height = some ancestor
      ∧ ancestor.hashBlock = blockHash := by
  unfold hasChainLock at covered
  split at covered
  · cases covered
  split at covered
  · cases covered
  rename_i locked isLocked
  split at covered
  · cases covered
  split at covered
  · rename_i isOwn
    exact ⟨locked, locked.nHeight, locked, isLocked, isOwn, le_rfl, getAncestor_self _ _,
      (beq_iff_eq.mp covered).symm⟩
  · obtain ⟨ancestor, isAncestor, sameHash⟩ := (Option.any_eq_true _ _).mp covered
    unfold ancestorAt at isAncestor
    split at isAncestor
    · cases isAncestor
    · rename_i inside
      exact ⟨locked, nHeight.toNat, ancestor, isLocked, by omega, by omega, isAncestor, beq_iff_eq.mp sameHash⟩

theorem hasConflictingChainLock_ancestor {s : LocksState} {locked ancestor : CBlockIndex} {height : Nat}
    (isLocked : s.bestChainLockBlockIndex = some locked) (inside : height ≤ locked.nHeight)
    (isAncestor : getAncestor s.mapBlockIndex locked height = some ancestor) :
    hasConflictingChainLock s height ancestor.hashBlock = .ok false := by
  unfold hasConflictingChainLock
  split
  · rfl
  rw [isLocked]
  dsimp only
  rw [if_neg (by omega)]
  split
  case isTrue isOwn =>
    rw [Int.ofNat_inj.mp isOwn, getAncestor_self] at isAncestor
    cases isAncestor
    exact congrArg Except.ok (bne_self_eq_false _)
  case isFalse =>
    have found : ancestorAt s.mapBlockIndex locked height = some ancestor := by
      unfold ancestorAt
      rw [if_neg (by omega)]
      exact isAncestor
    rw [found]
    exact congrArg Except.ok (bne_self_eq_false _)

/-- Over any steps during which locks stay enforced, the best lock never gets lower. If each
block that becomes the locked one descends from the one before, a locked block is replaced by
descendants only, and no block that was covered comes into conflict. -/
theorem chainLocks_final (before after : List Event) (s next : LocksState)
    (reached : run .start before = .ok s) (continues : run s after = .ok next)
    (enforced : s.isEnforced = true) (keeps : ∀ event ∈ after, KeepsEnforced event) :
    (s.bestChainLock.isNull = false →
        next.bestChainLock.isNull = false ∧ s.bestChainLock.nHeight ≤ next.bestChainLock.nHeight)
      ∧ (descending s after = true →
        (∀ lower, s.bestChainLockBlockIndex = some lower →
          ∃ upper, next.bestChainLockBlockIndex = some upper ∧ IsAncestor next.mapBlockIndex lower upper)
        ∧ ∀ nHeight blockHash, hasChainLock s nHeight blockHash = true →
          hasConflictingChainLock next nHeight blockHash = .ok false) := by
  have early : Grounded s := run_grounded start_grounded reached
  have late : Grounded next := run_grounded early continues
  refine ⟨run_best early enforced keeps continues, fun descends => ⟨fun lower isLower => ?_,
    fun nHeight blockHash covered => ?_⟩⟩
  · obtain ⟨-, upper, isUpper, -, isAncestor⟩ := run_under early enforced keeps descends continues isLower
    exact ⟨upper, isUpper, isAncestor⟩
  · obtain ⟨lower, height, ancestor, isLower, rfl, inside, covers, rfl⟩ := hasChainLock_covers covered
    obtain ⟨index, upper, isUpper, below, isAncestor⟩ := run_under early enforced keeps descends continues isLower
    refine hasConflictingChainLock_ancestor isUpper (inside.trans below) ?_
    rw [late.rooted.getAncestor_trans (late.known upper isUpper) below isAncestor inside,
      early.rooted.getAncestor_extends index (early.known lower isLower), covers]

/-! ## Two branches -/

namespace Branches

def block (hash prev height : Nat) : CBlockIndex :=
  { CBlockIndex.ofHeader (BitVec.ofNat 256 hash) ⟨0, 0, 0, 0, 0, 0, 0, 0, 0⟩ with
    pprev := if height = 0 then none else some (BitVec.ofNat 256 prev)
    nHeight := height }

/-- Blocks 1 to 8 at heights 0 to 7, then block 9 with block 10 on top, and block 19 with
block 20 on top. -/
def headers : List Event :=
  ((List.range 10).map fun height => .acceptedBlockHeader (block (height + 1) height height))
    ++ [.acceptedBlockHeader (block 19 8 8), .acceptedBlockHeader (block 20 19 9)]

def lock (height hash : Nat) : CChainLockSig := ⟨height, BitVec.ofNat 256 hash, []⟩

def locked : List Event :=
  headers ++ [.checkActiveState true true false, .newChainLock (lock 8 9) 1 true]

def after (events : List Event) : LocksState := (run .start events).toOption.getD .start

theorem run_after {events : List Event} (succeeds : (run .start events).toOption.isSome = true) :
    run .start events = .ok (after events) := by
  obtain ⟨s, outcome⟩ := toOption_isSome.mp succeeds
  rw [after, outcome]
  rfl

theorem run_continues {events more : List Event} (succeeds : (run .start events).toOption.isSome = true)
    (both : (run .start (events ++ more)).toOption.isSome = true) :
    run (after events) more = .ok (after (events ++ more)) := by
  have whole := run_after both
  rw [run, List.foldlM_append] at whole
  obtain ⟨s, first, later⟩ := bind_eq_ok.mp whole
  obtain rfl := Except.ok.inj (first.symm.trans (run_after succeeds))
  exact later

/-- A later lock on the other branch is accepted, and the locked block is in conflict. -/
theorem lock_replaced_by_other_branch :
    ∃ s next, run .start locked = .ok s ∧ run s [.newChainLock (lock 9 20) 2 true] = .ok next
      ∧ s.isEnforced = true ∧ hasChainLock s 8 9 = true
      ∧ hasConflictingChainLock next 8 9 = .ok true :=
  ⟨after locked, after (locked ++ [.newChainLock (lock 9 20) 2 true]), run_after (by decide),
    run_continues (by decide) (by decide), by decide, by decide, by decide⟩

/-- A lock on a block over block 9 whose header comes later, and one on the other branch that is
not above it. -/
def descendant : List Event :=
  [.newChainLock (lock 9 11) 2 true, .newChainLock (lock 9 20) 3 true, .acceptedBlockHeader (block 11 9 9)]

theorem chainLocks_final_descendant :
    ∃ s next, run .start locked = .ok s ∧ run s descendant = .ok next
      ∧ hasChainLock s 8 9 = true ∧ hasChainLock next 9 11 = true
      ∧ hasConflictingChainLock next 8 9 = .ok false := by
  have continues : run (after locked) descendant = .ok (after (locked ++ descendant)) :=
    run_continues (by decide) (by decide)
  have keeps : ∀ event ∈ descendant, KeepsEnforced event := by simp [descendant, KeepsEnforced]
  obtain ⟨-, final⟩ := chainLocks_final locked descendant _ _ (run_after (by decide)) continues
    (by decide) keeps
  exact ⟨_, _, run_after (by decide), continues, by decide, by decide,
    (final (by decide)).2 8 9 (by decide)⟩

end Branches

end BlackRaven.Llmq
