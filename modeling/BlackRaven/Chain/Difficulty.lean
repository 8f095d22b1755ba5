import BlackRaven.Chain.HeaderChain

/-!
Contract: the difficulty of the main network, from accepted headers to the target
`DarkGravityWave` returns for the next one.

Owns: the exact condition under which that target is the one computed over unbounded
integers.
-/

namespace BlackRaven.Chain

open Arith Arith.ArithUint256 Consensus BlackRaven.Pow Primitives

variable {hash : Uint256} {chain : List CBlockIndex} {pindexLast : CBlockIndex}
  {s : ChainState mainParams.hashGenesisBlock}

theorem mainInitialState_only {pindex : CBlockIndex}
    (found : mainInitialState.mapBlockIndex hash = some pindex) :
    hash = mainGenesisIndex.hashBlock ∧ pindex = mainGenesisIndex := by
  change BlockMap.set (fun _ => none) mainGenesisIndex hash = some pindex at found
  exact (BlockMap.eq_of_set found).resolve_right nofun

theorem mainInitialState_wellFormed : WellFormed mainParams mainInitialState.mapBlockIndex := by
  constructor
  · intro hash pindex found
    obtain ⟨rfl, rfl⟩ := mainInitialState_only found
    rfl
  · intro hash pindex found
    obtain ⟨rfl, rfl⟩ := mainInitialState_only found
    left
    rfl
  · intro hash pindex found
    obtain ⟨rfl, rfl⟩ := mainInitialState_only found
    decide

/-- With enough KAWPOW blocks behind it `DarkGravityWave` returns the retargeted
target, whatever the next header is. -/
theorem darkGravityWave_eq (isLast : chain.head? = some pindexLast)
    (long : nPastBlocks ≤ pindexLast.nHeight) (full : (chain.take nPastBlocks).length = nPastBlocks)
    (kawpow : ∀ pindex ∈ chain.take nPastBlocks, isKawpowIndex pindex = true) (pblock : CBlockHeader) :
    darkGravityWave chain pblock mainParams
      = (retargetedTarget chain mainParams).map ArithUint256.getCompact := by
  have allKawpow : (chain.take nPastBlocks).countP isKawpowIndex = nPastBlocks :=
    (List.countP_eq_length.mpr kawpow).trans full
  have retargets : (mainParams.fPowAllowMinDifficultyBlocks && mainParams.fPowNoRetargeting) = false := rfl
  unfold darkGravityWave
  simp only [isLast, allKawpow, full, retargets, Option.bind_eq_bind, Option.bind_some]
  rw [if_neg (by omega), Option.map_eq_bind]
  simp

/-- The blocks `DarkGravityWave` counts exist and have targets within the limit. -/
theorem counted_of_run {crypto : PowHash} (run : HeaderRun crypto mainChainParams mainInitialState s)
    (found : s.mapBlockIndex hash = some pindexLast) (long : nPastBlocks ≤ pindexLast.nHeight) :
    ((chainOf s.mapBlockIndex pindexLast).take nPastBlocks).length = nPastBlocks ∧
      ∀ pindex ∈ (chainOf s.mapBlockIndex pindexLast).take nPastBlocks,
        targetOf pindex.nBits ≤ 2 ^ 248 - 1 := by
  have formed : WellFormed mainParams s.mapBlockIndex := run.wellFormed mainInitialState_wellFormed
  constructor
  · rw [List.length_take, chainOf_length formed found]
    omega
  · intro pindex member
    obtain ⟨key, inMap⟩ := mem_chainOf found (List.mem_of_mem_take member)
    exact formed.target inMap

/-- For every chain of accepted headers on the main network that is long enough and
past the KAWPOW time, the target for the next block is the exact one, and not below a
third of the average, exactly when the exact average times the clamped timespan is
below `2 ^ 256`. -/
theorem darkGravityWave_exact_iff {crypto : PowHash} (run : HeaderRun crypto mainChainParams mainInitialState s)
    (found : s.mapBlockIndex hash = some pindexLast) (long : nPastBlocks ≤ pindexLast.nHeight) (kawpow :
      ∀ pindex ∈ (chainOf s.mapBlockIndex pindexLast).take nPastBlocks, isKawpowIndex pindex = true)
    (pblock : CBlockHeader) :
    ∃ bnNew : ArithUint256,
      retargetedTarget (chainOf s.mapBlockIndex pindexLast) mainParams = some bnNew ∧
      darkGravityWave (chainOf s.mapBlockIndex pindexLast) pblock mainParams = some bnNew.getCompact ∧
      ((bnNew.value = exactTarget (2 ^ 248 - 1)
            (countedAverage (chainOf s.mapBlockIndex pindexLast))
            (countedTimespan mainParams (chainOf s.mapBlockIndex pindexLast)).toNat 10800 ∧
          countedAverage (chainOf s.mapBlockIndex pindexLast) / 3 ≤ bnNew.value)
        ↔ countedAverage (chainOf s.mapBlockIndex pindexLast)
            * (countedTimespan mainParams (chainOf s.mapBlockIndex pindexLast)).toNat
          < 2 ^ 256) := by
  obtain ⟨full, targets⟩ := counted_of_run run found long
  obtain ⟨bnNew, computed, exactIff⟩ := retargetedTarget_exact_iff full targets
  refine ⟨bnNew, computed, ?_, exactIff⟩
  rw [darkGravityWave_eq (chainOf_head _ _) long full kawpow, computed]
  rfl

/-! ## The first 180 blocks

Up to height 180 every block has the easiest target, so the first retarget already
multiplies `2 ^ 248 - 2 ^ 232` by at least 3600. The blocks below are mined a minute
apart, with a ProgPoW whose hash is the nonce. -/

def countingCrypto : PowHash where
  hash256 := fun _ => 0
  hashX16R := fun _ _ => 0
  progpow := fun _ _ nonce => (nonce.setWidth 256, 5)
  progpowNoVerify := fun _ _ mix nonce => if mix = 5 then nonce.setWidth 256 else ~~~0

def minutelyNode : NodeView where
  nAdjustedTime := 1778983830 + 60 * 181
  fCheckpointsEnabled := true
  hasConflictingChainLock := fun _ _ => false

def minutelyHash : Nat → Uint256
  | 0 => mainParams.hashGenesisBlock
  | height + 1 => BitVec.ofNat 256 (height + 1)

def minutelyHeader (height : Nat) : CBlockHeader where
  nVersion := 4
  hashPrevBlock := minutelyHash height
  hashMerkleRoot := 0
  nTime := BitVec.ofNat 32 (1778983830 + 60 * (height + 1))
  nBits := 0x2000ffff
  nNonce := 0
  nHeight := BitVec.ofNat 32 (height + 1)
  nNonce64 := BitVec.ofNat 64 (height + 1)
  mixHash := 5

def minutelyState : Nat → ChainState mainParams.hashGenesisBlock
  | 0 => mainInitialState
  | height + 1 =>
    (acceptBlockHeader countingCrypto mainChainParams minutelyNode (minutelyState height)
      (minutelyHeader height)).2

/-- What the node holds after `height` of these blocks. -/
structure MinutelyTip (height : Nat) (s : ChainState mainParams.hashGenesisBlock) : Prop where
  tip : ∃ pindex, s.mapBlockIndex (minutelyHash height) = some pindex ∧ pindex.nHeight = height ∧
    pindex.hasStatus blockFailedMask = false ∧ pindex.hasStatus blockConflictChainlock = false
  genesis : s.mapBlockIndex mainParams.hashGenesisBlock = some mainGenesisIndex
  fresh : ∀ above, height < above → above ≤ nPastBlocks → s.mapBlockIndex (BitVec.ofNat 256 above) = none
  times : ∀ {hash pindex}, s.mapBlockIndex hash = some pindex →
    kawpowActivationTime ≤ pindex.nTime.toNat ∧ pindex.nTime.toNat ≤ 1778983830 + 60 * height
  bits : ∀ {hash pindex}, s.mapBlockIndex hash = some pindex → pindex.nHeight = 0 ∨ pindex.nBits = 0x2000ffff
  noneFailed : s.gFailedBlocks = []

theorem getMedianTimePast_le {bound : Int} (positive : 0 ≤ bound)
    (times : ∀ pindex ∈ chain, pindex.getBlockTime ≤ bound) : getMedianTimePast chain ≤ bound := by
  unfold getMedianTimePast
  generalize sorted : ((chain.take 11).map CBlockIndex.getBlockTime).insertionSort (· ≤ ·) = ordered
  have bounded : ∀ time ∈ ordered, time ≤ bound := by
    intro time member
    rw [← sorted, List.mem_insertionSort, List.mem_map] at member
    obtain ⟨pindex, isCounted, rfl⟩ := member
    exact times pindex (List.mem_of_mem_take isCounted)
  rw [List.getD_eq_getElem?_getD]
  cases middle : ordered[ordered.length / 2]? with
  | none => exact positive
  | some time => exact bounded time (List.mem_of_getElem? middle)

theorem raiseValidity_fresh {pindex : CBlockIndex} (fresh : pindex.nStatus = 0) :
    (pindex.raiseValidity blockValidTree).nStatus = BitVec.ofNat 32 blockValidTree := by
  unfold CBlockIndex.raiseValidity CBlockIndex.hasStatus
  rw [fresh]
  rfl

theorem newIndexEntry_nStatus (crypto : PowHash) (map : BlockMap) (block : CBlockHeader) :
    (newIndexEntry crypto map block (BitVec.ofNat 32 blockValidTree)).nStatus
      = BitVec.ofNat 32 blockValidTree := by
  simp only [newIndexEntry]
  apply raiseValidity_fresh
  split <;> rfl

theorem mainCheckpoint {map : BlockMap} (genesis : map mainParams.hashGenesisBlock = some mainGenesisIndex) :
    getLastCheckpoint mainChainParams.checkpoints map = some mainGenesisIndex := by
  simp [getLastCheckpoint, mainChainParams, genesis]

section Minutely

variable {height : Nat} (early : height < nPastBlocks)
include early

theorem minutelyHeader_time : (minutelyHeader height).nTime.toNat = 1778983830 + 60 * (height + 1) := by
  have : height < 180 := early
  rw [minutelyHeader, BitVec.toNat_ofNat, Nat.mod_eq_of_lt (by omega)]

theorem minutelyHeader_late : ¬ (minutelyHeader height).nTime.toNat < kawpowActivationTime := by
  rw [minutelyHeader_time early, kawpowActivationTime]
  omega

private theorem nonce_hash : BitVec.setWidth 256 (minutelyHeader height).nNonce64
    = minutelyHash (height + 1) := by
  have : height < 180 := early
  apply BitVec.eq_of_toNat_eq
  rw [minutelyHeader, minutelyHash, BitVec.toNat_setWidth, BitVec.toNat_ofNat, BitVec.toNat_ofNat]
  omega

theorem minutelyHeader_getHash :
    (minutelyHeader height).getHash countingCrypto = minutelyHash (height + 1) := by
  rw [CBlockHeader.getHash, if_neg (minutelyHeader_late early)]
  exact nonce_hash early

theorem minutelyHeader_getHashFull :
    (minutelyHeader height).getHashFull countingCrypto = (minutelyHash (height + 1), 5) := by
  rw [CBlockHeader.getHashFull, if_neg (minutelyHeader_late early)]
  exact Prod.ext (nonce_hash early) rfl

theorem minutelyHash_toNat : (minutelyHash (height + 1)).toNat = height + 1 := by
  have : height < 180 := early
  rw [minutelyHash, BitVec.toNat_ofNat, Nat.mod_eq_of_lt (by omega)]

theorem minutelyHeader_work : checkProofOfWork (minutelyHash (height + 1)) 0x2000ffff mainParams = true := by
  have : height < 180 := early
  have notAbove : (uintToArith256 (minutelyHash (height + 1))).gt (setCompact 0x2000ffff).target
      = false := by
    rw [Bool.eq_false_iff]
    intro above
    rw [gt_iff, uintToArith256_value, minutelyHash_toNat early] at above
    have : (setCompact 0x2000ffff).target.value = 2 ^ 248 - 2 ^ 232 := by decide
    omega
  simp only [checkProofOfWork, notAbove]
  rw [if_neg (by decide)]
  rfl

theorem minutelyHeader_checkBlockHeader {map : BlockMap}
    (genesis : map mainParams.hashGenesisBlock = some mainGenesisIndex) :
    checkBlockHeader countingCrypto mainChainParams map (minutelyHeader height) true = .ok () := by
  have : height < 180 := early
  have notCheap : mixOnlyPath mainChainParams.checkpoints map (minutelyHeader height) = false := by
    have claimed : (minutelyHeader height).nHeight.toNat = height + 1 := by
      rw [minutelyHeader, BitVec.toNat_ofNat, Nat.mod_eq_of_lt (by omega)]
    rw [mixOnlyPath, mainCheckpoint genesis]
    simp [claimed, show mainGenesisIndex.nHeight = 0 from rfl]
  simp only [checkBlockHeader, notCheap, minutelyHeader_getHashFull early, Bool.and_false]
  rw [show (minutelyHeader height).nBits = 0x2000ffff from rfl,
    show mainChainParams.consensus = mainParams from rfl, minutelyHeader_work early,
    show (minutelyHeader height).mixHash = 5 from rfl]
  simp

theorem getNextWorkRequired_early {chain : List CBlockIndex} {pindexLast : CBlockIndex}
    (isLast : chain.head? = some pindexLast) (atHeight : pindexLast.nHeight = height)
    (block : CBlockHeader) : getNextWorkRequired chain block mainParams = some 0x2000ffff := by
  have limit : (uintToArith256 mainParams.powLimit).getCompact = 0x2000ffff := by decide
  have notMinimum : ¬ (pindexLast.nHeight : Int) < mainParams.nMinimumDifficultyBlocks := by
    change ¬ (pindexLast.nHeight : Int) < 0
    omega
  have gravity : ¬ (pindexLast.nHeight : Int) + 1 < mainParams.nPowDGWHeight := by
    change ¬ (pindexLast.nHeight : Int) + 1 < 1
    omega
  simp only [getNextWorkRequired, darkGravityWave, isLast, Option.bind_eq_bind, Option.bind_some]
  rw [if_neg notMinimum, if_neg gravity, if_pos (by rw [atHeight]; exact early), limit]
  rfl

variable {s : ChainState mainParams.hashGenesisBlock}

theorem MinutelyTip.headerChecks (tip : MinutelyTip height s) :
    ∃ pindexPrev, Chain.headerChecks countingCrypto mainChainParams minutelyNode s.mapBlockIndex
      (minutelyHeader height) = .ok pindexPrev ∧ pindexPrev.nHeight = height := by
  have : height < 180 := early
  obtain ⟨pindexPrev, found, atHeight, notFailed, notConflicting⟩ := tip.tip
  have median : getMedianTimePast (chainOf s.mapBlockIndex pindexPrev)
      ≤ 1778983830 + 60 * height := by
    apply getMedianTimePast_le (by omega)
    intro pindex member
    obtain ⟨key, inMap⟩ := mem_chainOf found member
    have := (tip.times inMap).2
    unfold CBlockIndex.getBlockTime
    omega
  have contextual : contextualCheckBlockHeader mainChainParams minutelyNode s.mapBlockIndex
      (minutelyHeader height) pindexPrev = .ok () := by
    simp only [contextualCheckBlockHeader, show mainChainParams.consensus = mainParams from rfl,
      getNextWorkRequired_early early (chainOf_head _ _) atHeight, minutelyHeader_time early,
      mainCheckpoint tip.genesis]
    rw [if_neg (by simp [minutelyHeader]), if_neg (by simp [show mainGenesisIndex.nHeight = 0 from rfl]),
      if_neg (by push_cast; omega), if_neg ?_]
    rw [minutelyNode, maxFutureBlockTime]
    push_cast
    omega
  refine ⟨pindexPrev, ?_, atHeight⟩
  have parent : s.mapBlockIndex (minutelyHeader height).hashPrevBlock = some pindexPrev := found
  simp only [Chain.headerChecks, minutelyHeader_checkBlockHeader early tip.genesis, parent,
    notFailed, notConflicting, contextual]
  rfl

theorem MinutelyTip.admits (tip : MinutelyTip height s) :
    NewlyAdmits countingCrypto mainChainParams minutelyNode s (minutelyHeader height) := by
  obtain ⟨pindexPrev, checks, -⟩ := tip.headerChecks early
  refine newlyAdmits_iff.mpr ⟨?_, pindexPrev, checks, ?_, rfl⟩
  · rw [minutelyHeader_getHash early]
    exact tip.fresh (height + 1) (Nat.lt_succ_self _) early
  · unfold failedAncestor
    rw [tip.noneFailed]
    simp

theorem MinutelyTip.step (tip : MinutelyTip height s) :
    MinutelyTip (height + 1) (acceptBlockHeader countingCrypto mainChainParams minutelyNode s
      (minutelyHeader height)).2 := by
  have : height < 180 := early
  obtain ⟨pindexPrev, checks, atHeight⟩ := tip.headerChecks early
  have parent := (headerChecks_ok checks).2.1
  have placed := newIndexEntry_sameHeader countingCrypto (BitVec.ofNat 32 blockValidTree) parent
  have hash : _ = (minutelyHeader height).getHash countingCrypto := placed.hashBlock
  have entryHeight : _ = pindexPrev.nHeight + 1 := placed.nHeight
  have time : _ = (minutelyHeader height).nTime := placed.nTime
  have bits : _ = (minutelyHeader height).nBits := placed.nBits
  have status := newIndexEntry_nStatus countingCrypto s.mapBlockIndex (minutelyHeader height)
  obtain ⟨state, failedBlocks⟩ := acceptBlockHeader_state (tip.admits early)
  generalize newIndexEntry countingCrypto s.mapBlockIndex (minutelyHeader height)
    (BitVec.ofNat 32 blockValidTree) = entry at *
  rw [minutelyHeader_getHash early] at hash
  constructor
  · refine ⟨entry, ?_, by rw [entryHeight, atHeight], ?_, ?_⟩
    · rw [state, ← hash, BlockMap.set_self]
    · rw [CBlockIndex.hasStatus, status]
      rfl
    · rw [CBlockIndex.hasStatus, status]
      rfl
  · rw [state, BlockMap.set_of_ne, tip.genesis]
    rw [hash]
    intro same
    have := congrArg BitVec.toNat same
    rw [minutelyHash_toNat early] at this
    have large : mainParams.hashGenesisBlock.toNat > 200 := by decide
    omega
  · intro above higher inRange
    have : above ≤ 180 := inRange
    rw [state, BlockMap.set_of_ne, tip.fresh above (by omega) inRange]
    rw [hash]
    intro same
    have := congrArg BitVec.toNat same
    rw [minutelyHash_toNat early, BitVec.toNat_ofNat, Nat.mod_eq_of_lt (by omega)] at this
    omega
  · intro key pindex found
    rw [state] at found
    rcases BlockMap.eq_of_set found with ⟨-, rfl⟩ | old
    · rw [time, minutelyHeader_time early, kawpowActivationTime]
      omega
    · have := tip.times old
      omega
  · intro key pindex found
    rw [state] at found
    rcases BlockMap.eq_of_set found with ⟨-, rfl⟩ | old
    · exact Or.inr bits
    · exact tip.bits old
  · rw [failedBlocks, tip.noneFailed]

end Minutely

theorem minutelyTip : ∀ height ≤ nPastBlocks, MinutelyTip height (minutelyState height)
  | 0, _ =>
    { tip := ⟨mainGenesisIndex, rfl, rfl, rfl, rfl⟩
      genesis := rfl
      fresh := by
        intro above higher inRange
        have : above ≤ 180 := inRange
        refine (BlockMap.set_of_ne (fun _ => none) mainGenesisIndex ?_ : _ = none)
        intro same
        have := congrArg BitVec.toNat same
        rw [BitVec.toNat_ofNat, Nat.mod_eq_of_lt (by omega)] at this
        have large : mainGenesisIndex.hashBlock.toNat > 200 := by decide
        omega
      times := by
        intro hash pindex found
        obtain ⟨-, rfl⟩ := mainInitialState_only found
        decide
      bits := by
        intro hash pindex found
        obtain ⟨-, rfl⟩ := mainInitialState_only found
        exact Or.inl rfl
      noneFailed := rfl }
  | height + 1, inRange => (minutelyTip height (Nat.le_of_succ_le inRange)).step inRange

theorem minutelyState_run : ∀ height,
    HeaderRun countingCrypto mainChainParams mainInitialState (minutelyState height)
  | 0 => .start
  | height + 1 => .accept (minutelyState_run height) minutelyNode (minutelyHeader height)

def minutelyLast : CBlockIndex :=
  ((minutelyState nPastBlocks).mapBlockIndex (minutelyHash nPastBlocks)).getD mainGenesisIndex

theorem minutelyLast_found :
    (minutelyState nPastBlocks).mapBlockIndex (minutelyHash nPastBlocks) = some minutelyLast ∧
      minutelyLast.nHeight = nPastBlocks := by
  obtain ⟨pindex, found, atHeight, -, -⟩ := (minutelyTip nPastBlocks le_rfl).tip
  have isLast : minutelyLast = pindex := by rw [minutelyLast, found, Option.getD_some]
  rw [isLast]
  exact ⟨found, atHeight⟩

def minutelyChain : List CBlockIndex := chainOf (minutelyState nPastBlocks).mapBlockIndex minutelyLast

theorem minutelyChain_kawpow : ∀ pindex ∈ minutelyChain.take nPastBlocks, isKawpowIndex pindex = true := by
  intro pindex member
  obtain ⟨key, inMap⟩ := mem_chainOf minutelyLast_found.1 (List.mem_of_mem_take member)
  exact decide_eq_true ((minutelyTip nPastBlocks le_rfl).times inMap).1

theorem minutelyChain_bits : ∀ pindex ∈ minutelyChain.take nPastBlocks, pindex.nBits = 0x2000ffff := by
  intro pindex member
  obtain ⟨found, atHeight⟩ := minutelyLast_found
  obtain ⟨key, inMap⟩ := mem_chainOf found (List.mem_of_mem_take member)
  have heights := chainOf_heights ((minutelyState_run nPastBlocks).wellFormed mainInitialState_wellFormed) found
  have counted : pindex.nHeight ∈ (minutelyChain.take nPastBlocks).map CBlockIndex.nHeight :=
    List.mem_map_of_mem member
  rw [List.map_take, minutelyChain, heights, atHeight, ← List.map_take, List.take_range,
    List.mem_map] at counted
  obtain ⟨below, inRange, isHeight⟩ := counted
  rw [List.mem_range] at inRange
  exact ((minutelyTip nPastBlocks le_rfl).bits inMap).resolve_left (by omega)

theorem minutelyChain_average : countedAverage minutelyChain = 2 ^ 248 - 2 ^ 232 := by
  have target : targetOf 0x2000ffff = 2 ^ 248 - 2 ^ 232 := by decide
  obtain ⟨full, -⟩ := counted_of_run (minutelyState_run nPastBlocks) minutelyLast_found.1
    (le_of_eq minutelyLast_found.2.symm)
  apply exactAverage_constant
  · intro empty
    have := congrArg List.length empty
    rw [List.length_map, minutelyChain, full] at this
    exact absurd this (by decide)
  · intro value member
    obtain ⟨pindex, isCounted, rfl⟩ := List.mem_map.mp member
    rw [minutelyChain_bits pindex isCounted, target]

/-- The retarget on top of block 180 is below a third of the average, and below the
exact target. -/
theorem minutelyChain_retarget_wraps :
    HeaderRun countingCrypto mainChainParams mainInitialState (minutelyState nPastBlocks) ∧
      (minutelyState nPastBlocks).mapBlockIndex (minutelyHash nPastBlocks) = some minutelyLast ∧
      minutelyLast.nHeight = nPastBlocks ∧
      (∀ pindex ∈ minutelyChain.take nPastBlocks, isKawpowIndex pindex = true) ∧
      ∃ bnNew, retargetedTarget minutelyChain mainParams = some bnNew ∧
        bnNew.value < exactTarget (2 ^ 248 - 1) (countedAverage minutelyChain)
          (countedTimespan mainParams minutelyChain).toNat 10800 ∧
        bnNew.value < countedAverage minutelyChain / 3 := by
  obtain ⟨found, atHeight⟩ := minutelyLast_found
  obtain ⟨full, targets⟩ := counted_of_run (minutelyState_run nPastBlocks) found (le_of_eq atHeight.symm)
  obtain ⟨bnNew, span, computed, isSpan, spanGe, spanLe, -, bnNewValue⟩ := retargetedTarget_value full targets
  refine ⟨minutelyState_run _, found, atHeight, minutelyChain_kawpow, bnNew, computed, ?_⟩
  rw [minutelyChain, isSpan, ← minutelyChain, minutelyChain_average, exactTarget, bnNewValue, Int.toNat_natCast]
  omega

theorem darkGravityWave_exact_minutelyChain :
    ∃ bnNew : ArithUint256,
      retargetedTarget minutelyChain mainParams = some bnNew ∧
      darkGravityWave minutelyChain (minutelyHeader nPastBlocks) mainParams = some bnNew.getCompact ∧
      ((bnNew.value = exactTarget (2 ^ 248 - 1) (countedAverage minutelyChain)
            (countedTimespan mainParams minutelyChain).toNat 10800 ∧
          countedAverage minutelyChain / 3 ≤ bnNew.value)
        ↔ countedAverage minutelyChain * (countedTimespan mainParams minutelyChain).toNat < 2 ^ 256) := by
  have kawpow := minutelyChain_kawpow
  unfold minutelyChain at kawpow ⊢
  exact darkGravityWave_exact_iff (minutelyState_run nPastBlocks) minutelyLast_found.1
    (le_of_eq minutelyLast_found.2.symm) kawpow (minutelyHeader nPastBlocks)

end BlackRaven.Chain
