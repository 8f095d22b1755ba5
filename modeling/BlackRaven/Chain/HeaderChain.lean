import BlackRaven.Chain.ProofOfWork

/-!
Contract: what holds in every state the header path can reach.

Owns: the shape of the block tree, its preservation by one step of
`AcceptBlockHeader`, and hence by every run.
-/

namespace BlackRaven.Chain

open Arith Consensus BlackRaven.Pow Primitives

/-- The tree in `mapBlockIndex`: keys are block hashes, every entry above height 0 has
its parent in the map one below it, and every target is within the limit. -/
structure WellFormed (params : Params) (map : BlockMap) : Prop where
  hashBlock : ∀ {hash pindex}, map hash = some pindex → pindex.hashBlock = hash
  linked : ∀ {hash pindex}, map hash = some pindex → pindex.nHeight = 0 ∨
    ∃ pprev, pindex.pprev.bind map = some pprev ∧ pindex.nHeight = pprev.nHeight + 1
  target : ∀ {hash pindex}, map hash = some pindex → targetOf pindex.nBits ≤ params.powLimit.toNat

/-! ## One step -/

/-- The parts of an entry that never change after `AddToBlockIndex`. -/
def CBlockIndex.fixedPart (pindex : CBlockIndex) : CBlockIndex :=
  { pindex with
    nFile := 0
    nDataPos := 0
    nUndoPos := 0
    nChainWork := ArithUint256.ofUint64 0
    nTx := 0
    nChainTx := 0
    nStatus := 0
    nSequenceId := 0
    nTimeMax := 0 }

def SameHeader (left right : CBlockIndex) : Prop := left.fixedPart = right.fixedPart

variable {left right pindex : CBlockIndex} {params : Params} {hash : Uint256}

section

variable (same : SameHeader left right)

include same

theorem SameHeader.hashBlock : left.hashBlock = right.hashBlock := (congrArg CBlockIndex.hashBlock same :)

theorem SameHeader.pprev : left.pprev = right.pprev := (congrArg CBlockIndex.pprev same :)

theorem SameHeader.nHeight : left.nHeight = right.nHeight := (congrArg CBlockIndex.nHeight same :)

theorem SameHeader.nTime : left.nTime = right.nTime := (congrArg CBlockIndex.nTime same :)

theorem SameHeader.nBits : left.nBits = right.nBits := (congrArg CBlockIndex.nBits same :)

theorem SameHeader.getBlockHeader :
    left.getBlockHeader = right.getBlockHeader := (congrArg CBlockIndex.getBlockHeader same :)

end

theorem raiseValidity_sameHeader (pindex : CBlockIndex) (nUpTo : Nat) :
    SameHeader (pindex.raiseValidity nUpTo) pindex := by
  unfold CBlockIndex.raiseValidity
  split
  · rfl
  · split
    · rfl
    · rfl

variable {genesis : Uint256} {crypto : PowHash} {chainparams : ChainParams} {node : NodeView}
  {s : ChainState genesis} {block : CBlockHeader}

/-- The entry of a header under a known parent, up to its status and its work. -/
def placedEntry (crypto : PowHash) (block : CBlockHeader) (pindexPrev : CBlockIndex) : CBlockIndex :=
  { CBlockIndex.ofHeader (block.getHash crypto) block with
    pprev := some block.hashPrevBlock
    nHeight := pindexPrev.nHeight + 1 }

theorem newIndexEntry_sameHeader (crypto : PowHash) {map : BlockMap} {pindexPrev : CBlockIndex}
    (nStatus : Uint32) (parent : map block.hashPrevBlock = some pindexPrev) :
    SameHeader (newIndexEntry crypto map block nStatus) (placedEntry crypto block pindexPrev) := by
  simp only [newIndexEntry, parent]
  split <;> exact raiseValidity_sameHeader _ _

/-- A step leaves the tree alone, adds one entry under a known parent after its header
passed the checks, or changes the status of entries. -/
theorem acceptBlockHeader_step (crypto : PowHash) (chainparams : ChainParams) (node : NodeView)
    (s : ChainState genesis) (block : CBlockHeader) :
    let next := (acceptBlockHeader crypto chainparams node s block).2.mapBlockIndex
    next = s.mapBlockIndex ∨
      (∃ pindexPrev nStatus,
        headerChecks crypto chainparams node s.mapBlockIndex block = .ok pindexPrev ∧
        s.mapBlockIndex (block.getHash crypto) = none ∧
        next = s.mapBlockIndex.set (newIndexEntry crypto s.mapBlockIndex block nStatus)) ∨
      (∃ update : Uint256 → CBlockIndex → CBlockIndex,
        (∀ hash pindex, SameHeader (update hash pindex) pindex) ∧
        next = fun hash => (s.mapBlockIndex hash).map (update hash)) := by
  have addKnown : ∀ nStatus, s.mapBlockIndex (block.getHash crypto) = none →
      (addToBlockIndex crypto s block nStatus).mapBlockIndex
        = s.mapBlockIndex.set (newIndexEntry crypto s.mapBlockIndex block nStatus) := by
    intro nStatus unknown
    simp only [addToBlockIndex, unknown]
  simp only [acceptBlockHeader]
  split
  case isTrue isGenesis =>
    left
    obtain ⟨known, isKnown⟩ := Option.isSome_iff_exists.mp s.knowsGenesis
    have : s.mapBlockIndex (block.getHash crypto) = some known := by rw [isGenesis, isKnown]
    simp only [addToBlockIndex, this]
  case isFalse =>
    cases unknown : s.mapBlockIndex (block.getHash crypto) with
    | some pindex =>
      left
      dsimp only
      split <;> rfl
    | none =>
      cases checks : headerChecks crypto chainparams node s.mapBlockIndex block with
      | error failure => exact Or.inl rfl
      | ok pindexPrev =>
        cases ancestor : failedAncestor s pindexPrev with
        | some failedit =>
          right
          right
          simp only [ancestor]
          refine ⟨_, ?_, rfl⟩
          intro hash pindex
          split <;> rfl
        | none =>
          right
          left
          simp only [ancestor]
          split <;> exact ⟨pindexPrev, _, rfl, trivial, addKnown _ unknown⟩

/-! ## Preservation -/

theorem headerChecks_target {map : BlockMap} {pindexPrev : CBlockIndex}
    (checks : headerChecks crypto chainparams node map block = .ok pindexPrev) :
    targetOf block.nBits ≤ chainparams.consensus.powLimit.toNat := by
  rcases checkBlockHeader_ok (headerChecks_ok checks).1 with ⟨-, -, work⟩ | ⟨-, work, -⟩
  · exact (checkProofOfWork_le work).2
  · exact (checkProofOfWork_le work).2

/-- Adding an entry under a known parent keeps the tree well formed. -/
theorem WellFormed.set {map : BlockMap} (formed : WellFormed params map) {entry pprev : CBlockIndex}
    (isNew : map entry.hashBlock = none) (parent : entry.pprev.bind map = some pprev)
    (height : entry.nHeight = pprev.nHeight + 1)
    (target : targetOf entry.nBits ≤ params.powLimit.toNat) : WellFormed params (map.set entry) := by
  have keepsParent : ∀ {pointer : Option Uint256} {pindex},
      pointer.bind map = some pindex → pointer.bind (map.set entry) = some pindex := by
    intro pointer pindex found
    obtain ⟨hash, isHash, lookup⟩ := Option.bind_eq_some_iff.mp found
    exact Option.bind_eq_some_iff.mpr ⟨hash, isHash, BlockMap.set_of_found isNew lookup⟩
  constructor
  · intro hash pindex found
    rcases BlockMap.eq_of_set found with ⟨rfl, rfl⟩ | old
    · rfl
    · exact formed.hashBlock old
  · intro hash pindex found
    rcases BlockMap.eq_of_set found with ⟨rfl, rfl⟩ | old
    · exact Or.inr ⟨pprev, keepsParent parent, height⟩
    · rcases formed.linked old with root | ⟨above, isAbove, heightAbove⟩
      · exact Or.inl root
      · exact Or.inr ⟨above, keepsParent isAbove, heightAbove⟩
  · intro hash pindex found
    rcases BlockMap.eq_of_set found with ⟨rfl, rfl⟩ | old
    · exact target
    · exact formed.target old

theorem WellFormed.map {map : BlockMap} (formed : WellFormed params map)
    {update : Uint256 → CBlockIndex → CBlockIndex}
    (same : ∀ hash pindex, SameHeader (update hash pindex) pindex) :
    WellFormed params fun hash => (map hash).map (update hash) := by
  constructor
  · intro hash pindex found
    obtain ⟨old, isOld, rfl⟩ := Option.map_eq_some_iff.mp found
    rw [(same hash old).hashBlock]
    exact formed.hashBlock isOld
  · intro hash pindex found
    obtain ⟨old, isOld, rfl⟩ := Option.map_eq_some_iff.mp found
    rw [(same hash old).pprev, (same hash old).nHeight]
    rcases formed.linked isOld with root | ⟨above, isAbove, heightAbove⟩
    · exact Or.inl root
    · right
      obtain ⟨pointer, isPointer, lookup⟩ := Option.bind_eq_some_iff.mp isAbove
      refine ⟨update pointer above, ?_, by rw [(same pointer above).nHeight]; exact heightAbove⟩
      rw [isPointer, Option.bind_some, lookup]
      rfl
  · intro hash pindex found
    obtain ⟨old, isOld, rfl⟩ := Option.map_eq_some_iff.mp found
    rw [(same hash old).nBits]
    exact formed.target isOld

theorem acceptBlockHeader_wellFormed (formed : WellFormed chainparams.consensus s.mapBlockIndex) :
    WellFormed chainparams.consensus (acceptBlockHeader crypto chainparams node s block).2.mapBlockIndex := by
  rcases acceptBlockHeader_step crypto chainparams node s block with
    same | ⟨pindexPrev, nStatus, checks, unknown, added⟩ | ⟨update, sameHeader, updated⟩
  · rw [same]
    exact formed
  · have parent := (headerChecks_ok checks).2.1
    have placed := newIndexEntry_sameHeader crypto nStatus parent
    rw [added]
    refine formed.set ?_ (by rw [placed.pprev]; exact parent) placed.nHeight ?_
    · rw [placed.hashBlock]
      exact unknown
    · rw [placed.nBits]
      exact headerChecks_target checks
  · rw [updated]
    exact formed.map sameHeader

/-! ## Runs -/

/-- The states reached from `start` by accepting headers, each with the clock and the
chainlocks of its own moment. -/
inductive HeaderRun (crypto : PowHash) (chainparams : ChainParams) (start : ChainState genesis) :
    ChainState genesis → Prop
  | start : HeaderRun crypto chainparams start start
  | accept {s : ChainState genesis} (run : HeaderRun crypto chainparams start s) (node : NodeView)
      (block : CBlockHeader) :
      HeaderRun crypto chainparams start (acceptBlockHeader crypto chainparams node s block).2

theorem HeaderRun.wellFormed {start : ChainState genesis}
    (formed : WellFormed chainparams.consensus start.mapBlockIndex)
    (run : HeaderRun crypto chainparams start s) :
    WellFormed chainparams.consensus s.mapBlockIndex := by
  induction run with
  | start => exact formed
  | accept _ node block ih => exact acceptBlockHeader_wellFormed ih

/-! ## Chains in a well-formed tree -/

/-- The chain of an entry goes down to the root, one height at a time. -/
theorem walk_heights {map : BlockMap} (formed : WellFormed params map) :
    ∀ (fuel : Nat) (pindex : CBlockIndex) (hash : Uint256), map hash = some pindex →
      fuel ≤ pindex.nHeight →
      (walk map fuel pindex).map CBlockIndex.nHeight
        = (List.range (fuel + 1)).map fun below => pindex.nHeight - below
  | 0, pindex, _, _, _ => by simp [walk]
  | fuel + 1, pindex, hash, found, fits => by
      rcases formed.linked found with root | ⟨pprev, parent, height⟩
      · omega
      · obtain ⟨pointer, -, lookup⟩ := Option.bind_eq_some_iff.mp parent
        have above := walk_heights formed fuel pprev pointer lookup (by omega)
        have expand : (List.range (fuel + 1 + 1)).map (fun below => pindex.nHeight - below)
            = pindex.nHeight :: (List.range (fuel + 1)).map fun below => pindex.nHeight - (below + 1) := by
          rw [List.range_succ_eq_map, List.map_cons, List.map_map]
          rfl
        unfold walk
        rw [parent, expand]
        rw [List.map_cons, above]
        congr 1
        apply List.map_congr_left
        omega

theorem chainOf_heights {map : BlockMap} (formed : WellFormed params map) (found : map hash = some pindex) :
    (chainOf map pindex).map CBlockIndex.nHeight
      = (List.range (pindex.nHeight + 1)).map fun below => pindex.nHeight - below :=
  walk_heights formed pindex.nHeight pindex hash found le_rfl

theorem chainOf_length {map : BlockMap} (formed : WellFormed params map) (found : map hash = some pindex) :
    (chainOf map pindex).length = pindex.nHeight + 1 := by
  have := congrArg List.length (chainOf_heights formed found)
  simpa using this

theorem chainOf_head (map : BlockMap) (pindex : CBlockIndex) : (chainOf map pindex).head? = some pindex := by
  unfold chainOf
  cases pindex.nHeight with
  | zero => rfl
  | succ fuel =>
    unfold walk
    split <;> rfl

theorem mem_chainOf {map : BlockMap} {ancestor : CBlockIndex} (found : map hash = some pindex)
    (member : ancestor ∈ chainOf map pindex) :
    ∃ key, map key = some ancestor := by
  rcases mem_walk member with rfl | inMap
  · exact ⟨hash, found⟩
  · exact inMap

end BlackRaven.Chain
