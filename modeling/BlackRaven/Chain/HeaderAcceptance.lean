import BlackRaven.Consensus.ValidationState
import BlackRaven.Pow.Retarget

/-!
Contract: the header half of `validation.cpp`: `CheckBlockHeader`,
`ContextualCheckBlockHeader`, `AddToBlockIndex`, `AcceptBlockHeader`, and
`GetLastCheckpoint` of `checkpoints.cpp`.

Owns: the state the header path reads and writes, one step of it, and what a header
that was newly admitted has passed.

Does not own: how chainlocks come about. Their only trace here is the predicate
`HasConflictingChainLock`.
-/

namespace BlackRaven.Chain

open Arith Consensus BlackRaven.Pow Primitives

structure ChainParams where
  consensus : Params
  /-- `mapCheckpoints`, in ascending order of height. -/
  checkpoints : List (Nat × Uint256)

/-- What the header path reads besides the chain itself. -/
structure NodeView where
  nAdjustedTime : Int
  fCheckpointsEnabled : Bool
  hasConflictingChainLock : Nat → Uint256 → Bool

/-- The globals the header path works on. The genesis block is inserted by
`LoadGenesisBlock` before any header is accepted. -/
structure ChainState (genesis : Uint256) where
  mapBlockIndex : BlockMap
  pindexBestHeader : Option Uint256
  gFailedBlocks : List Uint256
  setDirtyBlockIndex : List Uint256
  knowsGenesis : (mapBlockIndex genesis).isSome = true

def maxFutureBlockTime : Int := 15 * 60

/-! ## Checks -/

/-- The last checkpoint whose block is in the index. -/
def getLastCheckpoint (checkpoints : List (Nat × Uint256)) (map : BlockMap) : Option CBlockIndex :=
  checkpoints.reverse.findSome? fun checkpoint => map checkpoint.2

/-- Whether `CheckBlockHeader` trusts the claimed mix hash: the *claimed* height is not
above the last checkpoint. -/
def mixOnlyPath (checkpoints : List (Nat × Uint256)) (map : BlockMap) (block : CBlockHeader) :
    Bool :=
  match getLastCheckpoint checkpoints map with
  | none => false
  | some pcheckpoint => decide (block.nHeight.toNat ≤ pcheckpoint.nHeight)

variable {genesis : Uint256} (crypto : PowHash) (chainparams : ChainParams) (node : NodeView)
  (map : BlockMap) (s : ChainState genesis) (block : CBlockHeader) (pindexPrev : CBlockIndex)

def checkBlockHeader (fCheckPOW : Bool) : Except Failure Unit :=
  if fCheckPOW && block.isKawpow && mixOnlyPath chainparams.checkpoints map block then
    if !checkProofOfWork (block.getHash crypto) block.nBits chainparams.consensus then
      .error (dos 50 rejectInvalid "high-hash")
    else .ok ()
  else if fCheckPOW
      && !checkProofOfWork (block.getHashFull crypto).1 block.nBits chainparams.consensus then
    .error (dos 50 rejectInvalid "high-hash")
  else if fCheckPOW && block.isKawpow && (block.getHashFull crypto).2 != block.mixHash then
    .error (dos 50 rejectInvalid "invalid-mix-hash")
  else .ok ()

def contextualCheckBlockHeader : Except Failure Unit :=
  let nHeight := pindexPrev.nHeight + 1
  let chain := chainOf map pindexPrev
  match getNextWorkRequired chain block chainparams.consensus with
  | none => .error (.thrown "GetNextWorkRequired")
  | some required =>
    if block.nBits ≠ required then .error (dos 100 rejectInvalid "bad-diffbits")
    else if node.fCheckpointsEnabled
        && (getLastCheckpoint chainparams.checkpoints map).any fun pcheckpoint =>
          decide (nHeight < pcheckpoint.nHeight) then
      .error (dos 100 rejectCheckpoint "bad-fork-prior-to-checkpoint")
    else if (block.nTime.toNat : Int) ≤ getMedianTimePast chain then
      .error (invalidState rejectInvalid "time-too-old")
    else if (block.nTime.toNat : Int) > node.nAdjustedTime + maxFutureBlockTime then
      .error (invalidState rejectInvalid "time-too-new")
    else .ok ()

/-! ## The index -/

/-- The entry `AddToBlockIndex` builds for a header it does not know. -/
def newIndexEntry (nStatus : Uint32) :
    CBlockIndex :=
  let entry := CBlockIndex.ofHeader (block.getHash crypto) block
  let proof := (getBlockProof block.nBits).getD (ArithUint256.ofUint64 0)
  let linked :=
    match map block.hashPrevBlock with
    | none => { entry with nTimeMax := entry.nTime, nChainWork := proof }
    | some pprev =>
      { entry with
        pprev := some block.hashPrevBlock
        nHeight := pprev.nHeight + 1
        nTimeMax := if pprev.nTimeMax.toNat < entry.nTime.toNat then entry.nTime else pprev.nTimeMax
        nChainWork := pprev.nChainWork.add proof }
  if nStatus &&& blockValidMask != 0 then linked.raiseValidity nStatus.toNat
  else
    let raised := linked.raiseValidity blockValidTree
    { raised with nStatus := raised.nStatus ||| nStatus }

private theorem set_knowsGenesis {map : BlockMap} (pindex : CBlockIndex)
    (known : (map genesis).isSome = true) : (map.set pindex genesis).isSome = true := by
  unfold BlockMap.set
  split
  · rfl
  · exact known

def addToBlockIndex (nStatus : Uint32) : ChainState genesis :=
  match s.mapBlockIndex (block.getHash crypto) with
  | some _ => s
  | none =>
    let pindexNew := newIndexEntry crypto s.mapBlockIndex block nStatus
    { mapBlockIndex := s.mapBlockIndex.set pindexNew
      pindexBestHeader :=
        if nStatus &&& blockValidMask != 0 then
          match s.pindexBestHeader.bind s.mapBlockIndex with
          | none => some pindexNew.hashBlock
          | some best =>
            if pindexNew.nChainWork.gt best.nChainWork then some pindexNew.hashBlock
            else s.pindexBestHeader
        else s.pindexBestHeader
      gFailedBlocks := s.gFailedBlocks
      setDirtyBlockIndex := pindexNew.hashBlock :: s.setDirtyBlockIndex
      knowsGenesis := set_knowsGenesis pindexNew s.knowsGenesis }

/-! ## AcceptBlockHeader -/

/-- The checks on a header that is not in the index yet, in the order of the source;
the result is the parent. -/
def headerChecks : Except Failure CBlockIndex := do
  checkBlockHeader crypto chainparams map block true
  match map block.hashPrevBlock with
  | none => .error (dos 10 0 "prev-blk-not-found")
  | some pindexPrev =>
    if pindexPrev.hasStatus blockFailedMask then .error (dos 100 rejectInvalid "bad-prevblk")
    else if pindexPrev.hasStatus blockConflictChainlock then
      .error (dos 10 rejectInvalid "bad-prevblk-chainlock")
    else
      contextualCheckBlockHeader chainparams node map block pindexPrev
      return pindexPrev

/-- The first known failed block the parent descends from. -/
def failedAncestor :
    Option CBlockIndex :=
  if pindexPrev.isValid blockValidScripts then none
  else
    (s.gFailedBlocks.filterMap s.mapBlockIndex).find? fun failedit =>
      (getAncestor s.mapBlockIndex pindexPrev failedit.nHeight).map CBlockIndex.hashBlock
        == some failedit.hashBlock

/-- The walk that marks everything between the parent and the failed block. -/
def markFailedChildren (failedit : CBlockIndex) : ChainState genesis :=
  let marked := (chainOf s.mapBlockIndex pindexPrev).takeWhile fun pindex =>
    pindex.hashBlock != failedit.hashBlock
  let isMarked := fun hash => marked.any fun pindex => pindex.hashBlock == hash
  { s with
    mapBlockIndex := fun hash =>
      (s.mapBlockIndex hash).map fun pindex =>
        if isMarked hash then { pindex with nStatus := pindex.nStatus ||| blockFailedChild }
        else pindex
    setDirtyBlockIndex := marked.map CBlockIndex.hashBlock ++ s.setDirtyBlockIndex
    knowsGenesis := by simpa using s.knowsGenesis }

/-- The verdict, with `*ppindex` on success, and the state left behind. -/
def acceptBlockHeader :
    Except Failure Uint256 × ChainState genesis :=
  let hash := block.getHash crypto
  if hash = genesis then (.ok hash, addToBlockIndex crypto s block (BitVec.ofNat 32 blockValidTree))
  else
    match s.mapBlockIndex hash with
    | some pindex =>
      if pindex.hasStatus blockFailedMask then (.error (invalidState 0 "duplicate"), s)
      else (.ok hash, s)
    | none =>
      match headerChecks crypto chainparams node s.mapBlockIndex block with
      | .error failure => (.error failure, s)
      | .ok pindexPrev =>
        match failedAncestor s pindexPrev with
        | some failedit =>
          (.error (dos 100 rejectInvalid "bad-prevblk"), markFailedChildren s pindexPrev failedit)
        | none =>
          if node.hasConflictingChainLock (pindexPrev.nHeight + 1) hash then
            (.error (dos 10 rejectInvalid "bad-chainlock"),
              addToBlockIndex crypto s block blockConflictChainlock)
          else (.ok hash, addToBlockIndex crypto s block (BitVec.ofNat 32 blockValidTree))

end BlackRaven.Chain
