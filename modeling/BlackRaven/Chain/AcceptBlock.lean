import BlackRaven.Chain.Chainstate

/-!
Contract: the block half of `validation.cpp` above the headers: `ReceivedBlockTransactions`,
`AcceptBlock` and the part of `ProcessNewBlock` before `ActivateBestChain`.

Owns: the block tree with the data that has arrived, the candidates for the tip, and one
block that is received.

Does not own: where blocks lie in their files, pruning, and errors of the disk. The file of
an entry gives back the block that was written for it.
-/

namespace BlackRaven.Chain

open Arith Assets Consensus Primitives

def minBlocksToKeep : Nat := 288

def blockValidTransactions : Nat := 3
def blockOptWitness : Uint32 := 128#32

/-- What the block path reads besides the block and the tree. -/
structure AcceptContext extends NodeContext where
  assets : AssetEnv
  nMinimumChainWork : ArithUint256
  /-- Where an entry lies in memory. -/
  address : Uint256 → Nat

structure BlockTree (genesis : Uint256) extends ChainState genesis where
  /-- The tip of `chainActive`. -/
  tip : Option Uint256
  setBlockIndexCandidates : List Uint256
  /-- Entries with data whose parent or one of its ancestors has none, by parent. -/
  mapBlocksUnlinked : List (Uint256 × Uint256)
  nBlockSequenceId : Int
  /-- The blocks that were written to disk, by entry. -/
  blockFiles : Uint256 → Option CBlock

def workComparator (address : Uint256 → Nat) (pa pb : CBlockIndex) : Bool :=
  if pa.nChainWork.gt pb.nChainWork then false
  else if pb.nChainWork.gt pa.nChainWork then true
  else if pa.nSequenceId < pb.nSequenceId then false
  else if pa.nSequenceId > pb.nSequenceId then true
  else decide (address pa.hashBlock > address pb.hashBlock)

namespace BlockTree

variable {genesis : Uint256}

variable (ctx : AcceptContext) (s : BlockTree genesis) (block : CBlock) (pindex : CBlockIndex)

def tipIndex : Option CBlockIndex := s.tip.bind s.mapBlockIndex

def height : Int := (s.tipIndex.map fun tip => (tip.nHeight : Int)).getD (-1)

def blockEnv : BlockEnv where
  crypto := ctx.crypto
  chainparams := ctx.chainparams
  assets := ctx.assets
  curve := ctx.curve
  tipHeight := s.height

def modify (hash : Uint256) (change : CBlockIndex → CBlockIndex) :
    BlockTree genesis :=
  { s with
    mapBlockIndex := fun key =>
      (s.mapBlockIndex key).map fun pindex => if key = hash then change pindex else pindex
    knowsGenesis := by simpa using s.knowsGenesis }

/-! ## ReceivedBlockTransactions -/

/-- A round of the queue: an entry whose ancestors all have their data, and the entries that
waited for it. -/
def linkEntry :
    BlockTree genesis × List Uint256 :=
  let nChainTx := ((pindex.pprev.bind s.mapBlockIndex).map CBlockIndex.nChainTx).getD 0
  let linked := { pindex with nChainTx := nChainTx + pindex.nTx, nSequenceId := s.nBlockSequenceId }
  let candidate :=
    match s.tipIndex with
    | none => true
    | some tip => !workComparator ctx.address linked tip
  ({ s.modify pindex.hashBlock (fun _ => linked) with
      nBlockSequenceId := s.nBlockSequenceId + 1
      setBlockIndexCandidates :=
        if candidate then s.setBlockIndexCandidates.insert pindex.hashBlock
        else s.setBlockIndexCandidates
      mapBlocksUnlinked := s.mapBlocksUnlinked.filter fun pair => pair.1 != pindex.hashBlock },
    (s.mapBlocksUnlinked.filter fun pair => pair.1 == pindex.hashBlock).map Prod.snd)

/-- The queue. A round takes one entry off it and puts entries of `mapBlocksUnlinked` on
it. -/
def linkQueue (ctx : AcceptContext) : Nat → BlockTree genesis → List Uint256 → BlockTree genesis
  | 0, s, _ => s
  | _ + 1, s, [] => s
  | rounds + 1, s, hash :: queue =>
    match s.mapBlockIndex hash with
    | none => linkQueue ctx rounds s queue
    | some pindex =>
      let linked := s.linkEntry ctx pindex
      linkQueue ctx rounds linked.1 (queue ++ linked.2)

def withData (nSegwitEnabled : Bool) (vtx : List CTransaction) (pindex : CBlockIndex) : CBlockIndex :=
  let nStatus := pindex.nStatus ||| blockHaveData
  { pindex with
    nTx := BitVec.ofNat 32 vtx.length
    nChainTx := 0
    nUndoPos := 0
    nStatus := if nSegwitEnabled then nStatus ||| blockOptWitness else nStatus
  }.raiseValidity blockValidTransactions

def receivedBlockTransactions (pindexNew : CBlockIndex) : BlockTree genesis :=
  let hash := pindexNew.hashBlock
  let received :=
    { s.modify hash (withData ctx.chainparams.consensus.nSegwitEnabled block.vtx) with
      setDirtyBlockIndex := hash :: s.setDirtyBlockIndex }
  match pindexNew.pprev.bind s.mapBlockIndex with
  | none => received.linkQueue ctx (s.mapBlocksUnlinked.length + 1) [hash]
  | some pprev =>
    if pprev.nChainTx != 0 then received.linkQueue ctx (s.mapBlocksUnlinked.length + 1) [hash]
    else if pprev.isValid blockValidTree then
      { received with mapBlocksUnlinked := s.mapBlocksUnlinked ++ [(pprev.hashBlock, hash)] }
    else received

/-! ## AcceptBlock -/

/-- A block that was not asked for and is not worth its room. -/
def unwanted : Bool :=
  pindex.nTx != 0
    || s.tipIndex.any (fun tip => tip.nChainWork.gt pindex.nChainWork)
    || decide ((pindex.nHeight : Int) > s.height + minBlocksToKeep)
    || ctx.nMinimumChainWork.gt pindex.nChainWork

/-- `CheckBlock`, at the height the header claims, and `ContextualCheckBlock`. -/
def checkAccepted : Except Failure CBlock :=
  checkBlock (s.blockEnv ctx) s.mapBlockIndex block (claimedHeight block.header) true true false
    >>= fun checked =>
  (contextualCheckBlock (s.blockEnv ctx) s.mapBlockIndex checked (pindex.pprev.bind s.mapBlockIndex)).map
    fun _ => checked

/-- `state.IsInvalid() && !state.CorruptionPossible()`. -/
def condemns : Failure → Bool
  | .invalid reject => !reject.corruptionPossible
  | _ => false

def markFailed (hash : Uint256) : BlockTree genesis :=
  { s.modify hash (fun pindex => { pindex with nStatus := pindex.nStatus ||| blockFailedValid }) with
    setDirtyBlockIndex := hash :: s.setDirtyBlockIndex }

/-- Everything after `AcceptBlockHeader`: the block as it is marked then, and the tree. -/
def acceptData (fRequested : Bool) : Except Failure CBlock × BlockTree genesis :=
  if pindex.hasStatus blockHaveData then (.ok block, s)
  else if !fRequested && s.unwanted ctx pindex then (.ok block, s)
  else
    match s.checkAccepted ctx block pindex with
    | .error failure =>
      (.error failure, if condemns failure then s.markFailed pindex.hashBlock else s)
    | .ok checked =>
      let written := { s with
        blockFiles := Function.update s.blockFiles pindex.hashBlock (some checked) }
      (.ok checked, written.receivedBlockTransactions ctx checked pindex)

def acceptBlock (fRequested : Bool) :
    Except Failure CBlock × BlockTree genesis :=
  match acceptBlockHeader ctx.crypto ctx.chainparams ctx.view s.toChainState block.header with
  | (.error failure, chain) => (.error failure, { s with toChainState := chain })
  | (.ok hash, chain) =>
    let accepted := { s with toChainState := chain }
    match chain.mapBlockIndex hash with
    | none => (.error (.undefined "pindex"), accepted)
    | some pindex => accepted.acceptData ctx block pindex fRequested

/-- `ProcessNewBlock` up to `ActivateBestChain`. -/
def processNewBlock (fForceProcessing : Bool) : Except Failure CBlock × BlockTree genesis :=
  match checkNewBlock (s.blockEnv ctx) s.mapBlockIndex block with
  | .error failure => (.error failure, s)
  | .ok checked => s.acceptBlock ctx checked fForceProcessing

end BlockTree

end BlackRaven.Chain
