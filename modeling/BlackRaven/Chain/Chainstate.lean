import BlackRaven.Assets.Agreement
import BlackRaven.Chain.ConnectBlock

/-!
Contract: `pcoinsTip` and the asset globals of a node, and what `ConnectTip` and
`FlushStateToDisk` of `validation.cpp` do to them.

Owns: the chain state after one block, and runs of blocks with flushes and reads between
them. The block comes from memory, where `ProcessNewBlock` has run it through `CheckBlock`
at the height its header claims, or from disk.

Does not own: which block is connected next, and the mempool beside the chain state. When
`FlushStateToDisk` decides to write is left open: a run may have a flush anywhere.
-/

namespace BlackRaven.Chain

open Assets Consensus Lib Primitives

structure Chainstate where
  /-- `pcoinsTip`, a cache over the database of coins. -/
  coinsTip : CoinsStore
  /-- The best block of `pcoinsTip`. -/
  hashBlock : Uint256
  globals : AssetGlobals

def Chainstate.initial (env : AssetEnv) (fAssetIndex : Bool) : Chainstate where
  coinsTip := .atop ∅ (.base fun _ => none)
  hashBlock := 0
  globals := .initial env fAssetIndex

/-! ## The block to connect -/

/-- `pblock->nHeight` as the `int` it is passed on as. -/
def claimedHeight (header : CBlockHeader) : Int := toInt32 header.nHeight.toNat

/-- The `CheckBlock` of `ProcessNewBlock`. -/
def checkNewBlock (env : BlockEnv) (map : BlockMap) (block : CBlock) : Except Failure CBlock :=
  checkBlock env map block (claimedHeight block.header) true true false

/-- Where `ConnectTip` has its block from. A block in memory was checked in an earlier
state of the node. -/
inductive BlockSource where
  | memory (block : CBlock) (mapBlockIndex : BlockMap) (tipHeight : Int)
  | disk (block : CBlock)

def BlockSource.received : BlockSource → CBlock
  | .memory block _ _ => { block with fChecked := false }
  | .disk block => { block with fChecked := false }

def BlockSource.read (node : NodeContext) (assets : AssetEnv) : BlockSource → Except Failure CBlock
  | .memory block map tipHeight =>
    checkNewBlock ⟨node.crypto, node.chainparams, assets, node.curve, tipHeight⟩ map
      { block with fChecked := false }
  | .disk block => .ok { block with fChecked := false }

/-! ## ConnectTip -/

/-- The block a node connects and the globals it has then. -/
structure Connection where
  mapBlockIndex : BlockMap
  tipHeight : Int
  pool : PoolView
  source : BlockSource
  pindex : CBlockIndex

namespace Chainstate

def context (node : NodeContext) (c : Chainstate) (connection : Connection) : ConnectContext :=
  { node with
    mapBlockIndex := connection.mapBlockIndex
    tipHeight := connection.tipHeight
    globals := c.globals }

@[simp] theorem context_mapBlockIndex (node : NodeContext) (c : Chainstate) (connection : Connection) :
    (c.context node connection).mapBlockIndex = connection.mapBlockIndex := rfl

def blockView (c : Chainstate) : BlockView where
  coins := .atop ∅ c.coinsTip
  assetsCache := .empty
  hashBlock := c.hashBlock

def flushView (c : Chainstate) (view : BlockView) : Except Failure Chainstate :=
  match view.coins.flush with
  | none => .error (.thrown "FRESH flag misapplied to cache entry for base transaction with spendable outputs")
  | some coinsTip =>
    .ok { coinsTip, hashBlock := view.hashBlock, globals := c.globals.flushed view.assetsCache }

/-- The part of `ConnectTip` that applies the block to the chain state. -/
def connectTip (node : NodeContext) (c : Chainstate) (connection : Connection) :
    Except Failure (Chainstate × Connected) :=
  connection.source.read node c.globals.env >>= fun block =>
  connectBlock (c.context node connection) connection.pool false block connection.pindex c.blockView
    >>= fun connected =>
  (c.flushView connected.view).map fun after => (after, connected)

/-- A full flush of `FlushStateToDisk`. -/
def flushStateToDisk (c : Chainstate) : Except Failure Chainstate :=
  match c.coinsTip.flush with
  | none => .error (.thrown "Failed to write to coin database")
  | some coins =>
    .ok { c with
      coinsTip := .atop ∅ coins
      globals := c.globals.dumpCacheToDatabase }

end Chainstate

/-! ## Runs -/

inductive ChainStep where
  | connect (connection : Connection)
  | flush
  /-- A coin is looked up and stays in the cache. -/
  | readCoin (outpoint : COutPoint)
  | readAsset (item : StoredItem)
  | reindexing (flag : Bool)

def chainStep (node : NodeContext) (c : Chainstate) : ChainStep → Except Failure Chainstate
  | .connect connection => (c.connectTip node connection).map Prod.fst
  | .flush => c.flushStateToDisk
  | .readCoin outpoint => .ok { c with coinsTip := c.coinsTip.fetch outpoint }
  | .readAsset item =>
    .ok { c with
      globals := { c.globals with toAssetStore := c.globals.toAssetStore.read c.globals.env item } }
  | .reindexing flag => .ok { c with globals := { c.globals with fReindex := flag } }

def chainRun (node : NodeContext) (c : Chainstate) (steps : List ChainStep) :
    Except Failure Chainstate :=
  steps.foldlM (chainStep node) c

def ChainStep.vtx : ChainStep → List CTransaction
  | .connect connection => connection.source.received.vtx
  | _ => []

variable {after : Chainstate} {checked : CBlock} {connected : Connected}

theorem flushView_ok {c : Chainstate} {view : BlockView} (flushes : c.flushView view = .ok after) :
    ∃ coinsTip, view.coins.flush = some coinsTip
      ∧ after = ⟨coinsTip, view.hashBlock, c.globals.flushed view.assetsCache⟩ := by
  unfold Chainstate.flushView at flushes
  split at flushes
  · cases flushes
  next coinsTip flushed =>
    cases flushes
    exact ⟨coinsTip, flushed, rfl⟩

theorem flushStateToDisk_ok {c : Chainstate} (flushes : c.flushStateToDisk = .ok after) :
    ∃ coins, c.coinsTip.flush = some coins
      ∧ after = { c with coinsTip := .atop ∅ coins, globals := c.globals.dumpCacheToDatabase } := by
  unfold Chainstate.flushStateToDisk at flushes
  split at flushes
  · cases flushes
  next coins flushed =>
    cases flushes
    exact ⟨coins, flushed, rfl⟩

theorem chainStep_env {node : NodeContext} {c : Chainstate} {step : ChainStep}
    (steps : chainStep node c step = .ok after) : after.globals.env = c.globals.env := by
  cases step with
  | connect connection =>
    obtain ⟨⟨next, connected⟩, connects, rfl⟩ := map_eq_ok.mp steps
    obtain ⟨block, -, connects⟩ := bind_eq_ok.mp connects
    obtain ⟨view, -, flushes⟩ := bind_eq_ok.mp connects
    obtain ⟨last, flushed, isNext⟩ := map_eq_ok.mp flushes
    cases isNext
    obtain ⟨_, -, rfl⟩ := flushView_ok flushed
    rfl
  | flush =>
    obtain ⟨_, -, rfl⟩ := flushStateToDisk_ok steps
    rfl
  | readCoin outpoint =>
    cases steps
    rfl
  | readAsset item =>
    cases steps
    rfl
  | reindexing flag =>
    cases steps
    rfl

/-! ## What a connected block has passed -/

/-- Every transaction of a block passes `CheckTransaction`, at one height and with one
reward. -/
def TransactionsPass (env : TxEnv) (vtx : List CTransaction) : Prop :=
  ∃ nHeight blockReward, ∀ tx ∈ vtx, checkTransaction env tx nHeight blockReward false true = .ok ()

variable {node : NodeContext} {c : Chainstate} {connection : Connection}

/-- The block `ConnectBlock` goes on with after its own `CheckBlock`. -/
def Chainstate.checkedBlock (node : NodeContext) (c : Chainstate) (connection : Connection) :
    Except Failure CBlock :=
  connection.source.read node c.globals.env >>= fun block =>
  checkBlock (c.context node connection).blockEnv connection.mapBlockIndex block
    connection.pindex.nHeight true true false

section

variable (passes : c.checkedBlock node connection = .ok checked)

include passes

theorem checkedBlock_same :
    checked.header = connection.source.received.header ∧ checked.vtx = connection.source.received.vtx := by
  obtain ⟨block, reads, passes⟩ := bind_eq_ok.mp passes
  have same := checkBlock_same passes
  cases isSource : connection.source with
  | memory received map tipHeight =>
    rw [isSource] at reads
    unfold BlockSource.read checkNewBlock at reads
    have sameRead := checkBlock_same reads
    exact ⟨same.1.trans sameRead.1, same.2.trans sameRead.2⟩
  | disk received =>
    rw [isSource] at reads
    obtain rfl := Except.ok.inj reads
    exact same

/-- Whether the block comes from memory or from disk, it was checked as it was received. -/
theorem checkedBlock_checked :
    ∃ tipHeight map nHeight, BlockChecked
      ⟨node.crypto, node.chainparams, c.globals.env, node.curve, tipHeight⟩ map
      connection.source.received nHeight := by
  obtain ⟨block, reads, passes⟩ := bind_eq_ok.mp passes
  cases isSource : connection.source with
  | memory received map tipHeight =>
    rw [isSource] at reads
    unfold BlockSource.read checkNewBlock at reads
    exact ⟨tipHeight, map, _, ((checkBlock_eq_ok rfl).mp reads).1⟩
  | disk received =>
    rw [isSource] at reads
    obtain rfl := Except.ok.inj reads
    exact ⟨connection.tipHeight, _, _, ((checkBlock_eq_ok rfl).mp passes).1⟩

theorem checkedBlock_transactions :
    checked.vtx = connection.source.received.vtx
      ∧ ∃ tipHeight, TransactionsPass ⟨c.globals.env, node.chainparams.consensus, tipHeight⟩ checked.vtx := by
  refine ⟨(checkedBlock_same passes).2, ?_⟩
  rw [(checkedBlock_same passes).2]
  obtain ⟨tipHeight, map, nHeight, stages⟩ := checkedBlock_checked passes
  exact ⟨tipHeight, _, _, forM_eq_ok.mp stages.transactions⟩

end

structure TipConnected (node : NodeContext) (c : Chainstate) (connection : Connection)
    (after : Chainstate) (connected : Connected) (checked : CBlock) : Prop where
  block : c.checkedBlock node connection = .ok checked
  hash : connection.pindex.hashBlock = checked.header.getHash node.crypto
  connects : connectChecked (c.context node connection) connection.pool false checked
    connection.pindex c.blockView = .ok connected
  flushes : c.flushView connected.view = .ok after

/-- A block that `ConnectBlock` accepts has passed its `CheckBlock`. -/
theorem connectBlock_checked {block : CBlock} (reads : connection.source.read node c.globals.env = .ok block)
    (connects : connectBlock (c.context node connection) connection.pool false block connection.pindex
      c.blockView = .ok connected) :
    ∃ checked, c.checkedBlock node connection = .ok checked
      ∧ connection.pindex.hashBlock = checked.header.getHash node.crypto
      ∧ connectChecked (c.context node connection) connection.pool false checked connection.pindex
          c.blockView = .ok connected := by
  unfold connectBlock at connects
  rw [ite_error_eq_ok, not_not] at connects
  obtain ⟨sameHash, connects⟩ := connects
  obtain ⟨checked, passes, connects⟩ := bind_eq_ok.mp connects
  refine ⟨checked, bind_eq_ok.mpr ⟨block, reads, passes⟩, ?_, connects⟩
  rw [(checkBlock_same passes).1]
  exact sameHash

theorem connectTip_accepts (connects : c.connectTip node connection = .ok (after, connected)) :
    (connection.source.read node c.globals.env >>= fun block =>
      connectBlock (c.context node connection) connection.pool false block connection.pindex c.blockView)
        = .ok connected := by
  obtain ⟨block, reads, connects⟩ := bind_eq_ok.mp connects
  obtain ⟨result, connects, flushes⟩ := bind_eq_ok.mp connects
  obtain ⟨last, -, isLast⟩ := map_eq_ok.mp flushes
  cases isLast
  exact bind_eq_ok.mpr ⟨block, reads, connects⟩

theorem connectTip_ok (connects : c.connectTip node connection = .ok (after, connected)) :
    ∃ checked, TipConnected node c connection after connected checked := by
  obtain ⟨block, reads, connects⟩ := bind_eq_ok.mp connects
  obtain ⟨result, connects, flushes⟩ := bind_eq_ok.mp connects
  obtain ⟨last, flushes, isLast⟩ := map_eq_ok.mp flushes
  cases isLast
  obtain ⟨checked, passes, sameHash, connects⟩ := connectBlock_checked reads connects
  exact ⟨checked, passes, sameHash, connects, flushes⟩

end BlackRaven.Chain
