import BlackRaven.Chain.AcceptBlock
import BlackRaven.Chain.SpentAssets

/-!
Contract: the founder fee of a block that `ProcessNewBlock` accepts and `ConnectTip`
connects, and the verdict of `ConnectBlock` on a block in memory and on the same block read
back from disk.

Owns: the one check of `CheckBlock` that depends on the height, and what follows from its
being made at the height the header claims. The mark `fChecked` keeps `ConnectBlock` from
making it again at the height the block is connected at.
-/

namespace BlackRaven.Chain

open Assets Consensus Lib Primitives

/-! ## The rule at one height -/

/-- What the coinbase of a block at `nHeight` owes the founder. -/
def founderDue (consensus : Params) (nHeight : Int) : CAmount :=
  let nPrevHeight := toInt32 (nHeight - 1)
  if nPrevHeight > consensus.nFounderPayment.startBlock then
    consensus.nFounderPayment.getFounderPaymentAmount nPrevHeight (getBlockSubsidy 1 nPrevHeight consensus)
  else 0

def PaysFounder (consensus : Params) (coinbase : CTransaction) (amount : CAmount) : Prop :=
  ∃ out ∈ coinbase.vout, out.scriptPubKey = consensus.nFounderPayment.payee ∧ amount ≤ out.nValue

/-- The founder rule as `CheckBlock` at `nHeight` makes it. -/
def checkFounderAt (env : TxEnv) (coinbase : CTransaction) (nHeight : Int) : Except Failure Unit :=
  checkFounder env coinbase (toInt32 (nHeight - 1)) (getBlockSubsidy 1 (toInt32 (nHeight - 1)) env.consensus)

theorem checkFounderAt_pays {env : TxEnv} {coinbase : CTransaction} {nHeight : Int}
    (passes : checkFounderAt env coinbase nHeight = .ok ()) (owes : 0 < founderDue env.consensus nHeight) :
    PaysFounder env.consensus coinbase (founderDue env.consensus nHeight) := by
  unfold founderDue at owes ⊢
  simp only at owes ⊢
  split at owes
  next started =>
    rw [if_pos started]
    unfold checkFounderAt checkFounder at passes
    simp only [rejected, ite_error_eq_ok] at passes
    have valid : env.consensus.nFounderPayment.isBlockPayeeValid coinbase (toInt32 (nHeight - 1))
        (getBlockSubsidy 1 (toInt32 (nHeight - 1)) env.consensus) = true := by
      by_contra invalid
      rw [Bool.not_eq_true] at invalid
      exact passes.1 ⟨started, ne_of_gt owes, by rw [invalid]; rfl⟩
    unfold FounderPayment.isBlockPayeeValid at valid
    rw [List.any_eq_true] at valid
    obtain ⟨out, member, pays⟩ := valid
    simp only [Bool.and_eq_true, beq_iff_eq, decide_eq_true_eq] at pays
    exact ⟨out, member, pays.1, pays.2⟩
  next => exact absurd owes (lt_irrefl 0)

/-! ## The same checks at another height -/

section Again

variable {assets : AssetEnv} {consensus : Params} {tipHeight tipHeight' : Int}

/-- Inputs that have passed are judged again by the founder rule alone. -/
theorem checkInputs_again {tx : CTransaction} {nHeight nHeight' : Int} {reward reward' : CAmount}
    (passes : checkInputs ⟨assets, consensus, tipHeight⟩ tx nHeight reward = .ok ()) :
    checkInputs ⟨assets, consensus, tipHeight'⟩ tx nHeight' reward' = .ok ()
      ↔ (tx.isCoinBase = true → checkFounder ⟨assets, consensus, tipHeight'⟩ tx nHeight' reward' = .ok ()) := by
  unfold checkInputs at passes ⊢
  simp only [rejected, ite_error_eq_ok] at passes ⊢
  obtain ⟨distinct, passes⟩ := passes
  cases isCoinBase : tx.isCoinBase with
  | false =>
    rw [isCoinBase, if_neg Bool.false_ne_true] at passes
    simp only [Bool.false_eq_true, if_false, false_imp_iff, iff_true]
    exact ⟨distinct, passes⟩
  | true =>
    rw [isCoinBase, if_pos rfl] at passes
    unfold checkCoinBase at passes ⊢
    simp only [rejected, ite_error_eq_ok] at passes ⊢
    simp only [if_true, ite_error_eq_ok, true_imp_iff]
    constructor
    · intro again
      exact again.2.2.2
    · intro founder
      exact ⟨distinct, passes.1, passes.2.1, founder⟩

theorem checkTransaction_again {tx : CTransaction} {nHeight nHeight' : Int}
    {reward reward' : CAmount} {fMempoolCheck fBlockCheck : Bool}
    (passes : checkTransaction ⟨assets, consensus, tipHeight⟩ tx nHeight reward fMempoolCheck
      fBlockCheck = .ok ()) :
    checkTransaction ⟨assets, consensus, tipHeight'⟩ tx nHeight' reward' fMempoolCheck fBlockCheck = .ok ()
      ↔ (tx.isCoinBase = true → checkFounder ⟨assets, consensus, tipHeight'⟩ tx nHeight' reward' = .ok ()) := by
  obtain ⟨scan, operation, stages⟩ := checkTransaction_ok passes
  rw [← checkInputs_again stages.inputs]
  constructor
  · intro again
    obtain ⟨_, _, stagesAgain⟩ := checkTransaction_ok again
    exact stagesAgain.inputs
  · intro inputs
    unfold checkTransaction at passes ⊢
    simp only [rejected, ite_error_eq_ok] at passes ⊢
    refine ⟨passes.1, passes.2.1, passes.2.2.1, passes.2.2.2.1, ?_⟩
    refine bind_eq_ok.mpr ⟨scan, stages.scanned, ?_⟩
    refine bind_eq_ok.mpr ⟨(), stages.tokens, ?_⟩
    refine bind_eq_ok.mpr ⟨(), inputs, ?_⟩
    exact bind_eq_ok.mpr ⟨operation, stages.operated, stages.verifier⟩

end Again

/-- A block that has passed `CheckBlock` once passes again, under another index and at
another height, exactly when the header still passes and the coinbase pays the founder what
is due at that height. -/
theorem blockChecked_again {env env' : BlockEnv} {map map' : BlockMap} {block : CBlock}
    {nHeight nHeight' : Int} (sameAssets : env'.assets = env.assets)
    (sameParams : env'.chainparams = env.chainparams) (passed : BlockChecked env map block nHeight)
    {coinbase : CTransaction} (first : block.vtx.head? = some coinbase) :
    BlockChecked env' map' block nHeight'
      ↔ checkBlockHeader env'.crypto env'.chainparams map' block.header true = .ok ()
        ∧ checkFounderAt env'.txEnv coinbase nHeight' = .ok () := by
  obtain ⟨found, rest, isVtx, isCoinBase, others⟩ := checkCoinbasePlace_ok passed.coinbasePlace
  obtain rfl : found = coinbase := by simpa [isVtx] using first
  have again : ∀ tx ∈ block.vtx, checkTransaction env'.txEnv tx (toInt32 (nHeight' - 1))
      (getBlockSubsidy 1 (toInt32 (nHeight' - 1)) env'.chainparams.consensus) false true = .ok ()
        ↔ (tx.isCoinBase = true → checkFounderAt env'.txEnv tx nHeight' = .ok ()) := by
    intro tx member
    have before := forM_eq_ok.mp passed.transactions tx member
    unfold BlockEnv.txEnv at before ⊢
    rw [sameAssets, sameParams]
    exact checkTransaction_again before
  constructor
  · intro passes
    refine ⟨passes.header, ?_⟩
    have member : found ∈ block.vtx := by simp [isVtx]
    exact (again found member).mp (forM_eq_ok.mp passes.transactions found member) isCoinBase
  · rintro ⟨header, founder⟩
    have merkleRoot := passed.merkleRoot
    unfold checkMerkleRoot at merkleRoot
    rw [← sameAssets] at merkleRoot
    refine ⟨header, merkleRoot, passed.size, passed.coinbasePlace, ?_, passed.sigOps⟩
    refine forM_eq_ok.mpr fun tx member => (again tx member).mpr fun txIsCoinBase => ?_
    rw [isVtx] at member
    rcases List.mem_cons.mp member with rfl | later
    · exact founder
    · rw [others tx later] at txIsCoinBase
      cases txIsCoinBase

/-! ## The block that is connected -/

variable {genesis : Uint256} {ctx : AcceptContext} {s : BlockTree genesis} {block checked : CBlock}
  {fForceProcessing : Bool}

theorem acceptBlock_same (marked : block.fChecked = true)
    (accepts : (s.acceptBlock ctx block fForceProcessing).1 = .ok checked) : checked = block := by
  unfold BlockTree.acceptBlock at accepts
  split at accepts
  · cases accepts
  · dsimp only at accepts
    split at accepts
    · cases accepts
    · unfold BlockTree.acceptData at accepts
      split at accepts
      · exact (Except.ok.inj accepts).symm
      · split at accepts
        · exact (Except.ok.inj accepts).symm
        · split at accepts
          · cases accepts
          next found passes =>
            obtain rfl := Except.ok.inj accepts
            unfold BlockTree.checkAccepted checkBlock at passes
            rw [if_pos marked] at passes
            obtain ⟨_, -, rfl⟩ := map_eq_ok.mp passes
            rfl

/-- A block that `ProcessNewBlock` accepts is marked, and has passed the checks of
`CheckBlock` at the height its header claims. -/
theorem processNewBlock_ok (received : block.fChecked = false)
    (accepts : (s.processNewBlock ctx block fForceProcessing).1 = .ok checked) :
    BlockChecked (s.blockEnv ctx) s.mapBlockIndex block (claimedHeight block.header)
      ∧ checked = { block with fChecked := true } := by
  unfold BlockTree.processNewBlock at accepts
  split at accepts
  · cases accepts
  next marked passes =>
    obtain ⟨passed, rfl⟩ := (checkBlock_eq_ok received).mp passes
    exact ⟨passed, acceptBlock_same rfl accepts⟩

/-- A coinbase that pays the founder twice what is due at a height, and nothing else. -/
def founderCoinbase (consensus : Params) (nHeight : Int) : CTransaction :=
  let payment : CTxOut := ⟨founderDue consensus nHeight, consensus.nFounderPayment.payee⟩
  coinbaseTx [] [payment, payment]

theorem founderCoinbase_passes (env : TxEnv) (nHeight : Int) :
    checkFounderAt env (founderCoinbase env.consensus nHeight) nHeight = .ok () := by
  unfold checkFounderAt checkFounder
  by_cases started : toInt32 (nHeight - 1) > env.consensus.nFounderPayment.startBlock
  · have due : founderDue env.consensus nHeight
        = env.consensus.nFounderPayment.getFounderPaymentAmount (toInt32 (nHeight - 1))
          (getBlockSubsidy 1 (toInt32 (nHeight - 1)) env.consensus) := if_pos started
    simp [founderCoinbase, coinbaseTx, CTransaction.plain, due, FounderPayment.isBlockPayeeValid]
  · simp [started]

/-- The founder rule at a claimed height makes every coinbase pay what is due at another
height exactly when nothing is due there or no more than at the claimed height. -/
theorem checkFounderAt_enforces_iff (env : TxEnv) (claimed nHeight : Int) :
    (∀ coinbase, checkFounderAt env coinbase claimed = .ok () → 0 < founderDue env.consensus nHeight →
        PaysFounder env.consensus coinbase (founderDue env.consensus nHeight))
      ↔ founderDue env.consensus nHeight ≤ 0
        ∨ founderDue env.consensus nHeight ≤ founderDue env.consensus claimed := by
  constructor
  · intro enforced
    by_contra unenforced
    rw [not_or, not_le, not_le] at unenforced
    obtain ⟨owes, less⟩ := unenforced
    obtain ⟨out, member, -, enough⟩ := enforced _ (founderCoinbase_passes env claimed) owes
    have paid : out.nValue = founderDue env.consensus claimed := by
      simp only [founderCoinbase, coinbaseTx, CTransaction.plain, List.mem_cons, List.not_mem_nil, or_false,
        or_self] at member
      rw [member]
    exact absurd (paid ▸ enough) (not_le.mpr less)
  · rintro (nothing | covered) coinbase passes owes
    · exact absurd owes (not_lt.mpr nothing)
    · obtain ⟨out, member, toFounder, enough⟩ := checkFounderAt_pays passes (lt_of_lt_of_le owes covered)
      exact ⟨out, member, toFounder, le_trans covered enough⟩

theorem BlockChecked.founder {env : BlockEnv} {map : BlockMap} {nHeight : Int}
    (passed : BlockChecked env map block nHeight) {coinbase : CTransaction}
    (first : block.vtx.head? = some coinbase) : checkFounderAt env.txEnv coinbase nHeight = .ok () :=
  ((blockChecked_again rfl rfl passed first).mp passed).2

/-- A block that `ProcessNewBlock` accepts and `ConnectTip` connects pays the founder what is
due at its height if it is read from disk, or if no less is due at the height its header
claims; that height is all the founder rule goes by as long as the block is in memory. -/
theorem founder_fee_enforced_iff (ctx : AcceptContext) (s : BlockTree genesis)
    (block checked : CBlock) (fForceProcessing : Bool) (received : block.fChecked = false)
    (accepts : (s.processNewBlock ctx block fForceProcessing).1 = .ok checked)
    (c after : Chainstate) (connection : Connection) (connected : Connected)
    (source : connection.source = .memory block s.mapBlockIndex s.height ∨ connection.source = .disk block)
    (connects : c.connectTip ctx.toNodeContext connection = .ok (after, connected))
    (coinbase : CTransaction) (first : connection.source.received.vtx.head? = some coinbase) :
    ((connection.source = .disk block
          ∨ founderDue ctx.chainparams.consensus connection.pindex.nHeight
            ≤ founderDue ctx.chainparams.consensus (claimedHeight block.header)) →
        0 < founderDue ctx.chainparams.consensus connection.pindex.nHeight →
        PaysFounder ctx.chainparams.consensus coinbase
          (founderDue ctx.chainparams.consensus connection.pindex.nHeight))
      ∧ ∀ (env : TxEnv) (claimed nHeight : Int),
        (∀ coinbase, checkFounderAt env coinbase claimed = .ok () →
            0 < founderDue env.consensus nHeight →
            PaysFounder env.consensus coinbase (founderDue env.consensus nHeight))
          ↔ founderDue env.consensus nHeight ≤ 0
            ∨ founderDue env.consensus nHeight ≤ founderDue env.consensus claimed := by
  refine ⟨?_, checkFounderAt_enforces_iff⟩
  obtain ⟨passed, -⟩ := processNewBlock_ok received accepts
  have first : block.vtx.head? = some coinbase := by
    rcases source with isSource | isSource
    · simpa [isSource, BlockSource.received] using first
    · simpa [isSource, BlockSource.received] using first
  rintro (fromDisk | covered) owes
  · obtain ⟨connectedBlock, stages⟩ := connectTip_ok connects
    obtain ⟨read, reads, passes⟩ := bind_eq_ok.mp stages.block
    rw [fromDisk] at reads
    obtain rfl := Except.ok.inj reads
    obtain ⟨passedAgain, -⟩ := (checkBlock_eq_ok rfl).mp passes
    exact checkFounderAt_pays (passedAgain.founder first) owes
  · exact (checkFounderAt_enforces_iff (s.blockEnv ctx).txEnv _ _).mpr (.inr covered) coinbase
      (passed.founder first) owes

/-! ### A block that claims to be lower than it is

After two blocks, one at height 3 says in its header that it is at height 2, where nothing is
due yet. -/

def dodgingCoinbase : CTransaction := coinbaseTx [3, 2] [⟨5000 * coin, anyoneCanSpend⟩]

def dodgingCoinbaseHash : Nat := 0x2544629c6aa8eb920e3065a317aa88697b26282207ebca3a08b38e87087d8fb6

def dodgingRows : List (Bytes × Bytes) :=
  Digests.hashRows [(dodgingCoinbase.serializeNoWitness,
      0xbfc5471193d6dce8473c5fbb90f879331826f554dbe7909243e24431e22cfc48, dodgingCoinbaseHash)]

def dodgingBlock : CBlock where
  header := { minutelyHeader 2 with
    nHeight := 2, hashMerkleRoot := BitVec.ofNat 256 dodgingCoinbaseHash }
  vtx := [dodgingCoinbase]
  fChecked := false

def feeEnv : AssetEnv :=
  ⟨Digests.tabulated (genesisRows ++ launchRows ++ dodgingRows) (by decide +kernel), mainAssetParams⟩

def feeContext : AcceptContext :=
  { launchNode with assets := feeEnv, nMinimumChainWork := .ofUint64 0, address := BitVec.toNat }

def genesisTree : BlockTree mainParams.hashGenesisBlock :=
  { mainInitialState with
    tip := some mainParams.hashGenesisBlock
    setBlockIndexCandidates := []
    mapBlocksUnlinked := []
    nBlockSequenceId := 1
    blockFiles := fun _ => none }

def feeTree : Nat → BlockTree mainParams.hashGenesisBlock
  | 0 => genesisTree
  | height + 1 =>
    { ((feeTree height).processNewBlock feeContext (launchBlock height) true).2 with
      tip := some (minutelyHash (height + 1)) }

def feeConnection (block : CBlock) : Connection where
  mapBlockIndex := ((feeTree 2).processNewBlock feeContext block true).2.mapBlockIndex
  tipHeight := 2
  pool := .empty
  source := .memory block (feeTree 2).mapBlockIndex (feeTree 2).height
  pindex := minutelyIndex 2 block.header

/-- Both the node's tree and its chain state take the third block. -/
def connectsThird (block : CBlock) : Bool :=
  ((feeTree 2).processNewBlock feeContext block true).1.toOption.isSome
    && (chainRun launchNode (.initial feeEnv true) (launchSteps 2)).toOption.any fun c =>
      (c.connectTip launchNode (feeConnection block)).toOption.isSome

theorem connectsThird_launchBlock : connectsThird (launchBlock 2) = true := by decide +kernel

theorem connectsThird_dodgingBlock : connectsThird dodgingBlock = true := by decide +kernel

theorem connectsThird_iff {block : CBlock} : connectsThird block = true ↔
    ∃ checked c after connected,
      ((feeTree 2).processNewBlock feeContext block true).1 = .ok checked
        ∧ chainRun launchNode (.initial feeEnv true) (launchSteps 2) = .ok c
        ∧ c.connectTip launchNode (feeConnection block) = .ok (after, connected) := by
  unfold connectsThird
  rw [Bool.and_eq_true_iff, toOption_isSome, toOption_any]
  constructor
  · rintro ⟨⟨checked, accepts⟩, c, runs, connects⟩
    obtain ⟨⟨after, connected⟩, connects⟩ := toOption_isSome.mp connects
    exact ⟨checked, c, after, connected, accepts, runs, connects⟩
  · rintro ⟨checked, c, after, connected, accepts, runs, connects⟩
    exact ⟨⟨checked, accepts⟩, c, runs, toOption_isSome.mpr ⟨(after, connected), connects⟩⟩

theorem founder_fee_of_launchBlock :
    ∃ (checked : CBlock) (c after : Chainstate) (connected : Connected),
      ((feeTree 2).processNewBlock feeContext (launchBlock 2) true).1 = .ok checked
        ∧ c.connectTip launchNode (feeConnection (launchBlock 2)) = .ok (after, connected)
        ∧ PaysFounder mainParams laterCoinbase (founderDue mainParams 3) := by
  obtain ⟨checked, c, after, connected, accepts, -, connects⟩ := connectsThird_iff.mp connectsThird_launchBlock
  have enforced := founder_fee_enforced_iff feeContext (feeTree 2) (launchBlock 2) checked true rfl
    accepts c after (feeConnection (launchBlock 2)) connected (.inl rfl) connects laterCoinbase
    (by decide)
  exact ⟨checked, c, after, connected, accepts, connects,
    enforced.1 (.inr (by decide)) (by decide)⟩

/-- The block is accepted and connected at height 3, and pays the founder nothing of the 25
coins that are due there. -/
theorem dodgingBlock_pays_no_founder :
    ∃ (checked : CBlock) (c after : Chainstate) (connected : Connected),
      ((feeTree 2).processNewBlock feeContext dodgingBlock true).1 = .ok checked
        ∧ chainRun launchNode (.initial feeEnv true) (launchSteps 2) = .ok c
        ∧ c.connectTip launchNode (feeConnection dodgingBlock) = .ok (after, connected)
        ∧ (feeConnection dodgingBlock).pindex.nHeight = 3
        ∧ founderDue mainParams 3 = 25 * coin
        ∧ ∀ out ∈ dodgingCoinbase.vout, out.scriptPubKey ≠ mainParams.nFounderPayment.payee := by
  obtain ⟨checked, c, after, connected, accepts, runs, connects⟩ :=
    connectsThird_iff.mp connectsThird_dodgingBlock
  exact ⟨checked, c, after, connected, accepts, runs, connects, rfl, by decide, by decide⟩

/-! ## Memory and disk -/

section Origin

variable {connect : ConnectContext} {pool : PoolView} {pindex : CBlockIndex} {view : BlockView}

theorem connectBlock_unmarked (unmarked : block.fChecked = false)
    (passes : BlockChecked connect.blockEnv connect.mapBlockIndex block pindex.nHeight) :
    connectBlock connect pool false block pindex view
      = connectBlock connect pool false { block with fChecked := true } pindex view := by
  have again := (checkBlock_eq_ok unmarked).mpr ⟨passes, rfl⟩
  unfold connectBlock
  rw [Bool.not_false, again]
  rfl

theorem connectBlock_unmarked_ok (unmarked : block.fChecked = false) {connected : Connected}
    (connects : connectBlock connect pool false block pindex view = .ok connected) :
    BlockChecked connect.blockEnv connect.mapBlockIndex block pindex.nHeight := by
  unfold connectBlock at connects
  rw [ite_error_eq_ok] at connects
  obtain ⟨again, passes, -⟩ := bind_eq_ok.mp connects.2
  exact ((checkBlock_eq_ok unmarked).mp passes).1

/-- `ConnectBlock` on a block that `ProcessNewBlock` has accepted and marked, against
`ConnectBlock` on the same block without the mark. Where it connects the one, it connects the
other, with the same result, exactly when the header passes under the index as it is now and
the coinbase passes the founder rule at the height of the entry. Where it rejects the one, it
rejects the other. -/
theorem connectBlock_origin_iff (ctx : AcceptContext) (s : BlockTree genesis)
    (block checked : CBlock) (fForceProcessing : Bool) (received : block.fChecked = false)
    (accepts : (s.processNewBlock ctx block fForceProcessing).1 = .ok checked)
    (connect : ConnectContext) (sameNode : connect.toNodeContext = ctx.toNodeContext)
    (sameAssets : connect.globals.env = ctx.assets) (pool : PoolView) (pindex : CBlockIndex)
    (view : BlockView) (coinbase : CTransaction) (first : block.vtx.head? = some coinbase) :
    (∀ connected, connectBlock connect pool false checked pindex view = .ok connected →
        (connectBlock connect pool false block pindex view = .ok connected
          ↔ checkBlockHeader connect.crypto connect.chainparams connect.mapBlockIndex block.header true
              = .ok ()
            ∧ checkFounderAt connect.blockEnv.txEnv coinbase pindex.nHeight = .ok ()))
      ∧ ∀ failure, connectBlock connect pool false checked pindex view = .error failure →
        ∃ failure', connectBlock connect pool false block pindex view = .error failure' := by
  obtain ⟨passed, rfl⟩ := processNewBlock_ok received accepts
  have sameParams : connect.blockEnv.chainparams = (s.blockEnv ctx).chainparams :=
    congrArg NodeContext.chainparams sameNode
  have again : BlockChecked connect.blockEnv connect.mapBlockIndex block pindex.nHeight ↔ _ :=
    blockChecked_again sameAssets sameParams passed first
  constructor
  · intro connected connects
    constructor
    · intro fromDisk
      exact again.mp (connectBlock_unmarked_ok received fromDisk)
    · intro passes
      rw [connectBlock_unmarked received (again.mpr passes)]
      exact connects
  · intro failure rejects
    cases fromDisk : connectBlock connect pool false block pindex view with
    | error other => exact ⟨other, rfl⟩
    | ok connected =>
      rw [connectBlock_unmarked received (connectBlock_unmarked_ok received fromDisk), rejects] at fromDisk
      cases fromDisk

end Origin

theorem connectsThird_memory {block : CBlock} (received : block.fChecked = false)
    (connects : connectsThird block = true) :
    ∃ (checked : CBlock) (c : Chainstate) (connected : Connected),
      ((feeTree 2).processNewBlock feeContext block true).1 = .ok checked
        ∧ chainRun launchNode (.initial feeEnv true) (launchSteps 2) = .ok c
        ∧ connectBlock (c.context launchNode (feeConnection block)) .empty false checked
            (feeConnection block).pindex c.blockView = .ok connected
        ∧ c.globals.env = feeEnv := by
  obtain ⟨checked, c, after, connected, accepts, runs, connects⟩ := connectsThird_iff.mp connects
  have sameEnv : c.globals.env = feeEnv :=
    foldlM_unchanged (fun c : Chainstate => c.globals.env) (fun _ _ _ => chainStep_env) runs
  obtain ⟨read, reads, connects⟩ := bind_eq_ok.mp connects
  obtain ⟨result, connects, -⟩ := bind_eq_ok.mp connects
  obtain ⟨-, rfl⟩ := processNewBlock_ok received accepts
  obtain ⟨-, isRead⟩ := (checkBlock_eq_ok rfl).mp
    (show checkBlock _ _ { block with fChecked := false } _ true true false = .ok read from reads)
  rw [isRead] at connects
  exact ⟨_, c, result, accepts, runs, connects, sameEnv⟩

theorem connectBlock_origin_launchBlock :
    ∃ (checked : CBlock) (c : Chainstate) (connected : Connected),
      ((feeTree 2).processNewBlock feeContext (launchBlock 2) true).1 = .ok checked
        ∧ connectBlock (c.context launchNode (feeConnection (launchBlock 2))) .empty false checked
            (feeConnection (launchBlock 2)).pindex c.blockView = .ok connected
        ∧ connectBlock (c.context launchNode (feeConnection (launchBlock 2))) .empty false (launchBlock 2)
            (feeConnection (launchBlock 2)).pindex c.blockView = .ok connected := by
  obtain ⟨checked, c, connected, accepts, -, connects, sameEnv⟩ :=
    connectsThird_memory rfl connectsThird_launchBlock
  have same := connectBlock_origin_iff feeContext (feeTree 2) (launchBlock 2) checked true rfl accepts
    (c.context launchNode (feeConnection (launchBlock 2))) rfl sameEnv .empty
    (feeConnection (launchBlock 2)).pindex c.blockView laterCoinbase (by decide)
  have header : checkBlockHeader launchNode.crypto launchNode.chainparams
      (feeConnection (launchBlock 2)).mapBlockIndex (launchBlock 2).header true = .ok () := by
    decide +kernel
  have founder : checkFounderAt ⟨feeEnv, launchNode.chainparams.consensus, 2⟩ laterCoinbase
      (feeConnection (launchBlock 2)).pindex.nHeight = .ok () := by
    decide
  rw [← sameEnv] at founder
  rw [← Chainstate.context_mapBlockIndex launchNode c] at header
  exact ⟨checked, c, connected, accepts, connects, (same.1 connected connects).mpr ⟨header, founder⟩⟩

/-- The block at height 3 that claims height 2 is connected from memory; read back from disk,
it is rejected for the missing payment. -/
theorem dodgingBlock_depends_on_origin :
    ∃ (checked : CBlock) (c : Chainstate) (connected : Connected),
      ((feeTree 2).processNewBlock feeContext dodgingBlock true).1 = .ok checked
        ∧ chainRun launchNode (.initial feeEnv true) (launchSteps 2) = .ok c
        ∧ connectBlock (c.context launchNode (feeConnection dodgingBlock)) .empty false checked
            (feeConnection dodgingBlock).pindex c.blockView = .ok connected
        ∧ connectBlock (c.context launchNode (feeConnection dodgingBlock)) .empty false dodgingBlock
            (feeConnection dodgingBlock).pindex c.blockView
          = .error (dos 100 rejectInvalid "bad-cb-founder-payment-not-found") := by
  obtain ⟨checked, c, connected, accepts, runs, connects, sameEnv⟩ :=
    connectsThird_memory rfl connectsThird_dodgingBlock
  refine ⟨checked, c, connected, accepts, runs, connects, ?_⟩
  have rejects : checkBlock ⟨launchNode.crypto, launchNode.chainparams, feeEnv, launchNode.curve, 2⟩
      (feeConnection dodgingBlock).mapBlockIndex dodgingBlock
      (feeConnection dodgingBlock).pindex.nHeight true true false
        = .error (dos 100 rejectInvalid "bad-cb-founder-payment-not-found") := by
    decide +kernel
  have sameHash : ¬ (feeConnection dodgingBlock).pindex.hashBlock
      ≠ dodgingBlock.header.getHash (c.context launchNode (feeConnection dodgingBlock)).crypto := by
    have isHash : (feeConnection dodgingBlock).pindex.hashBlock
        = dodgingBlock.header.getHash launchNode.crypto := by decide
    exact not_not.mpr isHash
  rw [← sameEnv, ← Chainstate.context_mapBlockIndex launchNode c] at rejects
  unfold connectBlock
  rw [if_neg sameHash]
  exact congrArg (fun outcome => outcome >>= _) rejects

end BlackRaven.Chain
