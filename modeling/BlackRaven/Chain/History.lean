import BlackRaven.Chain.Utxo

/-!
Contract: the ids of the transactions of a run, and that no output that is still unspent is
made again.

Owns: the induction through the inputs. A transaction with inputs has an id of its own,
since whatever had the same id has spent the same inputs; that leaves the coinbases, and the
transactions without inputs that `CheckTransaction` lets pass for the type of a quorum
commitment.
-/

namespace BlackRaven.Chain

open Assets Consensus Lib Lib.WriteBack Primitives Script

/-! ## Ids -/

theorem isCoinBase_of_prevouts {left right : CTransaction}
    (same : left.vin.map CTxIn.prevout = right.vin.map CTxIn.prevout) :
    left.isCoinBase = right.isCoinBase := by
  have only : ∀ tx : CTransaction, tx.isCoinBase = ((tx.vin.map CTxIn.prevout).length == 1
      && (tx.vin.map CTxIn.prevout).all COutPoint.isNull) := by
    intro tx
    unfold CTransaction.isCoinBase
    rcases tx.vin with _ | ⟨first, _ | ⟨second, rest⟩⟩
    · rfl
    · exact (Bool.and_true _).symm
    · rfl
  rw [only left, only right, same]

/-- The outputs of a checked transaction have sizes and values that can be read back. -/
theorem checkTransaction_sized {env : TxEnv} {tx : CTransaction} {nHeight : Int}
    {blockReward : CAmount} {fMempoolCheck fBlockCheck : Bool}
    (passes : checkTransaction env tx nHeight blockReward fMempoolCheck fBlockCheck = .ok ()) :
    tx.Sized ∧ ∀ txout ∈ tx.vout, 0 ≤ txout.nValue ∧ txout.nValue ≤ maxMoney := by
  obtain ⟨scan, operation, stages⟩ := checkTransaction_ok passes
  have values : ∀ txout ∈ tx.vout, 0 ≤ txout.nValue ∧ txout.nValue ≤ maxMoney := by
    apply foldlM_established (fun txout (_ : OutputScan) => 0 ≤ txout.nValue ∧ txout.nValue ≤ maxMoney)
      ?_ (fun _ _ _ _ _ before => before) stages.scanned
    intro s txout next scans
    obtain ⟨valued, scansValue, -⟩ := bind_eq_ok.mp scans
    unfold scanValue at scansValue
    simp only [rejected, ite_error_eq_ok] at scansValue
    exact ⟨not_lt.mp scansValue.1, not_lt.mp scansValue.2.1⟩
  refine ⟨CTransaction.sized_of_length ?_ ?_, values⟩
  · unfold checkTransaction at passes
    simp only [rejected, ite_error_eq_ok] at passes
    have weight := passes.2.2.1
    simp only [witnessScaleFactor, maxBlockWeight, not_lt] at weight
    simp only [maxSize]
    omega
  · intro txout member
    obtain ⟨low, high⟩ := values txout member
    constructor
    · exact le_trans (by norm_num) low
    · exact lt_of_le_of_lt high (by norm_num [maxMoney, coin])

/-! ## The transactions so far -/

/-- Ids are those of different serializations, and a transaction that spends nothing, a coinbase or
one without inputs, has an id of its own. -/
structure SoundHistory (digests : Digests) (txs : List CTransaction) : Prop where
  collisionFree : ∀ left ∈ txs, ∀ right ∈ txs, left.getHash digests = right.getHash digests →
    left.serializeNoWitness = right.serializeNoWitness
  sources : ((txs.filter fun tx => (spentOutpoints tx).isEmpty).map (CTransaction.getHash digests)).Nodup

theorem SoundHistory.left {digests : Digests} {before after : List CTransaction}
    (sound : SoundHistory digests (before ++ after)) : SoundHistory digests before where
  collisionFree := fun left isLeft right isRight =>
    sound.collisionFree left (List.mem_append_left _ isLeft) right (List.mem_append_left _ isRight)
  sources := by
    have distinct := sound.sources
    rw [List.filter_append, List.map_append] at distinct
    exact (List.nodup_append.mp distinct).1

/-- What the coins say about the transactions so far. -/
structure History (digests : Digests) (history : List CTransaction) (coins : CoinsView) : Prop where
  known : ∀ outpoint coin_, coins outpoint = some coin_ → ∃ tx ∈ history, tx.getHash digests = outpoint.hash
  spent : ∀ tx ∈ history, ∀ outpoint ∈ spentOutpoints tx, coins outpoint = none
  closed : ∀ tx ∈ history, ∀ outpoint ∈ spentOutpoints tx,
    ∃ parent ∈ history, parent.getHash digests = outpoint.hash
  ids : (history.map (CTransaction.getHash digests)).Nodup
  once : (history.flatMap spentOutpoints).Nodup

theorem History.empty (digests : Digests) : History digests [] (fun _ => none) where
  known := nofun
  spent := nofun
  closed := nofun
  ids := List.nodup_nil
  once := List.nodup_nil

section Step

variable {digests : Digests} {history : List CTransaction} {coins : CoinsView} {tx : CTransaction}

/-- A transaction that finds its inputs unspent has an id of its own. -/
theorem History.newId (holds : History digests history coins) (sound : SoundHistory digests (history ++ [tx]))
    (sized : ∀ other ∈ history ++ [tx], other.Sized)
    (have_ : ∀ outpoint ∈ spentOutpoints tx, (coins outpoint).isSome = true) :
    ∀ other ∈ history, other.getHash digests ≠ tx.getHash digests := by
  intro other member sameId
  have isLast : tx ∈ history ++ [tx] := by simp
  have isOther : other ∈ history ++ [tx] := List.mem_append_left _ member
  have prevouts : other.vin.map CTxIn.prevout = tx.vin.map CTxIn.prevout := by
    rw [← other.stripped_prevouts, ← tx.stripped_prevouts, CTransaction.serializeNoWitness_inj
      (sized other isOther) (sized tx isLast) (sound.collisionFree other isOther tx isLast sameId)]
  have sameSpent : spentOutpoints other = spentOutpoints tx := by
    unfold spentOutpoints
    rw [isCoinBase_of_prevouts prevouts, prevouts]
  cases spends : spentOutpoints tx with
  | nil =>
    have distinct := sound.sources
    rw [List.filter_append, List.map_append, List.nodup_append] at distinct
    apply distinct.2.2 (other.getHash digests) _ (tx.getHash digests) _ sameId
    · exact List.mem_map_of_mem (List.mem_filter.mpr ⟨member, by rw [sameSpent, spends]; rfl⟩)
    · simp [spends]
  | cons outpoint rest =>
    -- The other transaction has spent the first input of this one.
    have unspent := have_ outpoint (by simp [spends])
    rw [holds.spent other member outpoint (by simp [sameSpent, spends])] at unspent
    cases unspent

theorem unused_of_newId
    (known : ∀ outpoint coin_, coins outpoint = some coin_ → ∃ tx ∈ history, tx.getHash digests = outpoint.hash)
    (newId : ∀ other ∈ history, other.getHash digests ≠ tx.getHash digests) (index : Uint32) :
    coins ⟨tx.getHash digests, index⟩ = none := by
  cases found : coins ⟨tx.getHash digests, index⟩ with
  | none => rfl
  | some coin_ =>
    obtain ⟨other, member, sameId⟩ := known _ coin_ found
    exact absurd sameId (newId other member)

/-- Inputs that are found unspent have not been spent by anyone. -/
theorem History.spentOnce (holds : History digests history coins) (distinct : (tx.vin.map CTxIn.prevout).Nodup)
    (have_ : ∀ outpoint ∈ spentOutpoints tx, (coins outpoint).isSome = true) :
    ((history ++ [tx]).flatMap spentOutpoints).Nodup := by
  rw [List.flatMap_append, List.flatMap_singleton, List.nodup_append]
  refine ⟨holds.once, ?_, ?_⟩
  · unfold spentOutpoints
    split
    · exact List.nodup_nil
    · exact distinct
  · rintro outpoint earlier _ now rfl
    obtain ⟨spender, member, spends⟩ := List.mem_flatMap.mp earlier
    have unspent := have_ outpoint now
    rw [holds.spent spender member outpoint spends] at unspent
    cases unspent

theorem History.step (holds : History digests history coins) (nHeight : Nat)
    (newId : ∀ other ∈ history, other.getHash digests ≠ tx.getHash digests)
    (distinct : (tx.vin.map CTxIn.prevout).Nodup)
    (have_ : ∀ outpoint ∈ spentOutpoints tx, (coins outpoint).isSome = true) :
    History digests (history ++ [tx]) (applyTx digests nHeight coins tx) := by
  -- What was spent before or is spent now belongs to an earlier transaction.
  have parents : ∀ spender ∈ history ++ [tx], ∀ outpoint ∈ spentOutpoints spender,
      ∃ parent ∈ history, parent.getHash digests = outpoint.hash := by
    intro spender member outpoint spends
    rcases List.mem_append.mp member with earlier | last
    · exact holds.closed spender earlier outpoint spends
    · rw [List.mem_singleton] at last
      rw [last] at spends
      obtain ⟨coin_, found⟩ := Option.isSome_iff_exists.mp (have_ outpoint spends)
      exact holds.known outpoint coin_ found
  refine ⟨?_, ?_, ?_, ?_, holds.spentOnce distinct have_⟩
  · intro outpoint coin_ found
    rcases applyTx_eq_some found with ⟨before, -⟩ | made
    · obtain ⟨other, member, sameId⟩ := holds.known outpoint coin_ before
      exact ⟨other, List.mem_append_left _ member, sameId⟩
    · exact ⟨tx, by simp, (spendableCoins_hash made).symm⟩
  · intro spender member outpoint spends
    obtain ⟨parent, isParent, parentId⟩ := parents spender member outpoint spends
    rw [applyTx_of_ne (parentId ▸ newId parent isParent)]
    by_cases now : outpoint ∈ spentOutpoints tx
    · exact removeAll_of_mem now
    · rw [removeAll_of_notMem now]
      rcases List.mem_append.mp member with earlier | last
      · exact holds.spent spender earlier outpoint spends
      · rw [List.mem_singleton] at last
        exact absurd (last ▸ spends) now
  · intro spender member outpoint spends
    obtain ⟨parent, isParent, parentId⟩ := parents spender member outpoint spends
    exact ⟨parent, List.mem_append_left _ isParent, parentId⟩
  · rw [List.map_append, List.map_singleton, List.nodup_append]
    refine ⟨holds.ids, List.nodup_singleton _, ?_⟩
    intro id member other isLast
    obtain ⟨tx', earlier, rfl⟩ := List.mem_map.mp member
    rw [List.mem_singleton.mp isLast]
    exact newId tx' earlier

/-- A coin stays unless it is spent, as long as nobody makes it again. -/
theorem foldl_applyTx_kept {vtx : List CTransaction} (nHeight : Nat) {outpoint : COutPoint}
    {coin_ : Coin} (others : ∀ tx ∈ vtx, outpoint.hash ≠ tx.getHash digests)
    (found : coins outpoint = some coin_) :
    vtx.foldl (applyTx digests nHeight) coins outpoint = some coin_
      ∨ ∃ tx ∈ vtx, outpoint ∈ spentOutpoints tx := by
  by_cases spent : ∃ tx ∈ vtx, outpoint ∈ spentOutpoints tx
  · exact .inr spent
  · refine .inl (foldl_invariant (fun coins : CoinsView => coins outpoint = some coin_) ?_ found)
    intro tx member coins kept
    rw [applyTx_of_ne (others tx member), removeAll_of_notMem fun spends => spent ⟨tx, member, spends⟩]
    exact kept

end Step

/-! ## The loop over a block -/

/-- What `CheckTransaction` says about inputs and outputs. -/
structure CheckedTx (tx : CTransaction) : Prop where
  sized : tx.Sized
  values : ∀ txout ∈ tx.vout, 0 ≤ txout.nValue ∧ txout.nValue ≤ maxMoney
  distinct : (tx.vin.map CTxIn.prevout).Nodup

theorem TransactionsPass.checkedTx {env : TxEnv} {vtx : List CTransaction}
    (pass : TransactionsPass env vtx) : ∀ tx ∈ vtx, CheckedTx tx := by
  obtain ⟨nHeight, blockReward, passes⟩ := pass
  intro tx member
  obtain ⟨sized, values⟩ := checkTransaction_sized (passes tx member)
  obtain ⟨scan, operation, stages⟩ := checkTransaction_ok (passes tx member)
  have distinct := stages.inputs
  unfold checkInputs at distinct
  rw [rejected, ite_error_eq_ok] at distinct
  exact ⟨sized, values, by simpa using distinct.1⟩

/-- The state of the loop after the transactions so far, over coins that earlier ones
made. -/
structure LoopHistory (digests : Digests) (contents : CoinsView) (history : List CTransaction)
    (current : CoinsView) (coins : CoinsStore) : Prop where
  caches : coins.Caches contents current
  holds : History digests history current
  below : ∀ outpoint coin_, contents outpoint = some coin_ → ∃ tx ∈ history, tx.getHash digests = outpoint.hash
  checked : ∀ tx ∈ history, CheckedTx tx

section Loop

variable {ctx : ConnectContext} {pool : PoolView} {block : CBlock} {pindex : CBlockIndex}
  {contents current : CoinsView} {history : List CTransaction} {tx : CTransaction}

/-- A transaction whose inputs are there makes outputs that nobody has made. -/
theorem LoopHistory.newId {digests : Digests} {coins : CoinsStore}
    (loop : LoopHistory digests contents history current coins)
    (sound : SoundHistory digests (history ++ [tx])) (checked : CheckedTx tx)
    (have_ : ∀ outpoint ∈ spentOutpoints tx, (current outpoint).isSome = true) :
    (∀ other ∈ history, other.getHash digests ≠ tx.getHash digests)
      ∧ ∀ index, contents ⟨tx.getHash digests, index⟩ = none := by
  have sized : ∀ other ∈ history ++ [tx], other.Sized := List.forall_mem_append.mpr
    ⟨fun other earlier => (loop.checked other earlier).sized, List.forall_mem_singleton.mpr checked.sized⟩
  have newId := loop.holds.newId sound sized have_
  exact ⟨newId, unused_of_newId loop.below newId⟩

theorem LoopHistory.step {c next : ConnectState} {undo : List Coin}
    (loop : LoopHistory ctx.globals.env.digests contents history current c.s.coins)
    (sound : SoundHistory ctx.globals.env.digests (history ++ [tx])) (checked : CheckedTx tx)
    (connected : TxConnected ctx pool block pindex c tx next undo) :
    LoopHistory ctx.globals.env.digests contents (history ++ [tx])
        (applyTx ctx.globals.env.digests pindex.nHeight current tx) next.s.coins
      ∧ undoCoins current tx undo := by
  have have_ := connected.have_ loop.caches
  obtain ⟨newId, unused⟩ := loop.newId sound checked have_
  obtain ⟨caches, undone⟩ := connected.caches loop.caches checked.distinct (.inr unused)
  refine ⟨⟨caches, loop.holds.step pindex.nHeight newId checked.distinct have_, ?_,
    List.forall_mem_append.mpr ⟨loop.checked, List.forall_mem_singleton.mpr checked⟩⟩, undone⟩
  intro outpoint coin_ found
  obtain ⟨other, member, sameId⟩ := loop.below outpoint coin_ found
  exact ⟨other, List.mem_append_left _ member, sameId⟩

/-- The loop over the transactions of a block, one history after another. -/
theorem LoopHistory.run {vtx : List CTransaction} {c last : ConnectState}
    (loop : LoopHistory ctx.globals.env.digests contents history current c.s.coins)
    (sound : SoundHistory ctx.globals.env.digests (history ++ vtx)) (checked : ∀ tx ∈ vtx, CheckedTx tx)
    (runs : vtx.foldlM (connectTx ctx pool block pindex) c = .ok last) :
    LoopHistory ctx.globals.env.digests contents (history ++ vtx)
      (vtx.foldl (applyTx ctx.globals.env.digests pindex.nHeight) current) last.s.coins := by
  induction vtx generalizing history current c with
  | nil =>
    cases runs
    rwa [List.append_nil]
  | cons tx rest ih =>
    obtain ⟨next, first, later⟩ := foldlM_cons_ok.mp runs
    obtain ⟨undo, connected⟩ := connectTx_ok first
    rw [List.append_cons] at sound ⊢
    obtain ⟨after, -⟩ := loop.step sound.left (checked tx List.mem_cons_self) connected
    exact ih after sound (List.forall_mem_cons.mp checked).2 later

end Loop

/-! ## Runs -/

def ChainStep.created (node : NodeContext) : ChainStep → List CTransaction
  | .connect connection => node.connectedTxs connection.source.received
  | _ => []

/-- The chain state after the transactions of a run. -/
structure RunHistory (digests : Digests) (history : List CTransaction) (c : Chainstate) : Prop where
  sameDigests : c.globals.env.digests = digests
  coherent : c.coinsTip.Coherent
  holds : History digests history c.coinsTip.read
  checked : ∀ tx ∈ history, CheckedTx tx

theorem RunHistory.initial (env : AssetEnv) (fAssetIndex : Bool) :
    RunHistory env.digests [] (.initial env fAssetIndex) := by
  have caches := Store.Caches.start (show (Store.base fun _ => none : CoinsStore).Coherent from trivial)
  refine ⟨rfl, caches.coherent, ?_, nofun⟩
  exact History.empty env.digests

section Runs

variable {node : NodeContext} {digests : Digests} {history : List CTransaction} {c after : Chainstate}

theorem RunHistory.blockView (run : RunHistory digests history c) :
    LoopHistory digests c.coinsTip.read history c.coinsTip.read c.blockView.coins :=
  ⟨Store.Caches.start run.coherent, run.holds, run.holds.known, run.checked⟩

theorem connectedTxs_checked {connection : Connection} {checked : CBlock}
    (passes : c.checkedBlock node connection = .ok checked) :
    node.connectedTxs checked = (ChainStep.connect connection).created node
      ∧ ∀ tx ∈ node.connectedTxs checked, CheckedTx tx := by
  obtain ⟨sameHeader, sameTxs⟩ := checkedBlock_same passes
  obtain ⟨-, tipHeight, pass⟩ := checkedBlock_transactions passes
  constructor
  · unfold ChainStep.created NodeContext.connectedTxs
    rw [sameHeader, sameTxs]
  · intro tx member
    exact pass.checkedTx tx ((node.connectedTxs_sublist checked).subset member)

theorem RunHistory.connectTip (run : RunHistory digests history c) {connection : Connection}
    {connected : Connected} (connects : c.connectTip node connection = .ok (after, connected))
    (sound : SoundHistory digests (history ++ (ChainStep.connect connection).created node)) :
    RunHistory digests (history ++ (ChainStep.connect connection).created node) after
      ∧ after.coinsTip.read = ((ChainStep.connect connection).created node).foldl
        (applyTx digests connection.pindex.nHeight) c.coinsTip.read := by
  obtain ⟨checked, tip⟩ := connectTip_ok connects
  obtain ⟨last, block⟩ := connectChecked_ok tip.connects
  obtain ⟨isCreated, checkedTxs⟩ := connectedTxs_checked tip.block
  rw [← isCreated] at sound ⊢
  obtain ⟨rfl⟩ : c.globals.env.digests = digests := run.sameDigests
  have loop := run.blockView.run sound checkedTxs block.transactions
  obtain ⟨coinsTip, flushes, coherent, reads⟩ := loop.caches.flush
  obtain ⟨_, flushed, rfl⟩ := flushView_ok tip.flushes
  rw [block.view] at flushed
  obtain rfl := Option.mem_unique flushes flushed
  refine ⟨⟨rfl, coherent, ?_, loop.checked⟩, reads⟩
  rw [reads]
  exact loop.holds

theorem RunHistory.unchanged (run : RunHistory digests history c)
    (sameEnv : after.globals.env = c.globals.env) (coherent : after.coinsTip.Coherent)
    (reads : after.coinsTip.read = c.coinsTip.read) : RunHistory digests (history ++ []) after := by
  rw [List.append_nil]
  refine ⟨by rw [sameEnv]; exact run.sameDigests, coherent, ?_, run.checked⟩
  rw [reads]
  exact run.holds

theorem RunHistory.step (run : RunHistory digests history c) {step : ChainStep}
    (sound : SoundHistory digests (history ++ step.created node)) (steps : chainStep node c step = .ok after) :
    RunHistory digests (history ++ step.created node) after := by
  have sameEnv := chainStep_env steps
  cases step with
  | connect connection =>
    obtain ⟨⟨next, connected⟩, connects, rfl⟩ := map_eq_ok.mp steps
    exact (run.connectTip connects sound).1
  | flush =>
    obtain ⟨_, flushed, rfl⟩ := flushStateToDisk_ok steps
    obtain ⟨coherent, reads⟩ := Store.flush_reads run.coherent flushed
    have caches := Store.Caches.start coherent
    exact run.unchanged sameEnv caches.coherent (caches.reads.trans reads)
  | readCoin outpoint =>
    cases steps
    have agrees := Store.fetch_agrees c.coinsTip outpoint
    exact run.unchanged sameEnv (agrees.coherent run.coherent) agrees.reads
  | readAsset item =>
    cases steps
    exact run.unchanged sameEnv run.coherent rfl
  | reindexing flag =>
    cases steps
    exact run.unchanged sameEnv run.coherent rfl

theorem RunHistory.run {steps : List ChainStep} (run : RunHistory digests history c)
    (sound : SoundHistory digests (history ++ steps.flatMap (ChainStep.created node)))
    (runs : chainRun node c steps = .ok after) :
    RunHistory digests (history ++ steps.flatMap (ChainStep.created node)) after := by
  induction steps generalizing history c with
  | nil =>
    cases runs
    rwa [List.flatMap_nil, List.append_nil]
  | cons step rest ih =>
    obtain ⟨next, first, later⟩ := foldlM_cons_ok.mp runs
    rw [List.flatMap_cons, ← List.append_assoc] at sound ⊢
    exact ih (run.step sound.left first) sound later

end Runs

/-! ## No output is made again -/

theorem txCoins_nodup {tx : CTransaction} (sized : tx.Sized) (txid : Uint256) (nHeight : Nat) :
    ((txCoins tx txid nHeight).map Prod.fst).Nodup := by
  have few : tx.vout.length ≤ maxSize := sized.outputs.1
  have indices : (txCoins tx txid nHeight).map Prod.fst
      = (List.range tx.vout.length).map fun index => ⟨txid, BitVec.ofNat 32 index⟩ := by
    rw [List.range_eq_range', ← List.zipIdx_map_snd 0 tx.vout, List.map_map, txCoins, List.map_map]
    rfl
  rw [indices]
  apply List.Nodup.map_on _ List.nodup_range
  intro left isLeft right isRight same
  rw [List.mem_range] at isLeft isRight
  have sameIndex := congrArg (fun outpoint : COutPoint => outpoint.n.toNat) same
  simp only [BitVec.toNat_ofNat] at sameIndex
  simp only [maxSize] at few
  omega

section Recreation

variable {node : NodeContext} {c : Chainstate} {connection : Connection} {checked : CBlock}
  {done rest : List CTransaction} {tx : CTransaction}

variable {globals : AssetGlobals} {contents current : CoinsView} {history : List CTransaction}

theorem addCoins_ok {s : CoinsState} (caches : s.coins.Caches contents current) (checkedTx : CheckedTx tx)
    (unused : ∀ index, current ⟨tx.getHash globals.env.digests, index⟩ = none) (nHeight : Nat)
    (blockHash : Uint256) :
    ∃ next, addCoins globals s tx nHeight blockHash = .ok next := by
  have operated : ∀ assetsCache, ({ s with assetsCache } : CoinsState).coins.Caches contents current :=
    fun _ => caches
  apply addOutputs_ok (operated _)
  · intro item member
    obtain ⟨source, isSource, rfl⟩ := List.mem_map.mp member
    have nonnegative := (checkedTx.values source.1 (List.fst_mem_of_mem_zipIdx isSource)).1
    intro null
    rw [null] at nonnegative
    exact absurd nonnegative (by decide)
  · exact txCoins_nodup checkedTx.sized _ nHeight
  · intro item member
    obtain ⟨source, -, rfl⟩ := List.mem_map.mp member
    exact unused _

theorem updateCoins_exists {s : CoinsState} (caches : s.coins.Caches contents current)
    (readable : CoinsReadable s.coins) (checkedTx : CheckedTx tx)
    (have_ : ∀ outpoint ∈ spentOutpoints tx, (current outpoint).isSome = true)
    (unused : ∀ index, current ⟨tx.getHash globals.env.digests, index⟩ = none) (nHeight : Nat)
    (blockHash : Uint256) :
    ∃ updated, updateCoins globals s tx nHeight blockHash = .ok updated := by
  have spends : ∃ spent : CoinsState × List Coin,
      (if tx.isCoinBase then .ok (s, []) else tx.vin.foldlM (spendInput globals) (s, [])) = .ok spent
      ∧ spent.1.coins.Caches contents (removeAll current (spentOutpoints tx)) := by
    cases isCoinBase : tx.isCoinBase with
    | true =>
      rw [spentOutpoints_coinBase isCoinBase]
      exact ⟨_, rfl, caches⟩
    | false =>
      rw [spentOutpoints_of_not isCoinBase] at have_ ⊢
      have haveInputs : ∀ txin ∈ tx.vin, (current txin.prevout).isSome = true :=
        fun txin member => have_ _ (List.mem_map_of_mem member)
      have haveRead : ∀ txin ∈ tx.vin, (s.coins.read txin.prevout).isSome = true := by
        rw [caches.reads]
        exact haveInputs
      have start : CoinsReadable (s, ([] : List Coin)).1.coins := readable
      obtain ⟨spent, spends⟩ := spendInputs_ok start checkedTx.distinct haveRead
      exact ⟨spent, spends, spendInputs_caches caches checkedTx.distinct haveInputs spends⟩
  obtain ⟨spent, spends, taken⟩ := spends
  -- What the inputs take away is none of the outputs.
  obtain ⟨next, adds⟩ := addCoins_ok taken checkedTx (by
    intro index
    by_cases member : ⟨tx.getHash globals.env.digests, index⟩ ∈ spentOutpoints tx
    · exact removeAll_of_mem member
    · rw [removeAll_of_notMem member]
      exact unused index) nHeight blockHash
  exact ⟨(next, spent.2), bind_eq_ok.mpr ⟨spent, spends, map_eq_ok.mpr ⟨next, adds, rfl⟩⟩⟩

/-- The loop has come to a transaction that has passed the checks before `UpdateCoins`. -/
structure Reached (node : NodeContext) (c : Chainstate) (connection : Connection) (checked : CBlock)
    (done : List CTransaction) (tx : CTransaction) (s : ConnectState) : Prop where
  runs : done.foldlM (connectTx (c.context node connection) connection.pool checked
    connection.pindex) ⟨c.blockView.toCoinsState, 0, 0, [], true⟩ = .ok s
  spends : tx.isCoinBase = false → ∃ nFees, checkSpends (c.context node connection) connection.pool
    checked connection.pindex (lookedUp s.s tx) s.nFees tx = .ok nFees

/-- Nothing of what the transaction makes is there, and it can be applied. -/
theorem RunHistory.reached {digests : Digests} {s : ConnectState} (run : RunHistory digests history c)
    (readable : CoinsReadable c.coinsTip) (passes : c.checkedBlock node connection = .ok checked)
    (isBlock : node.connectedTxs checked = done ++ tx :: rest)
    (sound : SoundHistory digests (history ++ node.connectedTxs checked))
    (reached : Reached node c connection checked done tx s) (blockHash : Uint256) :
    (∀ index, s.s.coins.read ⟨tx.getHash digests, index⟩ = none)
      ∧ ∃ updated, updateCoins c.globals (lookedUp s.s tx) tx connection.pindex.nHeight blockHash
        = .ok updated := by
  have isVtx : checked.vtx = done ++ tx :: rest := by
    unfold NodeContext.connectedTxs at isBlock
    split at isBlock
    · simp at isBlock
    · exact isBlock
  obtain ⟨-, checkedTxs⟩ := connectedTxs_checked passes
  rw [isBlock] at checkedTxs sound
  have checkedTx := checkedTxs tx (by simp)
  obtain ⟨rfl⟩ : c.globals.env.digests = digests := run.sameDigests
  rw [List.append_cons, ← List.append_assoc] at sound
  have soundTx := sound.left
  rw [← List.append_assoc] at soundTx
  have loop := run.blockView.run soundTx.left (List.forall_mem_append.mp checkedTxs).1 reached.runs
  have looked := lookedUp_caches loop.caches tx
  have have_ : ∀ outpoint ∈ spentOutpoints tx, ((lookedUp s.s tx).coins.read outpoint).isSome = true := by
    cases isCoinBase : tx.isCoinBase with
    | true => simp [spentOutpoints_coinBase isCoinBase]
    | false =>
      obtain ⟨nFees, spends⟩ := reached.spends isCoinBase
      exact (checkSpends_ok spends).have_ isCoinBase
  have haveCurrent := have_
  rw [looked.reads] at haveCurrent
  obtain ⟨newId, -⟩ := loop.newId soundTx checkedTx haveCurrent
  have nothing := unused_of_newId loop.holds.known newId
  refine ⟨fun index => by rw [loop.caches.reads]; exact nothing index, ?_⟩
  have midway : Midway node c connection s := ⟨checked, done, tx :: rest, passes, isVtx, reached.runs⟩
  have lookedReadable : CoinsReadable (lookedUp s.s tx).coins :=
    lookedUp_every (midway_readable readable midway) tx
  exact updateCoins_exists looked lookedReadable checkedTx haveCurrent nothing
    connection.pindex.nHeight blockHash

/-- What a connected block leaves can be flushed, and a coin is gone only when it is spent. -/
theorem RunHistory.connectChecked {digests : Digests} {connected : Connected}
    (run : RunHistory digests history c) (sound : SoundHistory digests (history ++ node.connectedTxs checked))
    (passes : c.checkedBlock node connection = .ok checked) (connects : connectChecked (c.context node
      connection) connection.pool false checked connection.pindex c.blockView = .ok connected) :
    ∃ after, c.flushView connected.view = .ok after
      ∧ ∀ outpoint coin_, c.coinsTip.read outpoint = some coin_ →
        after.coinsTip.read outpoint = some coin_ ∨ ∃ tx ∈ checked.vtx, outpoint ∈ spentOutpoints tx := by
  obtain ⟨-, checkedTxs⟩ := connectedTxs_checked passes
  obtain ⟨last, block⟩ := connectChecked_ok connects
  obtain ⟨rfl⟩ : c.globals.env.digests = digests := run.sameDigests
  have loop := run.blockView.run sound checkedTxs block.transactions
  obtain ⟨coinsTip, flushes, -, reads⟩ := loop.caches.flush
  refine ⟨_, by rw [Chainstate.flushView, block.view, flushes], ?_⟩
  intro outpoint coin_ found
  obtain ⟨owner, isOwner, ownerId⟩ := run.holds.known outpoint coin_ found
  have ids := loop.holds.ids
  rw [List.map_append, List.nodup_append] at ids
  have others : ∀ tx ∈ node.connectedTxs checked, outpoint.hash ≠ tx.getHash c.globals.env.digests := by
    intro tx member same
    exact ids.2.2 _ (List.mem_map_of_mem isOwner) _ (List.mem_map_of_mem member) (ownerId.trans same)
  rcases foldl_applyTx_kept connection.pindex.nHeight others found with kept | ⟨tx, member, spends⟩
  · left
    rw [← kept]
    exact congrFun reads outpoint
  · exact .inr ⟨tx, (node.connectedTxs_sublist checked).subset member, spends⟩

end Recreation

end BlackRaven.Chain
