import BlackRaven.Chain.AssetUndo

/-!
Contract: `DisconnectBlock` after `ConnectBlock`, on the coins and the best block.

Owns: the block an accepting `ConnectBlock` leaves, the coins it spends, that disconnecting
it with the undo data it wrote brings the coin view back when every coin it spends survives
its undo record, and that a coin of the view which does not survive is not brought back.

Does not own: the asset state after the block is disconnected.
-/

namespace BlackRaven.Chain

open Assets Consensus Lib Lib.WriteBack Primitives Script

/-! ## The size of undo data -/

theorem inputs_le_serialize (tx : CTransaction) : 41 * tx.vin.length ≤ tx.serializeNoWitness.length := by
  have inputs := @CTransaction.mul_count_le_flatMap _ tx.vin (fun txin : CTxIn =>
      txin.prevout.serialize ++ writeString txin.scriptSig ++ u32.encode txin.nSequence) 41 (by
    intro txin _
    have size : 1 ≤ (writeString txin.scriptSig).length := by
      unfold writeString writeCompactSize
      split_ifs <;> simp
    simp only [List.length_append, COutPoint.serialize, u256, u32, word_encode_length]
    omega)
  simp only [CTransaction.serializeNoWitness, List.length_append]
  omega

theorem checkTransaction_inputs {env : TxEnv} {tx : CTransaction} {nHeight : Int}
    {blockReward : CAmount} {fMempoolCheck fBlockCheck : Bool}
    (passes : checkTransaction env tx nHeight blockReward fMempoolCheck fBlockCheck = .ok ()) :
    tx.vin.length ≤ maxInputRecords := by
  unfold checkTransaction at passes
  simp only [rejected, ite_error_eq_ok] at passes
  have weight := passes.2.2.1
  have inputs := inputs_le_serialize tx
  simp only [witnessScaleFactor, maxBlockWeight, not_lt] at weight
  have limit : maxInputRecords = 48780 := by decide
  omega

/-! ## The coins a block spends -/

/-- A coin that an input of a block names: one of the view, or one the block makes. -/
def SpentBy (digests : Digests) (nHeight : Nat) (coins : CoinsView) (vtx : List CTransaction)
    (coin_ : Coin) : Prop :=
  ∃ tx ∈ vtx, ∃ outpoint ∈ spentOutpoints tx, coins outpoint = some coin_
    ∨ ∃ maker ∈ vtx, (outpoint, coin_) ∈ spendableCoins maker (maker.getHash digests) nHeight

section Trace

variable {digests : Digests} {nHeight : Nat} {before after : CoinsView}
  {items : List (CTransaction × List Coin)}

section

variable (trace : CoinTrace digests nHeight before items after)

include trace

theorem CoinTrace.undone {item : CTransaction × List Coin} (member : item ∈ items) :
    item.2.length = (spentOutpoints item.1).length := by
  induction trace with
  | nil => cases member
  | cons applied _ ih =>
    rcases List.mem_cons.mp member with rfl | inRest
    · exact undoCoins_length applied.undone
    · exact ih inRest

theorem CoinTrace.spent {item : CTransaction × List Coin} (member : item ∈ items) {coin_ : Coin}
    (undone : coin_ ∈ item.2) :
    SpentBy digests nHeight before (items.map Prod.fst) coin_ := by
  induction trace with
  | nil => cases member
  | @cons coins _ tx undo rest applied _ ih =>
    rcases List.mem_cons.mp member with rfl | inRest
    · have found : some coin_ ∈ (spentOutpoints tx).map coins := by
        rw [← applied.undone]
        exact List.mem_map_of_mem undone
      obtain ⟨outpoint, isSpent, found⟩ := List.mem_map.mp found
      exact ⟨tx, List.mem_cons_self, outpoint, isSpent, .inl found⟩
    · obtain ⟨spender, isSpender, outpoint, isSpent, source⟩ := ih inRest
      refine ⟨spender, List.mem_cons_of_mem _ isSpender, outpoint, isSpent, ?_⟩
      rcases source with found | ⟨maker, isMaker, made⟩
      · rcases applyTx_eq_some found with ⟨earlier, -⟩ | made
        · exact .inl earlier
        · exact .inr ⟨tx, List.mem_cons_self, made⟩
      · exact .inr ⟨maker, List.mem_cons_of_mem _ isMaker, made⟩

/-- The transaction that spends a coin of the first map, and those before it. -/
theorem CoinTrace.spender {outpoint : COutPoint} {coin_ : Coin} (found : before outpoint = some coin_)
    (notMade : ∀ item ∈ items, outpoint.hash ≠ item.1.getHash digests)
    (spent : ∃ item ∈ items, outpoint ∈ spentOutpoints item.1) :
    ∃ earlier item later, items = earlier ++ item :: later
      ∧ (outpoint, coin_) ∈ (spentOutpoints item.1).zip item.2 ∧ (spentOutpoints item.1).Nodup
      ∧ ∀ other ∈ earlier, outpoint ∉ spentOutpoints other.1 := by
  induction trace with
  | nil =>
    obtain ⟨_, impossible, -⟩ := spent
    cases impossible
  | @cons coins _ tx undo rest applied _ ih =>
    by_cases here : outpoint ∈ spentOutpoints tx
    · exact ⟨[], (tx, undo), rest, rfl, (undoCoins_mem applied.undone).mpr ⟨here, found⟩,
        spentOutpoints_nodup applied.checked, nofun⟩
    · have kept : applyTx digests nHeight coins tx outpoint = some coin_ := by
        rw [applyTx_of_ne (notMade _ List.mem_cons_self), removeAll_of_notMem here, found]
      have spentLater : ∃ item ∈ rest, outpoint ∈ spentOutpoints item.1 := by simpa [here] using spent
      obtain ⟨earlier, item, later, isRest, isUndone, distinct, untouched⟩ := ih kept
        (List.forall_mem_cons.mp notMade).2 spentLater
      refine ⟨(tx, undo) :: earlier, item, later, by rw [isRest]; rfl, isUndone, distinct, ?_⟩
      exact List.forall_mem_cons.mpr ⟨here, untouched⟩

end

/-- What the undo record of a transaction is when it comes back from disk. -/
def recordRead (item : CTransaction × List Coin) : CTransaction × Option (List Coin) :=
  undoRecord (item.1, item.2.map readBack)

/-- The records of a block, in the form the loop of `DisconnectBlock` pairs them. -/
theorem undoRecord_zip {coinbase : CTransaction} {rest : List CTransaction} {first : List Coin}
    {undos : List (List Coin)} (isCoinBase : coinbase.isCoinBase = true)
    (others : ∀ tx ∈ rest, tx.isCoinBase = false) (change : List Coin → List Coin) :
    ((coinbase :: rest).zip (first :: undos)).map (fun item => undoRecord (item.1, change item.2))
      = (coinbase :: rest).zip (none :: (undos.map change).map some) := by
  rw [List.zip_cons_cons, List.map_cons, List.zip_cons_cons, undoRecord, if_pos isCoinBase, List.cons.injEq]
  refine ⟨rfl, ?_⟩
  rw [List.map_map, List.zip_map_right]
  apply List.map_congr_left
  rintro ⟨tx, undo⟩ member
  simp [undoRecord, others tx (List.of_mem_zip member).1]

end Trace

/-! ## A block that was accepted -/

/-- A block that `ConnectBlock` accepts on a coin view, and the undo data it writes. -/
structure BlockAccepted (node : NodeContext) (c : Chainstate) (connection : Connection)
    (points : KeyPoints) (connected : Connected) (pprev : Uint256) (file : Bytes) : Prop where
  coherent : c.coinsTip.Coherent
  accepts : (connection.source.read node c.globals.env >>= fun block =>
    connectBlock (c.context node connection) connection.pool false block connection.pindex c.blockView)
      = .ok connected
  notGenesis : connection.pindex.hashBlock ≠ node.chainparams.consensus.hashGenesisBlock
  parent : connection.pindex.pprev = some pprev
  writes : undoWriteToDisk c.globals.env.digests points connected.vtxundo pprev = .ok file

/-- No transaction has the id of one with unspent outputs. -/
def IdsUnused (digests : Digests) (coins : CoinsView) (vtx : List CTransaction) : Prop :=
  ∀ tx ∈ vtx, ∀ index, coins ⟨tx.getHash digests, index⟩ = none

structure BlockTrace (node : NodeContext) (c : Chainstate) (connection : Connection)
    (connected : Connected) (coinbase : CTransaction) (rest : List CTransaction) (first : List Coin)
    (undos : List (List Coin)) (after : CoinsView) : Prop where
  vtx : connection.source.received.vtx = coinbase :: rest
  isCoinBase : coinbase.isCoinBase = true
  others : ∀ tx ∈ rest, tx.isCoinBase = false
  passes : ∃ tipHeight,
    TransactionsPass ⟨c.globals.env, node.chainparams.consensus, tipHeight⟩ (coinbase :: rest)
  few : (coinbase :: rest).length ≤ maxSize
  vtxundo : connected.vtxundo = undos
  trace : CoinTrace c.globals.env.digests connection.pindex.nHeight c.coinsTip.read
    ((coinbase :: rest).zip (first :: undos)) after
  length : undos.length = rest.length
  caches : connected.view.coins.Caches c.coinsTip.read after
  reissues : ∀ tx ∈ coinbase :: rest, ReissueRecorded connected.view.assetsCache tx
  best : connection.pindex.pprev.getD 0 = c.hashBlock
  tip : connected.view.hashBlock = connection.pindex.hashBlock
  quiet : (∀ tx ∈ coinbase :: rest, AssetFree tx) → (∀ coins ∈ first :: undos, NoAssetCoins coins) →
    connected.view.assetsCache = .empty

/-- The coins a block spends, of the view and of its own. -/
def Connection.Spends (c : Chainstate) (connection : Connection) (coin_ : Coin) : Prop :=
  SpentBy c.globals.env.digests connection.pindex.nHeight c.coinsTip.read connection.source.received.vtx coin_

section Accepted

variable {node : NodeContext} {c : Chainstate} {connection : Connection} {points : KeyPoints}
  {connected : Connected} {pprev : Uint256} {file : Bytes}

theorem BlockAccepted.trace (accepted : BlockAccepted node c connection points connected pprev file)
    (unused : IdsUnused c.globals.env.digests c.coinsTip.read connection.source.received.vtx) :
    ∃ coinbase rest first undos after,
      BlockTrace node c connection connected coinbase rest first undos after := by
  obtain ⟨block, reads, connects⟩ := bind_eq_ok.mp accepted.accepts
  obtain ⟨checked, passes, sameHash, connects⟩ := connectBlock_checked reads connects
  obtain ⟨last, stages⟩ := connectChecked_ok connects
  obtain ⟨sameTxs, pass⟩ := checkedBlock_transactions passes
  obtain ⟨_, _, _, received⟩ := checkedBlock_checked passes
  obtain ⟨coinbase, rest, isVtx, isCoinBase, others⟩ := checkCoinbasePlace_ok received.coinbasePlace
  have isConnected : (c.context node connection).connectedTxs checked = coinbase :: rest := by
    unfold NodeContext.connectedTxs
    rw [if_neg (sameHash ▸ accepted.notGenesis), sameTxs, isVtx]
  rw [sameTxs, isVtx] at pass
  rw [isVtx] at unused
  have runs := stages.transactions
  rw [isConnected] at runs
  obtain ⟨tipHeight, pass⟩ := pass
  have ⟨_, _, each⟩ := pass
  obtain ⟨undos, after, sameLength, undone, trace, caches⟩ := connectTxs_trace
    (Store.Caches.start accepted.coherent)
    (fun tx member => ⟨pass.checkedTx tx member,
      fun _ isOut => checkTransaction_readable (each tx member) isOut, unused tx member⟩)
    (fun _ _ _ => rfl) others runs
  obtain ⟨first, undos, rfl⟩ := List.exists_cons_of_length_eq_add_one sameLength
  have few : (coinbase :: rest).length ≤ maxSize := by
    have size := received.size
    simp only [exceedsSizeLimits, isVtx, Bool.or_eq_false_iff, decide_eq_false_iff_not, not_lt] at size
    have weight : (coinbase :: rest).length * 4 ≤ 8000000 := size.1.2
    have limit : maxSize = 33554432 := rfl
    omega
  have preconditions := stages.preconditions
  unfold connectPreconditions at preconditions
  simp only [rejected, ite_error_eq_ok, not_not] at preconditions
  refine ⟨coinbase, rest, first, undos, after, isVtx, isCoinBase, others, ⟨tipHeight, pass⟩, few, ?_,
    trace, by simpa using sameLength, ?_, ?_, preconditions.2.1, ?_, ?_⟩
  · rw [stages.vtxundo, undone]
    rfl
  · rw [stages.view]
    exact caches
  · rw [stages.view]
    exact connectTxs_reissues (fun tx member => pass.coinBase member) runs
  · rw [stages.view]
  · rw [stages.view]
    intro free noAssets
    exact connectTxs_quiet free (by rw [undone]; exact noAssets) runs

section Recorded

variable {coinbase : CTransaction} {rest : List CTransaction} {first : List Coin}
  {undos : List (List Coin)} {after : CoinsView}
  (traced : BlockTrace node c connection connected coinbase rest first undos after)

include traced

theorem BlockTrace.record_mem {coins : List Coin} (member : coins ∈ undos) :
    ∃ tx ∈ rest, (tx, coins) ∈ (coinbase :: rest).zip (first :: undos) := by
  obtain ⟨index, bound, isCoins⟩ := List.mem_iff_getElem.mp member
  have inRest : index < rest.length := traced.length ▸ bound
  refine ⟨rest[index], List.getElem_mem inRest, List.mem_cons_of_mem _ ?_⟩
  rw [← isCoins, List.mem_iff_getElem]
  exact ⟨index, by simp [inRest, bound], List.getElem_zip⟩

theorem BlockTrace.spent {item : CTransaction × List Coin}
    (member : item ∈ (coinbase :: rest).zip (first :: undos)) {coin_ : Coin} (isCoin : coin_ ∈ item.2) :
    connection.Spends c coin_ := by
  have isSpent := traced.trace.spent member isCoin
  rwa [List.map_fst_zip (by simp [traced.length]), ← traced.vtx] at isSpent

theorem BlockTrace.record_spent {coins : List Coin} (member : coins ∈ first :: undos) {coin_ : Coin}
    (isCoin : coin_ ∈ coins) : connection.Spends c coin_ := by
  rcases List.mem_cons.mp member with rfl | later
  · exact traced.spent List.mem_cons_self isCoin
  · obtain ⟨tx, -, inZip⟩ := traced.record_mem later
    exact traced.spent inZip isCoin

theorem BlockTrace.givesBack (env : AssetEnv)
    (noAssets : ∀ coin_, connection.Spends c coin_ → assetKind coin_.out.scriptPubKey = none) :
    ∀ coins ∈ connected.vtxundo, ∀ coin_ ∈ coins, GivesBack env coin_ := by
  rw [traced.vtxundo]
  intro coins member coin_ isCoin isAsset
  rw [noAssets coin_ (traced.record_spent (.tail _ member) isCoin)] at isAsset
  cases isAsset

theorem BlockTrace.recordable
    (short : ∀ coin_, connection.Spends c coin_ → coin_.out.scriptPubKey.length ≤ maxScriptSize) :
    Recordable undos := by
  obtain ⟨_, _, _, each⟩ := traced.passes
  have few := traced.few
  have sameLength := traced.length
  rw [List.length_cons] at few
  refine ⟨by omega, ?_, ?_⟩
  · intro coins member
    obtain ⟨tx, isTx, inZip⟩ := traced.record_mem member
    have length := traced.trace.undone inZip
    rw [spentOutpoints_of_not (traced.others tx isTx), List.length_map] at length
    rw [length]
    exact checkTransaction_inputs (each tx (List.mem_cons_of_mem _ isTx))
  · intro coins member coin_ isCoin
    exact short coin_ (traced.record_spent (.tail _ member) isCoin)

end Recorded

end Accepted

/-! ## The block undone -/

structure EvoReleases (ctx : ConnectContext) (services : UndoServices) (block : CBlock)
    (pindex : CBlockIndex) : Prop where
  best : isDIPDIP0003Active ctx.blockEnv.txEnv pindex.nHeight = true →
    ctx.services.verifyBestBlock pindex.hashBlock = true
  special : services.undoSpecialTxsInBlock block pindex = true

theorem disconnectBlock_eq {ctx : ConnectContext} {services : UndoServices} {block : CBlock}
    {pindex : CBlockIndex} {file : Bytes} {pprev : Uint256} {vtxundo : List (List Coin)} {view : BlockView}
    (releases : EvoReleases ctx services block pindex) (parent : pindex.pprev = some pprev)
    (reads : undoReadFromDisk ctx.globals.env.digests services.points file pprev = .ok vtxundo)
    (consistent : vtxundo.length + 1 = block.vtx.length) :
    disconnectBlock ctx services block pindex (some file) view
      = (disconnectTransactions ctx.globals block.vtx vtxundo pindex.nHeight view).map fun s =>
          { fClean := s.fClean
            view := { coins := s.coins, assetsCache := s.assetsCache, hashBlock := pprev } } := by
  have released : ¬(isDIPDIP0003Active ctx.blockEnv.txEnv pindex.nHeight = true
      ∧ (!ctx.services.verifyBestBlock pindex.hashBlock) = true) := by
    rintro ⟨active, unverified⟩
    rw [releases.best active] at unverified
    cases unverified
  unfold disconnectBlock
  rw [if_neg released, parent]
  simp only [orFailed, bind, Except.bind, reads, Except.mapError, consistent, releases.special,
    ne_eq, not_true_eq_false, if_false, Bool.not_true, Bool.false_eq_true]

/-- The transactions of a block with their undo records, in the order in which they are undone. -/
def undoOrder (connection : Connection) (connected : Connected) : List (CTransaction × Option (List Coin)) :=
  (connection.source.received.vtx.zip (none :: connected.vtxundo.map some)).reverse

/-- The tracked balances cover each transaction, in the state that undoing the later ones leaves. -/
def BalancesCover (ctx : ConnectContext) (connection : Connection) (connected : Connected) (view : BlockView) :
    Prop :=
  ∀ done record rest s, undoOrder connection connected = done ++ record :: rest →
    done.foldlM (disconnectTx ctx.globals connection.pindex.nHeight)
      ⟨view.coins, view.assetsCache, view.assetsCache, true⟩ = .ok s →
    Covered ctx.globals connection.pindex.nHeight s.assetsCache record.1

theorem balancesCover_of_assetFree {ctx : ConnectContext} {connection : Connection} {connected : Connected}
    {view : BlockView} (free : ∀ tx ∈ connection.source.received.vtx, AssetFree tx) :
    BalancesCover ctx connection connected view := by
  intro done record rest s split _
  have member : record ∈ undoOrder connection connected := by simp [split]
  exact covered_of_assetFree (free _ (List.of_mem_zip (List.mem_reverse.mp member)).1) _ _

section Undone

variable {node : NodeContext} {c : Chainstate} {connection : Connection} {services : UndoServices}
  {connected : Connected} {pprev : Uint256} {file : Bytes} {ctx : ConnectContext} {view : BlockView}
  {coinbase : CTransaction} {rest : List CTransaction} {first : List Coin} {undos : List (List Coin)}
  {after contents : CoinsView}
  (traced : BlockTrace node c connection connected coinbase rest first undos after)
  (accepted : BlockAccepted node c connection services.points connected pprev file)
  (isGlobals : ctx.globals = c.globals.flushed connected.view.assetsCache)
  (releases : EvoReleases ctx services connection.source.received connection.pindex)

include traced isGlobals in
theorem BlockTrace.covered_iff {tx : CTransaction} (member : tx ∈ coinbase :: rest) (cache : CAssetsCache) :
    AssetsUndo ctx.globals connection.pindex.nHeight cache tx
      ↔ (c.globals.fAssetIndex = true → Covered ctx.globals connection.pindex.nHeight cache tx) := by
  obtain ⟨_, _, _, each⟩ := traced.passes
  have sameIndex : ctx.globals.fAssetIndex = c.globals.fAssetIndex := by rw [isGlobals]; rfl
  rw [← sameIndex]
  refine assetsUndo_iff (each tx member) ?_ _ cache
  intro reissue isReissue
  rw [isGlobals]
  exact (traced.reissues tx member).flushed reissue isReissue

include traced accepted isGlobals releases

theorem BlockTrace.disconnects
    (short : ∀ coin_, connection.Spends c coin_ → coin_.out.scriptPubKey.length ≤ maxScriptSize) :
    disconnectBlock ctx services connection.source.received connection.pindex (some file) view
      = ((((coinbase :: rest).zip (first :: undos)).map recordRead).reverse.foldlM
          (disconnectTx ctx.globals connection.pindex.nHeight)
          ⟨view.coins, view.assetsCache, view.assetsCache, true⟩).map fun s =>
          { fClean := s.fClean
            view := { coins := s.coins, assetsCache := s.assetsCache, hashBlock := c.hashBlock } } := by
  have writes := accepted.writes
  rw [traced.vtxundo] at writes
  have digests : ctx.globals.env.digests = c.globals.env.digests := by rw [isGlobals]; rfl
  have best := traced.best
  rw [accepted.parent] at best
  have isBest : pprev = c.hashBlock := best
  rw [disconnectBlock_eq releases accepted.parent
      (by rw [digests]; exact undoReadFromDisk_written (traced.recordable short) writes)
      (by rw [List.length_map, traced.length, traced.vtx, List.length_cons]),
    ← isBest, traced.vtx]
  have zipped := @undoRecord_zip coinbase rest first undos traced.isCoinBase traced.others (List.map readBack)
  rw [show ((coinbase :: rest).zip (first :: undos)).map recordRead = _ from zipped]
  rfl

theorem BlockTrace.restores (restorable : ∀ coin_, connection.Spends c coin_ → Restorable coin_)
    (caches : view.coins.Caches contents connected.view.coins.read) :
    ((∃ r, disconnectBlock ctx services connection.source.received connection.pindex (some file) view = .ok r)
        ↔ (c.globals.fAssetIndex = true → BalancesCover ctx connection connected view))
      ∧ ∀ r, disconnectBlock ctx services connection.source.received connection.pindex (some file) view = .ok r →
        r.view.coins.Caches contents c.coinsTip.read ∧ r.view.hashBlock = c.hashBlock
          ∧ (r.fClean = true ↔ ∀ coins ∈ connected.vtxundo, ∀ coin_ ∈ coins, GivesBack ctx.globals.env coin_) := by
  have sameRecords : ((coinbase :: rest).zip (first :: undos)).map recordRead
      = ((coinbase :: rest).zip (first :: undos)).map undoRecord := by
    refine List.map_congr_left fun item member => ?_
    have same : item.2.map readBack = item.2 := by
      refine (List.map_congr_left fun coin_ isCoin => ?_).trans (List.map_id item.2)
      exact (restorable coin_ (traced.spent member isCoin)).amount
    rw [recordRead, same]
  rw [traced.disconnects accepted isGlobals releases fun coin_ isSpent =>
      short_of_spendable (restorable coin_ isSpent).spendable,
    sameRecords]
  rw [traced.caches.reads] at caches
  have digests : c.globals.env.digests = ctx.globals.env.digests := by rw [isGlobals]; rfl
  have trace := traced.trace
  rw [digests] at trace
  let start : DisconnectState := ⟨view.coins, view.assetsCache, view.assetsCache, true⟩
  have startCaches : start.coins.Caches _ _ := caches
  have restorableItems : ∀ item ∈ (coinbase :: rest).zip (first :: undos), ∀ coin_ ∈ item.2, Restorable coin_ :=
    fun item member coin_ isCoin => restorable coin_ (traced.spent member isCoin)
  constructor
  · have isRecords : undoOrder connection connected
        = (((coinbase :: rest).zip (first :: undos)).map undoRecord).reverse := by
      have zipped := @undoRecord_zip coinbase rest first undos traced.isCoinBase traced.others id
      rw [List.map_id] at zipped
      rw [undoOrder, traced.vtx, traced.vtxundo, ← zipped]
      rfl
    have goesOn : ∀ done record left s, undoOrder connection connected = done ++ record :: left →
        done.foldlM (disconnectTx ctx.globals connection.pindex.nHeight) start = .ok s →
        ((∃ next, disconnectTx ctx.globals connection.pindex.nHeight s record = .ok next)
          ↔ (c.globals.fAssetIndex = true →
            Covered ctx.globals connection.pindex.nHeight s.assetsCache record.1)) := by
      intro done record left s split reached
      have member : record ∈ ((coinbase :: rest).zip (first :: undos)).map undoRecord := by
        rw [← List.mem_reverse, ← isRecords, split]
        simp
      obtain ⟨item, isItem, rfl⟩ := List.mem_map.mp member
      rw [isRecords] at split
      exact (trace.goesOn_iff restorableItems startCaches split reached).trans
        (traced.covered_iff isGlobals (List.of_mem_zip isItem).1 _)
    simp only [map_eq_ok, @exists_comm Disconnected, exists_and_left, exists_eq', and_true]
    rw [← isRecords, foldlM_isOk_iff]
    constructor
    · intro each index done record left s split reached
      exact (goesOn done record left s split reached).mp (each done record left s split reached) index
    · intro cover done record left s split reached
      exact (goesOn done record left s split reached).mpr fun index => cover index done record left s split reached
  · intro r disconnects
    obtain ⟨last, undoes, rfl⟩ := map_eq_ok.mp disconnects
    obtain ⟨lastCaches, clean⟩ := trace.disconnect restorableItems startCaches undoes
    refine ⟨lastCaches, rfl, clean.trans ((and_iff_right rfl).trans ?_)⟩
    have records : ((coinbase :: rest).zip (first :: undos)).map Prod.snd = first :: undos :=
      List.map_snd_zip (by simp [traced.length])
    have noCoins : first = [] := List.length_eq_zero_iff.mp
      ((traced.trace.undone List.mem_cons_self).trans (by simp [spentOutpoints_coinBase traced.isCoinBase]))
    rw [traced.vtxundo, ← List.forall_mem_map (f := Prod.snd) (P := fun coins => ∀ coin_ ∈ coins, GivesBack _ coin_),
      records, List.forall_mem_cons]
    exact and_iff_right (by simp [noCoins])

/-- A coin of the view that the block has spent comes back as its record has it. -/
theorem BlockTrace.brings_record
    (unused : IdsUnused c.globals.env.digests c.coinsTip.read connection.source.received.vtx)
    (spendable : ∀ coin_, connection.Spends c coin_ → isUnspendable coin_.out.scriptPubKey = false)
    {r : Disconnected} (disconnects : disconnectBlock ctx services connection.source.received
      connection.pindex (some file) view = .ok r)
    {outpoint : COutPoint} {coin_ : Coin} (found : c.coinsTip.read outpoint = some coin_)
    (spent : ∃ tx ∈ connection.source.received.vtx, outpoint ∈ spentOutpoints tx)
    (height : coin_.nHeight ≠ 0) : r.view.coins.read outpoint = some (readBack coin_) := by
  have isSpent : isUnspendable coin_.out.scriptPubKey = false := by
    obtain ⟨tx, member, isSpent⟩ := spent
    exact spendable coin_ ⟨tx, member, outpoint, isSpent, .inl found⟩
  rw [traced.vtx] at unused spent
  rw [traced.disconnects accepted isGlobals releases fun coin_ isSpent =>
    short_of_spendable (spendable coin_ isSpent)] at disconnects
  obtain ⟨last, undoes, rfl⟩ := map_eq_ok.mp disconnects
  have digests : ctx.globals.env.digests = c.globals.env.digests := by rw [isGlobals]; rfl
  have notMade : ∀ item ∈ (coinbase :: rest).zip (first :: undos),
      outpoint.hash ≠ item.1.getHash c.globals.env.digests := by
    intro item member same
    have nothing := unused item.1 (List.of_mem_zip member).1 outpoint.n
    rw [← same, found] at nothing
    cases nothing
  have inTrace : ∃ item ∈ (coinbase :: rest).zip (first :: undos), outpoint ∈ spentOutpoints item.1 := by
    obtain ⟨tx, member, isSpent⟩ := spent
    have transactions : ((coinbase :: rest).zip (first :: undos)).map Prod.fst = coinbase :: rest :=
      List.map_fst_zip (by simp [traced.length])
    rw [← transactions] at member
    obtain ⟨item, inZip, rfl⟩ := List.mem_map.mp member
    exact ⟨item, inZip, isSpent⟩
  obtain ⟨earlier, item, later, isItems, isUndone, distinct, untouched⟩ :=
    traced.trace.spender found notMade inTrace
  rw [isItems] at notMade undoes
  rw [List.map_append, List.map_cons, List.reverse_append, List.reverse_cons, List.append_assoc,
    List.foldlM_append] at undoes
  obtain ⟨middle, -, undoes⟩ := bind_eq_ok.mp undoes
  obtain ⟨restored, here, undoes⟩ := bind_eq_ok.mp undoes
  have own : restored.coins.read outpoint = some (readBack coin_) := by
    apply (disconnectTx_read here (by rw [digests]; exact notMade item (by simp))).2 (readBack coin_)
    · rw [List.zip_map_right]
      exact List.mem_map.mpr ⟨_, isUndone, rfl⟩
    · exact distinct
    · rw [readBack_nHeight]
      exact height
    · rw [readBack_script]
      exact isSpent
  refine foldlM_invariant (fun s => s.coins.read outpoint = some (readBack coin_)) ?_ own undoes
  intro s record next member holds steps
  obtain ⟨other, isOther, rfl⟩ := List.mem_map.mp (List.mem_reverse.mp member)
  rw [(disconnectTx_read steps (by rw [digests]; exact notMade other (by simp [isOther]))).1
    (untouched other isOther)]
  exact holds

end Undone

/-! ## The coin view after connecting and disconnecting -/

/-- The view is as it was before the block, and the block is clean when it has nothing to
do with assets. -/
structure Restores (c : Chainstate) (connection : Connection) (r : Disconnected) : Prop where
  coins : r.view.coins.read = c.coinsTip.read
  best : r.view.hashBlock = c.hashBlock
  clean : (∀ tx ∈ connection.source.received.vtx, AssetFree tx) →
    (∀ coin_, connection.Spends c coin_ → assetKind coin_.out.scriptPubKey = none) → r.fClean = true

/-- A block is undone when every coin it spends survives its undo record, unless the asset index
is on and tracks too little for the assets of the block. A coin of the view that does not survive,
from a spendable output at a height, is not what `DisconnectBlock` leaves. -/
theorem disconnectBlock_restores_coins (node : NodeContext) (c : Chainstate) (connection : Connection)
    (services : UndoServices) (connected : Connected) (pprev : Uint256) (file : Bytes)
    (accepted : BlockAccepted node c connection services.points connected pprev file)
    (unused : IdsUnused c.globals.env.digests c.coinsTip.read connection.source.received.vtx)
    (ctx : ConnectContext) (isGlobals : ctx.globals = c.globals.flushed connected.view.assetsCache)
    (releases : EvoReleases ctx services connection.source.received connection.pindex)
    (view : BlockView) (contents : CoinsView) (caches : view.coins.Caches contents connected.view.coins.read) :
    ((∀ coin_, connection.Spends c coin_ → Restorable coin_) →
      ((∃ r, disconnectBlock ctx services connection.source.received connection.pindex (some file) view = .ok r)
          ↔ (c.globals.fAssetIndex = true → BalancesCover ctx connection connected view))
        ∧ ∀ r, disconnectBlock ctx services connection.source.received connection.pindex (some file) view = .ok r →
          Restores c connection r)
      ∧ ((∀ coin_, connection.Spends c coin_ → isUnspendable coin_.out.scriptPubKey = false) →
        ∀ r, disconnectBlock ctx services connection.source.received connection.pindex (some file) view
            = .ok r → Restores c connection r →
          ∀ tx ∈ connection.source.received.vtx, ∀ outpoint ∈ spentOutpoints tx, ∀ coin_,
            c.coinsTip.read outpoint = some coin_ → coin_.nHeight ≠ 0 → readBack coin_ = coin_) := by
  obtain ⟨coinbase, rest, first, undos, after, traced⟩ := accepted.trace unused
  constructor
  · intro restorable
    obtain ⟨undone, restores⟩ := traced.restores accepted isGlobals releases restorable caches
    refine ⟨undone, fun r disconnects => ?_⟩
    obtain ⟨coins, best, clean⟩ := restores r disconnects
    exact ⟨coins.reads, best, fun _ noAssets => clean.mpr (traced.givesBack _ noAssets)⟩
  · intro spendable r disconnects restores tx member outpoint isSpent coin_ found height
    have brought := traced.brings_record accepted isGlobals releases unused spendable disconnects found
      ⟨tx, member, isSpent⟩ height
    rw [restores.coins, found] at brought
    exact (Option.some.inj brought).symm

/-! ## A block that spends coins of the view, and its own output -/

def payout : CTransaction := unsignedTx ⟨7, 0⟩ [⟨2000000000000000000, anyoneCanSpend⟩]

def payoutHash : Nat := 0x662953e26c03292f04b33a2969ab2b7eb2bc0dac71a2ede457fbe24d07eec67f

def payoutSpend : CTransaction :=
  unsignedTx ⟨BitVec.ofNat 256 payoutHash, 0⟩ [⟨1000000000000000000, anyoneCanSpend⟩]

def payoutSpendHash : Nat := 0xe313caa0eecc21f1aacd233c1204b898b58693974b0bed6a693db434b50d28b7

/-- The tag #TAG goes back to the address that it comes from. -/
def tagMove : CTransaction := unsignedTx ⟨8, 0⟩ tagTransfer.vout

def tagMoveHash : Nat := 0xde419e618d9d766376e8fc3b39d59f7158d43212342362329cabac002610522d

def payouts : List CTransaction := [laterCoinbase, payout, payoutSpend]

def payoutBranches : Nat × Nat × Nat :=
  (0x6672ef53b665ccf5dd3b944e0bd99647b11e18e1cac2ced4e2d679785b25fe99,
    0x9efd07c2f64dbef403c62088418dac983ccf636390ece78709ae1a5292fbd97c,
    0x859b4bde1e545f57f82a5393b8815b6a7ec0f75889bca38eb85ae892e9154714)

def payoutRoot : Nat := 0x4d654880ac592805b6457b9c6749e4f8008f1b184f0577330d1fbb78173a2bc9
def taggedRoot : Nat := 0xf91ce2d0ac5fb49d1f8a3e9af8016837106fa013f5fd574c7ae5a8804c7b06ce

def payoutRows : List (Bytes × Bytes) :=
  Digests.hashRows [(payout.serializeNoWitness,
      0xc1ccfcd365fe64c3ff72dfa9262598475647f3efd8c05e3a1fd437f325ba40b8, payoutHash),
    (payoutSpend.serializeNoWitness,
      0xa5c9c0b66246ae9181badfa60fcb9308af1b5d8b87b24e494ea2845afcaa15bb, payoutSpendHash),
    (tagMove.serializeNoWitness,
      0x727926decd5772312f397433b3d6e62236db20126419c0041535a0d235f7d3a5, tagMoveHash),
    (merkleNode laterCoinbaseHash payoutHash,
      0x6763b94c29830f6ceaede2c55bbb468f509e2edb96099f7bb4b1b5feb2cc510b, payoutBranches.1),
    (merkleNode payoutSpendHash payoutSpendHash,
      0x498d68878e226b729e2a7a62f8548d0836d3a0215207ed5ef8d96fac58444f6d, payoutBranches.2.1),
    (merkleNode payoutBranches.1 payoutBranches.2.1,
      0x1daad145cbf7c2d76119ca8e3a61177b0175c83c81fd5b6aca62351256af3e6c, payoutRoot),
    (merkleNode payoutSpendHash tagMoveHash,
      0x255811abb14b311bba12426812c21766ebb34193a6db2f0d957477735cdd3839, payoutBranches.2.2),
    (merkleNode payoutBranches.1 payoutBranches.2.2,
      0x0a3b6fd8530a690ac5183def39337b5a485e16b91ea830cebb585eaca78f1f33, taggedRoot)]

def payoutEnv : AssetEnv :=
  ⟨Digests.tabulated (genesisRows ++ launchRows ++ payoutRows) (by decide +kernel), mainAssetParams⟩

def secondBlock (vtx : List CTransaction) (root : Nat) : Connection :=
  let block : CBlock :=
    { header := { minutelyHeader 1 with hashMerkleRoot := BitVec.ofNat 256 root }
      vtx
      fChecked := false }
  { launchConnection 1 with
    source := .memory block launchMap 1
    pindex := minutelyIndex 1 block.header }

def payoutConnection : Connection := secondBlock payouts payoutRoot
def taggedConnection : Connection := secondBlock (payouts ++ [tagMove]) taggedRoot

def tagCoin : Coin := ⟨tagTransfer.vout.headD nullTxOut, 1, false⟩

/-- The tag is issued, and the address has it. -/
def tagRows : CAssetsDB where
  assetData := .ofList [(ascii "#TAG", ⟨⟨ascii "#TAG", coin, 0, 0, 0, []⟩, some 1, 0⟩)] _
  assetAddressQuantity := .ofList [((ascii "#TAG", payoutEnv.address tagCoin.out.scriptPubKey), coin)] _
  addressAssetQuantity := ∅

variable (nValue : CAmount)

def richCoin : Coin := ⟨⟨nValue, anyoneCanSpend⟩, 1, false⟩

def richState : Chainstate where
  coinsTip := .atop ∅ (.base fun outpoint =>
    if outpoint = ⟨7, 0⟩ then some (richCoin nValue)
    else if outpoint = ⟨8, 0⟩ then some tagCoin else none)
  hashBlock := minutelyHash 1
  globals := { AssetGlobals.initial payoutEnv true with passetsdb := tagRows }

def noPoints : KeyPoints where
  isFullyValid := fun _ => false
  decompress := fun _ => none
  recovers := nofun

def plainUndo : UndoServices := ⟨noPoints, fun _ _ => true⟩

/-- The block is connected, its undo data are written, and it is disconnected in the same
view. -/
def undoPayout (connection : Connection) : Except DisconnectError Disconnected :=
  let c := richState nValue
  ((connection.source.read launchNode payoutEnv >>= fun block =>
    connectBlock (c.context launchNode connection) .empty false block connection.pindex
      c.blockView).mapError .failure) >>= fun connected =>
  ((undoWriteToDisk payoutEnv.digests noPoints connected.vtxundo (minutelyHash 1)).mapError .failure)
    >>= fun file =>
  disconnectBlock
    { c.context launchNode connection with globals := c.globals.flushed connected.view.assetsCache }
    plainUndo connection.source.received connection.pindex (some file) connected.view

def payoutContext (connection : Connection) (connected : Connected) : ConnectContext :=
  { (richState nValue).context launchNode connection with
    globals := (richState nValue).globals.flushed connected.view.assetsCache }

theorem richState_coherent : (richState nValue).coinsTip.Coherent :=
  (Store.Caches.start (show Store.Coherent (.base _) from trivial)).coherent

theorem richState_read (outpoint : COutPoint) :
    (richState nValue).coinsTip.read outpoint
      = if outpoint = ⟨7, 0⟩ then some (richCoin nValue)
        else if outpoint = ⟨8, 0⟩ then some tagCoin else none :=
  read_over_none Std.TreeMap.getElem?_emptyc

theorem payout_ids : ∀ tx ∈ payouts ++ [tagMove],
    tx.getHash payoutEnv.digests ≠ 7 ∧ tx.getHash payoutEnv.digests ≠ 8 := by decide +kernel

theorem payout_unused {vtx : List CTransaction} (among : vtx ⊆ payouts ++ [tagMove]) :
    IdsUnused payoutEnv.digests (richState nValue).coinsTip.read vtx := by
  intro tx member index
  obtain ⟨notSeven, notEight⟩ := payout_ids tx (among member)
  rw [richState_read, if_neg fun same => notSeven (congrArg COutPoint.hash same),
    if_neg fun same => notEight (congrArg COutPoint.hash same)]

theorem undoPayout_ok {nValue : CAmount} {vtx : List CTransaction} {root : Nat} {r : Disconnected}
    (undoes : undoPayout nValue (secondBlock vtx root) = .ok r) :
    ∃ connected file,
      BlockAccepted launchNode (richState nValue) (secondBlock vtx root) noPoints connected (minutelyHash 1) file
        ∧ disconnectBlock (payoutContext nValue (secondBlock vtx root) connected) plainUndo
          (secondBlock vtx root).source.received (secondBlock vtx root).pindex (some file) connected.view
            = .ok r := by
  obtain ⟨connected, accepts, undoes⟩ := bind_eq_ok.mp undoes
  obtain ⟨file, writes, undoes⟩ := bind_eq_ok.mp undoes
  have notGenesis : minutelyHash 2 ≠ launchNode.chainparams.consensus.hashGenesisBlock := by decide
  exact ⟨connected, file, ⟨richState_coherent nValue, mapError_eq_ok.mp accepts, notGenesis, rfl,
    mapError_eq_ok.mp writes⟩, undoes⟩

theorem undoPayout_isSome : (undoPayout 2000000000000000000 taggedConnection).toOption.isSome = true := by
  decide +kernel

theorem undoPayout_changes : (undoPayout 2099999999999999999 payoutConnection).toOption.any (fun r =>
    r.fClean && r.view.coins.read ⟨7, 0⟩ == some (richCoin 5555605888118076368)) = true := by
  decide +kernel

theorem restorable_of_round {tx : CTransaction} {txid : Uint256} {nHeight : Nat} (height : nHeight ≠ 0)
    (round : ∀ out ∈ tx.vout, 0 ≤ out.nValue ∧ out.nValue ≤ maxMoney ∧ out.nValue % 10 = 0)
    {item : COutPoint × Coin} (made : item ∈ spendableCoins tx txid nHeight) : Restorable item.2 := by
  obtain ⟨isCoin, spendable⟩ := List.mem_filter.mp made
  obtain ⟨positive, money, tenth⟩ := round item.2.out (txCoins_script isCoin)
  have isHeight : item.2.nHeight = nHeight := by
    obtain ⟨source, -, rfl⟩ := List.mem_map.mp isCoin
    rfl
  refine ⟨readBack_of_short ⟨positive, money⟩ (.inr tenth), ?_, isHeight ▸ height, by simpa using spendable⟩
  intro negative
  rw [negative] at positive
  exact absurd positive (by decide)

theorem payout_round : ∀ tx ∈ payouts ++ [tagMove], ∀ out ∈ tx.vout,
    0 ≤ out.nValue ∧ out.nValue ≤ maxMoney ∧ out.nValue % 10 = 0 := by decide

theorem payout_assetFree : ∀ tx ∈ payouts, AssetFree tx := by
  unfold AssetFree
  decide

theorem payout_restorable {vtx : List CTransaction} {root : Nat} (among : vtx ⊆ payouts ++ [tagMove]) :
    ∀ coin_, (secondBlock vtx root).Spends (richState 2000000000000000000) coin_ → Restorable coin_ := by
  rintro coin_ ⟨tx, -, outpoint, -, found | ⟨maker, member, made⟩⟩
  · rw [richState_read] at found
    split_ifs at found
    · cases found
      exact ⟨readBack_of_short (by decide) (.inr (by decide)), by decide, by decide, by decide⟩
    · cases found
      exact ⟨readBack_of_short (by decide) (.inr (by decide)), by decide, by decide, by decide⟩
  · exact restorable_of_round (Nat.succ_ne_zero 1) (payout_round maker (among member)) made

/-- With the asset index on, a block that moves a tag is undone. -/
theorem tagMove_undone :
    ∃ connected file r,
      BlockAccepted launchNode (richState 2000000000000000000) taggedConnection noPoints connected
          (minutelyHash 1) file
        ∧ disconnectBlock (payoutContext 2000000000000000000 taggedConnection connected) plainUndo
          taggedConnection.source.received taggedConnection.pindex (some file) connected.view = .ok r
        ∧ BalancesCover (payoutContext 2000000000000000000 taggedConnection connected) taggedConnection
          connected connected.view
        ∧ Restores (richState 2000000000000000000) taggedConnection r := by
  obtain ⟨r, undoes⟩ := toOption_isSome.mp undoPayout_isSome
  obtain ⟨connected, file, accepted, disconnects⟩ := undoPayout_ok undoes
  have unused := payout_unused 2000000000000000000 (List.Subset.refl (payouts ++ [tagMove]))
  obtain ⟨_, _, _, _, _, traced⟩ := accepted.trace unused
  have caches := traced.caches
  rw [← caches.reads] at caches
  obtain ⟨undone, restores⟩ := (disconnectBlock_restores_coins launchNode
    (richState 2000000000000000000) taggedConnection plainUndo connected (minutelyHash 1) file accepted
    unused (payoutContext _ _ connected) rfl ⟨fun _ => rfl, rfl⟩ connected.view _ caches).1
    (payout_restorable (List.Subset.refl _))
  exact ⟨connected, file, r, accepted, disconnects, undone.mp ⟨r, disconnects⟩ rfl, restores r disconnects⟩

/-- One unit less than all the money comes back as more than all the money, and
`DisconnectBlock` takes the block for clean. -/
theorem richCoin_not_restored :
    ∃ connected file r,
      BlockAccepted launchNode (richState 2099999999999999999) payoutConnection noPoints connected
          (minutelyHash 1) file
        ∧ IdsUnused payoutEnv.digests (richState 2099999999999999999).coinsTip.read payouts
        ∧ (∀ tx ∈ payouts, AssetFree tx)
        ∧ disconnectBlock (payoutContext 2099999999999999999 payoutConnection connected) plainUndo
          payoutConnection.source.received payoutConnection.pindex (some file) connected.view = .ok r
        ∧ r.fClean = true
        ∧ (richState 2099999999999999999).coinsTip.read ⟨7, 0⟩ = some (richCoin 2099999999999999999)
        ∧ r.view.coins.read ⟨7, 0⟩ = some (richCoin 5555605888118076368) := by
  obtain ⟨r, undoes, evaluated⟩ := toOption_any.mp undoPayout_changes
  obtain ⟨clean, changed⟩ := Bool.and_eq_true_iff.mp evaluated
  obtain ⟨connected, file, accepted, disconnects⟩ := undoPayout_ok undoes
  refine ⟨connected, file, r, accepted, payout_unused _ (List.subset_append_left _ _), payout_assetFree,
    disconnects, clean, ?_, eq_of_beq changed⟩
  rw [richState_read, if_pos rfl]

end BlackRaven.Chain
