import BlackRaven.Chain.BlockUndo

/-!
Contract: what a node answers about assets after `ConnectTip` and then `DisconnectTip`.

`DisconnectTip` undoes the asset changes of the block in a cache that it does not flush, so
`passets` keeps what `ConnectTip` has put there.

Owns: that the answers are those of the connected block, that a block without assets is
disconnected with every answer as before, and that a name the block issues stays issued.
-/

namespace BlackRaven.Chain

open Assets Consensus Lib Lib.WriteBack Primitives Script CAssetsCache

/-! ## The answers -/

/-- What a node answers about assets from `passets` and below. -/
structure AssetAnswers where
  existence : Bytes → Bool
  metadata : Bytes → Option CNewAsset
  verifier : Bytes → Option Bytes
  tag : Bytes → Bytes → Bool
  freeze : Bytes → Bytes → Bool
  globalFreeze : Bytes → Bool
  balance : Bytes → Bytes → CAmount

def answers (globals : AssetGlobals) : AssetAnswers where
  existence := globals.passets.checkIfAssetExists globals
  metadata := fun name => (globals.passets.getAssetMetaDataIfExists globals name).map (·.asset)
  verifier := globals.passets.getAssetVerifierStringIfExists globals false
  tag := globals.passets.checkForAddressQualifier globals false
  freeze := globals.passets.checkForAddressRestriction globals false
  globalFreeze := globals.passets.checkForGlobalRestriction globals false
  balance := fun name address => (globals.passets.bestAssetAddressAmount globals name address).getD 0

theorem flushed_empty (globals : AssetGlobals) : globals.flushed .empty = globals := by
  unfold AssetGlobals.flushed CAssetsCache.flush CAssetsCache.empty
  simp only [List.append_nil]
  rfl

/-! ## Names that are issued -/

def issuedName : AssetChange → Option Bytes
  | .issue asset => some asset.strName
  | .reissue _ => none

def issuedNames (tx : CTransaction) : List Bytes := (assetChanges tx).filterMap issuedName

section Issue

variable {placed : COutPoint → CReissueAsset → Prop} {globals : AssetGlobals} {cache next : CAssetsCache}
  {changes : List AssetChange} {name : Bytes}

theorem checkIfAssetExists_eq (noRemoval : ∀ name : Bytes, cache.setNewAssets.toRemove[name]? = none) :
    cache.checkIfAssetExists globals name
      = (globals.fReindex || globals.passets.setNewAssets.toRemove[name]?.isNone
        && (cache.setNewAssets.toAdd[name]?.isSome || globals.passets.setNewAssets.toAdd[name]?.isSome
          || (globals.storedAsset name).isSome)) := by
  unfold checkIfAssetExists
  rw [existenceFor_pending, noRemoval]
  cases globals.fReindex <;> rfl

theorem addNewAsset_setNewAssets (asset : CNewAsset) (address : Bytes) (nHeight : Int) (blockHash : Uint256) :
    ((cache.addNewAsset globals asset address nHeight blockHash).getD cache).setNewAssets
      = if cache.checkIfAssetExists globals asset.strName then cache.setNewAssets
        else cache.setNewAssets.add false asset.strName ⟨asset, address, blockHash, nHeight⟩ := by
  unfold addNewAsset
  split
  · rfl
  · simp

theorem addReissueAsset_setNewAssets (reissue : CReissueAsset) (address : Bytes) (out : COutPoint) :
    ((cache.addReissueAsset globals reissue address out).getD cache).setNewAssets = cache.setNewAssets := by
  unfold addReissueAsset
  split
  · rfl
  · simp

section

variable (run : ChangeRun placed globals changes cache next)
  (noRemoval : ∀ name : Bytes, cache.setNewAssets.toRemove[name]? = none)

include run noRemoval

/-- The names a run of changes adds are those that it issues unknown. It removes none. -/
theorem ChangeRun.issues :
    (∀ name : Bytes, next.setNewAssets.toRemove[name]? = none)
      ∧ ∀ name : Bytes, next.setNewAssets.toAdd[name]?.isSome = true
        ↔ cache.setNewAssets.toAdd[name]?.isSome = true
          ∨ name ∈ changes.filterMap issuedName ∧ cache.checkIfAssetExists globals name = false := by
  have sameAnswers {cache next : CAssetsCache} (same : next.setNewAssets = cache.setNewAssets) :
      next.checkIfAssetExists globals = cache.checkIfAssetExists globals := by
    unfold checkIfAssetExists
    rw [same]
  induction run with
  | done => exact ⟨noRemoval, fun name => by simp⟩
  | @frame _ cache next _ same _ ih =>
    have sameSet : next.setNewAssets = cache.setNewAssets := congrArg (·.1) same
    rw [sameSet, sameAnswers sameSet] at ih
    exact ih noRemoval
  | reissue _ _ ih =>
    rw [addReissueAsset_setNewAssets, sameAnswers (addReissueAsset_setNewAssets _ _ _)] at ih
    exact ih noRemoval
  | @issue asset address nHeight blockHash _ cache _ _ ih =>
    have adds := @addNewAsset_setNewAssets globals cache asset address nHeight blockHash
    generalize (cache.addNewAsset globals asset address nHeight blockHash).getD cache = issued at adds ih
    have issuedRemoval : ∀ name : Bytes, issued.setNewAssets.toRemove[name]? = none := by
      intro name
      rw [adds]
      split
      · exact noRemoval name
      · simp only [ChangeSet.add, Std.TreeMap.getElem?_erase, noRemoval name, ite_self]
    refine ⟨(ih issuedRemoval).1, fun name => ((ih issuedRemoval).2 name).trans ?_⟩
    simp only [List.filterMap_cons, issuedName, List.mem_cons]
    cases known : cache.checkIfAssetExists globals asset.strName with
    | true =>
      rw [known, if_pos rfl] at adds
      rw [sameAnswers adds, adds]
      by_cases same : name = asset.strName
      · simp [same, known]
      · simp [same]
    | false =>
      rw [known, if_neg Bool.false_ne_true] at adds
      by_cases same : name = asset.strName
      · simp [same, known, adds, ChangeSet.add, ChangeSet.getElem?_record]
      · rw [checkIfAssetExists_eq issuedRemoval, checkIfAssetExists_eq noRemoval, adds]
        simp [same, ChangeSet.add, ChangeSet.getElem?_record]

theorem ChangeRun.exists_iff :
    next.checkIfAssetExists globals name = true ↔ cache.checkIfAssetExists globals name = true
      ∨ name ∈ changes.filterMap issuedName ∧ globals.passets.setNewAssets.toRemove[name]? = none := by
  obtain ⟨removesNone, grows⟩ := run.issues noRemoval
  have before := @checkIfAssetExists_eq globals cache name noRemoval
  rw [checkIfAssetExists_eq removesNone]
  cases known : cache.checkIfAssetExists globals name <;> grind

end

variable {ctx : ConnectContext} {pool : PoolView} {block : CBlock} {pindex : CBlockIndex}

variable {vtx : List CTransaction} {c last : ConnectState}

theorem connectTxs_changes (runs : vtx.foldlM (connectTx ctx pool block pindex) c = .ok last) :
    ChangeRun (fun _ _ => True) ctx.globals (vtx.flatMap assetChanges) c.s.assetsCache last.s.assetsCache := by
  induction vtx generalizing c with
  | nil =>
    cases runs
    exact .done _
  | cons tx rest ih =>
    obtain ⟨next, connects, later⟩ := foldlM_cons_ok.mp runs
    exact (connectTx_changes connects).append (ih later)

theorem connectTxs_exists_iff (runs : vtx.foldlM (connectTx ctx pool block pindex) c = .ok last)
    (noRemoval : ∀ name : Bytes, c.s.assetsCache.setNewAssets.toRemove[name]? = none) :
    last.s.assetsCache.checkIfAssetExists ctx.globals name = true
      ↔ c.s.assetsCache.checkIfAssetExists ctx.globals name = true
        ∨ name ∈ vtx.flatMap issuedNames ∧ ctx.globals.passets.setNewAssets.toRemove[name]? = none := by
  rw [(connectTxs_changes runs).exists_iff noRemoval, List.filterMap_flatMap]
  rfl

theorem connectTxs_unknown
    (noRemoval : ∀ name : Bytes, c.s.assetsCache.setNewAssets.toRemove[name]? = none)
    (runs : vtx.foldlM (connectTx ctx pool block pindex) c = .ok last) {tx : CTransaction}
    (member : tx ∈ vtx) (coinBase : tx.isCoinBase = true → assetChanges tx = []) {asset : CNewAsset}
    (issued : .issue asset ∈ assetChanges tx) :
    c.s.assetsCache.checkIfAssetExists ctx.globals asset.strName = false := by
  obtain ⟨earlier, later, rfl⟩ := List.append_of_mem member
  rw [List.foldlM_append] at runs
  obtain ⟨middle, reached, runs⟩ := bind_eq_ok.mp runs
  obtain ⟨next, connects, -⟩ := foldlM_cons_ok.mp runs
  obtain ⟨undo, stages⟩ := connectTx_ok connects
  have isSpend : tx.isCoinBase = false := by
    by_contra isCoinBase
    rw [coinBase (by simpa using isCoinBase)] at issued
    cases issued
  obtain ⟨totals, assets⟩ := (stages.spends isSpend).assets
  have unknown := (checkOperationContext_permits (checkTxAssets_operation rfl assets)).unknown asset issued
  rw [lookedUp_assetsCache, ← Bool.not_eq_true, connectTxs_exists_iff reached noRemoval] at unknown
  simpa using (not_or.mp unknown).1

end Issue

/-! ## The tip -/

section Tip

variable {node : NodeContext} {services : UndoServices} {c after undone : Chainstate}
  {connection : Connection} {connected : Connected} {undoFile : Option Bytes}

theorem disconnectTip_globals (disconnects : c.disconnectTip node services connection undoFile = .ok undone) :
    undone.globals = c.globals := by
  unfold Chainstate.disconnectTip at disconnects
  rw [ite_error_eq_ok] at disconnects
  obtain ⟨r, -, disconnects⟩ := bind_eq_ok.mp disconnects.2
  rw [ite_error_eq_ok] at disconnects
  have flushes := disconnects.2
  split at flushes
  · cases flushes
  · cases flushes
    rfl

/-- A name the block issues is new, and known once the block is connected. -/
theorem connectTip_issues (connects : c.connectTip node connection = .ok (after, connected))
    {tx : CTransaction} (member : tx ∈ (ChainStep.connect connection).created node) {asset : CNewAsset}
    (issued : .issue asset ∈ assetChanges tx) :
    (answers c.globals).existence asset.strName = false
      ∧ (answers after.globals).existence asset.strName = true := by
  obtain ⟨checked, tip⟩ := connectTip_ok connects
  obtain ⟨last, stages⟩ := connectChecked_ok tip.connects
  obtain ⟨isCreated, -⟩ := connectedTxs_checked tip.block
  obtain ⟨-, tipHeight, pass⟩ := checkedBlock_transactions tip.block
  rw [← isCreated] at member
  have coinBase : ∀ tx ∈ node.connectedTxs checked, tx.isCoinBase = true → assetChanges tx = [] := by
    intro tx member
    exact pass.coinBase ((node.connectedTxs_sublist checked).subset member)
  have noRemoval : ∀ name : Bytes,
      c.blockView.assetsCache.setNewAssets.toRemove[name]? = none := by
    intro name
    exact Std.TreeMap.getElem?_emptyc
  obtain ⟨removesNone, grows⟩ := (connectTxs_changes stages.transactions).issues noRemoval
  have unknown : CAssetsCache.empty.checkIfAssetExists c.globals asset.strName = false :=
    connectTxs_unknown noRemoval stages.transactions member (coinBase tx member) issued
  have isChange := List.mem_flatMap.mpr ⟨tx, member, issued⟩
  have added := (grows asset.strName).mpr (.inr ⟨List.mem_filterMap.mpr ⟨_, isChange, rfl⟩, unknown⟩)
  have notReindexing := notReindexing_of_absent unknown
  constructor
  · rw [checkIfAssetExists_of_not_reindexing _ _ notReindexing] at unknown
    rw [TableSound.empty_isIssued] at unknown
    exact (checkIfAssetExists_of_not_reindexing _ _ notReindexing _).trans unknown
  · obtain ⟨_, -, rfl⟩ := flushView_ok tip.flushes
    obtain ⟨entry, isEntry⟩ := Option.isSome_iff_exists.mp added
    have pending := (ChangeSet.pending_flush_addition false c.globals.passets.setNewAssets
      (removesNone asset.strName) isEntry).2
    rw [stages.view]
    simp only [answers, checkIfAssetExists, AssetGlobals.flushed, CAssetsCache.flush,
      notReindexing, Bool.false_eq_true, if_false]
    rw [pending]
    rfl

/-- What a node needs, beside coins that survive, to disconnect a block it has connected. -/
structure TipUndoable (node : NodeContext) (services : UndoServices) (c after : Chainstate)
    (connection : Connection) (connected : Connected) (pprev : Uint256) (file : Bytes) : Prop where
  accepted : BlockAccepted node c connection services.points connected pprev file
  unused : IdsUnused c.globals.env.digests c.coinsTip.read connection.source.received.vtx
  releases : EvoReleases (after.context node connection) services connection.source.received connection.pindex
  restorable : ∀ coin_, connection.Spends c coin_ → Restorable coin_

/-- No output of the block carries an asset, a tag or a freeze, and no input spends one. -/
structure QuietBlock (c : Chainstate) (connection : Connection) : Prop where
  outputs : ∀ tx ∈ connection.source.received.vtx, AssetFree tx
  inputs : ∀ coin_, connection.Spends c coin_ → assetKind coin_.out.scriptPubKey = none

/-- What the assets of a block must allow: the tracked balances cover it, and each asset coin it
spends can be given back. -/
def AssetsUndoable (node : NodeContext) (c after : Chainstate) (connection : Connection) (connected : Connected) :
    Prop :=
  (c.globals.fAssetIndex = true →
      BalancesCover (after.context node connection) connection connected after.blockView)
    ∧ ∀ coins ∈ connected.vtxundo, ∀ coin_ ∈ coins, GivesBack after.globals.env coin_

section Undoable

variable {pprev : Uint256} {file : Bytes} (connects : c.connectTip node connection = .ok (after, connected))
  (undoable : TipUndoable node services c after connection connected pprev file)

include connects undoable

theorem disconnectTip_isOk_iff : (∃ undone, after.disconnectTip node services connection (some file) = .ok undone)
    ↔ AssetsUndoable node c after connection connected := by
  obtain ⟨coinbase, rest, first, undos, coins, traced⟩ := undoable.accepted.trace undoable.unused
  obtain ⟨checked, tip⟩ := connectTip_ok connects
  obtain ⟨coinsTip, flushes, coherent, reads⟩ := traced.caches.flush
  obtain ⟨_, flushed, isAfter⟩ := flushView_ok tip.flushes
  obtain rfl := Option.mem_unique flushes flushed
  have caches : after.blockView.coins.Caches connected.view.coins.read connected.view.coins.read := by
    have start := Store.Caches.start coherent
    rw [reads, ← traced.caches.reads] at start
    rw [isAfter]
    exact start
  have isGlobals : after.globals = c.globals.flushed connected.view.assetsCache := by rw [isAfter]
  have atTip : after.hashBlock = connection.pindex.hashBlock := by
    rw [isAfter]
    exact traced.tip
  obtain ⟨undone, restores⟩ := traced.restores undoable.accepted isGlobals undoable.releases
    undoable.restorable caches
  unfold Chainstate.disconnectTip AssetsUndoable
  rw [if_neg (not_not.mpr atTip), ← undone]
  constructor
  · rintro ⟨last, disconnects⟩
    obtain ⟨r, disconnects, passes⟩ := bind_eq_ok.mp disconnects
    rw [ite_error_eq_ok] at passes
    exact ⟨⟨r, disconnects⟩, (restores r disconnects).2.2.mp (by simpa using passes.1)⟩
  · rintro ⟨⟨r, disconnects⟩, gives⟩
    obtain ⟨restored, -, clean⟩ := restores r disconnects
    obtain ⟨below, written, -⟩ := restored.flush
    refine ⟨⟨below, r.view.hashBlock, after.globals⟩, bind_eq_ok.mpr ⟨r, disconnects, ?_⟩⟩
    rw [clean.mpr gives, Bool.not_true, if_neg Bool.false_ne_true, written]

/-- A block without assets is disconnected, and had changed nothing of the assets. -/
theorem disconnectTip_quiet (quiet : QuietBlock c connection) :
    AssetsUndoable node c after connection connected ∧ after.globals = c.globals := by
  obtain ⟨coinbase, rest, first, undos, coins, traced⟩ := undoable.accepted.trace undoable.unused
  obtain ⟨checked, tip⟩ := connectTip_ok connects
  obtain ⟨_, -, rfl⟩ := flushView_ok tip.flushes
  have unchanged : connected.view.assetsCache = .empty :=
    traced.quiet (traced.vtx ▸ quiet.outputs) fun coins member coin_ isCoin =>
      quiet.inputs coin_ (traced.record_spent member isCoin)
  refine ⟨⟨fun _ => balancesCover_of_assetFree quiet.outputs, traced.givesBack _ quiet.inputs⟩, ?_⟩
  rw [unchanged, flushed_empty]

end Undoable

end Tip

/-- After `ConnectTip` and `DisconnectTip` every answer is the one that `ConnectTip` left, so
it is the answer of before exactly where the block changed nothing. A block whose coins survive is
disconnected exactly if its assets allow it; one without assets is, and all answers are as before. A
name the block issues is not forgotten. -/
theorem disconnectTip_answers (node : NodeContext) (services : UndoServices) (c after : Chainstate)
    (connection : Connection) (connected : Connected)
    (connects : c.connectTip node connection = .ok (after, connected)) :
    (∀ pprev file, TipUndoable node services c after connection connected pprev file →
        ((∃ undone, after.disconnectTip node services connection (some file) = .ok undone)
            ↔ AssetsUndoable node c after connection connected)
          ∧ (QuietBlock c connection →
            ∃ undone, after.disconnectTip node services connection (some file) = .ok undone
              ∧ answers undone.globals = answers c.globals))
      ∧ ∀ undoFile undone, after.disconnectTip node services connection undoFile = .ok undone →
        (answers undone.globals = answers c.globals ↔ answers after.globals = answers c.globals)
          ∧ ∀ tx ∈ (ChainStep.connect connection).created node, ∀ asset, .issue asset ∈ assetChanges tx →
            answers undone.globals ≠ answers c.globals := by
  constructor
  · intro pprev file undoable
    have isOk := disconnectTip_isOk_iff connects undoable
    refine ⟨isOk, fun quiet => ?_⟩
    obtain ⟨undoes, same⟩ := disconnectTip_quiet connects undoable quiet
    obtain ⟨undone, disconnects⟩ := isOk.mpr undoes
    exact ⟨undone, disconnects, by rw [disconnectTip_globals disconnects, same]⟩
  · intro undoFile undone disconnects
    rw [disconnectTip_globals disconnects]
    refine ⟨Iff.rfl, ?_⟩
    intro tx member asset issued same
    obtain ⟨unknown, known⟩ := connectTip_issues connects member issued
    rw [same, unknown] at known
    cases known

/-! ## A quiet block, and a block that issues a tag -/

/-- The block is connected and its undo data are written. -/
def connectsTip (c : Chainstate) (connection : Connection) : Bool :=
  (c.connectTip launchNode connection).toOption.any fun tip =>
    (undoWriteToDisk c.globals.env.digests noPoints tip.2.vtxundo (minutelyHash 1)).toOption.isSome

theorem payout_connectsTip : connectsTip (richState 2000000000000000000) payoutConnection = true := by
  decide +kernel

theorem payout_quiet : QuietBlock (richState 2000000000000000000) payoutConnection where
  outputs := payout_assetFree
  inputs := by
    have noTag : ∀ tx ∈ payouts, ⟨8, 0⟩ ∉ spentOutpoints tx := by decide
    rintro coin_ ⟨tx, member, outpoint, spent, found | ⟨maker, member, made⟩⟩
    · rw [richState_read] at found
      split_ifs at found with _ isTag
      · cases found
        decide
      · exact absurd (isTag ▸ spent) (noTag tx member)
    · exact (payout_assetFree maker member _ (txCoins_script (List.mem_filter.mp made).1)).1

theorem disconnectTip_answers_payout :
    ∃ after connected file undone,
      (richState 2000000000000000000).connectTip launchNode payoutConnection = .ok (after, connected)
        ∧ after.disconnectTip launchNode plainUndo payoutConnection (some file) = .ok undone
        ∧ answers undone.globals = answers (richState 2000000000000000000).globals := by
  obtain ⟨⟨after, connected⟩, connects, writes⟩ := toOption_any.mp payout_connectsTip
  obtain ⟨file, writes⟩ := toOption_isSome.mp writes
  have undoable : TipUndoable launchNode plainUndo (richState 2000000000000000000) after payoutConnection
      connected (minutelyHash 1) file :=
    ⟨⟨richState_coherent _, connectTip_accepts connects, by decide, rfl, writes⟩,
      payout_unused _ (List.subset_append_left _ _), ⟨fun _ => rfl, rfl⟩,
      payout_restorable (List.subset_append_left _ _)⟩
  obtain ⟨undone, disconnects, same⟩ := ((disconnectTip_answers launchNode plainUndo _ after payoutConnection
    connected connects).1 (minutelyHash 1) file undoable).2 payout_quiet
  exact ⟨after, connected, file, undone, connects, disconnects, same⟩

def kycFromCoin : CTransaction :=
  unsignedTx ⟨7, 0⟩ [⟨1000 * coin, payToPubkeyHash qualifierBurnKey⟩, ⟨1500 * coin, anyoneCanSpend⟩,
    ⟨0, CNewAsset.constructTransaction ⟨ascii "#KYC", coin, 0, 0, 0, []⟩ (disguisedFront victimKeyID)⟩]

def kycFromCoinHash : Nat := 0xc7f1dc1335e214314e5dbc49d7a8ee1238b395d138f282879145a95560aaa9d2
def kycFromCoinRoot : Nat := 0x789159fddf7a3af12777b05524ebc0dc69010ffac8a80ff2729d2d03487374f8

def kycRows : List (Bytes × Bytes) :=
  Digests.hashRows [(kycFromCoin.serializeNoWitness,
      0xeaade7cf9d9c69196398c7b146ecba1e1f23bbe687cff32716f079d8d57694b0, kycFromCoinHash),
    (merkleNode laterCoinbaseHash kycFromCoinHash,
      0x94d853f0473341c069a93d8a4789795e3e97ce030898c258e98f3fa7cfab761b, kycFromCoinRoot)]

def kycEnv : AssetEnv :=
  ⟨Digests.tabulated (genesisRows ++ launchRows ++ kycRows) (by decide +kernel), mainAssetParams⟩

def kycState : Chainstate :=
  { richState (2500 * coin) with globals := .initial kycEnv true }

def kycConnection : Connection := secondBlock [laterCoinbase, kycFromCoin] kycFromCoinRoot

/-- The block is connected and disconnected again, with the coins back, and #KYC exists. -/
def keepsKyc : Bool :=
  (kycState.connectTip launchNode kycConnection).toOption.any fun tip =>
    (undoWriteToDisk kycEnv.digests noPoints tip.2.vtxundo (minutelyHash 1)).toOption.any fun file =>
      (tip.1.disconnectTip launchNode plainUndo kycConnection (some file)).toOption.any fun undone =>
        undone.coinsTip.read ⟨7, 0⟩ == kycState.coinsTip.read ⟨7, 0⟩
          && !(answers kycState.globals).existence (ascii "#KYC")
          && (answers undone.globals).existence (ascii "#KYC")

theorem keepsKyc_holds : keepsKyc = true := by decide +kernel

/-- `DisconnectTip` succeeds, and the tag that only the disconnected block has issued exists. -/
theorem kyc_stays_issued :
    ∃ after connected file undone,
      kycState.connectTip launchNode kycConnection = .ok (after, connected)
        ∧ undoWriteToDisk kycEnv.digests noPoints connected.vtxundo (minutelyHash 1) = .ok file
        ∧ after.disconnectTip launchNode plainUndo kycConnection (some file) = .ok undone
        ∧ undone.coinsTip.read ⟨7, 0⟩ = kycState.coinsTip.read ⟨7, 0⟩
        ∧ (answers kycState.globals).existence (ascii "#KYC") = false
        ∧ (answers undone.globals).existence (ascii "#KYC") = true := by
  obtain ⟨⟨after, connected⟩, connects, evaluated⟩ := toOption_any.mp keepsKyc_holds
  obtain ⟨file, writes, evaluated⟩ := toOption_any.mp evaluated
  obtain ⟨undone, disconnects, evaluated⟩ := toOption_any.mp evaluated
  obtain ⟨evaluated, known⟩ := Bool.and_eq_true_iff.mp evaluated
  obtain ⟨restored, unknown⟩ := Bool.and_eq_true_iff.mp evaluated
  exact ⟨after, connected, file, undone, connects, writes, disconnects, eq_of_beq restored,
    by simpa using unknown, known⟩

end BlackRaven.Chain
