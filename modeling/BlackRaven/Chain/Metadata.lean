import BlackRaven.Chain.AssetRuns
import BlackRaven.Chain.PoolIndependence

/-!
Contract: the metadata a node stores, in every state of a run of connected blocks.

Owns: that the records stay well formed and only grow, between the blocks and within each,
and that the sums of a reissue are exact.

Does not own: disconnected blocks, and balances.
-/

namespace BlackRaven.Chain

open Assets Consensus Lib Primitives

/-! ## Transaction ids -/

/-- Transactions with one id have the same outputs: among them the hash of the ids has no
collision. -/
def IdsDetermineOutputs (digests : Digests) (vtx : List CTransaction) : Prop :=
  ∀ tx ∈ vtx, ∀ other ∈ vtx, tx.getHash digests = other.getHash digests → tx.vout = other.vout

instance (digests : Digests) (vtx : List CTransaction) :
    Decidable (IdsDetermineOutputs digests vtx) :=
  inferInstanceAs (Decidable (∀ tx ∈ vtx, ∀ other ∈ vtx,
    tx.getHash digests = other.getHash digests → tx.vout = other.vout))

/-- `nameOf` gives the asset that a transaction reissues. -/
def ReissueNamed (nameOf : COutPoint → Bytes) (digests : Digests) (tx : CTransaction) : Prop :=
  ∀ reissue, .reissue reissue ∈ assetChanges tx →
    nameOf ⟨tx.getHash digests, BitVec.ofNat 32 (tx.vout.length - 1)⟩ = reissue.strName

def reissuedName (digests : Digests) (vtx : List CTransaction) (out : COutPoint) : Bytes :=
  let tx? := vtx.find? fun tx => tx.getHash digests == out.hash
  ((tx?.bind fun tx => reissueData (lastScript tx)).map CReissueAsset.strName).getD []

theorem reissue_mem_assetChanges {tx : CTransaction} {reissue : CReissueAsset}
    (member : .reissue reissue ∈ assetChanges tx) :
    operationKind tx = .reissue ∧ reissueData (lastScript tx) = some reissue := by
  have notIssued : .reissue reissue ∉ issuesLast tx := by
    intro issued
    obtain ⟨asset, -, isChange⟩ := List.mem_map.mp issued
    cases isChange
  unfold assetChanges at member
  cases kind : operationKind tx with
  | reissue => exact ⟨rfl, by simpa [kind] using member⟩
  | unique =>
    simp only [kind] at member
    obtain ⟨asset, isChange⟩ := uniqueIssue_isIssue member
    cases isChange
  | plain =>
    simp only [kind] at member
    cases member
  | issue | msgchannel | qualifier | restricted =>
    simp only [kind] at member
    exact absurd member notIssued

theorem IdsDetermineOutputs.reissueNamed {digests : Digests} {vtx : List CTransaction}
    (determine : IdsDetermineOutputs digests vtx) {tx : CTransaction} (member : tx ∈ vtx) :
    ReissueNamed (reissuedName digests vtx) digests tx := by
  intro reissue isReissue
  have read := (reissue_mem_assetChanges isReissue).2
  cases found : vtx.find? fun other => other.getHash digests == tx.getHash digests with
  | none => simpa using List.find?_eq_none.mp found tx member
  | some other =>
    have sameId : other.getHash digests = tx.getHash digests := by
      simpa using List.find?_some found
    have sameLast : lastScript other = lastScript tx := by
      unfold lastScript
      rw [determine other (List.mem_of_find?_eq_some found) tx member sameId]
    simp only [reissuedName, found, Option.bind_some, sameLast, read]
    rfl

/-! ## The transactions of a block -/

section Block

variable {nameOf : COutPoint → Bytes} {ctx : ConnectContext} {pool : PoolView} {block : CBlock}
  {pindex : CBlockIndex}

/-- The loop of `ConnectBlock` over transactions, from a table `start`. -/
structure LoopSound (nameOf : COutPoint → Bytes) (globals : AssetGlobals) (start : AssetTable)
    (s : ConnectState) : Prop where
  sound : TableSound nameOf globals s.s.assetsCache
  wellFormed : (s.s.assetsCache.table globals).WellFormed
  grows : start.Grows (s.s.assetsCache.table globals)

theorem LoopSound.step {start : AssetTable} {s next : ConnectState} {tx : CTransaction}
    (loop : LoopSound nameOf ctx.globals start s) (coinBase : tx.isCoinBase = true → assetChanges tx = [])
    (named : ReissueNamed nameOf ctx.globals.env.digests tx)
    (connects : connectTx ctx pool block pindex s tx = .ok next) :
    LoopSound nameOf ctx.globals start next := by
  obtain ⟨permitted, sound, shown⟩ := connectTx_table loop.sound coinBase named connects
  obtain ⟨wellFormed, grows⟩ := AssetTable.performAll_grows loop.wellFormed permitted.permits
  rw [← shown] at wellFormed grows
  exact ⟨sound, wellFormed, loop.grows.trans grows⟩

/-- The coinbase of a block that passes has no part in the changes. -/
theorem TransactionsPass.coinBase {env : TxEnv} {vtx : List CTransaction}
    (pass : TransactionsPass env vtx) {tx : CTransaction} (member : tx ∈ vtx)
    (isCoinBase : tx.isCoinBase = true) : assetChanges tx = [] := by
  obtain ⟨nHeight, blockReward, passes⟩ := pass
  apply assetChanges_eq_nil
  intro out outMember
  exact (checkTransaction_coinBase (passes tx member) isCoinBase outMember).1

theorem LoopSound.run {env : TxEnv} {start : AssetTable} {vtx done : List CTransaction}
    {s last : ConnectState} (loop : LoopSound nameOf ctx.globals start s)
    (pass : TransactionsPass env vtx) (subset : done ⊆ vtx)
    (named : ∀ tx ∈ vtx, ReissueNamed nameOf ctx.globals.env.digests tx)
    (runs : done.foldlM (connectTx ctx pool block pindex) s = .ok last) :
    LoopSound nameOf ctx.globals start last :=
  foldlM_invariant _
    (fun _ tx _ member holds connects =>
      holds.step (pass.coinBase (subset member)) (named tx (subset member)) connects)
    loop runs

end Block

/-! ## The chain state -/

/-- What `GetAssetMetaDataIfExists` of `passets` answers. -/
def Chainstate.table (c : Chainstate) : AssetTable := c.globals.passets.table c.globals

structure MetadataSound (nameOf : COutPoint → Bytes) (env : AssetEnv) (c : Chainstate) : Prop where
  env : c.globals.env = env
  sound : TableSound nameOf c.globals .empty
  wellFormed : c.table.WellFormed

/-- The loop of `ConnectBlock` when it has dealt with some of the transactions of a
block. -/
def Midway (node : NodeContext) (c : Chainstate) (connection : Connection) (s : ConnectState) :
    Prop :=
  ∃ checked done rest, c.checkedBlock node connection = .ok checked ∧ checked.vtx = done ++ rest
    ∧ done.foldlM (connectTx (c.context node connection) connection.pool checked connection.pindex)
        ⟨c.blockView.toCoinsState, 0, 0, [], true⟩ = .ok s

section Chain

variable {nameOf : COutPoint → Bytes} {env : AssetEnv} {node : NodeContext} {c after : Chainstate}

section

variable (metadata : MetadataSound nameOf env c)

include metadata

theorem MetadataSound.loop : LoopSound nameOf c.globals c.table ⟨c.blockView.toCoinsState, 0, 0, [], true⟩ := by
  have same : CAssetsCache.empty.table c.globals = c.table := TableSound.empty_table c.globals
  refine ⟨metadata.sound, ?_, ?_⟩
  · exact same ▸ metadata.wellFormed
  · exact same ▸ .refl c.table

theorem MetadataSound.midway {connection : Connection} {s : ConnectState}
    (named : ∀ tx ∈ connection.source.received.vtx, ReissueNamed nameOf env.digests tx)
    (midway : Midway node c connection s) : LoopSound nameOf c.globals c.table s := by
  obtain ⟨checked, done, rest, passes, split, runs⟩ := midway
  obtain ⟨sameTxs, tipHeight, pass⟩ := checkedBlock_transactions passes
  rw [← sameTxs, ← metadata.env] at named
  have subset : done ⊆ checked.vtx := by
    rw [split]
    exact List.subset_append_left done rest
  exact LoopSound.run metadata.loop pass subset named runs

theorem MetadataSound.flushed {view : BlockView} (flushes : c.flushView view = .ok after)
    (sound : TableSound nameOf c.globals view.assetsCache)
    (wellFormed : (view.assetsCache.table c.globals).WellFormed) :
    MetadataSound nameOf env after ∧ after.table = view.assetsCache.table c.globals := by
  obtain ⟨_, -, rfl⟩ := flushView_ok flushes
  obtain ⟨flushedSound, shown⟩ := sound.flush
  refine ⟨⟨metadata.env, flushedSound, ?_⟩, shown⟩
  rw [← shown] at wellFormed
  exact wellFormed

theorem MetadataSound.unchanged (sameEnv : after.globals.env = c.globals.env)
    (sound : TableSound nameOf after.globals .empty) (same : after.table = c.table) :
    MetadataSound nameOf env after ∧ c.table.Grows after.table := by
  refine ⟨⟨sameEnv.trans metadata.env, sound, ?_⟩, ?_⟩
  · rw [same]
    exact metadata.wellFormed
  · rw [same]
    exact .refl c.table

end

/-- The end of the loop over a block, which is not entered for the genesis block. -/
theorem TipConnected.midway {connection : Connection} {connected : Connected} {checked : CBlock}
    {last : ConnectState} (tip : TipConnected node c connection after connected checked)
    (loop : BlockConnected (c.context node connection) connection.pool checked connection.pindex
      c.blockView connected last) : Midway node c connection last := by
  have runs := loop.transactions
  unfold NodeContext.connectedTxs at runs
  split at runs
  · exact ⟨checked, [], checked.vtx, tip.block, rfl, runs⟩
  · exact ⟨checked, checked.vtx, [], tip.block, (List.append_nil _).symm, runs⟩

/-- A connected block: its transactions, or nothing for the genesis block. -/
theorem MetadataSound.connectTip (metadata : MetadataSound nameOf env c) {connection : Connection}
    {connected : Connected} (named : ∀ tx ∈ connection.source.received.vtx, ReissueNamed nameOf env.digests tx)
    (connects : c.connectTip node connection = .ok (after, connected)) :
    MetadataSound nameOf env after ∧ c.table.Grows after.table := by
  obtain ⟨checked, tip⟩ := connectTip_ok connects
  obtain ⟨last, loop⟩ := connectChecked_ok tip.connects
  have flushes := tip.flushes
  rw [loop.view] at flushes
  have reached := metadata.midway named (tip.midway loop)
  obtain ⟨flushed, shown⟩ := metadata.flushed flushes reached.sound reached.wellFormed
  exact ⟨flushed, shown ▸ reached.grows⟩

theorem MetadataSound.step (metadata : MetadataSound nameOf env c) {step : ChainStep}
    (named : ∀ tx ∈ step.vtx, ReissueNamed nameOf env.digests tx) (steps : chainStep node c step = .ok after) :
    MetadataSound nameOf env after ∧ c.table.Grows after.table := by
  cases step with
  | connect connection =>
    obtain ⟨⟨next, connected⟩, connects, rfl⟩ := map_eq_ok.mp steps
    exact metadata.connectTip named connects
  | flush =>
    obtain ⟨_, -, rfl⟩ := flushStateToDisk_ok steps
    obtain ⟨sound, shown⟩ := metadata.sound.dump
    exact metadata.unchanged rfl sound shown
  | readCoin outpoint =>
    cases steps
    exact metadata.unchanged rfl metadata.sound rfl
  | readAsset item =>
    cases steps
    obtain ⟨sound, shown⟩ := metadata.sound.read item
    rw [TableSound.empty_table, TableSound.empty_table] at shown
    exact metadata.unchanged rfl sound shown
  | reindexing flag =>
    cases steps
    obtain ⟨own, below, agree, new, issued⟩ := metadata.sound
    exact metadata.unchanged rfl ⟨own, below, agree, new, issued⟩ rfl

theorem MetadataSound.run (metadata : MetadataSound nameOf env c) {steps : List ChainStep}
    (named : ∀ tx ∈ steps.flatMap ChainStep.vtx, ReissueNamed nameOf env.digests tx)
    (runs : chainRun node c steps = .ok after) :
    MetadataSound nameOf env after ∧ c.table.Grows after.table := by
  refine foldlM_invariant (fun s : Chainstate => MetadataSound nameOf env s ∧ c.table.Grows s.table) ?_
    ⟨metadata, .refl c.table⟩ runs
  rintro s step next member ⟨sound, grows⟩ steps
  obtain ⟨nextSound, nextGrows⟩ :=
    sound.step (fun tx inStep => named tx (List.mem_flatMap.mpr ⟨step, member, inStep⟩)) steps
  exact ⟨nextSound, grows.trans nextGrows⟩

theorem MetadataSound.initial (nameOf : COutPoint → Bytes) (env : AssetEnv) (fAssetIndex : Bool) :
    MetadataSound nameOf env (.initial env fAssetIndex) := by
  have sound : TableSound nameOf (AssetGlobals.initial env fAssetIndex) .empty := by
    apply TableSound.start .empty
    · constructor
      · intro _ _ _ found
        cases found
      · simp [AssetGlobals.initial]
    · intro name reissued
      simp [AssetGlobals.initial, CAssetsCache.empty] at reissued
  refine ⟨rfl, sound, ?_⟩
  intro name asset found
  have nothing : CAssetsCache.empty.table (AssetGlobals.initial env fAssetIndex) name = none := by
    rw [sound.table_eq]
    simp [AssetGlobals.initial, CAssetsCache.empty, ChangeSet.empty, AssetGlobals.storedAsset, CLRUCache.get]
  exact absurd (found.symm.trans nothing) (by simp)

end Chain

/-! ## Every state of a run -/

/-- The metadata in every state that blocks of `ConnectBlock` lead to. The last part is
about every point of a block that is being connected: whatever the checks let through, the
sum that `ContextualCheckReissueAsset` compares and `AddReissueAsset` stores is the exact
one, and `CheckAmountWithUnits` is asked about units it is defined for. -/
theorem stored_metadata_wellFormed (node : NodeContext) (env : AssetEnv) (fAssetIndex : Bool)
    (steps : List ChainStep) (c : Chainstate)
    (determine : IdsDetermineOutputs env.digests (steps.flatMap ChainStep.vtx))
    (runs : chainRun node (.initial env fAssetIndex) steps = .ok c) :
    (c.globals.fReindex = false →
        ∀ name, c.globals.passets.checkIfAssetExists c.globals name = (c.table name).isSome)
      ∧ (∀ name asset, c.table name = some asset → WellFormedAsset asset)
      ∧ (∀ later last, chainRun node c later = .ok last →
          IdsDetermineOutputs env.digests ((steps ++ later).flatMap ChainStep.vtx) →
          c.table.Grows last.table)
      ∧ (∀ connection s, Midway node c connection s →
          IdsDetermineOutputs env.digests ((steps ++ [ChainStep.connect connection]).flatMap ChainStep.vtx) →
          c.table.Grows (s.s.assetsCache.table c.globals)
            ∧ ∀ prev reissue, s.s.assetsCache.table c.globals reissue.strName = some prev →
              checkReissueAsset env reissue = .ok () →
              toInt64 (prev.nAmount + reissue.nAmount) = prev.nAmount + reissue.nAmount
                ∧ (checkAmountWithUnits reissue.nAmount prev.units).isSome) := by
  have reached : ∀ vtx, IdsDetermineOutputs env.digests vtx → steps.flatMap ChainStep.vtx ⊆ vtx →
      MetadataSound (reissuedName env.digests vtx) env c := by
    intro vtx determined subset
    exact (MetadataSound.initial _ env fAssetIndex |>.run
      (fun tx member => determined.reissueNamed (subset member)) runs).1
  have metadata := reached _ determine (List.Subset.refl _)
  refine ⟨?_, metadata.wellFormed, ?_, ?_⟩
  · intro notReindexing name
    have shown := metadata.sound.table_isSome name
    rw [TableSound.empty_table, TableSound.empty_isIssued] at shown
    rw [CAssetsCache.checkIfAssetExists_of_not_reindexing _ _ notReindexing]
    exact shown.symm
  · intro later last goesOn determined
    rw [List.flatMap_append] at determined
    have metadata := reached _ determined (List.subset_append_left _ _)
    exact (metadata.run (fun tx member => determined.reissueNamed (List.mem_append_right _ member)) goesOn).2
  · intro connection s midway determined
    rw [List.flatMap_append] at determined
    have metadata := reached _ determined (List.subset_append_left _ _)
    have loop := metadata.midway (fun tx member => determined.reissueNamed
      (List.mem_append_right _ (by simpa [ChainStep.vtx] using member))) midway
    refine ⟨loop.grows, ?_⟩
    intro prev reissue isPrev checked
    have wellFormed := loop.wellFormed _ prev isPrev
    exact ⟨reissue_exact wellFormed checked, checkAmountWithUnits_isSome wellFormed _⟩

/-! ## A node that connects the genesis block -/

/-- A ProgPoW whose hash is the nonce, but for the genesis block, which has its own. -/
def launchCrypto : PowHash where
  hash256 := fun _ => 0
  hashX16R := fun _ _ => 0
  progpow := fun _ _ nonce =>
    if nonce = mainGenesis.nNonce64 then (mainParams.hashGenesisBlock, mainGenesis.mixHash)
    else (nonce.setWidth 256, 5)
  progpowNoVerify := fun _ _ mix nonce =>
    if nonce = mainGenesis.nNonce64 ∧ mix = mainGenesis.mixHash then mainParams.hashGenesisBlock
    else if nonce ≠ mainGenesis.nNonce64 ∧ mix = 5 then nonce.setWidth 256
    else ~~~0

def launchNode : NodeContext where
  crypto := launchCrypto
  chainparams := mainChainParams
  curve := deadCurve
  view := minutelyNode
  services := .plain

def genesisRows : List (Bytes × Bytes) :=
  Digests.hashRows [(mainGenesisTx.serializeNoWitness,
      0xe772cc308af78c82a20b61ef4082a7f3201092bdaae2e920ceac2f661ce2cc52, mainGenesis.hashMerkleRoot.toNat)]

def connectGenesis : ChainStep :=
  .connect
    { mapBlockIndex := mainInitialState.mapBlockIndex
      tipHeight := -1
      pool := .empty
      source := .disk mainGenesisBlock
      pindex := mainGenesisIndex }

end BlackRaven.Chain
