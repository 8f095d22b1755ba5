import BlackRaven.Chain.TipUndo

/-!
Contract: the verdict of `ContextualCheckTransferAsset` on a transfer, as `ConnectBlock` asks
for it after different transactions of a block.

The verifier string, the tags and the freezes are read from below the cache of the block. Of
that cache the verdict depends on one thing, whether the tags the verifier names are issued.

Owns: that the tags named by the verifier strings of a node are issued, in every state of a run of
connected and disconnected blocks, and that the order of a block therefore has no part in the verdict.

Does not own: runs in which the node reindexes, when `CheckIfAssetExists` lets every name pass.
-/

namespace BlackRaven.Assets

open Lib

/-! ## Every verifier string of a store -/

namespace AssetStore

/-- What holds of every stored verifier string. -/
def EachVerifier (holds : Bytes → Prop) (store : AssetStore) : Prop :=
  (∀ (name : Bytes) verifier, store.prestricteddb.verifier[name]? = some verifier → holds verifier)
    ∧ ∀ item ∈ store.passetsVerifierCache.items, holds item.2

variable {holds : Bytes → Prop} {store : AssetStore} {cache : CAssetsCache}

theorem EachVerifier.imp {later : Bytes → Prop} (implies : ∀ verifier, holds verifier → later verifier)
    (each : store.EachVerifier holds) : store.EachVerifier later :=
  ⟨fun name verifier found => implies _ (each.1 name verifier found),
    fun item member => implies _ (each.2 item member)⟩

theorem EachVerifier.write (each : store.EachVerifier holds) (name : Bytes) {verifier : Bytes}
    (holdsNew : holds verifier) : (store.writeVerifier name verifier).EachVerifier holds := by
  refine ⟨?_, each.2⟩
  intro other found isFound
  rw [writeVerifier, getElem?_insert_eq] at isFound
  split at isFound
  · cases isFound
    exact holdsNew
  · exact each.1 other found isFound

theorem EachVerifier.forget (each : store.EachVerifier holds) (name : Bytes) :
    ({ store with passetsVerifierCache := store.passetsVerifierCache.erase name } : AssetStore).EachVerifier
      holds :=
  ⟨each.1, fun item member => each.2 item (List.mem_of_mem_filter member)⟩

theorem EachVerifier.erase (each : store.EachVerifier holds) (name : Bytes) :
    (store.eraseVerifier name).EachVerifier holds :=
  ⟨forall_erase each.1, each.2⟩

theorem EachVerifier.read (each : store.EachVerifier holds) (env : AssetEnv) (item : StoredItem) :
    (store.read env item).EachVerifier holds := by
  cases item with
  | verifier name =>
    refine ⟨each.1, ?_⟩
    unfold AssetStore.read CLRUCache.readThrough
    dsimp only
    split
    next value _ row =>
      intro item member
      have listed : item ∈ (name, value) :: (store.passetsVerifierCache.erase name).items := by
        unfold CLRUCache.put at member
        dsimp only at member
        split at member
        · exact List.dropLast_subset _ member
        · exact member
      rcases List.mem_cons.mp listed with rfl | older
      · exact each.1 name value row
      · exact each.2 item (List.mem_of_mem_filter older)
    · exact each.2
  | _ => exact each

theorem EachVerifier.dumpStore (each : store.EachVerifier holds)
    (pending : cache.setNewRestrictedVerifier.Each fun _ entry => holds entry.verifier) (env : AssetEnv)
    (fAssetIndex : Bool) : (cache.dumpStore env fAssetIndex store).EachVerifier holds := by
  have assets : (CAssetsCache.dumpAssets fAssetIndex cache store).EachVerifier holds := by
    apply foldValues_invariant (EachVerifier holds)
    · intro _ entry _ store each
      cases fAssetIndex <;> exact each
    · apply foldValues_invariant (EachVerifier holds) _ each
      intro _ entry _ store each
      cases fAssetIndex <;> exact each.erase _
  have issues : (CAssetsCache.dumpedIssues fAssetIndex cache store).EachVerifier holds :=
    (congrArg (EachVerifier holds) (CAssetsCache.dumpedIssues_verifiers fAssetIndex cache store)).mpr assets
  have verifiers : (CAssetsCache.dumpedVerifiers fAssetIndex cache store).EachVerifier holds := by
    apply foldValues_invariant (EachVerifier holds)
    · intro name entry found store each
      unfold CAssetsCache.dumpUndoVerifier
      split
      · exact (each.write _ (pending name entry (.inr found))).forget _
      · exact (each.erase _).forget _
    · apply foldValues_invariant (EachVerifier holds) _ issues
      intro name entry found store each
      exact (each.write _ (pending name entry (.inl found))).forget _
  exact (congrArg (EachVerifier holds) (CAssetsCache.dumpStore_verifiers env fAssetIndex cache store)).mpr
    verifiers

end AssetStore

end BlackRaven.Assets

namespace BlackRaven.Chain

open Assets Consensus Lib Primitives Script CAssetsCache

/-! ## The verdict on a transfer -/

/-- The tags that a verifier string names are in a table. -/
def TagsIssued (table : AssetTable) (verifier : Bytes) : Prop :=
  ∀ names, checkVerifierString verifier = .ok names →
    ∀ name ∈ names, (table (qualifierChar :: name)).isSome = true

theorem TagsIssued.mono {table later : AssetTable} (grows : table.Grows later) {verifier : Bytes}
    (issued : TagsIssued table verifier) : TagsIssued later verifier := by
  intro names checks name member
  obtain ⟨asset, found⟩ := Option.isSome_iff_exists.mp (issued names checks name member)
  obtain ⟨last, isLast, -⟩ := grows _ asset found
  exact Option.isSome_of_eq_some isLast

theorem contextualCheckVerifierString_names {view : AssetView} {verifier address : Bytes}
    (passes : contextualCheckVerifierString view verifier address = .ok ()) {names : List Bytes}
    (checks : checkVerifierString verifier = .ok names) :
    ∀ name ∈ names, view.checkIfAssetExists (qualifierChar :: name) = true := by
  unfold contextualCheckVerifierString at passes
  split at passes
  next isTrue =>
    rw [isTrue] at checks
    cases checks
    exact List.forall_mem_nil _
  · obtain ⟨found, isFound, passes⟩ := bind_eq_ok.mp passes
    rw [checks] at isFound
    cases isFound
    rw [ite_error_eq_ok] at passes
    simpa using passes.1

/-- The verdict on a transfer depends on the cache through the tags of the verifier only. -/
theorem contextualCheckTransferAsset_congr {globals : AssetGlobals} {one other : CAssetsCache}
    (transfer : CAssetTransfer) (address : Bytes)
    (same : ∀ verifier, globals.passets.getAssetVerifierStringIfExists globals true transfer.strName
        = some verifier →
      ∀ names, checkVerifierString verifier = .ok names → ∀ name ∈ names,
        one.checkIfAssetExists globals (qualifierChar :: name)
          = other.checkIfAssetExists globals (qualifierChar :: name)) :
    contextualCheckTransferAsset (some (one.view globals)) transfer address
      = contextualCheckTransferAsset (some (other.view globals)) transfer address := by
  have verdict : contextualCheckAgainstVerifyString (one.view globals) transfer address
      = contextualCheckAgainstVerifyString (other.view globals) transfer address := by
    have sameVerifier : (one.view globals).getAssetVerifierStringIfExists true transfer.strName
        = (other.view globals).getAssetVerifierStringIfExists true transfer.strName := rfl
    unfold contextualCheckAgainstVerifyString
    rw [sameVerifier]
    cases stored : (other.view globals).getAssetVerifierStringIfExists true transfer.strName with
    | none => rfl
    | some verifier =>
      dsimp only
      unfold contextualCheckVerifierString
      cases checks : checkVerifierString verifier with
      | error reason => rfl
      | ok names =>
        have sameAny : (names.any fun name => !(one.view globals).checkIfAssetExists (qualifierChar :: name))
            = names.any fun name => !(other.view globals).checkIfAssetExists (qualifierChar :: name) := by
          rw [Bool.eq_iff_iff, List.any_eq_true, List.any_eq_true]
          refine exists_congr fun name => and_congr_right fun member => ?_
          rw [show (one.view globals).checkIfAssetExists (qualifierChar :: name) = _ from
            same verifier stored names checks name member]
          rfl
        simp only [bind, Except.bind, sameAny]
        rfl
  unfold contextualCheckTransferAsset
  simp only [verdict]
  rfl

/-! ## The verifier strings a transaction adds -/

/-- The verifier strings pending in a cache. -/
def EachPending (holds : Bytes → Prop) (cache : CAssetsCache) : Prop :=
  cache.setNewRestrictedVerifier.Each fun _ entry => holds entry.verifier

section Frames

variable {globals : AssetGlobals} {cache : CAssetsCache}

theorem verifiers_addIssuedAsset (script : Bytes) (nHeight : Int) (blockHash : Uint256) :
    (addIssuedAsset globals cache script nHeight blockHash).setNewRestrictedVerifier
      = cache.setNewRestrictedVerifier := by
  unfold addIssuedAsset addNewAsset
  grind [updateBalance, setBalance]

theorem verifiers_addIssuedOwner (script : Bytes) :
    (addIssuedOwner globals cache script).setNewRestrictedVerifier = cache.setNewRestrictedVerifier := by
  unfold addIssuedOwner addOwnerAsset
  grind [updateBalance, setBalance]

theorem verifiers_addReissueAsset (reissue : CReissueAsset) (address : Bytes) (out : COutPoint) :
    ((cache.addReissueAsset globals reissue address out).getD cache).setNewRestrictedVerifier
      = cache.setNewRestrictedVerifier := by
  unfold addReissueAsset
  grind [updateBalance, setBalance]

theorem verifiers_addOutput {possible_overwrite : Bool} {s next : CoinsState} {item : COutPoint × Coin}
    (adds : addOutput globals possible_overwrite s item = .ok next) :
    next.assetsCache.setNewRestrictedVerifier = s.assetsCache.setNewRestrictedVerifier := by
  obtain ⟨coins, -, rfl⟩ := map_eq_ok.mp adds
  unfold addNullDataOutput addTransferOutput addTransferAsset addToAssetBalance
  grind [updateBalance, setBalance, addRestrictedAddress, addQualifierAddress, noteSubQualifier,
    addGlobalRestricted]

theorem verifiers_spendInput {s next : CoinsState × List Coin} {txin : CTxIn}
    (spends : spendInput globals s txin = .ok next) :
    next.1.assetsCache.setNewRestrictedVerifier = s.1.assetsCache.setNewRestrictedVerifier := by
  obtain ⟨_, _, -, spent, rfl⟩ := spendInput_eq_ok.mp spends
  unfold trySpendCoin at spent
  grind [setBalance]

end Frames

section Transaction

variable {holds : Bytes → Prop} {globals : AssetGlobals} {cache : CAssetsCache} {tx : CTransaction}

/-- What the verifier outputs of a transaction are read as. -/
def EachWritten (holds : Bytes → Prop) (tx : CTransaction) : Prop :=
  ∀ out ∈ tx.vout, isNullAssetVerifierTxDataScript out.scriptPubKey = true →
    holds ((assetNullVerifierDataFromScript out.scriptPubKey).getD [])

theorem EachWritten.first (written : EachWritten holds tx) {verifier : Option Bytes}
    (first : firstVerifier tx = some verifier) : holds (verifier.getD []) := by
  obtain ⟨out, found, rfl⟩ := Option.map_eq_some_iff.mp first
  have isVerifier := List.find?_some found
  exact written out (List.mem_of_find?_eq_some found) isVerifier

theorem EachPending.addIssuedVerifier (each : EachPending holds cache)
    (written : newAssetData (lastScript tx) ≠ none → EachWritten holds tx) :
    EachPending holds (addIssuedVerifier cache tx) := by
  unfold Chain.addIssuedVerifier
  split
  next asset verifier isAsset first =>
    exact ChangeSet.Each.add each false ((written (by simp [isAsset])).first first)
  · exact each

theorem EachPending.addReissued (each : EachPending holds cache)
    (written : reissueData (lastScript tx) ≠ none → EachWritten holds tx) (txid : Uint256) :
    EachPending holds (addReissued globals cache tx txid) := by
  unfold Chain.addReissued
  split
  · exact each
  next reissue isReissue =>
    have reissued : ∀ address out,
        EachPending holds ((cache.addReissueAsset globals reissue address out).getD cache) := by
      intro address out
      unfold EachPending
      rw [verifiers_addReissueAsset]
      exact each
    dsimp only
    split
    next found verifier isFound first =>
      split
      · exact (reissued _ _).add false ((written (by simp [isReissue])).first first)
      · exact reissued _ _
    · exact reissued _ _

theorem EachPending.addOperation (each : EachPending holds cache)
    (written : assetChanges tx ≠ [] → EachWritten holds tx) (txid : Uint256) (nHeight : Int)
    (blockHash : Uint256) :
    EachPending holds (addOperation globals cache tx txid nHeight blockHash) := by
  have issued : ∀ (cache : CAssetsCache) script, EachPending holds cache →
      EachPending holds (addIssuedAsset globals cache script nHeight blockHash) := by
    intro cache script each
    unfold EachPending
    rw [verifiers_addIssuedAsset]
    exact each
  rw [Chain.addOperation, ite_operationKind]
  unfold assetChanges at written
  cases kind : operationKind tx with
  | plain => exact each
  | issue =>
    dsimp only
    unfold EachPending
    rw [verifiers_addIssuedOwner]
    exact issued cache _ each
  | unique =>
    apply foldl_invariant (EachPending holds) _ each
    intro out _ cache each
    unfold addUniqueOutput
    split
    · exact issued cache _ each
    · exact each
  | msgchannel | qualifier => exact issued cache _ each
  | restricted =>
    refine (issued cache _ each).addIssuedVerifier fun isIssue => written ?_
    simpa [kind, issuesLast] using isIssue
  | reissue =>
    refine each.addReissued (fun isReissue => written ?_) txid
    simpa [kind] using isReissue

theorem EachPending.updateCoins {s next : CoinsState} {nHeight : Nat} {blockHash : Uint256} {undo : List Coin}
    (each : EachPending holds s.assetsCache) (written : assetChanges tx ≠ [] → EachWritten holds tx)
    (updates : updateCoins globals s tx nHeight blockHash = .ok (next, undo)) :
    EachPending holds next.assetsCache := by
  obtain ⟨spent, spends, adds, -⟩ := updateCoins_ok updates
  have spentEach : EachPending holds spent.1.assetsCache := by
    split at spends
    · cases spends
      exact each
    · have same := foldlM_unchanged
        (fun s : CoinsState × List Coin => s.1.assetsCache.setNewRestrictedVerifier)
        (fun _ _ _ => verifiers_spendInput) spends
      unfold EachPending
      rw [same]
      exact each
  have same := foldlM_unchanged (fun s : CoinsState => s.assetsCache.setNewRestrictedVerifier)
    (fun _ _ _ => verifiers_addOutput) adds
  unfold EachPending
  rw [same]
  exact spentEach.addOperation written _ _ _

/-- `CheckTxAssets` reads every verifier output and looks its tags up. -/
theorem checkTxAssets_written {ctx : TxAssetsContext} {view : AssetView} {totals : OutputTotals}
    (isCache : ctx.assetCache = some view) (passes : checkTxAssets ctx tx = .ok totals) :
    EachWritten (fun verifier => ∀ names, checkVerifierString verifier = .ok names →
      ∀ name ∈ names, view.checkIfAssetExists (qualifierChar :: name) = true) tx := by
  unfold checkTxAssets at passes
  rw [rejected, ite_error_eq_ok] at passes
  obtain ⟨_, -, passes⟩ := bind_eq_ok.mp passes.2
  obtain ⟨_, outputs, -⟩ := bind_eq_ok.mp passes
  refine foldlM_established (fun (out : CTxOut) (_ : OutputTotals) =>
    isNullAssetVerifierTxDataScript out.scriptPubKey = true → _) ?_ (fun _ _ _ _ _ => id) outputs
  intro _ out _ checked isVerifier names checks
  obtain ⟨_, checked, -⟩ := bind_eq_ok.mp checked
  have isNull : isNullAssetTxDataScript out.scriptPubKey = false
      ∧ isNullGlobalRestrictionAssetTxDataScript out.scriptPubKey = false := by
    unfold isNullAssetVerifierTxDataScript at isVerifier
    unfold isNullAssetTxDataScript isNullGlobalRestrictionAssetTxDataScript
    grind [opReserved]
  simp only [checkNullDataOutput, isCache, isNull.1, isNull.2, isVerifier, Bool.false_eq_true, if_false,
    if_true] at checked
  have passes := mapError_eq_ok.mp checked
  unfold contextualCheckVerifierAssetTxOut at passes
  split at passes
  · cases passes
  next verifier isRead =>
    rw [isRead] at checks
    split at passes
    · cases passes
    next passed => exact contextualCheckVerifierString_names passed checks

end Transaction

theorem EachPending.imp {holds later : Bytes → Prop} (implies : ∀ verifier, holds verifier → later verifier)
    {cache : CAssetsCache} (each : EachPending holds cache) : EachPending later cache :=
  fun name entry found => implies _ (each name entry found)

/-! ## The transactions of a block -/

section Block

variable {nameOf : COutPoint → Bytes} {ctx : ConnectContext} {pool : PoolView} {block : CBlock}
  {pindex : CBlockIndex} {start : AssetTable} {s next : ConnectState} {tx : CTransaction}

theorem LoopSound.verifiers (loop : LoopSound nameOf ctx.globals start s)
    (each : EachPending (TagsIssued (s.s.assetsCache.table ctx.globals)) s.s.assetsCache)
    (notReindexing : ctx.globals.fReindex = false) (coinBase : tx.isCoinBase = true → assetChanges tx = [])
    (named : ReissueNamed nameOf ctx.globals.env.digests tx)
    (connects : connectTx ctx pool block pindex s tx = .ok next) :
    EachPending (TagsIssued (next.s.assetsCache.table ctx.globals)) next.s.assetsCache := by
  have here : LoopSound nameOf ctx.globals (s.s.assetsCache.table ctx.globals) s :=
    ⟨loop.sound, loop.wellFormed, .refl _⟩
  have grows := (here.step coinBase named connects).grows
  obtain ⟨undo, stages⟩ := connectTx_ok connects
  have written : assetChanges tx ≠ [] → EachWritten (TagsIssued (s.s.assetsCache.table ctx.globals)) tx := by
    intro changes out member isVerifier names checks name isName
    have isSpend : tx.isCoinBase = false := Bool.eq_false_iff.mpr fun isCoinBase => changes (coinBase isCoinBase)
    obtain ⟨totals, assets⟩ := (stages.spends isSpend).assets
    have known := checkTxAssets_written rfl assets out member isVerifier names checks name isName
    rw [lookedUp_assetsCache] at known
    rw [loop.sound.table_isSome, ← checkIfAssetExists_of_not_reindexing _ _ notReindexing]
    exact known
  have looked : EachPending (TagsIssued (s.s.assetsCache.table ctx.globals)) (lookedUp s.s tx).assetsCache := by
    rw [lookedUp_assetsCache]
    exact each
  exact (looked.updateCoins written stages.updates).imp fun _ => .mono grows

theorem LoopSound.runVerifiers {env : TxEnv} {vtx done : List CTransaction} {last : ConnectState}
    (loop : LoopSound nameOf ctx.globals start s)
    (each : EachPending (TagsIssued (s.s.assetsCache.table ctx.globals)) s.s.assetsCache)
    (notReindexing : ctx.globals.fReindex = false) (pass : TransactionsPass env vtx) (subset : done ⊆ vtx)
    (named : ∀ tx ∈ vtx, ReissueNamed nameOf ctx.globals.env.digests tx)
    (runs : done.foldlM (connectTx ctx pool block pindex) s = .ok last) :
    EachPending (TagsIssued (last.s.assetsCache.table ctx.globals)) last.s.assetsCache := by
  refine (foldlM_invariant (fun s : ConnectState => LoopSound nameOf ctx.globals start s
    ∧ EachPending (TagsIssued (s.s.assetsCache.table ctx.globals)) s.s.assetsCache) ?_ ⟨loop, each⟩ runs).2
  rintro s tx next member ⟨loop, each⟩ connects
  have coinBase := pass.coinBase (subset member)
  have isNamed := named tx (subset member)
  exact ⟨loop.step coinBase isNamed connects, loop.verifiers each notReindexing coinBase isNamed connects⟩

end Block

/-! ## The chain state -/

/-- The tags of every verifier string are issued, wherever the string is. -/
structure VerifiersIssued (nameOf : COutPoint → Bytes) (env : AssetEnv) (c : Chainstate) : Prop where
  metadata : MetadataSound nameOf env c
  notReindexing : c.globals.fReindex = false
  stored : c.globals.toAssetStore.EachVerifier (TagsIssued c.table)
  pending : EachPending (TagsIssued c.table) c.globals.passets

section Chain

variable {nameOf : COutPoint → Bytes} {env : AssetEnv} {node : NodeContext} {c after : Chainstate}
  (issued : VerifiersIssued nameOf env c)

include issued

theorem VerifiersIssued.midway {connection : Connection} {s : ConnectState}
    (named : ∀ tx ∈ connection.source.received.vtx, ReissueNamed nameOf env.digests tx)
    (midway : Midway node c connection s) :
    EachPending (TagsIssued (s.s.assetsCache.table c.globals)) s.s.assetsCache := by
  obtain ⟨checked, done, rest, passes, split, runs⟩ := midway
  obtain ⟨sameTxs, tipHeight, pass⟩ := checkedBlock_transactions passes
  rw [← sameTxs, ← issued.metadata.env] at named
  have subset : done ⊆ checked.vtx := by
    rw [split]
    exact List.subset_append_left done rest
  refine (LoopSound.runVerifiers issued.metadata.loop ?_ issued.notReindexing pass subset named runs :)
  intro name entry found
  simp [Chainstate.blockView, CAssetsCache.empty, ChangeSet.empty] at found

theorem VerifiersIssued.connectTip {connection : Connection} {connected : Connected}
    (named : ∀ tx ∈ connection.source.received.vtx, ReissueNamed nameOf env.digests tx)
    (connects : c.connectTip node connection = .ok (after, connected)) : VerifiersIssued nameOf env after := by
  obtain ⟨metadata, grows⟩ := issued.metadata.connectTip named connects
  obtain ⟨checked, tip⟩ := connectTip_ok connects
  obtain ⟨last, loop⟩ := connectChecked_ok tip.connects
  have flushes := tip.flushes
  rw [loop.view] at flushes
  have reached := tip.midway loop
  have sound := issued.metadata.midway named reached
  have shown := (issued.metadata.flushed flushes sound.sound sound.wellFormed).2
  have added := issued.midway named reached
  rw [← shown] at added
  have below := issued.pending.imp fun _ => TagsIssued.mono grows
  have stored := issued.stored.imp fun _ => TagsIssued.mono grows
  obtain ⟨_, -, rfl⟩ := flushView_ok flushes
  exact ⟨metadata, issued.notReindexing, stored, ChangeSet.Each.flush added below true⟩

theorem VerifiersIssued.step {step : ChainStep} (named : ∀ tx ∈ step.vtx, ReissueNamed nameOf env.digests tx)
    (quiet : step ≠ .reindexing true) (steps : chainStep node c step = .ok after) :
    VerifiersIssued nameOf env after := by
  obtain ⟨metadata, grows⟩ := issued.metadata.step named steps
  have stored := issued.stored.imp fun _ => TagsIssued.mono grows
  have pending := issued.pending.imp fun _ => TagsIssued.mono grows
  cases step with
  | connect connection =>
    obtain ⟨⟨next, connected⟩, connects, rfl⟩ := map_eq_ok.mp steps
    exact issued.connectTip named connects
  | flush =>
    obtain ⟨_, -, rfl⟩ := flushStateToDisk_ok steps
    refine ⟨metadata, issued.notReindexing, stored.dumpStore pending _ _, ?_⟩
    intro name entry found
    simp [AssetGlobals.dumpCacheToDatabase, CAssetsCache.empty, ChangeSet.empty] at found
  | readCoin outpoint =>
    cases steps
    exact ⟨metadata, issued.notReindexing, stored, pending⟩
  | readAsset item =>
    cases steps
    exact ⟨metadata, issued.notReindexing, stored.read _ item, pending⟩
  | reindexing flag =>
    cases steps
    cases flag with
    | true => exact absurd rfl quiet
    | false => exact ⟨metadata, rfl, stored, pending⟩

theorem VerifiersIssued.of_globals (same : after.globals = c.globals) : VerifiersIssued nameOf env after := by
  obtain ⟨⟨isEnv, sound, wellFormed⟩, notReindexing, stored, pending⟩ := issued
  unfold Chainstate.table at *
  rw [← same] at isEnv sound wellFormed notReindexing stored pending
  exact ⟨⟨isEnv, sound, wellFormed⟩, notReindexing, stored, pending⟩

/-- A verifier string that is found in the state between two blocks. -/
theorem VerifiersIssued.found {name verifier : Bytes}
    (found : c.globals.passets.getAssetVerifierStringIfExists c.globals true name = some verifier) :
    TagsIssued c.table verifier := by
  have below := (@ChangeSet.pending_flush_untouched _ _ _ true CAssetsCache.empty.setNewRestrictedVerifier
    c.globals.passets.setNewRestrictedVerifier name _ _ _ Std.TreeMap.getElem?_emptyc
    Std.TreeMap.getElem?_emptyc).1
  unfold getAssetVerifierStringIfExists unlessSkipped at found
  rw [if_pos rfl, below, ChangeSet.pending_self] at found
  cases removed : c.globals.passets.setNewRestrictedVerifier.toRemove[name]? with
  | some entry =>
    have isEntry : entry.fUndoingRessiue = true ∧ entry.verifier = verifier := by
      simpa [removed, verifierFor] using found
    exact isEntry.2 ▸ issued.pending name entry (.inr removed)
  | none =>
    cases added : c.globals.passets.setNewRestrictedVerifier.toAdd[name]? with
    | some entry =>
      have isEntry : entry.verifier = verifier := by
        simpa [removed, added, verifierFor] using found
      exact isEntry ▸ issued.pending name entry (.inl added)
    | none =>
      have isStored : c.globals.storedVerifier name = some verifier := by
        simpa [removed, added, verifierFor] using found
      rcases Option.or_eq_some_iff.mp (Option.orElse_eq_or.symm.trans isStored) with cached | ⟨-, row⟩
      · obtain ⟨item, isItem, rfl⟩ := Option.map_eq_some_iff.mp cached
        exact issued.stored.2 item (List.mem_of_find?_eq_some isItem)
      · exact issued.stored.1 name verifier row

end Chain

theorem VerifiersIssued.initial (nameOf : COutPoint → Bytes) (env : AssetEnv) (fAssetIndex : Bool) :
    VerifiersIssued nameOf env (.initial env fAssetIndex) where
  metadata := .initial nameOf env fAssetIndex
  notReindexing := rfl
  stored := ⟨by simp [Chainstate.initial, AssetGlobals.initial], by simp [Chainstate.initial, AssetGlobals.initial]⟩
  pending := by
    intro name entry found
    simp [Chainstate.initial, AssetGlobals.initial, CAssetsCache.empty, ChangeSet.empty] at found

section Reorganized

variable (node : NodeContext) (services : UndoServices) (env : AssetEnv) (fAssetIndex : Bool)

/-- The states of a node that connects blocks and takes them back, and the transactions it connected. -/
inductive Reorganized : List CTransaction → Chainstate → Prop
  | start : Reorganized [] (.initial env fAssetIndex)
  | step {vtx : List CTransaction} {c after : Chainstate} (step : ChainStep) (before : Reorganized vtx c)
      (quiet : step ≠ .reindexing true) (steps : chainStep node c step = .ok after) :
      Reorganized (vtx ++ step.vtx) after
  | disconnect {vtx : List CTransaction} {c undone : Chainstate} {connection : Connection} {undoFile : Option Bytes}
      (before : Reorganized vtx c)
      (disconnects : c.disconnectTip node services connection undoFile = .ok undone) : Reorganized vtx undone

variable {node services env fAssetIndex} {vtx : List CTransaction} {c after : Chainstate}
  (reached : Reorganized node services env fAssetIndex vtx c)

include reached

theorem Reorganized.run {steps : List ChainStep} (quiet : ∀ step ∈ steps, step ≠ .reindexing true)
    (runs : chainRun node c steps = .ok after) :
    Reorganized node services env fAssetIndex (vtx ++ steps.flatMap ChainStep.vtx) after := by
  induction steps generalizing vtx c with
  | nil =>
    cases runs
    simpa using reached
  | cons step rest ih =>
    obtain ⟨next, first, later⟩ := foldlM_cons_ok.mp runs
    obtain ⟨here, rest⟩ := List.forall_mem_cons.mp quiet
    rw [List.flatMap_cons, ← List.append_assoc]
    exact ih (reached.step step here first) rest later

theorem Reorganized.issued {nameOf : COutPoint → Bytes} (named : ∀ tx ∈ vtx, ReissueNamed nameOf env.digests tx) :
    VerifiersIssued nameOf env c := by
  induction reached with
  | start => exact .initial nameOf env fAssetIndex
  | step step _ quiet steps ih =>
    rw [List.forall_mem_append] at named
    exact (ih named.1).step named.2 quiet steps
  | disconnect _ disconnects ih => exact (ih named).of_globals (disconnectTip_globals disconnects)

end Reorganized

/-- In every state a node gets to, the transactions in front of a transfer have no part in the verdict
on it: `before` and `before'` are those that stand there in two orders. -/
theorem transferVerdict_order (node : NodeContext) (services : UndoServices) (env : AssetEnv)
    (fAssetIndex : Bool) (vtx : List CTransaction) (c : Chainstate)
    (determine : IdsDetermineOutputs env.digests vtx)
    (reached : Reorganized node services env fAssetIndex vtx c) (one other : Connection)
    (block block' : CBlock) (before before' : List CTransaction) (s s' : ConnectState)
    (runs : before.foldlM (connectTx (c.context node one) one.pool block one.pindex)
      ⟨c.blockView.toCoinsState, 0, 0, [], true⟩ = .ok s)
    (runs' : before'.foldlM (connectTx (c.context node other) other.pool block' other.pindex)
      ⟨c.blockView.toCoinsState, 0, 0, [], true⟩ = .ok s')
    (transfer : CAssetTransfer) (address : Bytes) :
    contextualCheckTransferAsset (assetsContext (c.context node one) one.pool block s.s).assetCache
        transfer address
      = contextualCheckTransferAsset
        (assetsContext (c.context node other) other.pool block' s'.s).assetCache transfer address := by
  have issued := reached.issued fun tx member => determine.reissueNamed member
  have noRemoval : ∀ name : Bytes, c.blockView.assetsCache.setNewAssets.toRemove[name]? = none :=
    fun _ => Std.TreeMap.getElem?_emptyc
  apply contextualCheckTransferAsset_congr
  intro verifier stored names checks name member
  have known : c.blockView.assetsCache.checkIfAssetExists c.globals (qualifierChar :: name) = true := by
    rw [checkIfAssetExists_of_not_reindexing _ _ issued.notReindexing]
    refine (issued.metadata.sound.table_isSome _).symm.trans ?_
    rw [TableSound.empty_table]
    exact issued.found stored names checks name member
  exact ((connectTxs_exists_iff runs noRemoval).mpr (.inl known)).trans
    ((connectTxs_exists_iff runs' noRemoval).mpr (.inl known)).symm

/-! ## A restricted asset and a freeze

A block of a chain issues #KYC, GOLD, and $GOLD with the verifier !KYC. On the main chain GOLD
cannot be issued, since the address that the fee is to be burnt at has a digit too many in front. -/

def issueBurnKey : Bytes := toBytesLE 20 0xfc134f889a44d63335e13d038d5c34f630ffc8f5

def restrictedBurnKey : Bytes := toBytesLE 20 0xa13ffa93b4148ccf68fda2040d90df702902b0af

def goldAsset (name : String) : CNewAsset := ⟨ascii name, coin, 0, 0, 0, []⟩

def goldIssue : CTransaction :=
  unsignedTx ⟨BitVec.ofNat 256 firstCoinbaseHash, 1⟩
    [⟨500 * coin, payToPubkeyHash issueBurnKey⟩, ⟨2000 * coin, anyoneCanSpend⟩,
      ⟨0, (goldAsset "GOLD").constructOwnerTransaction (disguisedFront victimKeyID)⟩,
      ⟨0, (goldAsset "GOLD").constructTransaction (disguisedFront victimKeyID)⟩]

def goldIssueHash : Nat := 0xcc8fe0ae4d8de4f76025e3c18d029b1236d55b66b8b4a1fe1e9348696cb0d754

def restrictedIssue : CTransaction :=
  .plain [⟨⟨BitVec.ofNat 256 goldIssueHash, 1⟩, [], sequenceFinal, []⟩,
      ⟨⟨BitVec.ofNat 256 goldIssueHash, 2⟩, [], sequenceFinal, []⟩]
    [⟨1500 * coin, payToPubkeyHash restrictedBurnKey⟩, goldOwnerToken,
      ⟨0, constructVerifierTransaction (ascii "!KYC") []⟩,
      ⟨0, (goldAsset "$GOLD").constructTransaction (disguisedFront victimKeyID)⟩]

def restrictedIssueHash : Nat := 0x41a918ffa5a43ef8adb04e426a2a73d3f1f5fd83d24053048876d39e97007914

def goldFreeze : CTransaction :=
  unsignedTx ⟨BitVec.ofNat 256 restrictedIssueHash, 1⟩
    [goldOwnerToken, ⟨0, CNullAssetTxData.constructTransaction ⟨ascii "$GOLD", 1⟩
      (getScriptForNullAssetDataDestination (.keyID victimKeyID))⟩]

def goldBranch : Nat := 0xde55fa99fe8591eaa075ce4edece97f6abcfddf8384578384daa7e678a867998
def goldRoot : Nat := 0x35b3512153a1fa814da44f54f8b6c52e29064a70cc4040c9c91ebb217ff1a240

def goldRows : List (Bytes × Bytes) :=
  genesisRows ++ launchRows
    ++ Digests.hashRows [(goldIssue.serializeNoWitness,
      0x62f2af14ed82629390dafb7d71f5c2a1c0a655e348c5d701eb812140b243d4d2, goldIssueHash),
    (restrictedIssue.serializeNoWitness,
      0xf8ba70fe85f40fe96febdfb15a6361f708486c9bc90f657e5e5a340d4b405854, restrictedIssueHash),
    (goldFreeze.serializeNoWitness,
      0x3201bcfc8e32168d14b9f42dc0af096f202e0ea4cceb67a96b006216ae2b3116,
      0xb655ae9caad0f3cae4928e180a3e5361b344c408592a53d653d7d13cef191493),
    (merkleNode goldIssueHash restrictedIssueHash,
      0xf34a4f10a86262f67677ce936341b3e0472a0091701eaeba37464f032fca6cb6, goldBranch),
    (merkleNode issueBranches.1 goldBranch,
      0xd8d28cb9f1fa89c35cc7a3802135c4ad7a5a77ded088483a81f249e2ee486ac8, goldRoot),
    (25 :: issueBurnKey,
      0x92b7a1ebf9b3bd7b339d3b4b49ddaee6574552f86d07adc020d4b3ccf17382f5,
      0xefc857a51d063095f201b7030321ee97c43a3d5e70838d49d193d0c09800b819),
    (25 :: restrictedBurnKey,
      0xf39a63f8c162eeb2d24ce97e03f08b4f1e7d34819f0f1cded23b96d574a7a06c,
      0x7a271eb766dbbcf9c524bcc714bd5f3ca5ae2e2ebb68dd436ffc6c7285bb30fd)]

def goldEnv : AssetEnv :=
  ⟨Digests.tabulated goldRows (by decide +kernel),
    { mainAssetParams with strIssueAssetBurnAddress := ascii "BSrfxDfwZaKp5ZccJTMSKERGzkZry8u5Ao" }⟩

def goldContents (height : Nat) : List CTransaction × Nat :=
  if height = 100 then ([laterCoinbase, kycIssue, goldIssue, restrictedIssue], goldRoot)
  else launchContents height

def goldSteps : List ChainStep :=
  connectGenesis :: (List.range 101).map fun height => .connect (connectionOf goldContents height)

def goldRun (c : Chainstate) (before : List CTransaction) : Except Failure ConnectState :=
  let connection := connectionOf goldContents 101
  before.foldlM (connectTx (c.context launchNode connection) connection.pool (blockOf goldContents 101)
    connection.pindex) ⟨c.blockView.toCoinsState, 0, 0, [], true⟩

def goldAddress : Bytes := goldEnv.address goldOwnerToken.scriptPubKey

def goldVerdict (c : Chainstate) (s : ConnectState) : Except CheckError Unit :=
  contextualCheckTransferAsset (some (s.s.assetsCache.view c.globals)) ⟨ascii "$GOLD", coin, [], 0⟩ goldAddress

def freezes (c : Chainstate) (s : ConnectState) : Bool :=
  s.s.assetsCache.checkForAddressRestriction c.globals false (ascii "$GOLD") goldAddress

theorem gold_determine : IdsDetermineOutputs goldEnv.digests (goldSteps.flatMap ChainStep.vtx) := by
  let txs := mainGenesisBlock.vtx ++ [firstCoinbase, laterCoinbase, kycIssue, goldIssue, restrictedIssue]
  have among : ∀ tx ∈ goldSteps.flatMap ChainStep.vtx, tx ∈ txs := by decide +kernel
  have determine : IdsDetermineOutputs goldEnv.digests txs := by decide +kernel
  exact fun tx member other isOther => determine tx (among tx member) other (among other isOther)

theorem gold_reached :
    ((chainRun launchNode (.initial goldEnv true) goldSteps).toOption.any fun c =>
      (goldRun c []).toOption.any (fun s => (goldVerdict c s).toOption.isSome)
        && (goldRun c [goldFreeze]).toOption.any (freezes c)) = true := by
  decide +kernel

/-- The transfer is accepted in front of the freeze, and so it is behind it. -/
theorem transferVerdict_order_gold :
    ∃ c s, chainRun launchNode (.initial goldEnv true) goldSteps = .ok c ∧ goldRun c [goldFreeze] = .ok s
      ∧ freezes c s = true ∧ goldVerdict c s = .ok () := by
  obtain ⟨c, reached, evaluated⟩ := toOption_any.mp gold_reached
  obtain ⟨first, behind⟩ := Bool.and_eq_true_iff.mp evaluated
  obtain ⟨start, runs, accepts⟩ := toOption_any.mp first
  obtain ⟨s, runs', frozen⟩ := toOption_any.mp behind
  obtain ⟨_, accepts⟩ := toOption_isSome.mp accepts
  have noReindexing : ∀ step ∈ goldSteps, step ≠ .reindexing true := by simp [goldSteps, connectGenesis]
  have same := transferVerdict_order launchNode plainUndo goldEnv true _ c gold_determine
    (Reorganized.start.run noReindexing reached) (connectionOf goldContents 101) (connectionOf goldContents 101) (blockOf goldContents 101)
    (blockOf goldContents 101) [] [goldFreeze] start s runs runs' ⟨ascii "$GOLD", coin, [], 0⟩ goldAddress
  exact ⟨c, s, reached, runs', frozen, same.symm.trans accepts⟩

end BlackRaven.Chain
