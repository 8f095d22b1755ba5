import BlackRaven.Assets.Changes
import BlackRaven.Chain.Chainstate

/-!
Contract: the table of assets along a run of connected blocks.

Owns: the changes of a transaction, that connecting the transaction makes exactly these
changes in the table its checks have read, and what therefore holds of the metadata in
every state of a run.
-/

namespace BlackRaven.Chain

open Assets Consensus Lib Primitives Script CAssetsCache

/-! ## The changes of a transaction -/

def issuesLast (tx : CTransaction) : List AssetChange :=
  (newAssetData (lastScript tx)).toList.map .issue

def uniqueIssue (out : CTxOut) : Option AssetChange :=
  if isScriptNewUniqueAsset out.scriptPubKey then (newAssetData out.scriptPubKey).map .issue else none

/-- The operation a transaction is taken for. The source asks in this order, in its checks
as well as in `AddCoins`. -/
inductive OperationKind where
  | issue
  | reissue
  | unique
  | msgchannel
  | qualifier
  | restricted
  | plain

def operationKind (tx : CTransaction) : OperationKind :=
  if isNewAsset tx then .issue
  else if isReissueAsset tx then .reissue
  else if isNewUniqueAsset tx then .unique
  else if isNewMsgChannelAsset tx then .msgchannel
  else if isNewQualifierAsset tx then .qualifier
  else if isNewRestrictedAsset tx then .restricted
  else .plain

def assetChanges (tx : CTransaction) : List AssetChange :=
  match operationKind tx with
  | .issue | .msgchannel | .qualifier | .restricted => issuesLast tx
  | .reissue => (reissueData (lastScript tx)).toList.map .reissue
  | .unique => tx.vout.filterMap uniqueIssue
  | .plain => []

/-- The questions of the source, in its order, as one match. -/
theorem ite_operationKind {α : Type} (tx : CTransaction)
    (issue reissue unique msgchannel qualifier restricted plain : α) :
    (if isNewAsset tx then issue
      else if isReissueAsset tx then reissue
      else if isNewUniqueAsset tx then unique
      else if isNewMsgChannelAsset tx then msgchannel
      else if isNewQualifierAsset tx then qualifier
      else if isNewRestrictedAsset tx then restricted
      else plain)
      = match operationKind tx with
        | .issue => issue
        | .reissue => reissue
        | .unique => unique
        | .msgchannel => msgchannel
        | .qualifier => qualifier
        | .restricted => restricted
        | .plain => plain := by
  unfold operationKind
  split_ifs <;> rfl

/-! ## What leaves the assets alone -/

section Frames

variable {globals : AssetGlobals} {cache : CAssetsCache}

theorem assetPart_addIssuedOwner (script : Bytes) :
    (addIssuedOwner globals cache script).assetPart = cache.assetPart := by
  unfold addIssuedOwner addOwnerAsset
  split
  · rfl
  · rw [assetPart_updateBalance]
    rfl

theorem assetPart_addIssuedVerifier (tx : CTransaction) :
    (addIssuedVerifier cache tx).assetPart = cache.assetPart := by
  unfold addIssuedVerifier
  split <;> rfl

theorem assetPart_addTransferOutput (script : Bytes) (out : COutPoint) :
    (addTransferOutput globals cache script out).assetPart = cache.assetPart := by
  unfold addTransferOutput
  split
  · split
    · exact assetPart_updateBalance cache globals _ _ _
    · rfl
  · rfl

theorem assetPart_addNullDataOutput (script : Bytes) :
    (addNullDataOutput globals cache script).assetPart = cache.assetPart := by
  unfold addNullDataOutput
  split
  · split
    · rfl
    · split
      · rfl
      · exact assetPart_noteSubQualifier _ _ _ _
      · exact assetPart_noteSubQualifier _ _ _ _
      · rfl
  · split
    · split <;> rfl
    · rfl

end Frames

/-! ## The operation of a transaction -/

/-- Changes are made in a cache in their order, and none that its function refuses. What is not
about assets may change as well. `placed` holds of every reissue and its output. -/
inductive ChangeRun (placed : COutPoint → CReissueAsset → Prop) (globals : AssetGlobals) :
    List AssetChange → CAssetsCache → CAssetsCache → Prop
  | done (cache : CAssetsCache) : ChangeRun placed globals [] cache cache
  | frame {changes : List AssetChange} {cache next last : CAssetsCache}
    (same : next.assetPart = cache.assetPart) (rest : ChangeRun placed globals changes next last) :
    ChangeRun placed globals changes cache last
  | issue {asset : CNewAsset} {address : Bytes} {nHeight : Int} {blockHash : Uint256}
    {changes : List AssetChange} {cache last : CAssetsCache}
    (rest : ChangeRun placed globals changes
      ((cache.addNewAsset globals asset address nHeight blockHash).getD cache) last) :
    ChangeRun placed globals (.issue asset :: changes) cache last
  | reissue {reissue : CReissueAsset} {address : Bytes} {out : COutPoint}
    {changes : List AssetChange} {cache last : CAssetsCache} (isPlaced : placed out reissue)
    (rest : ChangeRun placed globals changes
      ((cache.addReissueAsset globals reissue address out).getD cache) last) :
    ChangeRun placed globals (.reissue reissue :: changes) cache last

section Operation

variable {placed : COutPoint → CReissueAsset → Prop} {globals : AssetGlobals} {cache next : CAssetsCache}
  {changes : List AssetChange}

theorem ChangeRun.append {more : List AssetChange} {last : CAssetsCache}
    (first : ChangeRun placed globals changes cache next) (later : ChangeRun placed globals more next last) :
    ChangeRun placed globals (changes ++ more) cache last := by
  induction first with
  | done => exact later
  | frame same _ ih => exact .frame same (ih later)
  | issue _ ih => exact .issue (ih later)
  | reissue isPlaced _ ih => exact .reissue isPlaced (ih later)

theorem ChangeRun.unchanged {last : CAssetsCache} (run : ChangeRun placed globals changes cache next)
    (same : last.assetPart = next.assetPart) : ChangeRun placed globals changes cache last := by
  simpa using run.append (.frame same (.done last))

theorem ChangeRun.table {nameOf : COutPoint → Bytes}
    (run : ChangeRun (fun out reissue => nameOf out = reissue.strName) globals changes cache next)
    (sound : TableSound nameOf globals cache)
    (notReindexing : ∀ asset, .issue asset ∈ changes → globals.fReindex = false) :
    TableSound nameOf globals next
      ∧ next.table globals = changes.foldl AssetTable.perform (cache.table globals) := by
  induction run with
  | done => exact ⟨sound, rfl⟩
  | frame same _ ih =>
    obtain ⟨framed, sameTable⟩ := sound.congr same
    rw [← sameTable]
    exact ih framed notReindexing
  | @issue asset address nHeight blockHash _ _ _ _ ih =>
    obtain ⟨issued, shown⟩ := sound.addNewAsset (notReindexing asset (by simp)) asset address nHeight blockHash
    rw [List.foldl_cons, ← shown]
    exact ih issued fun asset member => notReindexing asset (by simp [member])
  | @reissue _ address _ _ _ _ isOut _ ih =>
    obtain ⟨reissued, shown⟩ := sound.addReissueAsset isOut address
    rw [List.foldl_cons, ← shown]
    exact ih reissued fun asset member => notReindexing asset (by simp [member])

theorem uniqueIssue_isIssue {vout : List CTxOut} {change : AssetChange}
    (member : change ∈ vout.filterMap uniqueIssue) : ∃ asset, change = .issue asset := by
  obtain ⟨out, -, issued⟩ := List.mem_filterMap.mp member
  unfold uniqueIssue at issued
  rw [Option.ite_none_right_eq_some] at issued
  obtain ⟨asset, -, isChange⟩ := Option.map_eq_some_iff.mp issued.2
  exact ⟨asset, isChange.symm⟩

theorem addIssuedAsset_changes (script : Bytes) (nHeight : Int) (blockHash : Uint256) :
    ChangeRun placed globals ((newAssetData script).toList.map .issue) cache
      (addIssuedAsset globals cache script nHeight blockHash) := by
  unfold addIssuedAsset
  cases newAssetData script with
  | none => exact .done _
  | some asset => exact .issue (.done _)

theorem addUniqueOutputs_changes (nHeight : Int) (blockHash : Uint256) (vout : List CTxOut)
    (cache : CAssetsCache) :
    ChangeRun placed globals (vout.filterMap uniqueIssue) cache
      (vout.foldl (addUniqueOutput globals nHeight blockHash) cache) := by
  induction vout generalizing cache with
  | nil => exact .done _
  | cons out rest ih =>
    have first : ChangeRun placed globals (uniqueIssue out).toList cache
        (addUniqueOutput globals nHeight blockHash cache out) := by
      unfold uniqueIssue addUniqueOutput
      split
      · rw [Option.toList_map]
        exact addIssuedAsset_changes _ _ _
      · exact .done _
    have both := first.append (ih _)
    cases isIssue : uniqueIssue out <;> simpa [isIssue] using both

theorem addOperation_changes {tx : CTransaction} {txid : Uint256} (isPlaced : ∀ reissue,
      .reissue reissue ∈ assetChanges tx → placed ⟨txid, BitVec.ofNat 32 (tx.vout.length - 1)⟩ reissue)
    (nHeight : Int) (blockHash : Uint256) :
    ChangeRun placed globals (assetChanges tx) cache
      (addOperation globals cache tx txid nHeight blockHash) := by
  have issued := @addIssuedAsset_changes placed globals cache (lastScript tx) nHeight blockHash
  rw [addOperation, ite_operationKind]
  unfold assetChanges at isPlaced ⊢
  cases kind : operationKind tx with
  | plain => exact .done _
  | issue => exact issued.unchanged (assetPart_addIssuedOwner _)
  | unique => exact addUniqueOutputs_changes nHeight blockHash tx.vout cache
  | msgchannel | qualifier => exact issued
  | restricted => exact issued.unchanged (assetPart_addIssuedVerifier tx)
  | reissue =>
    simp only [kind] at isPlaced
    unfold addReissued
    cases read : reissueData (lastScript tx) with
    | none => exact .done _
    | some reissue =>
      have isOut := isPlaced reissue (by simp [read])
      refine @ChangeRun.reissue _ _ _ (globals.env.address (lastScript tx)) _ _ _ _ isOut (.frame ?_ (.done _))
      dsimp only
      split
      · split <;> rfl
      · rfl

end Operation

/-! ## The checks on an operation -/

variable {cache : AssetView} {env : AssetEnv} {tx : CTransaction} {ctx : TxAssetsContext}
  {changes : List AssetChange} {globals : AssetGlobals}

theorem contextualCheckNewAsset_ok {mempoolHasAsset : Bytes → Bool} {fCheckMempool : Bool} {asset : CNewAsset}
    (passes : contextualCheckNewAsset cache mempoolHasAsset fCheckMempool asset = .ok ()) :
    checkNewAsset asset = .ok () ∧ cache.checkIfAssetExists asset.strName = false := by
  obtain ⟨_, checked, passes⟩ := bind_eq_ok.mp passes
  rw [ite_error_eq_ok] at passes
  exact ⟨checked, by simpa using passes.1⟩

theorem contextualCheckReissueAsset_ok {reissue : CReissueAsset}
    (passes : contextualCheckReissueAsset env cache reissue tx = .ok ()) :
    ∃ prev, cache.getAssetMetaDataIfExists reissue.strName = some prev ∧ ReissuePermitted env prev reissue := by
  unfold contextualCheckReissueAsset at passes
  rw [ite_error_eq_ok] at passes
  obtain ⟨_, checked, passes⟩ := bind_eq_ok.mp passes.2
  split at passes
  · cases passes
  next prev found =>
    simp only [ite_error_eq_ok] at passes
    obtain ⟨reissuable, amount, passes⟩ := passes
    cases divisible : checkAmountWithUnits reissue.nAmount prev.units with
    | none =>
      rw [divisible] at passes
      cases passes
    | some divides =>
      cases divides with
      | false =>
        rw [divisible] at passes
        cases passes
      | true =>
        simp only [divisible, ite_error_eq_ok] at passes
        refine ⟨prev, found, mapError_eq_ok.mp checked, reissuable, not_lt.mp amount, divisible, ?_⟩
        by_cases unchanged : reissue.nUnits = -1
        · exact .inl unchanged
        · exact .inr (not_lt.mp fun fewer => passes.1 ⟨fewer, unchanged⟩)

theorem checkTxAssets_operation {totals : OutputTotals} (isCache : ctx.assetCache = some cache)
    (passes : checkTxAssets ctx tx = .ok totals) : checkOperationContext ctx cache tx = .ok () := by
  unfold checkTxAssets at passes
  rw [rejected, ite_error_eq_ok] at passes
  obtain ⟨_, -, passes⟩ := bind_eq_ok.mp passes.2
  obtain ⟨_, -, passes⟩ := bind_eq_ok.mp passes
  obtain ⟨_, operation, -⟩ := bind_eq_ok.mp passes
  rw [isCache] at operation
  exact operation

theorem permitsAll_of_issues {table : AssetTable}
    (issues : ∀ change ∈ changes, ∃ asset, change = .issue asset ∧ checkNewAsset asset = .ok ()) :
    table.PermitsAll env changes := by
  induction changes generalizing table with
  | nil => trivial
  | cons change rest ih =>
    obtain ⟨asset, rfl, checked⟩ := issues change List.mem_cons_self
    exact ⟨checked, ih (List.forall_mem_cons.mp issues).2⟩

theorem checkIssueContext_ok {missing label : String} {issued : CNewAsset}
    (passes : checkIssueContext ctx cache tx missing label = .ok issued) {change : AssetChange}
    (member : change ∈ issuesLast tx) :
    ∃ asset, change = .issue asset ∧ checkNewAsset asset = .ok ()
      ∧ cache.checkIfAssetExists asset.strName = false := by
  unfold checkIssueContext issuedLast at passes
  obtain ⟨asset, isLast, passes⟩ := bind_eq_ok.mp passes
  obtain ⟨_, checked, -⟩ := bind_eq_ok.mp passes
  unfold issuesLast at member
  cases read : newAssetData (lastScript tx) with
  | none =>
    rw [read] at member
    cases member
  | some last =>
    rw [read] at member isLast
    cases isLast
    rw [Option.toList_some, List.map_singleton, List.mem_singleton] at member
    exact ⟨asset, member, contextualCheckNewAsset_ok (mapError_eq_ok.mp checked)⟩

theorem contextualCheckUniqueAssetTx_ok (passes : contextualCheckUniqueAssetTx cache tx = .ok ())
    {change : AssetChange} (member : change ∈ tx.vout.filterMap uniqueIssue) :
    ∃ asset, change = .issue asset ∧ checkNewAsset asset = .ok ()
      ∧ cache.checkIfAssetExists asset.strName = false := by
  obtain ⟨out, isOut, issued⟩ := List.mem_filterMap.mp member
  have checked := forM_eq_ok.mp passes out isOut
  unfold uniqueIssue at issued
  rw [Option.ite_none_right_eq_some] at issued
  obtain ⟨asset, read, isChange⟩ := Option.map_eq_some_iff.mp issued.2
  simp only [issued.1, if_true, read] at checked
  exact ⟨asset, isChange.symm, contextualCheckNewAsset_ok checked⟩

/-- An issue that was checked is of a name the node does not know. -/
structure ChangesPermitted (env : AssetEnv) (globals : AssetGlobals) (cache : CAssetsCache)
    (changes : List AssetChange) : Prop where
  permits : (cache.table globals).PermitsAll env changes
  unknown : ∀ asset, .issue asset ∈ changes → cache.checkIfAssetExists globals asset.strName = false

variable {cache : CAssetsCache}

theorem ChangesPermitted.of_issues (issues : ∀ change ∈ changes, ∃ asset, change = .issue asset ∧
      checkNewAsset asset = .ok () ∧ cache.checkIfAssetExists globals asset.strName = false) :
    ChangesPermitted env globals cache changes where
  permits := by
    apply permitsAll_of_issues
    intro change member
    obtain ⟨asset, isIssue, checked, -⟩ := issues change member
    exact ⟨asset, isIssue, checked⟩
  unknown := by
    intro asset member
    obtain ⟨other, isIssue, -, unknown⟩ := issues _ member
    cases isIssue
    exact unknown

theorem ChangesPermitted.notReindexing (permitted : ChangesPermitted env globals cache changes)
    {asset : CNewAsset} (member : .issue asset ∈ changes) : globals.fReindex = false :=
  notReindexing_of_absent (permitted.unknown asset member)

/-- The checks on a transaction's operation, against the table they are made with. -/
theorem checkOperationContext_permits
    (passes : checkOperationContext ctx (cache.view globals) tx = .ok ()) :
    ChangesPermitted ctx.env globals cache (assetChanges tx) := by
  rw [checkOperationContext, ite_operationKind] at passes
  unfold assetChanges
  have issuedLast : ∀ missing label,
      (checkIssueContext ctx (cache.view globals) tx missing label).map (fun _ => ()) = .ok () →
        ChangesPermitted ctx.env globals cache (issuesLast tx) := by
    intro missing label issue
    obtain ⟨issued, checked, -⟩ := map_eq_ok.mp issue
    exact .of_issues fun change member => checkIssueContext_ok checked member
  cases kind : operationKind tx with
  | plain => exact ⟨trivial, nofun⟩
  | issue | msgchannel | qualifier =>
    simp only [kind] at passes
    exact issuedLast _ _ passes
  | restricted =>
    simp only [kind] at passes
    obtain ⟨issued, checked, -⟩ := bind_eq_ok.mp passes
    exact .of_issues fun change member => checkIssueContext_ok checked member
  | unique =>
    simp only [kind] at passes
    have checked := mapError_eq_ok.mp passes
    exact .of_issues fun change member => contextualCheckUniqueAssetTx_ok checked member
  | reissue =>
    simp only [kind] at passes
    cases read : reissueData (lastScript tx) with
    | none => exact ⟨trivial, nofun⟩
    | some reissue =>
      simp only [read] at passes
      have permitted := contextualCheckReissueAsset_ok (mapError_eq_ok.mp passes)
      exact ⟨⟨permitted, trivial⟩, fun asset member => by simp at member⟩

/-! ## One transaction -/

section Transaction

variable {nameOf : COutPoint → Bytes} {globals : AssetGlobals}

theorem spendInput_assetPart {s next : CoinsState × List Coin} {txin : CTxIn}
    (spends : spendInput globals s txin = .ok next) :
    next.1.assetsCache.assetPart = s.1.assetsCache.assetPart := by
  obtain ⟨_, _, -, spent, rfl⟩ := spendInput_eq_ok.mp spends
  exact assetPart_trySpendCoin spent

theorem addOutput_assetPart {possible_overwrite : Bool} {s next : CoinsState} {item : COutPoint × Coin}
    (adds : addOutput globals possible_overwrite s item = .ok next) :
    next.assetsCache.assetPart = s.assetsCache.assetPart := by
  obtain ⟨coins, -, rfl⟩ := map_eq_ok.mp adds
  exact (assetPart_addNullDataOutput _).trans (assetPart_addTransferOutput _ _)

theorem lookedUp_assetsCache (s : CoinsState) (tx : CTransaction) :
    (lookedUp s tx).assetsCache = s.assetsCache := by
  unfold lookedUp
  split <;> rfl

variable {tx : CTransaction}

theorem updateCoins_changes {placed : COutPoint → CReissueAsset → Prop} {s next : CoinsState}
    {nHeight : Nat} {blockHash : Uint256} {undo : List Coin}
    (isPlaced : ∀ reissue, .reissue reissue ∈ assetChanges tx →
      placed ⟨tx.getHash globals.env.digests, BitVec.ofNat 32 (tx.vout.length - 1)⟩ reissue)
    (updates : updateCoins globals s tx nHeight blockHash = .ok (next, undo)) :
    ChangeRun placed globals (assetChanges tx) s.assetsCache next.assetsCache := by
  obtain ⟨spent, spends, adds, -⟩ := updateCoins_ok updates
  have spentPart : spent.1.assetsCache.assetPart = s.assetsCache.assetPart := by
    split at spends
    · cases spends
      rfl
    · exact foldlM_unchanged (fun s : CoinsState × List Coin => s.1.assetsCache.assetPart)
        (fun _ _ _ => spendInput_assetPart) spends
  refine .frame spentPart ((addOperation_changes isPlaced nHeight blockHash).unchanged ?_)
  exact foldlM_unchanged (fun s : CoinsState => s.assetsCache.assetPart) (fun _ _ _ => addOutput_assetPart) adds

theorem checkTransaction_coinBase {env : TxEnv} {nHeight : Int} {blockReward : CAmount}
    {fMempoolCheck fBlockCheck : Bool}
    (passes : checkTransaction env tx nHeight blockReward fMempoolCheck fBlockCheck = .ok ())
    (isCoinBase : tx.isCoinBase = true) {out : CTxOut} (member : out ∈ tx.vout) :
    assetKind out.scriptPubKey = none ∧ isNullAsset out.scriptPubKey = false := by
  obtain ⟨scan, operation, checked⟩ := checkTransaction_ok passes
  have inputs := checked.inputs
  unfold checkInputs at inputs
  rw [rejected, ite_error_eq_ok, if_pos isCoinBase] at inputs
  have coinBase := inputs.2
  unfold checkCoinBase at coinBase
  simp only [rejected, ite_error_eq_ok] at coinBase
  obtain ⟨-, noAsset, -⟩ := coinBase
  simp only [List.any_eq_true, not_exists, not_and, Bool.or_eq_true, not_or] at noAsset
  simpa using noAsset out member

section

variable (noAsset : ∀ out ∈ tx.vout, assetKind out.scriptPubKey = none)

include noAsset

theorem assetKind_lastScript : assetKind (lastScript tx) = none := by
  unfold lastScript
  cases last : tx.vout.getLast? with
  | none => rfl
  | some out => exact noAsset out (List.mem_of_getLast? last)

theorem operationKind_plain : operationKind tx = .plain := by
  simp [operationKind, isNewAsset, isReissueAsset, isNewUniqueAsset, isNewMsgChannelAsset,
    isNewQualifierAsset, isNewRestrictedAsset, issueDataLast, reissueDataLast,
    assetKind_lastScript noAsset]

theorem assetChanges_eq_nil : assetChanges tx = [] := by
  unfold assetChanges
  rw [operationKind_plain noAsset]

end

variable {ctx : ConnectContext} {pool : PoolView} {block : CBlock} {pindex : CBlockIndex}

theorem connectTx_changes {c next : ConnectState} (connects : connectTx ctx pool block pindex c tx = .ok next) :
    ChangeRun (fun _ _ => True) ctx.globals (assetChanges tx) c.s.assetsCache next.s.assetsCache := by
  obtain ⟨undo, stages⟩ := connectTx_ok connects
  rw [← lookedUp_assetsCache c.s tx]
  exact updateCoins_changes (fun _ _ => trivial) stages.updates

/-- A round of the loop of `ConnectBlock`: what it changes was permitted. A coinbase is
not run through `CheckTxAssets`. -/
theorem connectTx_table {c next : ConnectState} (sound : TableSound nameOf ctx.globals c.s.assetsCache)
    (coinBase : tx.isCoinBase = true → assetChanges tx = [])
    (named : ∀ reissue, .reissue reissue ∈ assetChanges tx →
      nameOf ⟨tx.getHash ctx.globals.env.digests, BitVec.ofNat 32 (tx.vout.length - 1)⟩
        = reissue.strName) (connects : connectTx ctx pool block pindex c tx = .ok next) :
    ChangesPermitted ctx.globals.env ctx.globals c.s.assetsCache (assetChanges tx)
      ∧ TableSound nameOf ctx.globals next.s.assetsCache
      ∧ next.s.assetsCache.table ctx.globals
        = (assetChanges tx).foldl AssetTable.perform (c.s.assetsCache.table ctx.globals) := by
  obtain ⟨undo, stages⟩ := connectTx_ok connects
  have updates := stages.updates
  have sameCache := lookedUp_assetsCache c.s tx
  have permitted : ChangesPermitted ctx.globals.env ctx.globals c.s.assetsCache (assetChanges tx) := by
    cases isCoinBase : tx.isCoinBase with
    | true =>
      rw [coinBase isCoinBase]
      exact ⟨trivial, nofun⟩
    | false =>
      obtain ⟨totals, assets⟩ := (stages.spends isCoinBase).assets
      rw [← sameCache]
      exact checkOperationContext_permits (checkTxAssets_operation rfl assets)
  rw [← sameCache] at sound ⊢
  rw [← sameCache] at permitted
  exact ⟨permitted, (updateCoins_changes named updates).table sound fun _ member =>
    permitted.notReindexing member⟩

end Transaction

end BlackRaven.Chain
