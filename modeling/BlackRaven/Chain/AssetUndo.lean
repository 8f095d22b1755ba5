import BlackRaven.Chain.CoinUndo
import BlackRaven.Lib.Ends

/-!
Contract: when the asset part of `DisconnectBlock` goes through.

Owns: without the asset index nothing that a checked transaction did to the assets fails to
be undone once its block is connected; with it, a reissue and the transfers are undone exactly
when the tracked balances cover them.

Does not own: what the asset cache is like afterwards.
-/

namespace BlackRaven.Chain

open Assets Consensus Lib Primitives Script CAssetsCache

/-! ## The verifier string -/

theorem verifierStringStep_ok {found next : Option Bytes} {out : CTxOut}
    (steps : verifierStringStep found out = .ok next) :
    (isNullAssetVerifierTxDataScript out.scriptPubKey = true →
        (assetNullVerifierDataFromScript out.scriptPubKey).isSome = true)
      ∧ (isNullAssetVerifierTxDataScript out.scriptPubKey = false → next = found) := by
  unfold verifierStringStep at steps
  cases isVerifier : isNullAssetVerifierTxDataScript out.scriptPubKey with
  | false =>
    rw [isVerifier, if_neg Bool.false_ne_true] at steps
    cases steps
    exact ⟨(by simp), fun _ => rfl⟩
  | true =>
    rw [isVerifier, if_pos rfl] at steps
    refine ⟨fun _ => ?_, (by simp)⟩
    split at steps
    · cases steps
    · cases steps
    · next read =>
        rw [read]
        rfl

/-- A verifier string that was found is found again from the end. -/
theorem getVerifierStringFromTx_ok {tx : CTransaction} {verifier : Bytes}
    (found : getVerifierStringFromTx tx = .ok verifier) :
    ∃ out read, verifierOutput tx = some out
      ∧ assetNullVerifierDataFromScript out.scriptPubKey = some read := by
  obtain ⟨last, scanned, isLast⟩ := bind_eq_ok.mp found
  have readable := foldlM_established
    (fun (out : CTxOut) (_ : Option Bytes) => isNullAssetVerifierTxDataScript out.scriptPubKey = true →
      (assetNullVerifierDataFromScript out.scriptPubKey).isSome = true)
    (fun _ _ _ steps => (verifierStringStep_ok steps).1) (fun _ _ _ _ _ holds => holds) scanned
  obtain ⟨out, member, isVerifier⟩ :
      ∃ out ∈ tx.vout, isNullAssetVerifierTxDataScript out.scriptPubKey = true := by
    by_contra none_
    have unfound := foldlM_invariant (· = none) (by
        intro s out next member holds steps
        rw [(verifierStringStep_ok steps).2 ?_]
        · exact holds
        · exact Bool.eq_false_iff.mpr fun isVerifier => none_ ⟨out, member, isVerifier⟩) rfl scanned
    rw [unfound] at isLast
    cases isLast
  have unspendable : isUnspendable out.scriptPubKey = true := by
    simp only [isNullAssetVerifierTxDataScript, Bool.and_eq_true, beq_iff_eq, decide_eq_true_eq] at isVerifier
    obtain ⟨⟨⟨long, front⟩, -⟩, -⟩ := isVerifier
    cases isScript : out.scriptPubKey with
    | nil => simp [isScript] at long
    | cons first rest =>
      rw [isScript] at front
      simp [isUnspendable, show first = opBlkrAsset from front]
  cases chosen : verifierOutput tx with
  | none =>
    have missing := List.find?_eq_none.mp chosen out (List.mem_reverse.mpr member)
    simp [unspendable, isVerifier] at missing
  | some other =>
    have isOther := List.find?_some chosen
    have otherMember := List.mem_reverse.mp (List.mem_of_find?_eq_some chosen)
    simp only [Bool.and_eq_true] at isOther
    obtain ⟨read, isRead⟩ := Option.isSome_iff_exists.mp (readable other otherMember isOther.2)
    exact ⟨other, read, rfl, isRead⟩

/-! ## Undoing the changes of a transaction -/

section Undo

variable {globals : AssetGlobals} {tx : CTransaction}

theorem undoIssuedAsset_ok (globals : AssetGlobals) (cache : CAssetsCache) {script : Bytes} {asset : CNewAsset}
    (read : newAssetData script = some asset) (notRead notRemoved : String) :
    ∃ next, undoIssuedAsset globals cache script notRead notRemoved = .ok next := by
  unfold undoIssuedAsset
  rw [read]
  cases exists_ : cache.checkIfAssetExists globals asset.strName with
  | false => exact ⟨cache, by simp [orFailed, exists_, bind, Except.bind]⟩
  | true => simp [orFailed, exists_, bind, Except.bind, removeNewAsset]

/-- The tracked balance covers a reissue, which is then undone. -/
def ReissueCovered (globals : AssetGlobals) (cache : CAssetsCache) (tx : CTransaction) : Prop :=
  ∀ reissue, reissueData (lastScript tx) = some reissue →
    cache.checkIfAssetExists globals reissue.strName = true →
    match cache.bestAssetAddressAmount globals reissue.strName (globals.env.address (lastScript tx)) with
    | none => reissue.nAmount = 0
    | some best => 0 ≤ toInt64 (best - reissue.nAmount)

theorem orFailed_isOk_iff {α : Type} {message : String} {found : Option α} :
    (∃ next, orFailed message found = .ok next) ↔ found.isSome = true := by
  cases found <;> simp [orFailed]

theorem orFailed_some_bind {α β : Type} {message : String} {found : α} {next : α → Disconnect β} :
    (orFailed message (some found) >>= next) = next found := rfl

theorem undoReissued_isOk_iff (txid : Uint256) (cache : CAssetsCache) {reissue : CReissueAsset}
    (read : reissueData (lastScript tx) = some reissue)
    (recorded : (globals.passets.mapReissuedAssetData[reissue.strName]?).isSome = true) :
    (∃ next, undoReissued globals cache tx txid = .ok next)
      ↔ (globals.fAssetIndex = true → ReissueCovered globals cache tx) := by
  unfold undoReissued ReissueCovered
  simp only [read, orFailed_some_bind, Option.some.injEq, forall_eq']
  cases exists_ : cache.checkIfAssetExists globals reissue.strName with
  | false => simp
  | true =>
    have known : (cache.getAssetMetaDataIfExists globals reissue.strName).isSome = true := by
      unfold getAssetMetaDataIfExists
      obtain ⟨asset, found⟩ := Option.isSome_iff_exists.mp recorded
      rw [found]
      cases cache.mapReissuedAssetData[reissue.strName]? <;> rfl
    obtain ⟨found, isFound⟩ := Option.isSome_iff_exists.mp known
    rw [if_pos rfl, orFailed_isOk_iff, removeReissueAsset, isFound]
    simp only [List.find?_nil, Option.map_none, bestAssetAddressAmount]
    cases index : globals.fAssetIndex with
    | false => simp
    | true =>
      simp only [Bool.not_true, Bool.false_eq_true, if_true, if_false, forall_const]
      generalize (cache.mapAssetsAddressAmount[(reissue.strName, globals.env.address (lastScript tx))]? <|> _) = tracked
      cases tracked with
      | none => by_cases reissue.nAmount = 0 <;> simp_all
      | some best => by_cases toInt64 (best - reissue.nAmount) < 0 <;> simp_all [not_lt]

theorem undoUniqueOutput_ok (globals : AssetGlobals) (cache : CAssetsCache) (out : CTxOut) :
    ∃ next, undoUniqueOutput globals cache out = .ok next := by
  unfold undoUniqueOutput
  split
  · next isUnique =>
      obtain ⟨asset, -, read, -⟩ := isScriptNewTyped_iff.mp isUnique
      exact undoIssuedAsset_ok globals cache read _ _
  · exact ⟨cache, rfl⟩

theorem undoOperation_isOk_iff (txid : Uint256) {env : TxEnv} {operation : RestrictedOperation}
    (operated : checkOperation env tx = .ok operation)
    (recorded : ∀ reissue, .reissue reissue ∈ assetChanges tx →
      (globals.passets.mapReissuedAssetData[reissue.strName]?).isSome = true) (cache : CAssetsCache) :
    (∃ next, undoOperation globals cache tx txid = .ok next)
      ↔ (globals.fAssetIndex = true → operationKind tx = .reissue → ReissueCovered globals cache tx) := by
  rw [checkOperation, ite_operationKind] at operated
  unfold assetChanges at recorded
  unfold undoOperation
  cases kind : operationKind tx with
  | plain => exact iff_of_true ⟨cache, rfl⟩ (by simp)
  | issue =>
    refine iff_of_true ?_ (by simp)
    simp only [kind] at operated
    obtain ⟨-, _, checked⟩ := stages_ok operated
    obtain ⟨asset, issued, checked⟩ := issuedLast_bind_ok checked
    obtain ⟨_, owned, -⟩ := bind_eq_ok.mp checked
    obtain ⟨next, undoes⟩ := undoIssuedAsset_ok globals cache issued
      "Failed to get asset from transaction" "Failed to Remove Asset"
    unfold isNewOwnerTxValid at owned
    cases read : ownerData (ownerScript tx) with
    | none =>
      rw [read] at owned
      cases owned
    | some ownerName =>
      refine ⟨next.removeOwnerAsset globals ownerName (globals.env.address (ownerScript tx)),
        bind_eq_ok.mpr ⟨next, undoes, ?_⟩⟩
      unfold undoIssuedOwner
      rw [read]
      rfl
  | reissue =>
    simp only [kind] at operated recorded
    obtain ⟨-, _, checked⟩ := stages_ok operated
    cases read : reissueData (lastScript tx) with
    | none =>
      rw [read] at checked
      cases checked
    | some reissue =>
      rw [undoReissued_isOk_iff txid cache read (recorded reissue (by simp [read]))]
      simp
  | unique =>
    exact iff_of_true (foldlM_total (fun cache out _ => undoUniqueOutput_ok globals cache out) cache) (by simp)
  | msgchannel | qualifier =>
    refine iff_of_true ?_ (by simp)
    simp only [kind] at operated
    obtain ⟨-, _, checked⟩ := stages_ok operated
    obtain ⟨asset, issued, -⟩ := issuedLast_bind_ok checked
    exact undoIssuedAsset_ok globals cache issued _ _
  | restricted =>
    refine iff_of_true ?_ (by simp)
    simp only [kind] at operated
    obtain ⟨-, _, checked⟩ := stages_ok operated
    obtain ⟨asset, issued, checked⟩ := issuedLast_bind_ok checked
    obtain ⟨_, -, searched⟩ := bind_eq_ok.mp checked
    obtain ⟨verifier, found, -⟩ := map_eq_ok.mp (mapError_eq_ok.mp searched)
    obtain ⟨out, read, chosen, isRead⟩ := getVerifierStringFromTx_ok (mapError_eq_ok.mp found)
    obtain ⟨next, undoes⟩ := undoIssuedAsset_ok globals cache issued
      "Failed to get restricted asset from transaction" "Failed to Undo Restricted Asset"
    refine ⟨next.removeRestrictedVerifier asset.strName read false, bind_eq_ok.mpr ⟨next, undoes, ?_⟩⟩
    unfold undoIssuedVerifier
    rw [issued, chosen]
    simp only [orFailed, bind, Except.bind, isRead]
    rfl

/-- The tracked balance covers a transfer, which is then undone. -/
def TransferCovered (globals : AssetGlobals) (cache : CAssetsCache) (item : COutPoint × Coin) : Prop :=
  ∀ transfer, transferData item.2.out.scriptPubKey = some transfer →
    ∃ best, cache.bestAssetAddressAmount globals transfer.strName
        (globals.env.address item.2.out.scriptPubKey) = some best ∧ transfer.nAmount ≤ best

theorem undoTransferOutput_isOk_iff (cache : CAssetsCache) {item : COutPoint × Coin}
    (readable : Readable item.2.out.scriptPubKey)
    (isTransfer : assetKind item.2.out.scriptPubKey = some .transferAsset) :
    (∃ next, undoTransferOutput globals cache item = .ok next)
      ↔ (globals.fAssetIndex = true → TransferCovered globals cache item) := by
  obtain ⟨name, amount, read, -⟩ := readable (by rw [isTransfer]; rfl)
  unfold assetAmount at read
  rw [isTransfer] at read
  obtain ⟨transfer, isRead, -⟩ := Option.map_eq_some_iff.mp read
  unfold undoTransferOutput TransferCovered
  simp only [isRead, orFailed_some_bind, Option.some.injEq, forall_eq']
  rw [orFailed_isOk_iff, removeTransfer, Option.isSome_map, undoTransfer]
  cases globals.fAssetIndex with
  | false => simp
  | true =>
    cases cache.bestAssetAddressAmount globals transfer.strName
        (globals.env.address item.2.out.scriptPubKey) with
    | none => simp
    | some best => by_cases short : best < transfer.nAmount <;> simp [short, not_lt.mp, not_le.mpr]

theorem undoNullDataOutput_ok (cache : CAssetsCache) {item : COutPoint × Coin}
    (readable : NullDataReadable item.2.out.scriptPubKey) :
    ∃ next, undoNullDataOutput globals cache item = .ok next := by
  unfold undoNullDataOutput
  dsimp only
  split
  · next isTxData =>
      obtain ⟨data, read⟩ := Option.isSome_iff_exists.mp (readable.address isTxData)
      rw [read]
      exact ⟨_, rfl⟩
  · split
    · next isGlobal =>
        obtain ⟨data, read⟩ := Option.isSome_iff_exists.mp (readable.whole isGlobal)
        rw [read]
        exact ⟨_, rfl⟩
    · exact ⟨cache, rfl⟩

theorem undoNullData_ok (readable : ∀ out ∈ tx.vout, NullDataReadable out.scriptPubKey) (nHeight : Nat)
    (cache : CAssetsCache) :
    ∃ next, ((txCoins tx (tx.getHash globals.env.digests) nHeight).filter fun item =>
      isUnspendable item.2.out.scriptPubKey).foldlM (undoNullDataOutput globals) cache = .ok next := by
  refine foldlM_total (fun cache item member => undoNullDataOutput_ok cache ?_) cache
  exact readable _ (txCoins_script (List.mem_filter.mp member).1)

/-- The transfers of a transaction that are undone. -/
def transferOutputs (digests : Digests) (nHeight : Nat) (tx : CTransaction) : List (COutPoint × Coin) :=
  (txCoins tx (tx.getHash digests) nHeight).filter fun item =>
    !isUnspendable item.2.out.scriptPubKey && assetKind item.2.out.scriptPubKey == some .transferAsset

/-- The tracked balances cover the reissue of a transaction, and each of its transfers in the
cache that is left of the ones before it. -/
structure Covered (globals : AssetGlobals) (nHeight : Nat) (cache : CAssetsCache) (tx : CTransaction) :
    Prop where
  reissue : operationKind tx = .reissue → ReissueCovered globals cache tx
  transfers : ∀ operated done item rest left,
    undoOperation globals cache tx (tx.getHash globals.env.digests) = .ok operated →
    transferOutputs globals.env.digests nHeight tx = done ++ item :: rest →
    done.foldlM (undoTransferOutput globals) operated = .ok left → TransferCovered globals left item

/-- With the reissued assets on record, tracked balances are all that a checked transaction needs
to be undone, and without the index not even these. -/
theorem assetsUndo_iff {env : TxEnv} {height : Int} {blockReward : CAmount} {fMempoolCheck fBlockCheck : Bool}
    (passes : checkTransaction env tx height blockReward fMempoolCheck fBlockCheck = .ok ())
    (recorded : ∀ reissue, .reissue reissue ∈ assetChanges tx →
      (globals.passets.mapReissuedAssetData[reissue.strName]?).isSome = true) (nHeight : Nat)
    (cache : CAssetsCache) :
    AssetsUndo globals nHeight cache tx ↔ (globals.fAssetIndex = true → Covered globals nHeight cache tx) := by
  obtain ⟨scan, operation, checked⟩ := checkTransaction_ok passes
  have operates := undoOperation_isOk_iff (tx.getHash globals.env.digests) checked.operated recorded cache
  have transfers : ∀ left done item rest,
      transferOutputs globals.env.digests nHeight tx = done ++ item :: rest →
      ((∃ next, undoTransferOutput globals left item = .ok next)
        ↔ (globals.fAssetIndex = true → TransferCovered globals left item)) := by
    intro left done item rest isOutputs
    have member : item ∈ transferOutputs globals.env.digests nHeight tx := by simp [isOutputs]
    obtain ⟨made, chosen⟩ := List.mem_filter.mp member
    simp only [Bool.and_eq_true, beq_iff_eq] at chosen
    exact undoTransferOutput_isOk_iff left (checkTransaction_readable passes (txCoins_script made)) chosen.2
  constructor
  · rintro ⟨last, undoes⟩ index
    obtain ⟨operated, operation, undoes⟩ := bind_eq_ok.mp undoes
    obtain ⟨transferred, undoes, -⟩ := bind_eq_ok.mp undoes
    refine ⟨operates.mp ⟨operated, operation⟩ index, ?_⟩
    intro other done item rest left again isOutputs reached
    cases operation.symm.trans again
    exact (transfers left done item rest isOutputs).mp
      (foldlM_isOk_iff.mp ⟨transferred, undoes⟩ done item rest left isOutputs reached) index
  · intro covered
    obtain ⟨operated, operation⟩ := operates.mpr fun index => (covered index).reissue
    obtain ⟨transferred, undoes⟩ := foldlM_isOk_iff.mpr fun done item rest left isOutputs reached =>
      (transfers left done item rest isOutputs).mpr fun index =>
        (covered index).transfers operated done item rest left operation isOutputs reached
    have readable := foldlM_established
      (fun (out : CTxOut) (_ : OutputScan) => NullDataReadable out.scriptPubKey)
      (fun _ _ _ steps => (scanOutput_ok steps).readable) (fun _ _ _ _ _ holds => holds) checked.scanned
    obtain ⟨last, undoesNullData⟩ := undoNullData_ok readable nHeight transferred
    exact ⟨last, bind_eq_ok.mpr ⟨operated, operation, bind_eq_ok.mpr ⟨transferred, undoes, undoesNullData⟩⟩⟩

/-! ## Without assets -/

/-- No output carries an asset or null asset data. -/
def AssetFree (tx : CTransaction) : Prop :=
  ∀ out ∈ tx.vout, assetKind out.scriptPubKey = none ∧ isNullAsset out.scriptPubKey = false

theorem covered_of_assetFree (free : AssetFree tx) (nHeight : Nat) (cache : CAssetsCache) :
    Covered globals nHeight cache tx where
  reissue := by
    intro isReissue
    rw [operationKind_plain fun out member => (free out member).1] at isReissue
    cases isReissue
  transfers := by
    intro _ done item rest _ _ isOutputs
    have member : item ∈ transferOutputs globals.env.digests nHeight tx := by simp [isOutputs]
    obtain ⟨made, chosen⟩ := List.mem_filter.mp member
    simp [(free _ (txCoins_script made)).1] at chosen

end Undo

/-! ## Blocks without assets -/

section Quiet

variable {globals : AssetGlobals}

theorem spendInput_quiet {s next : CoinsState × List Coin} {txin : CTxIn}
    (spends : spendInput globals s txin = .ok next) :
    ∃ coin_, next.2 = s.2 ++ [coin_]
      ∧ (assetKind coin_.out.scriptPubKey = none → next.1.assetsCache = s.1.assetsCache) := by
  obtain ⟨moveout, assetsCache, -, spent, rfl⟩ := spendInput_eq_ok.mp spends
  refine ⟨_, rfl, fun noAsset => ?_⟩
  unfold trySpendCoin at spent
  rw [noAsset, Option.isNone_none, if_pos rfl] at spent
  exact (Option.some.inj spent).symm

theorem spendInputs_quiet {vin : List CTxIn} {s spent : CoinsState × List Coin}
    (spends : vin.foldlM (spendInput globals) s = .ok spent)
    (noAssets : ∀ coin_ ∈ spent.2, assetKind coin_.out.scriptPubKey = none) :
    spent.1.assetsCache = s.1.assetsCache := by
  induction vin generalizing s with
  | nil =>
    cases spends
    rfl
  | cons txin rest ih =>
    obtain ⟨next, first, later⟩ := foldlM_cons_ok.mp spends
    obtain ⟨coin_, isNext, same⟩ := spendInput_quiet first
    have recorded : coin_ ∈ spent.2 := by
      refine foldlM_invariant (fun s => coin_ ∈ s.2) ?_ (by simp [isNext]) later
      intro s txin next _ holds spends
      obtain ⟨other, isNext, -⟩ := spendInput_quiet spends
      rw [isNext]
      exact List.mem_append_left _ holds
    rw [ih later, same (noAssets coin_ recorded)]

theorem addOutput_quiet {possible_overwrite : Bool} {s next : CoinsState} {item : COutPoint × Coin}
    (noAsset : assetKind item.2.out.scriptPubKey = none) (noData : isNullAsset item.2.out.scriptPubKey = false)
    (adds : addOutput globals possible_overwrite s item = .ok next) : next.assetsCache = s.assetsCache := by
  obtain ⟨coins, -, rfl⟩ := map_eq_ok.mp adds
  simp only [isNullAsset, Bool.or_eq_false_iff] at noData
  have noTransfer : transferData item.2.out.scriptPubKey = none := by
    cases read : transferData item.2.out.scriptPubKey with
    | none => rfl
    | some transfer =>
      rw [readKind_kind read] at noAsset
      cases noAsset
  simp [addNullDataOutput, addTransferOutput, noData.1.1, noData.1.2, noTransfer]

variable {ctx : ConnectContext} {pool : PoolView} {block : CBlock} {pindex : CBlockIndex}

theorem connectTxs_quiet {vtx : List CTransaction} {c last : ConnectState}
    (free : ∀ tx ∈ vtx, AssetFree tx) (noAssets : ∀ coins ∈ last.vtxundo, NoAssetCoins coins)
    (runs : vtx.foldlM (connectTx ctx pool block pindex) c = .ok last) :
    last.s.assetsCache = c.s.assetsCache := by
  induction vtx generalizing c with
  | nil =>
    cases runs
    rfl
  | cons tx rest ih =>
    obtain ⟨next, connects, later⟩ := foldlM_cons_ok.mp runs
    obtain ⟨undo, stages⟩ := connectTx_ok connects
    rw [ih (List.forall_mem_cons.mp free).2 later]
    have recorded : undo ∈ last.vtxundo := by
      refine foldlM_invariant (fun c => undo ∈ c.vtxundo) ?_ (by simp [stages.vtxundo]) later
      intro c other next _ holds connects
      obtain ⟨undone, stages⟩ := connectTx_ok connects
      rw [stages.vtxundo]
      exact List.mem_append_left _ holds
    obtain ⟨spent, spends, adds, isUndo⟩ := updateCoins_ok stages.updates
    have own := free tx List.mem_cons_self
    have sameOutputs : next.s.assetsCache = spent.1.assetsCache := by
      refine foldlM_invariant (fun s => s.assetsCache = spent.1.assetsCache) ?_ ?_ adds
      · intro s item next made holds adds
        have free := own item.2.out (txCoins_script made)
        rw [addOutput_quiet free.1 free.2 adds, holds]
      · rw [addOperation, ite_operationKind, operationKind_plain fun out member => (own out member).1]
    have sameInputs : spent.1.assetsCache = (lookedUp c.s tx).assetsCache := by
      split at spends
      · cases spends
        rfl
      · exact spendInputs_quiet spends (isUndo ▸ noAssets undo recorded)
    rw [sameOutputs, sameInputs, lookedUp_assetsCache]

end Quiet

/-! ## The record of reissues -/

def ReissueRecorded (cache : CAssetsCache) (tx : CTransaction) : Prop :=
  ∀ reissue, .reissue reissue ∈ assetChanges tx → (cache.mapReissuedAssetData[reissue.strName]?).isSome = true

section Record

variable {placed : COutPoint → CReissueAsset → Prop} {globals : AssetGlobals} {cache next : CAssetsCache}
  {changes : List AssetChange} {reissue : CReissueAsset} {name : Bytes}

theorem reissued_of_assetPart {other : CAssetsCache} (same : cache.assetPart = other.assetPart) :
    cache.mapReissuedAssetData = other.mapReissuedAssetData := congrArg (·.2.1) same

@[simp] theorem updateBalance_reissued (address : Bytes) (change : CAmount → CAmount) :
    (cache.updateBalance globals name address change).mapReissuedAssetData = cache.mapReissuedAssetData :=
  reissued_of_assetPart (cache.assetPart_updateBalance globals name address change)

theorem metadata_of_assetPart {other : CAssetsCache} (same : cache.assetPart = other.assetPart) :
    cache.getAssetMetaDataIfExists globals name = other.getAssetMetaDataIfExists globals name := by
  simp only [assetPart, Prod.mk.injEq] at same
  unfold getAssetMetaDataIfExists
  rw [same.1, same.2.1]

theorem addNewAsset_reissued (asset : CNewAsset) (address : Bytes) (nHeight : Int) (blockHash : Uint256) :
    ((cache.addNewAsset globals asset address nHeight blockHash).getD cache).mapReissuedAssetData
      = cache.mapReissuedAssetData := by
  unfold addNewAsset
  split
  · rfl
  · simp

theorem addReissueAsset_reissued (address : Bytes) (out : COutPoint) :
    ((cache.addReissueAsset globals reissue address out).getD cache).mapReissuedAssetData
      = match cache.getAssetMetaDataIfExists globals reissue.strName with
        | none => cache.mapReissuedAssetData
        | some found => cache.mapReissuedAssetData.insert reissue.strName
            (reissuedAsset found.asset reissue) := by
  unfold addReissueAsset
  cases cache.getAssetMetaDataIfExists globals reissue.strName with
  | none => rfl
  | some found => simp

theorem ChangeRun.reissued_kept (run : ChangeRun placed globals changes cache next)
    (recorded : (cache.mapReissuedAssetData[name]?).isSome = true) :
    (next.mapReissuedAssetData[name]?).isSome = true := by
  induction run with
  | done => exact recorded
  | frame same _ ih => exact ih (by rwa [reissued_of_assetPart same])
  | issue _ ih => exact ih (by rwa [addNewAsset_reissued])
  | reissue _ _ ih =>
    apply ih
    rw [addReissueAsset_reissued]
    split
    · exact recorded
    · rw [Std.TreeMap.getElem?_insert]
      split
      · rfl
      · exact recorded

theorem ChangeRun.reissue_recorded {found : AssetMetaData}
    (run : ChangeRun placed globals changes cache next) (isChange : changes = [.reissue reissue])
    (known : cache.getAssetMetaDataIfExists globals reissue.strName = some found) :
    (next.mapReissuedAssetData[reissue.strName]?).isSome = true := by
  induction run with
  | done => cases isChange
  | frame same _ ih => exact ih isChange (by rwa [metadata_of_assetPart same])
  | issue => cases isChange
  | reissue _ rest =>
    cases isChange
    apply rest.reissued_kept
    rw [addReissueAsset_reissued, known, Std.TreeMap.getElem?_insert_self]
    rfl

end Record

section Loop

variable {ctx : ConnectContext} {pool : PoolView} {block : CBlock} {pindex : CBlockIndex}
  {c next : ConnectState} {tx : CTransaction}

/-- A round of the loop changes the record of reissues as the operation does. -/
theorem connectTx_reissue_recorded (notCoinBase : tx.isCoinBase = true → assetChanges tx = [])
    (connects : connectTx ctx pool block pindex c tx = .ok next) :
    ReissueRecorded next.s.assetsCache tx := by
  intro reissue member
  obtain ⟨kind, read⟩ := reissue_mem_assetChanges member
  obtain ⟨undo, stages⟩ := connectTx_ok connects
  have isSpend : tx.isCoinBase = false := by
    by_contra isCoinBase
    rw [notCoinBase (by simpa using isCoinBase)] at member
    cases member
  obtain ⟨totals, assets⟩ := (stages.spends isSpend).assets
  have permitted := (checkOperationContext_permits (checkTxAssets_operation rfl assets)).permits
  have isChange : assetChanges tx = [.reissue reissue] := by
    unfold assetChanges
    rw [kind, read]
    rfl
  rw [isChange, lookedUp_assetsCache] at permitted
  obtain ⟨⟨prev, known, -⟩, -⟩ := permitted
  obtain ⟨found, isFound, -⟩ := Option.map_eq_some_iff.mp known
  exact (connectTx_changes connects).reissue_recorded isChange isFound

theorem connectTxs_reissues {vtx : List CTransaction} {start last : ConnectState}
    (coinBase : ∀ tx ∈ vtx, tx.isCoinBase = true → assetChanges tx = [])
    (runs : vtx.foldlM (connectTx ctx pool block pindex) start = .ok last) :
    ∀ tx ∈ vtx, ReissueRecorded last.s.assetsCache tx := by
  intro tx member
  exact foldlM_established
    (fun (tx : CTransaction) (c : ConnectState) => (tx.isCoinBase = true → assetChanges tx = []) →
      ReissueRecorded c.s.assetsCache tx)
    (fun _ _ _ connects notCoinBase => connectTx_reissue_recorded notCoinBase connects)
    (fun _ _ _ _ connects recorded notCoinBase reissue member =>
      (connectTx_changes connects).reissued_kept (recorded notCoinBase reissue member))
    runs tx member (coinBase tx member)

/-- What is on record in a cache is on record in `passets` once it is flushed. -/
theorem ReissueRecorded.flushed {globals : AssetGlobals} {cache : CAssetsCache}
    (recorded : ReissueRecorded cache tx) : ReissueRecorded (globals.flushed cache).passets tx := by
  intro reissue member
  obtain ⟨asset, found⟩ := Option.isSome_iff_exists.mp (recorded reissue member)
  simp only [AssetGlobals.flushed, CAssetsCache.flush]
  rw [getElem?_overwrite, found]
  rfl

end Loop

end BlackRaven.Chain
