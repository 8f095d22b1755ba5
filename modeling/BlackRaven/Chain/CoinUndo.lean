import BlackRaven.Chain.DisconnectBlock
import BlackRaven.Chain.History

/-!
Contract: disconnecting a block undoes what connecting it did to the coins.

Owns: the inverse of one transaction on the map of coins, on the caches of `DisconnectBlock`,
and along the transactions of a block in reverse.
-/

namespace BlackRaven.Chain

open Assets Consensus Lib Lib.WriteBack Primitives Script CAssetsCache

/-! ## One transaction on the map of coins -/

/-- A transaction that was applied to a map of coins. -/
structure Applied (digests : Digests) (nHeight : Nat) (coins : CoinsView) (tx : CTransaction)
    (undo : List Coin) : Prop where
  checked : CheckedTx tx
  readable : ∀ out ∈ tx.vout, Readable out.scriptPubKey
  undone : undoCoins coins tx undo
  fresh : ∀ item ∈ spendableCoins tx (tx.getHash digests) nHeight,
    item.1 ∈ spentOutpoints tx ∨ coins item.1 = none

section Transaction

variable {digests : Digests} {nHeight : Nat} {coins : CoinsView} {tx : CTransaction} {undo : List Coin}

theorem spendableCoins_nodup (checked : CheckedTx tx) (txid : Uint256) (nHeight : Nat) :
    ((spendableCoins tx txid nHeight).map Prod.fst).Nodup :=
  (txCoins_nodup checked.sized txid nHeight).sublist (List.filter_sublist.map Prod.fst)

theorem spentOutpoints_nodup (checked : CheckedTx tx) : (spentOutpoints tx).Nodup := by
  unfold spentOutpoints
  split
  · exact List.nodup_nil
  · exact checked.distinct

theorem undoCoins_length (undone : undoCoins coins tx undo) : undo.length = (spentOutpoints tx).length := by
  simpa using congrArg List.length undone

theorem undoCoins_mem (undone : undoCoins coins tx undo) {outpoint : COutPoint} {coin_ : Coin} :
    (outpoint, coin_) ∈ (spentOutpoints tx).zip undo
      ↔ outpoint ∈ spentOutpoints tx ∧ coins outpoint = some coin_ := by
  unfold undoCoins at undone
  generalize spentOutpoints tx = spent at undone
  induction spent generalizing undo with
  | nil => simp
  | cons head tail ih =>
    cases undo with
    | nil => cases undone
    | cons first rest =>
      rw [List.map_cons, List.map_cons, List.cons.injEq] at undone
      rw [List.zip_cons_cons, List.mem_cons, ih undone.2, List.mem_cons, Prod.mk.injEq]
      constructor
      · rintro (⟨rfl, rfl⟩ | ⟨member, found⟩)
        · exact ⟨.inl rfl, undone.1.symm⟩
        · exact ⟨.inr member, found⟩
      · rintro ⟨rfl | member, found⟩
        · exact .inl ⟨rfl, Option.mem_unique found undone.1.symm⟩
        · exact .inr ⟨member, found⟩

theorem undoCoins_keys (undone : undoCoins coins tx undo) :
    ((spentOutpoints tx).zip undo).map Prod.fst = spentOutpoints tx :=
  List.map_fst_zip (undoCoins_length undone).ge

/-- Taking the outputs out and putting the inputs back restores the map. -/
theorem Applied.inverse (applied : Applied digests nHeight coins tx undo) :
    addAll (removeAll (applyTx digests nHeight coins tx)
        ((spendableCoins tx (tx.getHash digests) nHeight).map Prod.fst))
      ((spentOutpoints tx).zip undo).reverse = coins := by
  have keys := undoCoins_keys applied.undone
  funext outpoint
  by_cases spent : outpoint ∈ spentOutpoints tx
  · obtain ⟨coin_, found⟩ : ∃ coin_, coins outpoint = some coin_ := by
      have member : coins outpoint ∈ undo.map some := by
        rw [applied.undone]
        exact List.mem_map_of_mem spent
      obtain ⟨coin_, -, isCoin⟩ := List.mem_map.mp member
      exact ⟨coin_, isCoin.symm⟩
    rw [found]
    apply addAll_of_mem
    · rw [List.map_reverse, List.nodup_reverse, keys]
      exact spentOutpoints_nodup applied.checked
    · rw [List.mem_reverse]
      exact (undoCoins_mem applied.undone).mpr ⟨spent, found⟩
  · rw [addAll_of_notMem (by rw [List.map_reverse, List.mem_reverse, keys]; exact spent)]
    by_cases made : outpoint ∈ (spendableCoins tx (tx.getHash digests) nHeight).map Prod.fst
    · rw [removeAll_of_mem made]
      obtain ⟨item, isItem, rfl⟩ := List.mem_map.mp made
      exact ((applied.fresh item isItem).resolve_left spent).symm
    · rw [removeAll_of_notMem made, applyTx, addAll_of_notMem made, removeAll_of_notMem spent]

theorem Applied.present (applied : Applied digests nHeight coins tx undo) :
    ∀ item ∈ spendableCoins tx (tx.getHash digests) nHeight,
      applyTx digests nHeight coins tx item.1 = some item.2 := by
  intro item member
  exact addAll_of_mem (spendableCoins_nodup applied.checked _ nHeight) member

theorem applyTx_gone {outpoint : COutPoint} (spent : outpoint ∈ spentOutpoints tx) :
    removeAll (applyTx digests nHeight coins tx)
      ((spendableCoins tx (tx.getHash digests) nHeight).map Prod.fst) outpoint = none := by
  by_cases made : outpoint ∈ (spendableCoins tx (tx.getHash digests) nHeight).map Prod.fst
  · exact removeAll_of_mem made
  · rw [removeAll_of_notMem made, applyTx, addAll_of_notMem made, removeAll_of_mem spent]

end Transaction

/-! ## The caches -/

/-- A coin that comes back from its undo record as it was. -/
structure Restorable (coin_ : Coin) : Prop where
  amount : readBack coin_ = coin_
  unspent : coin_.out.nValue ≠ -1
  height : coin_.nHeight ≠ 0
  spendable : isUnspendable coin_.out.scriptPubKey = false

theorem short_of_spendable {script : Bytes} (spendable : isUnspendable script = false) :
    script.length ≤ maxScriptSize := by
  simp only [isUnspendable, Bool.or_eq_false_iff, decide_eq_false_iff_not, not_lt] at spendable
  exact spendable.1.2

section Caches

variable {contents current : CoinsView}

variable {s : DisconnectState}

variable {items : List (COutPoint × Coin)} {globals : AssetGlobals}

/-- Outputs that are there as the block has them are taken out, and the block stays clean. -/
theorem spendOutputs_caches (globals : AssetGlobals) (caches : s.coins.Caches contents current)
    (distinct : (items.map Prod.fst).Nodup) (present : ∀ item ∈ items, current item.1 = some item.2)
    (readable : ∀ item ∈ items, Readable item.2.out.scriptPubKey) :
    (items.foldl (spendOutput globals) s).coins.Caches contents (removeAll current (items.map Prod.fst))
      ∧ (items.foldl (spendOutput globals) s).fClean = s.fClean := by
  induction items generalizing s current with
  | nil => exact ⟨caches, rfl⟩
  | cons item rest ih =>
    rw [List.map_cons, List.nodup_cons] at distinct
    obtain ⟨taken, after⟩ := caches.take (present item List.mem_cons_self)
    obtain ⟨tempCache, spends⟩ := trySpendCoin_isSome globals s.tempCache (readable item List.mem_cons_self)
    have first : spendOutput globals s item
        = { s with coins := (s.coins.take item.1).2, tempCache } := by
      unfold spendOutput
      generalize s.coins.take item.1 = result at taken
      obtain ⟨moveout, coins⟩ := result
      subst taken
      simp [spends]
    have untouched : ∀ other ∈ rest, update current item.1 none other.1 = some other.2 := by
      intro other member
      rw [update_of_ne _ _ (ne_of_mem_of_not_mem (List.mem_map_of_mem member) distinct.1)]
      exact present other (List.mem_cons_of_mem item member)
    rw [List.foldl_cons, first]
    let spent : DisconnectState := { s with coins := (s.coins.take item.1).2, tempCache }
    exact ih (show spent.coins.Caches _ _ from after) distinct.2 untouched (List.forall_mem_cons.mp readable).2

/-- An asset that a coin carries has a name, an address and an amount, and so is given back. -/
def GivesBack (env : AssetEnv) (coin_ : Coin) : Prop :=
  (assetKind coin_.out.scriptPubKey).isSome = true → ∃ name address amount,
    coinAsset env coin_.out.scriptPubKey = some (name, address, amount) ∧ name ≠ [] ∧ address ≠ [] ∧ amount ≠ 0

theorem givesBack_iff {globals : AssetGlobals} (cache : CAssetsCache) {coin_ : Coin}
    (isAsset : (assetKind coin_.out.scriptPubKey).isSome = true) :
    GivesBack globals.env coin_ ↔ (cache.undoAssetCoin globals coin_.out).isSome = true := by
  rw [GivesBack, forall_prop_of_true isAsset]
  unfold undoAssetCoin
  grind

theorem applyTxInUndo_caches (globals : AssetGlobals) {item : COutPoint × Coin}
    (caches : s.coins.Caches contents current) (nothing : current item.1 = none)
    (restorable : Restorable item.2) :
    ∃ after, applyTxInUndo globals s item = .ok after
      ∧ after.coins.Caches contents (update current item.1 (some item.2))
      ∧ (after.fClean = true ↔ s.fClean = true ∧ GivesBack globals.env item.2) := by
  have fetched := caches.fetch item.1
  have clean : (s.coins.fetch item.1).read item.1 = none := by
    rw [fetched.reads]
    exact nothing
  have complete : completeUndo (s.coins.fetch item.1) item.1 item.2 = .ok (s.coins.fetch item.1, item.2) := by
    unfold completeUndo
    rw [if_neg restorable.height]
  obtain ⟨coins, puts⟩ := fetched.put_isSome item.2 false nothing
  have adds : addCoin (s.coins.fetch item.1) item.1 item.2 false = .ok coins := by
    unfold addCoin
    rw [if_neg restorable.unspent, restorable.spendable, if_neg Bool.false_ne_true, puts]
  have restored := fetched.put puts (.inr (.inr nothing))
  unfold applyTxInUndo
  dsimp only
  rw [clean, complete]
  simp only [Option.isNone_none, Bool.not_true, Except.bind, bind, adds, Except.mapError, Except.map,
    Bool.and_true]
  cases isAsset : assetKind item.2.out.scriptPubKey with
  | none => exact ⟨_, rfl, restored, by simp [GivesBack, isAsset]⟩
  | some kind =>
    rw [Option.isSome_some, if_pos rfl, givesBack_iff s.assetsCache (by rw [isAsset]; rfl)]
    cases s.assetsCache.undoAssetCoin globals item.2.out <;> exact ⟨_, rfl, restored, by simp⟩

theorem restoreInputs_caches (globals : AssetGlobals) (caches : s.coins.Caches contents current)
    (distinct : (items.map Prod.fst).Nodup) (nothing : ∀ item ∈ items, current item.1 = none)
    (restorable : ∀ item ∈ items, Restorable item.2) :
    ∃ after, items.foldlM (applyTxInUndo globals) s = .ok after
      ∧ after.coins.Caches contents (addAll current items)
      ∧ (after.fClean = true ↔ s.fClean = true ∧ ∀ item ∈ items, GivesBack globals.env item.2) := by
  induction items generalizing s current with
  | nil => exact ⟨s, rfl, caches, by simp⟩
  | cons item rest ih =>
    rw [List.map_cons, List.nodup_cons] at distinct
    obtain ⟨next, first, restored, firstClean⟩ := applyTxInUndo_caches globals caches
      (nothing item List.mem_cons_self) (restorable item List.mem_cons_self)
    have untouched : ∀ other ∈ rest, update current item.1 (some item.2) other.1 = none := by
      intro other member
      rw [update_of_ne _ _ (ne_of_mem_of_not_mem (List.mem_map_of_mem member) distinct.1)]
      exact nothing other (List.mem_cons_of_mem item member)
    obtain ⟨after, later, all, laterClean⟩ := ih restored distinct.2 untouched
      (List.forall_mem_cons.mp restorable).2
    refine ⟨after, bind_eq_ok.mpr ⟨next, first, later⟩, all, ?_⟩
    rw [laterClean, firstClean, List.forall_mem_cons, and_assoc]

/-- The undo record of a transaction: a coinbase has none. -/
def undoRecord (item : CTransaction × List Coin) : CTransaction × Option (List Coin) :=
  (item.1, if item.1.isCoinBase then none else some item.2)

/-- The asset changes of a transaction can be undone in an asset cache. -/
def AssetsUndo (globals : AssetGlobals) (nHeight : Nat) (cache : CAssetsCache) (tx : CTransaction) : Prop :=
  ∃ next, undoAssets globals cache tx (tx.getHash globals.env.digests) nHeight = .ok next

def NoAssetCoins (undo : List Coin) : Prop := ∀ coin_ ∈ undo, assetKind coin_.out.scriptPubKey = none

theorem spendOutputs_assetsCache (globals : AssetGlobals) (s : DisconnectState) :
    (items.foldl (spendOutput globals) s).assetsCache = s.assetsCache := by
  refine foldl_untouched (·.assetsCache) (fun item _ s => ?_) s
  unfold spendOutput
  split
  · rfl
  · dsimp only
    split <;> rfl

/-- A transaction that was applied is undone as soon as its asset changes are. -/
theorem disconnectTx_caches {nHeight : Nat} {coins : CoinsView} {tx : CTransaction} {undo : List Coin}
    (applied : Applied globals.env.digests nHeight coins tx undo)
    (restorable : ∀ coin_ ∈ undo, Restorable coin_)
    (caches : s.coins.Caches contents (applyTx globals.env.digests nHeight coins tx)) :
    ((∃ after, disconnectTx globals nHeight s (undoRecord (tx, undo)) = .ok after)
        ↔ AssetsUndo globals nHeight s.assetsCache tx)
      ∧ ∀ after, disconnectTx globals nHeight s (undoRecord (tx, undo)) = .ok after →
        after.coins.Caches contents coins
          ∧ (after.fClean = true ↔ s.fClean = true ∧ ∀ coin_ ∈ undo, GivesBack globals.env coin_) := by
  obtain ⟨taken, outputsClean⟩ := spendOutputs_caches globals caches
    (spendableCoins_nodup applied.checked _ nHeight) applied.present (by
      intro item member
      obtain ⟨made, -⟩ := List.mem_filter.mp member
      obtain ⟨source, isSource, rfl⟩ := List.mem_map.mp made
      exact applied.readable source.1 (List.fst_mem_of_mem_zipIdx isSource))
  have keys := undoCoins_keys applied.undone
  have mem : ∀ item ∈ ((spentOutpoints tx).zip undo).reverse, item.1 ∈ spentOutpoints tx ∧ item.2 ∈ undo := by
    intro item member
    exact List.of_mem_zip (List.mem_reverse.mp member)
  have same := @spendOutputs_assetsCache (spendableCoins tx (tx.getHash globals.env.digests) nHeight) globals s
  have run : ∀ assetsCache, undoAssets globals s.assetsCache tx (tx.getHash globals.env.digests) nHeight
      = .ok assetsCache → ∃ after, disconnectTx globals nHeight s (undoRecord (tx, undo)) = .ok after
        ∧ after.coins.Caches contents coins
        ∧ (after.fClean = true ↔ s.fClean = true ∧ ∀ coin_ ∈ undo, GivesBack globals.env coin_) := by
    intro assetsCache undoes
    let spent : DisconnectState :=
      { (spendableCoins tx (tx.getHash globals.env.digests) nHeight).foldl (spendOutput globals) s with
        assetsCache }
    obtain ⟨after, restores, restored, inputsClean⟩ := restoreInputs_caches globals
      (show spent.coins.Caches _ _ from taken)
      (by rw [List.map_reverse, List.nodup_reverse, keys]; exact spentOutpoints_nodup applied.checked)
      (fun item member => applyTx_gone (mem item member).1)
      (fun item member => restorable item.2 (mem item member).2)
    rw [applied.inverse] at restored
    refine ⟨after, bind_eq_ok.mpr ⟨assetsCache, same.symm ▸ undoes, ?_⟩, restored, ?_⟩
    · cases isCoinBase : tx.isCoinBase with
      | true =>
        rw [spentOutpoints_coinBase isCoinBase] at restores
        simp only [undoRecord, isCoinBase, if_true]
        exact restores
      | false =>
        have length := undoCoins_length applied.undone
        rw [spentOutpoints_of_not isCoinBase] at restores length
        rw [List.length_map] at length
        simp only [undoRecord, isCoinBase, Bool.false_eq_true, if_false, length, ne_eq, not_true_eq_false]
        exact restores
    · have coinsOf := List.map_snd_zip (undoCoins_length applied.undone).le
      rw [inputsClean, outputsClean]
      conv_rhs => rw [← coinsOf]
      simp only [List.mem_reverse, List.forall_mem_map]
  have undone : ∀ after, disconnectTx globals nHeight s (undoRecord (tx, undo)) = .ok after →
      AssetsUndo globals nHeight s.assetsCache tx := by
    intro after undoes
    obtain ⟨assetsCache, undoes, -⟩ := bind_eq_ok.mp undoes
    exact ⟨assetsCache, same ▸ undoes⟩
  refine ⟨⟨fun ⟨after, undoes⟩ => undone after undoes, ?_⟩, ?_⟩
  · rintro ⟨assetsCache, undoes⟩
    obtain ⟨after, disconnects, -⟩ := run assetsCache undoes
    exact ⟨after, disconnects⟩
  · intro after disconnects
    obtain ⟨assetsCache, undoes⟩ := undone after disconnects
    obtain ⟨other, again, holds⟩ := run assetsCache undoes
    cases again.symm.trans disconnects
    exact holds

/-! ## A block -/

/-- Transactions that were applied one after another, with the coins each has spent. -/
inductive CoinTrace (digests : Digests) (nHeight : Nat) :
    CoinsView → List (CTransaction × List Coin) → CoinsView → Prop where
  | nil (coins : CoinsView) : CoinTrace digests nHeight coins [] coins
  | cons {coins after : CoinsView} {tx : CTransaction} {undo : List Coin}
      {rest : List (CTransaction × List Coin)} :
      Applied digests nHeight coins tx undo →
      CoinTrace digests nHeight (applyTx digests nHeight coins tx) rest after →
        CoinTrace digests nHeight coins ((tx, undo) :: rest) after

theorem CoinTrace.disconnect {nHeight : Nat} {before after : CoinsView}
    {items : List (CTransaction × List Coin)} (trace : CoinTrace globals.env.digests nHeight before items after)
    (restorable : ∀ item ∈ items, ∀ coin_ ∈ item.2, Restorable coin_)
    (caches : s.coins.Caches contents after) {last : DisconnectState}
    (undoes : (items.map undoRecord).reverse.foldlM (disconnectTx globals nHeight) s = .ok last) :
    last.coins.Caches contents before
      ∧ (last.fClean = true ↔ s.fClean = true ∧ ∀ item ∈ items, ∀ coin_ ∈ item.2, GivesBack globals.env coin_) := by
  induction trace generalizing last with
  | nil coins =>
    cases undoes
    exact ⟨caches, by simp⟩
  | cons applied _ ih =>
    rw [List.map_cons, List.reverse_cons, List.foldlM_append] at undoes
    obtain ⟨middle, later, first⟩ := bind_eq_ok.mp undoes
    obtain ⟨_, first, isLast⟩ := foldlM_cons_ok.mp first
    cases isLast
    obtain ⟨middleCaches, laterClean⟩ := ih (List.forall_mem_cons.mp restorable).2 caches later
    obtain ⟨lastCaches, firstClean⟩ := (disconnectTx_caches applied (restorable _ List.mem_cons_self)
      middleCaches).2 _ first
    refine ⟨lastCaches, ?_⟩
    rw [firstClean, laterClean, List.forall_mem_cons, and_assoc, and_comm (a := ∀ item ∈ _, _)]

/-- Undoing transactions goes on past one exactly when the asset changes of that one are undone. -/
theorem CoinTrace.goesOn_iff {nHeight : Nat} {before after : CoinsView}
    {items : List (CTransaction × List Coin)} (trace : CoinTrace globals.env.digests nHeight before items after)
    (restorable : ∀ item ∈ items, ∀ coin_ ∈ item.2, Restorable coin_)
    (caches : s.coins.Caches contents after) {done rest : List (CTransaction × Option (List Coin))}
    {record : CTransaction × Option (List Coin)} {next : DisconnectState}
    (isRecords : (items.map undoRecord).reverse = done ++ record :: rest)
    (undoes : done.foldlM (disconnectTx globals nHeight) s = .ok next) :
    (∃ after, disconnectTx globals nHeight next record = .ok after)
      ↔ AssetsUndo globals nHeight next.assetsCache record.1 := by
  induction trace generalizing rest with
  | nil coins => simp at isRecords
  | cons applied later ih =>
    rw [List.map_cons, List.reverse_cons] at isRecords
    obtain ⟨restorableFirst, restorableLater⟩ := List.forall_mem_cons.mp restorable
    rcases List.eq_nil_or_concat rest with rfl | ⟨front, back, rfl⟩
    · obtain ⟨rfl, isRecord⟩ := List.append_inj' isRecords rfl
      obtain rfl := (List.cons.inj isRecord).1
      exact (disconnectTx_caches applied restorableFirst (later.disconnect restorableLater caches undoes).1).1
    · rw [List.concat_eq_append, ← List.cons_append, ← List.append_assoc] at isRecords
      exact ih restorableLater caches (List.append_inj' isRecords rfl).1

end Caches

/-! ## What undoing leaves alone -/

section Frame

variable {globals : AssetGlobals} {outpoint : COutPoint}

variable {item : COutPoint × Coin} {items : List (COutPoint × Coin)}

theorem spendOutput_read (s : DisconnectState) (different : outpoint ≠ item.1) :
    (spendOutput globals s item).coins.read outpoint = s.coins.read outpoint := by
  have others := s.coins.take_read_of_ne different
  unfold spendOutput
  generalize s.coins.take item.1 = result at others
  obtain ⟨moveout, coins⟩ := result
  cases moveout with
  | none => exact others
  | some moveout =>
    dsimp only
    split <;> exact others

theorem accessByTxid_read (txid : Uint256) (left index : Nat) (coins : CoinsStore) :
    (accessByTxid txid left index coins).1.read = coins.read := by
  induction left generalizing index coins with
  | zero => rfl
  | succ left ih =>
    have fetched := (coins.fetch_agrees ⟨txid, BitVec.ofNat 32 index⟩).reads
    unfold accessByTxid
    dsimp only
    split
    · exact fetched
    · rw [ih, fetched]

theorem completeUndo_read {coins : CoinsStore} {out : COutPoint} {undo : Coin}
    {completed : CoinsStore × Coin} (completes : completeUndo coins out undo = .ok completed) :
    completed.1.read = coins.read ∧ completed.2.out = undo.out ∧ (undo.nHeight ≠ 0 → completed.2 = undo) := by
  unfold completeUndo at completes
  split at completes
  · next noHeight =>
      have accessed := accessByTxid_read out.hash maxOutputs 0 coins
      generalize accessByTxid out.hash maxOutputs 0 coins = found at completes accessed
      obtain ⟨fetched, alternate⟩ := found
      cases alternate with
      | none => cases completes
      | some alternate =>
        cases completes
        exact ⟨accessed, rfl, fun height => absurd noHeight height⟩
  · cases completes
    exact ⟨rfl, rfl, fun _ => rfl⟩

variable {next s : DisconnectState}

/-- A coin comes back unless its script is unspendable, and nothing else changes. -/
theorem applyTxInUndo_read (undoes : applyTxInUndo globals s item = .ok next) :
    (∀ other, other ≠ item.1 → next.coins.read other = s.coins.read other)
      ∧ (item.2.nHeight ≠ 0 → isUnspendable item.2.out.scriptPubKey = false →
          next.coins.read item.1 = some item.2) := by
  have fetched := (s.coins.fetch_agrees item.1).reads
  obtain ⟨completed, completes, undoes⟩ := bind_eq_ok.mp undoes
  obtain ⟨coins, adds, isNext⟩ := map_eq_ok.mp undoes
  obtain ⟨sameRead, sameOut, sameCoin⟩ := completeUndo_read completes
  have isCoins : next.coins = coins := by
    rw [← isNext]
    split
    · split <;> rfl
    · rfl
  obtain ⟨-, adds⟩ := addCoin_eq_ok.mp (mapError_eq_ok.mp adds)
  rw [isCoins]
  split at adds
  next unspendable =>
    rw [adds, sameRead, fetched]
    refine ⟨fun _ _ => rfl, fun _ spendable => ?_⟩
    rw [sameOut, spendable] at unspendable
    cases unspendable
  next =>
    rw [Store.put_read adds, sameRead, fetched]
    refine ⟨fun other different => update_of_ne _ _ different, fun height _ => ?_⟩
    rw [update_self, sameCoin height]

theorem restoreInputs_read (outpoint : COutPoint) (undoes : items.foldlM (applyTxInUndo globals) s = .ok next) :
    (outpoint ∉ items.map Prod.fst → next.coins.read outpoint = s.coins.read outpoint)
      ∧ ∀ coin_, (outpoint, coin_) ∈ items → (items.map Prod.fst).Nodup → coin_.nHeight ≠ 0 →
          isUnspendable coin_.out.scriptPubKey = false → next.coins.read outpoint = some coin_ := by
  induction items generalizing s with
  | nil =>
    cases undoes
    exact ⟨fun _ => rfl, nofun⟩
  | cons item rest ih =>
    obtain ⟨middle, first, later⟩ := foldlM_cons_ok.mp undoes
    obtain ⟨others, own⟩ := applyTxInUndo_read first
    obtain ⟨laterOthers, laterOwn⟩ := ih later
    constructor
    · intro absent
      rw [List.map_cons, List.mem_cons, not_or] at absent
      rw [laterOthers absent.2, others outpoint absent.1]
    · intro coin_ member distinct height spendable
      rw [List.map_cons, List.nodup_cons] at distinct
      rcases List.mem_cons.mp member with rfl | inRest
      · rw [laterOthers distinct.1]
        exact own height spendable
      · exact laterOwn coin_ inRest distinct.2 height spendable

/-- An outpoint that a transaction does not make is left alone, or gets the coin on record
back when the transaction has spent it. -/
theorem disconnectTx_read {nHeight : Nat} {item : CTransaction × List Coin}
    (undoes : disconnectTx globals nHeight s (undoRecord item) = .ok next)
    (notMade : outpoint.hash ≠ item.1.getHash globals.env.digests) :
    (outpoint ∉ spentOutpoints item.1 → next.coins.read outpoint = s.coins.read outpoint)
      ∧ ∀ coin_, (outpoint, coin_) ∈ (spentOutpoints item.1).zip item.2 → (spentOutpoints item.1).Nodup →
          coin_.nHeight ≠ 0 → isUnspendable coin_.out.scriptPubKey = false →
            next.coins.read outpoint = some coin_ := by
  obtain ⟨tx, undo⟩ := item
  obtain ⟨assetsCache, -, undoes⟩ := bind_eq_ok.mp undoes
  have outputs : (((txCoins tx (tx.getHash globals.env.digests) nHeight).filter fun made =>
      !isUnspendable made.2.out.scriptPubKey).foldl (spendOutput globals) s).coins.read outpoint
        = s.coins.read outpoint := by
    refine foldl_untouched (·.coins.read outpoint) (fun made member s => ?_) s
    refine spendOutput_read s fun same => notMade ?_
    rw [same]
    exact spendableCoins_hash member
  cases isCoinBase : tx.isCoinBase with
  | true =>
    rw [spentOutpoints_coinBase isCoinBase]
    simp only [undoRecord, isCoinBase, if_true] at undoes
    cases undoes
    exact ⟨fun _ => outputs, nofun⟩
  | false =>
    rw [spentOutpoints_of_not isCoinBase]
    simp only [undoRecord, isCoinBase, Bool.false_eq_true, if_false, ite_error_eq_ok, ne_eq, not_not] at undoes
    obtain ⟨sameLength, undoes⟩ := undoes
    have keys : ((tx.vin.map CTxIn.prevout).zip undo).map Prod.fst = tx.vin.map CTxIn.prevout :=
      List.map_fst_zip (by simp [sameLength])
    obtain ⟨others, own⟩ := restoreInputs_read outpoint undoes
    rw [List.map_reverse, List.mem_reverse, keys] at others
    rw [List.map_reverse, List.nodup_reverse, keys] at own
    refine ⟨fun absent => (others absent).trans outputs, fun coin_ member => ?_⟩
    exact own coin_ (List.mem_reverse.mpr member)

end Frame

/-! ## The block as it was connected -/

section Connected

variable {ctx : ConnectContext} {pool : PoolView} {block : CBlock} {pindex : CBlockIndex}
  {contents current : CoinsView} {tx : CTransaction}

/-- Outputs that were made without leave to overwrite were not there. -/
theorem addOutputs_fresh {globals : AssetGlobals} {items : List (COutPoint × Coin)} {s next : CoinsState}
    (caches : s.coins.Caches contents current) (below : ∀ item ∈ items, contents item.1 = none)
    (distinct : (items.map Prod.fst).Nodup) (adds : items.foldlM (addOutput globals false) s = .ok next) :
    ∀ item ∈ items, isUnspendable item.2.out.scriptPubKey = false → current item.1 = none := by
  induction items generalizing s current with
  | nil => exact nofun
  | cons head rest ih =>
    rw [List.map_cons, List.nodup_cons] at distinct
    obtain ⟨after, first, later⟩ := foldlM_cons_ok.mp adds
    obtain ⟨coins, addsCoin, rfl⟩ := map_eq_ok.mp first
    have made := addCoin_caches caches (.inr (.inl (below head List.mem_cons_self))) addsCoin
    have restFresh := ih made (List.forall_mem_cons.mp below).2 distinct.2 later
    intro item member spendable
    rcases List.mem_cons.mp member with rfl | inRest
    · obtain ⟨-, puts⟩ := addCoin_eq_ok.mp addsCoin
      rw [spendable, if_neg Bool.false_ne_true] at puts
      exact caches.none_of_put puts (below item List.mem_cons_self)
    · have fresh := restFresh item inRest spendable
      split at fresh
      · exact fresh
      · rwa [update_of_ne _ _ (ne_of_mem_of_not_mem (List.mem_map_of_mem inRest) distinct.1)] at fresh

theorem TxConnected.applied {c next : ConnectState} {undo : List Coin}
    (connected : TxConnected ctx pool block pindex c tx next undo)
    (caches : c.s.coins.Caches contents current) (checked : CheckedTx tx)
    (readable : ∀ out ∈ tx.vout, Readable out.scriptPubKey)
    (unused : ∀ index, contents ⟨tx.getHash ctx.globals.env.digests, index⟩ = none)
    (first : tx.isCoinBase = true → current = contents) :
    Applied ctx.globals.env.digests pindex.nHeight current tx undo
      ∧ next.s.coins.Caches contents (applyTx ctx.globals.env.digests pindex.nHeight current tx) := by
  obtain ⟨after, undone⟩ := connected.caches caches checked.distinct (.inr unused)
  refine ⟨⟨checked, readable, undone, ?_⟩, after⟩
  intro item member
  obtain ⟨made, spendable⟩ := List.mem_filter.mp member
  cases isCoinBase : tx.isCoinBase with
  | true =>
    right
    rw [first isCoinBase]
    obtain ⟨source, -, rfl⟩ := List.mem_map.mp made
    exact unused _
  | false =>
    obtain ⟨spent, spends, adds, -⟩ := updateCoins_ok connected.updates
    rw [isCoinBase, if_neg Bool.false_ne_true] at spends
    have have_ := connected.have_ caches
    rw [spentOutpoints_of_not isCoinBase] at have_
    have taken := spendInputs_caches (lookedUp_caches caches tx) checked.distinct
      (fun txin isInput => have_ _ (List.mem_map_of_mem isInput)) spends
    have operated : ∀ assetsCache, ({ spent.1 with assetsCache } : CoinsState).coins.Caches contents
        (removeAll current (tx.vin.map CTxIn.prevout)) := fun _ => taken
    unfold addCoins at adds
    rw [isCoinBase] at adds
    have fresh := addOutputs_fresh (operated _) (by
        intro other isMade
        obtain ⟨source, -, rfl⟩ := List.mem_map.mp isMade
        exact unused _) (txCoins_nodup checked.sized _ pindex.nHeight) adds item made
      (by simpa using spendable)
    rw [spentOutpoints_of_not isCoinBase]
    by_cases member : item.1 ∈ tx.vin.map CTxIn.prevout
    · exact .inl member
    · rw [removeAll_of_notMem member] at fresh
      exact .inr fresh

/-- What the loop needs to know about the transactions of a block. -/
structure Undoable (digests : Digests) (contents : CoinsView) (tx : CTransaction) : Prop where
  checked : CheckedTx tx
  readable : ∀ out ∈ tx.vout, Readable out.scriptPubKey
  unused : ∀ index, contents ⟨tx.getHash digests, index⟩ = none

theorem connectTxs_trace {vtx : List CTransaction} {c last : ConnectState}
    (caches : c.s.coins.Caches contents current)
    (undoable : ∀ tx ∈ vtx, Undoable ctx.globals.env.digests contents tx)
    (first : ∀ tx ∈ vtx.head?, tx.isCoinBase = true → current = contents)
    (others : ∀ tx ∈ vtx.drop 1, tx.isCoinBase = false)
    (runs : vtx.foldlM (connectTx ctx pool block pindex) c = .ok last) :
    ∃ undos after, undos.length = vtx.length ∧ last.vtxundo = c.vtxundo ++ undos
      ∧ CoinTrace ctx.globals.env.digests pindex.nHeight current (vtx.zip undos) after
      ∧ last.s.coins.Caches contents after := by
  induction vtx generalizing c current with
  | nil =>
    cases runs
    exact ⟨[], current, rfl, (List.append_nil _).symm, .nil _, caches⟩
  | cons tx rest ih =>
    obtain ⟨next, connects, later⟩ := foldlM_cons_ok.mp runs
    obtain ⟨undo, connected⟩ := connectTx_ok connects
    have own := undoable tx List.mem_cons_self
    obtain ⟨applied, nextCaches⟩ := connected.applied caches own.checked own.readable own.unused (first tx rfl)
    have restNot : ∀ other ∈ rest, other.isCoinBase = false := others
    obtain ⟨undos, after, sameLength, undone, trace, lastCaches⟩ := ih nextCaches
      (List.forall_mem_cons.mp undoable).2
      (by
        intro other isHead isCoinBase
        rw [restNot other (List.mem_of_mem_head? isHead)] at isCoinBase
        cases isCoinBase)
      (fun other member => restNot other (List.mem_of_mem_drop member)) later
    refine ⟨undo :: undos, after, by simp [sameLength], ?_, .cons applied trace, lastCaches⟩
    rw [undone, connected.vtxundo, List.append_assoc]
    rfl

end Connected

end BlackRaven.Chain
