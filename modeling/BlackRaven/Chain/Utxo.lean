import BlackRaven.Chain.SpentAssets
import BlackRaven.Lib.Ledger
import BlackRaven.Primitives.Wire

/-!
Contract: what connecting transactions does to the coins, as a partial map from outpoints to
coins.

Owns: the map after one transaction and after a block, and that the caches of `ConnectBlock`
hold it. A cache stays coherent as long as no transaction but a coinbase makes an output that
is still unspent below the cache.

Does not own: why no output is made twice.
-/

namespace BlackRaven.Chain

open Assets Consensus Lib Lib.WriteBack Primitives

/-! ## The coins as a map -/

/-- The coins that the outputs of a transaction make. -/
def spendableCoins (tx : CTransaction) (txid : Uint256) (nHeight : Nat) : List (COutPoint × Coin) :=
  (txCoins tx txid nHeight).filter fun item => !isUnspendable item.2.out.scriptPubKey

def spentOutpoints (tx : CTransaction) : List COutPoint :=
  if tx.isCoinBase then [] else tx.vin.map CTxIn.prevout

variable {tx : CTransaction} {nHeight : Nat} {outpoint : COutPoint} {coin_ : Coin}
  {possible_overwrite : Bool} {s : CoinsState} {undo : List Coin} {block : CBlock}
  {ctx : ConnectContext} {pindex : CBlockIndex} {pool : PoolView}

theorem spentOutpoints_coinBase (isCoinBase : tx.isCoinBase = true) :
    spentOutpoints tx = [] := if_pos isCoinBase

theorem spentOutpoints_of_not (notCoinBase : tx.isCoinBase = false) :
    spentOutpoints tx = tx.vin.map CTxIn.prevout := if_neg (by simp [notCoinBase])

def applyTx (digests : Digests) (nHeight : Nat) (coins : CoinsView) (tx : CTransaction) : CoinsView :=
  addAll (removeAll coins (spentOutpoints tx)) (spendableCoins tx (tx.getHash digests) nHeight)

theorem spendableCoins_hash {txid : Uint256} {item : COutPoint × Coin}
    (member : item ∈ spendableCoins tx txid nHeight) :
    item.1.hash = txid := by
  obtain ⟨made, -⟩ := List.mem_filter.mp member
  obtain ⟨source, -, rfl⟩ := List.mem_map.mp made
  rfl

/-- A transaction leaves the outputs of others alone unless it spends them. -/
theorem applyTx_of_ne {digests : Digests} {coins : CoinsView} (other : outpoint.hash ≠ tx.getHash digests) :
    applyTx digests nHeight coins tx outpoint = removeAll coins (spentOutpoints tx) outpoint := by
  apply addAll_of_notMem
  intro member
  obtain ⟨item, made, rfl⟩ := List.mem_map.mp member
  exact other (spendableCoins_hash made)

theorem applyTx_eq_some {digests : Digests} {coins : CoinsView}
    (found : applyTx digests nHeight coins tx outpoint = some coin_) :
    (coins outpoint = some coin_ ∧ outpoint ∉ spentOutpoints tx)
      ∨ (outpoint, coin_) ∈ spendableCoins tx (tx.getHash digests) nHeight := by
  rcases addAll_eq_some found with before | made
  · exact .inl (removeAll_eq_some before)
  · exact .inr made

/-! ## The caches -/

variable {globals : AssetGlobals} {contents current : CoinsView}

theorem addCoin_caches {coins next : CoinsStore} (caches : coins.Caches contents current)
    (unused : possible_overwrite = true ∨ contents outpoint = none ∨ current outpoint = none)
    (adds : addCoin coins outpoint coin_ possible_overwrite = .ok next) :
    next.Caches contents (if isUnspendable coin_.out.scriptPubKey then current
      else update current outpoint (some coin_)) := by
  obtain ⟨-, adds⟩ := addCoin_eq_ok.mp adds
  split at adds
  next unspendable =>
    rw [if_pos unspendable, adds]
    exact caches
  next spendable =>
    rw [if_neg spendable]
    exact caches.put adds unused

/-- The outputs of a transaction, made in a cache that has nothing below where they go. -/
theorem addOutputs_caches {items : List (COutPoint × Coin)} {next : CoinsState}
    (caches : s.coins.Caches contents current)
    (unused : ∀ item ∈ items, possible_overwrite = true ∨ contents item.1 = none)
    (adds : items.foldlM (addOutput globals possible_overwrite) s = .ok next) :
    next.coins.Caches contents
      (addAll current (items.filter fun item => !isUnspendable item.2.out.scriptPubKey)) := by
  induction items generalizing s current with
  | nil =>
    cases adds
    exact caches
  | cons head tail ih =>
    obtain ⟨after, first, later⟩ := foldlM_cons_ok.mp adds
    obtain ⟨coins, addsCoin, rfl⟩ := map_eq_ok.mp first
    have made := addCoin_caches caches ((unused head List.mem_cons_self).imp_right Or.inl) addsCoin
    have rest := ih made (List.forall_mem_cons.mp unused).2 later
    cases unspendable : isUnspendable head.2.out.scriptPubKey with
    | true =>
      rw [unspendable, if_pos rfl] at rest
      rwa [List.filter_cons_of_neg (by simp [unspendable])]
    | false =>
      rw [unspendable, if_neg Bool.false_ne_true] at rest
      rwa [List.filter_cons_of_pos (by simp [unspendable])]

/-- The inputs of a transaction that has them and spends each once: the coins taken out are
kept in order. -/
theorem spendInputs_undo {vin : List CTxIn} {s spent : CoinsState × List Coin}
    (distinct : (vin.map CTxIn.prevout).Nodup)
    (have_ : ∀ txin ∈ vin, (s.1.coins.read txin.prevout).isSome = true)
    (spends : vin.foldlM (spendInput globals) s = .ok spent) :
    ∃ coins, spent.2 = s.2 ++ coins ∧ coins.map some = (vin.map CTxIn.prevout).map s.1.coins.read := by
  induction vin generalizing s with
  | nil =>
    cases spends
    exact ⟨[], (List.append_nil _).symm, rfl⟩
  | cons txin rest ih =>
    rw [List.map_cons, List.nodup_cons] at distinct
    obtain ⟨after, first, later⟩ := foldlM_cons_ok.mp spends
    obtain ⟨coin_, held⟩ := Option.isSome_iff_exists.mp (have_ txin List.mem_cons_self)
    obtain ⟨_, _, moved, -, rfl⟩ := spendInput_eq_ok.mp first
    obtain rfl := Option.some.inj (moved.symm.trans (Store.take_of_read held))
    have untouched : ∀ outpoint ∈ rest.map CTxIn.prevout,
        (s.1.coins.take txin.prevout).2.read outpoint = s.1.coins.read outpoint :=
      fun outpoint member => s.1.coins.take_read_of_ne (ne_of_mem_of_not_mem member distinct.1)
    obtain ⟨coins, isSpent, areCoins⟩ := ih distinct.2 (by
      intro other member
      rw [untouched _ (List.mem_map_of_mem member)]
      exact have_ other (List.mem_cons_of_mem _ member)) later
    refine ⟨coin_ :: coins, by rw [isSpent, List.append_assoc]; rfl, ?_⟩
    rw [List.map_cons, List.map_cons, List.map_cons, held, areCoins]
    exact congrArg _ (List.map_congr_left untouched)

theorem spendInputs_caches {vin : List CTxIn} {s spent : CoinsState × List Coin}
    (caches : s.1.coins.Caches contents current) (distinct : (vin.map CTxIn.prevout).Nodup)
    (have_ : ∀ txin ∈ vin, (current txin.prevout).isSome = true)
    (spends : vin.foldlM (spendInput globals) s = .ok spent) :
    spent.1.coins.Caches contents (removeAll current (vin.map CTxIn.prevout)) := by
  induction vin generalizing s current with
  | nil =>
    cases spends
    exact caches
  | cons txin rest ih =>
    rw [List.map_cons, List.nodup_cons] at distinct
    obtain ⟨after, first, later⟩ := foldlM_cons_ok.mp spends
    obtain ⟨coin_, held⟩ := Option.isSome_iff_exists.mp (have_ txin List.mem_cons_self)
    obtain ⟨_, _, -, -, rfl⟩ := spendInput_eq_ok.mp first
    refine ih (caches.take held).2 distinct.2 (fun other member => ?_) later
    dsimp only
    rw [update_of_ne _ _ (ne_of_mem_of_not_mem (List.mem_map_of_mem member) distinct.1)]
    exact have_ other (List.mem_cons_of_mem _ member)

theorem lookedUp_caches (caches : s.coins.Caches contents current) (tx : CTransaction) :
    (lookedUp s tx).coins.Caches contents current := by
  unfold lookedUp
  split
  · exact caches
  · exact foldl_invariant (Store.Caches · contents current)
      (fun txin _ _ holds => holds.fetch txin.prevout) caches

def undoCoins (coins : CoinsView) (tx : CTransaction) (undo : List Coin) : Prop :=
  undo.map some = (spentOutpoints tx).map coins

theorem updateCoins_caches {next : CoinsState} {blockHash : Uint256}
    (caches : s.coins.Caches contents current) (distinct : (tx.vin.map CTxIn.prevout).Nodup)
    (have_ : ∀ outpoint ∈ spentOutpoints tx, (current outpoint).isSome = true)
    (unused : tx.isCoinBase = true ∨ ∀ index, contents ⟨tx.getHash globals.env.digests, index⟩ = none)
    (updates : updateCoins globals s tx nHeight blockHash = .ok (next, undo)) :
    next.coins.Caches contents (applyTx globals.env.digests nHeight current tx)
      ∧ undoCoins current tx undo := by
  obtain ⟨spent, spends, adds, rfl⟩ := updateCoins_ok updates
  have taken : spent.1.coins.Caches contents (removeAll current (spentOutpoints tx))
      ∧ undoCoins current tx spent.2 := by
    unfold undoCoins
    cases isCoinBase : tx.isCoinBase with
    | true =>
      rw [isCoinBase, if_pos rfl] at spends
      cases spends
      rw [spentOutpoints_coinBase isCoinBase]
      exact ⟨caches, rfl⟩
    | false =>
      rw [isCoinBase, if_neg Bool.false_ne_true] at spends
      rw [spentOutpoints_of_not isCoinBase] at have_ ⊢
      have haveInputs : ∀ txin ∈ tx.vin, (current txin.prevout).isSome = true :=
        fun txin member => have_ _ (List.mem_map_of_mem member)
      refine ⟨spendInputs_caches caches distinct haveInputs spends, ?_⟩
      rw [← caches.reads] at haveInputs ⊢
      obtain ⟨coins, isSpent, areCoins⟩ := spendInputs_undo distinct haveInputs spends
      rw [isSpent, List.nil_append, areCoins]
  refine ⟨?_, taken.2⟩
  have operated : ∀ assetsCache, ({ spent.1 with assetsCache } : CoinsState).coins.Caches contents
      (removeAll current (spentOutpoints tx)) := fun _ => taken.1
  refine addOutputs_caches (operated _) ?_ adds
  intro item member
  obtain ⟨source, -, rfl⟩ := List.mem_map.mp member
  exact unused.imp_right fun fresh => fresh _

theorem SpendsChecked.have_ (spends : SpendsChecked ctx pool block pindex s tx)
    (notCoinBase : tx.isCoinBase = false) :
    ∀ outpoint ∈ spentOutpoints tx, (s.coins.read outpoint).isSome = true := by
  intro outpoint member
  rw [spentOutpoints_of_not notCoinBase] at member
  obtain ⟨txin, isInput, rfl⟩ := List.mem_map.mp member
  obtain ⟨txfee, inputs⟩ := spends.inputs
  exact checkTxInputs_have inputs notCoinBase isInput

theorem TxConnected.have_ {c next : ConnectState} (caches : c.s.coins.Caches contents current)
    (connected : TxConnected ctx pool block pindex c tx next undo) :
    ∀ outpoint ∈ spentOutpoints tx, (current outpoint).isSome = true := by
  cases isCoinBase : tx.isCoinBase with
  | true => simp [spentOutpoints_coinBase isCoinBase]
  | false =>
    rw [← (lookedUp_caches caches tx).reads]
    exact (connected.spends isCoinBase).have_ isCoinBase

theorem TxConnected.caches {c next : ConnectState}
    (connected : TxConnected ctx pool block pindex c tx next undo)
    (caches : c.s.coins.Caches contents current) (distinct : (tx.vin.map CTxIn.prevout).Nodup)
    (unused : tx.isCoinBase = true ∨ ∀ index, contents ⟨tx.getHash ctx.globals.env.digests, index⟩ = none) :
    next.s.coins.Caches contents (applyTx ctx.globals.env.digests pindex.nHeight current tx)
      ∧ undoCoins current tx undo :=
  updateCoins_caches (lookedUp_caches caches tx) distinct (connected.have_ caches) unused connected.updates

/-! ## Outputs can be made -/

theorem addOutputs_ok {items : List (COutPoint × Coin)} (caches : s.coins.Caches contents current)
    (values : ∀ item ∈ items, item.2.out.nValue ≠ -1) (distinct : (items.map Prod.fst).Nodup)
    (unused : ∀ item ∈ items, current item.1 = none) :
    ∃ next, items.foldlM (addOutput globals possible_overwrite) s = .ok next := by
  induction items generalizing s current with
  | nil => exact ⟨s, rfl⟩
  | cons head tail ih =>
    rw [List.map_cons, List.nodup_cons] at distinct
    have nothing := unused head List.mem_cons_self
    have adds : ∃ coins, addCoin s.coins head.1 head.2 possible_overwrite = .ok coins := by
      simp only [addCoin_eq_ok, values head List.mem_cons_self, ne_eq, not_false_eq_true, true_and]
      split
      · exact ⟨_, rfl⟩
      · exact caches.put_isSome head.2 possible_overwrite nothing
    obtain ⟨coins, adds⟩ := adds
    have made := addCoin_caches caches (.inr (.inr nothing)) adds
    have untouched : ∀ item ∈ tail, (if isUnspendable head.2.out.scriptPubKey then current
        else update current head.1 (some head.2)) item.1 = current item.1 := by
      intro item member
      split
      · rfl
      · exact update_of_ne _ _ (ne_of_mem_of_not_mem (List.mem_map_of_mem member) distinct.1)
    let made_ : CoinsState :=
      { coins
        assetsCache := addNullDataOutput globals
          (addTransferOutput globals s.assetsCache head.2.out.scriptPubKey head.1)
          head.2.out.scriptPubKey }
    obtain ⟨next, later⟩ := ih (show made_.coins.Caches _ _ from made)
      (List.forall_mem_cons.mp values).2 distinct.2 (by
        intro item member
        rw [untouched item member]
        exact unused item (List.mem_cons_of_mem head member))
    exact ⟨next, bind_eq_ok.mpr ⟨made_, map_eq_ok.mpr ⟨coins, adds, rfl⟩, later⟩⟩

end BlackRaven.Chain
