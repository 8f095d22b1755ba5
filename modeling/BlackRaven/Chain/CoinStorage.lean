import BlackRaven.Chain.BlockUndo

/-!
Contract: coins on disk, as `Coin::Serialize` of `coins.h` and the records of `undo.h` have them.

Owns: which coins survive being written, in the coin database and in the undo data of a block,
and that the undo data of an accepted block are never refused.

Does not own: the keys under which the coin database has its coins.
-/

namespace BlackRaven.Chain

open Consensus Lib Primitives Script

/-! ## One coin -/

/-- `Coin::Serialize`: the numbers of an undo record, without the byte between them. -/
def serializeCoin (points : KeyPoints) (coin_ : Coin) : Bytes :=
  let record := TxInUndo.ofCoin coin_
  varIntUint.encode record.nCode ++ (varIntUint64.encode record.nVal
    ++ (compressedScript points).encode record.scriptPubKey)

def unserializeCoin (points : KeyPoints) : Decoder Coin := do
  let nCode ← varIntUint.decode
  let record ← readCompressedTxOut points nCode
  return record.coin

/-- `TxInUndoSerializer` and `TxInUndoDeserializer`. -/
def serializeTxInUndo (points : KeyPoints) (coin_ : Coin) : Bytes :=
  (txInUndo points).encode (TxInUndo.ofCoin coin_)

def unserializeTxInUndo (points : KeyPoints) : Decoder Coin := do
  let record ← (txInUndo points).decode
  return record.coin

/-- A coin that `AddCoin` keeps, with an amount of money and a height that can be doubled. -/
structure StorableCoin (coin_ : Coin) : Prop where
  money : 0 ≤ coin_.out.nValue ∧ coin_.out.nValue ≤ maxMoney
  height : coin_.nHeight < 2 ^ 30
  kept : isUnspendable coin_.out.scriptPubKey = false

def ShortCoin (coin_ : Coin) : Prop :=
  coin_.out.nValue ≤ largestShort ∨ coin_.out.nValue % 10 = 0

instance (coin_ : Coin) : Decidable (ShortCoin coin_) := inferInstanceAs (Decidable (_ ∨ _))

section Coin

variable {points : KeyPoints} {coin_ : Coin}

/-- A number of 64 bits that is read as a valid amount is that amount. -/
theorem eq_of_toInt64 {x : Nat} {amount : Int} (bounded : x < 2 ^ 64) (positive : 0 ≤ amount)
    (read : toInt64 x = amount) : (x : Int) = amount := by
  unfold toInt64 at read
  rw [Int.bmod_def] at read
  split at read <;> omega

theorem decompressAmount_lt (x : Nat) : decompressAmount x < 2 ^ 64 := by
  unfold decompressAmount
  split
  · decide
  · exact Nat.mod_lt _ (by decide)

section

variable (storable : StorableCoin coin_)

include storable

/-- A coin is read back exactly when the short form of its amount fits. -/
theorem readBack_iff : readBack coin_ = coin_ ↔ ShortCoin coin_ := by
  constructor
  · intro same
    have amount := congrArg (fun coin_ : Coin => coin_.out.nValue) same
    rw [readBack_eq] at amount
    obtain ⟨⟨nValue, scriptPubKey⟩, nHeight, fCoinBase⟩ := coin_
    have money := storable.money
    dsimp only at amount money
    obtain ⟨value, rfl⟩ := Int.eq_ofNat_of_zero_le money.1
    have bound : (value : Int) ≤ 2100000000000000000 := money.2
    have isValue : ((value : Int) % 2 ^ 64).toNat = value := by omega
    rw [isValue] at amount
    have read := eq_of_toInt64 (decompressAmount_lt _) money.1 amount
    rcases short_of_decompressAmount money.2 (Int.ofNat.inj read) with small | zero
    · exact .inl (Int.ofNat_le.mpr small)
    · have zero : (value : Int) % 10 = 0 := by omega
      exact .inr zero
  · exact readBack_of_short storable.money

theorem StorableCoin.nCode_lt : (TxInUndo.ofCoin coin_).nCode < 2 ^ 31 := by
  have height := storable.height
  unfold TxInUndo.ofCoin
  dsimp only
  split <;> omega

theorem unserializeCoin_run (rest : Bytes) :
    (unserializeCoin points).run (serializeCoin points coin_ ++ rest) = some (readBack coin_, rest) := by
  have code := storable.nCode_lt
  have short : (TxInUndo.ofCoin coin_).scriptPubKey.length ≤ maxScriptSize := short_of_spendable storable.kept
  have value : (TxInUndo.ofCoin coin_).nVal < 2 ^ 64 := compressAmount_lt _
  unfold serializeCoin unserializeCoin
  rw [List.append_assoc, List.append_assoc,
    varIntUint.run_bind_encode _ _ _ (Nat.le_sub_one_of_lt (code.trans (by decide))), readCompressedTxOut,
    bind_assoc, varIntUint64.run_bind_encode _ _ _ (Nat.le_sub_one_of_lt value), bind_assoc,
    (compressedScript points).run_bind_encode _ _ _ short]
  rfl

theorem unserializeTxInUndo_run (rest : Bytes) :
    (unserializeTxInUndo points).run (serializeTxInUndo points coin_ ++ rest)
      = some (readBack coin_, rest) := by
  have admissible : (txInUndo points).Admissible (TxInUndo.ofCoin coin_) :=
    ⟨storable.nCode_lt.trans (by decide), compressAmount_lt _, short_of_spendable storable.kept⟩
  unfold serializeTxInUndo unserializeTxInUndo
  rw [(txInUndo points).run_bind_encode _ _ _ admissible]
  rfl

end

end Coin

/-! ## The undo data of a block -/

/-- Every coin that is kept somewhere can be stored. -/
def CoinsStorable (coins : CoinsStore) : Prop := coins.Every fun _ coin_ => StorableCoin coin_

/-- The undo record of a transaction, fit to be written. -/
structure RecordStorable (undo : List Coin) : Prop where
  inputs : undo.length ≤ maxInputRecords
  coins : ∀ coin_ ∈ undo, StorableCoin coin_

section Block

variable {ctx : ConnectContext} {pool : PoolView} {block : CBlock} {pindex : CBlockIndex}

/-- A connected transaction leaves storable coins, and its undo record can be written. -/
theorem TxConnected.storable {c next : ConnectState} {tx : CTransaction} {undo : List Coin}
    (connected : TxConnected ctx pool block pindex c tx next undo)
    (storable : CoinsStorable c.s.coins) (height : pindex.nHeight < 2 ^ 30) (checked : CheckedTx tx)
    (few : tx.vin.length ≤ maxInputRecords) : CoinsStorable next.s.coins ∧ RecordStorable undo := by
  have looked : CoinsStorable (lookedUp c.s tx).coins := lookedUp_every storable tx
  constructor
  · refine updateCoins_every looked ?_ connected.updates
    intro item made kept
    refine ⟨checked.values _ (txCoins_script made), ?_, kept⟩
    obtain ⟨source, -, rfl⟩ := List.mem_map.mp made
    exact height
  · obtain ⟨spent, spends, -, rfl⟩ := updateCoins_ok connected.updates
    cases isCoinBase : tx.isCoinBase with
    | true =>
      rw [isCoinBase, if_pos rfl] at spends
      cases spends
      exact ⟨Nat.zero_le _, by simp⟩
    | false =>
      rw [isCoinBase, if_neg Bool.false_ne_true] at spends
      have have_ := (connected.spends isCoinBase).have_ isCoinBase
      rw [spentOutpoints_of_not isCoinBase] at have_
      obtain ⟨coins, isSpent, areCoins⟩ := spendInputs_undo checked.distinct
        (fun txin member => have_ _ (List.mem_map_of_mem member)) spends
      rw [isSpent, List.nil_append]
      have sameLength : coins.length = tx.vin.length := by simpa using congrArg List.length areCoins
      refine ⟨sameLength ▸ few, ?_⟩
      intro coin_ member
      have isRead : some coin_ ∈ coins.map some := List.mem_map_of_mem member
      rw [areCoins] at isRead
      obtain ⟨outpoint, -, held⟩ := List.mem_map.mp isRead
      exact looked.read held

theorem connectTxs_storable {vtx : List CTransaction} {c last : ConnectState}
    (storable : CoinsStorable c.s.coins) (height : pindex.nHeight < 2 ^ 30)
    (checked : ∀ tx ∈ vtx, CheckedTx tx ∧ tx.vin.length ≤ maxInputRecords)
    (runs : vtx.foldlM (connectTx ctx pool block pindex) c = .ok last) :
    ∃ undos, last.vtxundo = c.vtxundo ++ undos ∧ undos.length = vtx.length
      ∧ ∀ undo ∈ undos, RecordStorable undo := by
  induction vtx generalizing c with
  | nil =>
    cases runs
    exact ⟨[], (List.append_nil _).symm, rfl, by simp⟩
  | cons tx rest ih =>
    obtain ⟨next, connects, later⟩ := foldlM_cons_ok.mp runs
    obtain ⟨undo, connected⟩ := connectTx_ok connects
    obtain ⟨isChecked, few⟩ := checked tx List.mem_cons_self
    obtain ⟨nextStorable, record⟩ := connected.storable storable height isChecked few
    obtain ⟨undos, isLast, sameLength, records⟩ := ih nextStorable (List.forall_mem_cons.mp checked).2 later
    refine ⟨undo :: undos, ?_, by simp [sameLength], ?_⟩
    · rw [isLast, connected.vtxundo, List.append_assoc]
      rfl
    · exact List.forall_mem_cons.mpr ⟨record, records⟩

end Block

/-- The undo records of a block that `ConnectBlock` accepts on storable coins. -/
theorem accepted_records {node : NodeContext} {c : Chainstate} {connection : Connection}
    {connected : Connected} (storable : CoinsStorable c.coinsTip) (height : connection.pindex.nHeight < 2 ^ 30)
    (accepts : (connection.source.read node c.globals.env >>= fun block =>
      connectBlock (c.context node connection) connection.pool false block connection.pindex c.blockView)
        = .ok connected) :
    connected.vtxundo.length ≤ maxSize ∧ ∀ undo ∈ connected.vtxundo, RecordStorable undo := by
  obtain ⟨block, reads, connects⟩ := bind_eq_ok.mp accepts
  obtain ⟨checked, passes, -, connects⟩ := connectBlock_checked reads connects
  obtain ⟨last, stages⟩ := connectChecked_ok connects
  obtain ⟨sameTxs, tipHeight, pass⟩ := checkedBlock_transactions passes
  obtain ⟨_, _, _, received⟩ := checkedBlock_checked passes
  have few : checked.vtx.length ≤ maxSize := by
    have size := received.size
    rw [sameTxs]
    simp only [exceedsSizeLimits, Bool.or_eq_false_iff, decide_eq_false_iff_not, not_lt] at size
    have weight : connection.source.received.vtx.length * 4 ≤ 8000000 := size.1.2
    have limit : maxSize = 33554432 := rfl
    omega
  have connectedTxs := (c.context node connection).connectedTxs_sublist checked
  have fewConnected := connectedTxs.length_le
  obtain ⟨_, _, each⟩ := id pass
  have start : CoinsStorable c.blockView.coins := blockView_every storable
  obtain ⟨undos, isLast, sameLength, records⟩ := connectTxs_storable start height
    (fun tx member => ⟨pass.checkedTx tx (connectedTxs.subset member),
      checkTransaction_inputs (each tx (connectedTxs.subset member))⟩) stages.transactions
  rw [stages.vtxundo, isLast, List.nil_append]
  constructor
  · rw [List.length_drop]
    omega
  · exact fun undo member => records undo (List.mem_of_mem_drop member)

theorem undo_written {digests : Digests} {points : KeyPoints} {vtxundo : List (List Coin)}
    {hashBlock : Uint256} (few : vtxundo.length ≤ maxSize) (records : ∀ undo ∈ vtxundo, RecordStorable undo) :
    ∃ file, undoWriteToDisk digests points vtxundo hashBlock = .ok file
      ∧ undoReadFromDisk digests points file hashBlock = .ok (vtxundo.map fun coins => coins.map readBack) := by
  have recordable : Recordable vtxundo :=
    ⟨few, fun coins member => (records coins member).inputs,
      fun coins member coin_ isCoin => short_of_spendable ((records coins member).coins coin_ isCoin).kept⟩
  have doubled : (vtxundo.all fun coins => coins.all fun coin_ =>
      decide (((TxInUndo.ofCoin coin_).nCode : Int) ≤ intMax)) = true := by
    simp only [List.all_eq_true, decide_eq_true_eq]
    intro coins member coin_ isCoin
    have code := ((records coins member).coins coin_ isCoin).nCode_lt
    simp only [intMax]
    omega
  have areRecords : undoRecords vtxundo = .ok (vtxundo.map fun coins => coins.map TxInUndo.ofCoin) :=
    if_pos doubled
  have writes : ∃ file, undoWriteToDisk digests points vtxundo hashBlock = .ok file :=
    ⟨_, map_eq_ok.mpr ⟨_, areRecords, rfl⟩⟩
  obtain ⟨file, writes⟩ := writes
  exact ⟨file, writes, undoReadFromDisk_written recordable writes⟩

theorem map_readBack_iff {vtxundo : List (List Coin)} (records : ∀ undo ∈ vtxundo, RecordStorable undo) :
    (vtxundo.map fun coins => coins.map readBack) = vtxundo
      ↔ ∀ coins ∈ vtxundo, ∀ coin_ ∈ coins, ShortCoin coin_ := by
  have each : ∀ {α : Type} (f : α → α) (items : List α), items.map f = items ↔ ∀ item ∈ items, f item = item := by
    intro α f items
    conv_lhs => rhs; rw [← List.map_id items]
    exact List.map_inj_left
  rw [each]
  refine forall₂_congr fun coins member => ?_
  rw [each]
  exact forall₂_congr fun coin_ isCoin => readBack_iff ((records coins member).coins coin_ isCoin)

/-- A coin with an amount of money, a height below 2^30 and a script that `AddCoin` keeps is read
as it was written, in the coin database and in undo data, exactly when the short form of its amount
fits 64 bits. The undo data of an accepted block are always read, and equal what was written
exactly when this holds of every coin the block has spent. -/
theorem stored_coins_read_back (points : KeyPoints) :
    (∀ coin_ rest, StorableCoin coin_ →
      ((unserializeCoin points).run (serializeCoin points coin_ ++ rest) = some (coin_, rest)
          ↔ ShortCoin coin_)
        ∧ ((unserializeTxInUndo points).run (serializeTxInUndo points coin_ ++ rest) = some (coin_, rest)
          ↔ ShortCoin coin_))
      ∧ ∀ (node : NodeContext) (c : Chainstate) (connection : Connection) (connected : Connected)
        (hashBlock : Uint256), CoinsStorable c.coinsTip →
        connection.pindex.nHeight < 2 ^ 30 →
        (connection.source.read node c.globals.env >>= fun block => connectBlock (c.context node connection)
          connection.pool false block connection.pindex c.blockView) = .ok connected →
        ∃ file vtxundo, undoWriteToDisk c.globals.env.digests points connected.vtxundo hashBlock = .ok file
          ∧ undoReadFromDisk c.globals.env.digests points file hashBlock = .ok vtxundo
          ∧ (vtxundo = connected.vtxundo ↔ ∀ coins ∈ connected.vtxundo, ∀ coin_ ∈ coins, ShortCoin coin_) := by
  constructor
  · intro coin_ rest storable
    rw [unserializeCoin_run storable, unserializeTxInUndo_run storable, Option.some.injEq, Prod.mk.injEq,
      and_iff_left rfl, readBack_iff storable]
    exact ⟨Iff.rfl, Iff.rfl⟩
  · intro node c connection connected hashBlock storable height accepts
    obtain ⟨few, records⟩ := accepted_records storable height accepts
    obtain ⟨file, writes, reads⟩ := undo_written few records
    exact ⟨file, _, writes, reads, map_readBack_iff records⟩

theorem richState_storable {nValue : CAmount} (money : 0 ≤ nValue ∧ nValue ≤ maxMoney) :
    CoinsStorable (richState nValue).coinsTip := by
  constructor
  · intro key entry found
    rw [Std.TreeMap.getElem?_emptyc] at found
    cases found
  · intro key coin_ found
    dsimp only at found
    split_ifs at found
    · cases found
      have kept : isUnspendable anyoneCanSpend = false := by decide
      exact ⟨money, show 1 < 2 ^ 30 by decide, kept⟩
    · cases found
      exact ⟨by decide, by decide, by decide⟩

/-- Twenty billion coins survive in a coin and in the undo data of a block. -/
theorem stored_coins_read_back_payout :
    (unserializeCoin noPoints).run (serializeCoin noPoints (richCoin 2000000000000000000) ++ [])
        = some (richCoin 2000000000000000000, [])
      ∧ ∃ (connected : Connected) (file : Bytes) (vtxundo : List (List Coin)),
        undoWriteToDisk payoutEnv.digests noPoints connected.vtxundo (minutelyHash 1) = .ok file
          ∧ undoReadFromDisk payoutEnv.digests noPoints file (minutelyHash 1) = .ok vtxundo
          ∧ (vtxundo = connected.vtxundo ↔ ∀ coins ∈ connected.vtxundo, ∀ coin_ ∈ coins, ShortCoin coin_) := by
  obtain ⟨single, block⟩ := stored_coins_read_back noPoints
  have storable : StorableCoin (richCoin 2000000000000000000) := ⟨by decide, by decide, by decide⟩
  refine ⟨(single _ _ storable).1.mpr (by decide), ?_⟩
  obtain ⟨r, undoes⟩ := toOption_isSome.mp undoPayout_isSome
  obtain ⟨connected, file, accepted, -⟩ := undoPayout_ok undoes
  exact ⟨connected, block launchNode (richState 2000000000000000000) taggedConnection connected
    (minutelyHash 1) (richState_storable (by decide)) (by decide) accepted.accepts⟩

/-- One unit less than all the money is read as more than all the money. -/
theorem richCoin_misread :
    StorableCoin (richCoin 2099999999999999999)
      ∧ (unserializeCoin noPoints).run (serializeCoin noPoints (richCoin 2099999999999999999))
        = some (richCoin 5555605888118076368, [])
      ∧ (unserializeTxInUndo noPoints).run (serializeTxInUndo noPoints (richCoin 2099999999999999999))
        = some (richCoin 5555605888118076368, []) :=
  ⟨⟨by decide, by decide, by decide⟩, by decide, by decide⟩

end BlackRaven.Chain
