import BlackRaven.Chain.ConnectBlock
import BlackRaven.Script.Compressor

/-!
Contract: `undo.h`, and `UndoWriteToDisk` and `UndoReadFromDisk` of `validation.cpp`.

Owns: the record of a spent coin, with its height and its coinbase mark in one number and its
output in the short form, the records of a block, and what is read back from them.

Does not own: where in a file the records lie, and the bytes before them.
-/

namespace BlackRaven.Chain

open Consensus Lib Primitives Script

/-! ## One coin -/

/-- The record of a spent coin as it lies on disk. -/
structure TxInUndo where
  /-- Twice the height, and one for a coinbase. -/
  nCode : Nat
  /-- The amount in its short form. -/
  nVal : Nat
  scriptPubKey : Bytes
  deriving DecidableEq, Repr

variable (coin_ : Coin) (points : KeyPoints)

/-- `TxInUndoSerializer`. -/
def TxInUndo.ofCoin : TxInUndo where
  nCode := coin_.nHeight * 2 + if coin_.fCoinBase then 1 else 0
  nVal := compressAmount (coin_.out.nValue % 2 ^ 64).toNat
  scriptPubKey := coin_.out.scriptPubKey

/-- `TxInUndoDeserializer`. -/
def TxInUndo.coin (record : TxInUndo) : Coin where
  out := ⟨toInt64 (decompressAmount record.nVal), record.scriptPubKey⟩
  nHeight := record.nCode / 2
  fCoinBase := record.nCode % 2 == 1

/-- `VARINT` of an `unsigned int`, of a `uint64_t` and of an `int`. -/
def varIntUint : Codec Nat := varInt (2 ^ 32 - 1)
def varIntUint64 : Codec Nat := varInt (2 ^ 64 - 1)
def varIntInt : Codec Nat := varInt intMax.toNat

def readCompressedTxOut (nCode : Nat) : Decoder TxInUndo := do
  let nVal ← varIntUint64.decode
  let scriptPubKey ← (compressedScript points).decode
  return ⟨nCode, nVal, scriptPubKey⟩

def readTxInUndo (nCode : Nat) : Decoder TxInUndo :=
  if nCode / 2 > 0 then varIntInt.decode >>= fun _ => readCompressedTxOut points nCode
  else readCompressedTxOut points nCode

/-- The record on the stream. A byte zero stands where old versions had the version of the
transaction. -/
def txInUndo : Codec TxInUndo where
  Admissible := fun record =>
    record.nCode < 2 ^ 32 ∧ record.nVal < 2 ^ 64 ∧ record.scriptPubKey.length ≤ maxScriptSize
  encode := fun record =>
    varIntUint.encode record.nCode ++ ((if record.nCode / 2 > 0 then varIntInt.encode 0 else [])
      ++ (varIntUint64.encode record.nVal ++ (compressedScript points).encode record.scriptPubKey))
  decode := varIntUint.decode >>= readTxInUndo points
  decode_encode := by
    rintro ⟨nCode, nVal, scriptPubKey⟩ rest ⟨smallCode, smallVal, short⟩
    have output : (readCompressedTxOut points nCode).run (varIntUint64.encode nVal
        ++ ((compressedScript points).encode scriptPubKey ++ rest))
          = some (⟨nCode, nVal, scriptPubKey⟩, rest) := by
      rw [readCompressedTxOut, varIntUint64.run_bind_encode _ _ _ (Nat.le_sub_one_of_lt smallVal),
        (compressedScript points).run_bind_encode _ _ _ short]
      rfl
    dsimp only
    rw [List.append_assoc, List.append_assoc, List.append_assoc,
      varIntUint.run_bind_encode _ _ _ (Nat.le_sub_one_of_lt smallCode), readTxInUndo]
    by_cases above : nCode / 2 > 0
    · rw [if_pos above, if_pos above, varIntInt.run_bind_encode _ _ _ (Nat.zero_le _)]
      exact output
    · rw [if_neg above, if_neg above]
      exact output

/-! ## The records of a block -/

def minTransactionInputWeight : Nat := witnessScaleFactor * 41

/-- The most records `CTxUndo` reads. -/
def maxInputRecords : Nat := maxBlockWeight / minTransactionInputWeight

/-- `CTxUndo`. -/
def txUndo : Codec (List TxInUndo) where
  Admissible := fun vprevout => vprevout.length ≤ maxInputRecords
    ∧ ∀ record ∈ vprevout, (txInUndo points).Admissible record
  encode := (Codec.vector compactSize (txInUndo points)).encode
  decode := compactSize.decode >>= fun count =>
    if count > maxInputRecords then failure else (txInUndo points).decodeMany count
  decode_encode := by
    rintro vprevout rest ⟨few, admissible⟩
    have sized : vprevout.length ≤ maxSize := few.trans (by decide)
    change StateT.run _ (compactSize.encode vprevout.length ++ vprevout.flatMap (txInUndo points).encode
      ++ rest) = _
    rw [List.append_assoc, compactSize.run_bind_encode _ _ _ sized, if_neg (not_lt.mpr few)]
    exact (txInUndo points).decodeMany_run vprevout rest admissible

/-- `CBlockUndo`. -/
def blockUndo : Codec (List (List TxInUndo)) :=
  Codec.vector compactSize (txUndo points)

/-- The records of the coins a block has spent. The number that holds the height is computed
in an `int`. -/
def undoRecords (vtxundo : List (List Coin)) : Except Failure (List (List TxInUndo)) :=
  if vtxundo.all fun coins => coins.all fun coin_ => decide ((TxInUndo.ofCoin coin_).nCode ≤ intMax) then
    .ok (vtxundo.map fun coins => coins.map TxInUndo.ofCoin)
  else .error (.undefined "txout->nHeight * 2 + (txout->fCoinBase ? 1 : 0)")

def undoWriteToDisk (digests : Digests) (points : KeyPoints) (vtxundo : List (List Coin))
    (hashBlock : Uint256) : Except Failure Bytes :=
  (undoRecords vtxundo).map fun records =>
    let data := (blockUndo points).encode records
    data ++ u256.encode (digests.hash (u256.encode hashBlock ++ data))

/-- `UndoReadFromDisk`. The checksum is of the bytes that were read. -/
def undoReadFromDisk (digests : Digests) (points : KeyPoints) (file : Bytes) (hashBlock : Uint256) :
    Except String (List (List Coin)) :=
  match (blockUndo points).decode.run file with
  | none => .error "Deserialize or I/O error"
  | some (records, rest) =>
    match u256.decode.run rest with
    | none => .error "Deserialize or I/O error"
    | some (hashChecksum, _) =>
      let data := file.take (file.length - rest.length)
      if hashChecksum ≠ digests.hash (u256.encode hashBlock ++ data) then .error "Checksum mismatch"
      else .ok (records.map fun record => record.map TxInUndo.coin)

/-! ## What is read back -/

/-- The coin that is read from the record of another. -/
def readBack : Coin := (TxInUndo.ofCoin coin_).coin

theorem readBack_eq :
    readBack coin_ = { coin_ with out := { coin_.out with
      nValue := toInt64 (decompressAmount (compressAmount (coin_.out.nValue % 2 ^ 64).toNat)) } } := by
  obtain ⟨out, nHeight, fCoinBase⟩ := coin_
  have height : (nHeight * 2 + if fCoinBase = true then 1 else 0) / 2 = nHeight := by
    split <;> omega
  have mark : ((nHeight * 2 + if fCoinBase = true then 1 else 0) % 2 == 1) = fCoinBase := by
    cases fCoinBase <;> simp
  unfold readBack TxInUndo.coin TxInUndo.ofCoin
  dsimp only
  rw [height, mark]

theorem readBack_script : (readBack coin_).out.scriptPubKey = coin_.out.scriptPubKey := by
  obtain ⟨⟨nValue, scriptPubKey⟩, nHeight, fCoinBase⟩ := coin_
  rw [readBack_eq]

theorem readBack_nHeight : (readBack coin_).nHeight = coin_.nHeight := by
  rw [readBack_eq]

theorem readBack_of_short {coin_ : Coin} (money : 0 ≤ coin_.out.nValue ∧ coin_.out.nValue ≤ maxMoney)
    (short : coin_.out.nValue ≤ largestShort ∨ coin_.out.nValue % 10 = 0) : readBack coin_ = coin_ := by
  rw [readBack_eq]
  obtain ⟨out, nHeight, fCoinBase⟩ := coin_
  obtain ⟨nValue, scriptPubKey⟩ := out
  obtain ⟨amount, rfl⟩ := Int.eq_ofNat_of_zero_le money.1
  have bound : (amount : Int) ≤ 2100000000000000000 := money.2
  have shortNat : amount ≤ largestShort ∨ amount % 10 = 0 := by
    rcases short with small | zero
    · exact .inl (Int.ofNat_le.mp small)
    · have zero : (amount : Int) % 10 = 0 := zero
      exact .inr (by omega)
  have value : ((amount : Int) % 2 ^ 64).toNat = amount := by omega
  have fits := shortAmount_lt money.2 shortNat
  rw [value, decompressAmount_compressAmount (by omega) fits, toInt64_of_range (by omega) (by omega)]

/-- Coins that can be written to disk and read again. -/
structure Recordable (vtxundo : List (List Coin)) : Prop where
  transactions : vtxundo.length ≤ maxSize
  inputs : ∀ coins ∈ vtxundo, coins.length ≤ maxInputRecords
  scripts : ∀ coins ∈ vtxundo, ∀ coin_ ∈ coins, coin_.out.scriptPubKey.length ≤ maxScriptSize

theorem compressAmount_lt (n : Nat) : compressAmount n < 2 ^ 64 := Nat.mod_lt _ (by decide)

theorem undoReadFromDisk_written {digests : Digests} {points : KeyPoints} {vtxundo : List (List Coin)}
    {hashBlock : Uint256} {file : Bytes} (recordable : Recordable vtxundo)
    (writes : undoWriteToDisk digests points vtxundo hashBlock = .ok file) :
    undoReadFromDisk digests points file hashBlock = .ok (vtxundo.map fun coins => coins.map readBack) := by
  obtain ⟨records, areRecords, rfl⟩ := map_eq_ok.mp writes
  unfold undoRecords at areRecords
  split at areRecords
  next inRange =>
    cases areRecords
    simp only [List.all_eq_true, decide_eq_true_eq] at inRange
    have admissible : (blockUndo points).Admissible (vtxundo.map fun coins => coins.map TxInUndo.ofCoin) := by
      refine ⟨by rw [List.length_map]; exact recordable.transactions, ?_⟩
      intro records member
      obtain ⟨coins, isCoins, rfl⟩ := List.mem_map.mp member
      refine ⟨by rw [List.length_map]; exact recordable.inputs coins isCoins, ?_⟩
      intro record isRecord
      obtain ⟨coin_, isCoin, rfl⟩ := List.mem_map.mp isRecord
      have code := inRange coins isCoins coin_ isCoin
      simp only [intMax] at code
      exact ⟨by omega, compressAmount_lt _, recordable.scripts coins isCoins coin_ isCoin⟩
    have decoded := (blockUndo points).decode_encode _
      (u256.encode (digests.hash (u256.encode hashBlock ++ (blockUndo points).encode
        (vtxundo.map fun coins => coins.map TxInUndo.ofCoin)))) admissible
    have checksum := u256.decode_encode (digests.hash (u256.encode hashBlock ++ (blockUndo points).encode
      (vtxundo.map fun coins => coins.map TxInUndo.ofCoin))) [] (u256_admissible _)
    rw [List.append_nil] at checksum
    unfold undoReadFromDisk
    rw [decoded]
    dsimp only
    rw [checksum]
    dsimp only
    rw [List.length_append, Nat.add_sub_cancel, List.take_left' rfl, if_neg (not_not.mpr rfl), List.map_map]
    congr 2
    funext coins
    exact List.map_map
  next => cases areRecords

end BlackRaven.Chain
