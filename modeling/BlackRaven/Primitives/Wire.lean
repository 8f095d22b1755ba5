import BlackRaven.Primitives.Transaction
import Mathlib.Algebra.Order.BigOperators.Group.List

/-!
Contract: `UnserializeTransaction` of `primitives/transaction.h`.

Owns: reading a transaction back from its bytes, and what the bytes without witness data,
and with them the id, say about a transaction: everything but the witness, except the type of
a transaction whose version is negative. `n32bitVersion` extends the sign of the version over
the bits of the type.
-/

namespace BlackRaven.Primitives

open Lib

/-! ## Fields -/

variable {n : Nat}

theorem readNumber_run {count : Nat} (small : n < 256 ^ count) (rest : List UInt8) :
    (readNumber count).run (toBytesLE count n ++ rest) = some (n, rest) := by
  have taken := takeBytes_run_append (toBytesLE count n) rest
  rw [toBytesLE_length] at taken
  rw [readNumber, StateT.run_bind, taken]
  simp [ofBytesLE_toBytesLE, Nat.mod_eq_of_lt small]

theorem readNumber_byte (small : n < 256) (rest : List UInt8) :
    (readNumber 1).run (UInt8.ofNat n :: rest) = some (n, rest) :=
  readNumber_run (by simpa using small) rest

theorem readCompactSize_run {nSize : Nat} (fits : nSize ≤ maxSize) (rest : List UInt8) :
    readCompactSize.run (writeCompactSize nSize ++ rest) = some (nSize, rest) := by
  have inRange : ¬ nSize > maxSize := not_lt.mpr fits
  unfold writeCompactSize readCompactSize
  by_cases byte : nSize < 253
  · rw [if_pos byte, List.singleton_append, StateT.run_bind, readNumber_byte (by omega)]
    simp [byte, inRange]
  · by_cases short : nSize ≤ 0xffff
    · rw [if_neg byte, if_pos short, List.cons_append, StateT.run_bind,
        show (253 : UInt8) = UInt8.ofNat 253 from rfl, readNumber_byte (by omega)]
      have number := readNumber_run (show nSize < 256 ^ 2 by omega) rest
      simp [number, byte, inRange]
    · have long : nSize ≤ 0xffffffff := fits.trans (by decide)
      rw [if_neg byte, if_neg short, if_pos long, List.cons_append, StateT.run_bind,
        show (254 : UInt8) = UInt8.ofNat 254 from rfl, readNumber_byte (by omega)]
      have number := readNumber_run (show nSize < 256 ^ 4 by omega) rest
      have notShort : ¬ nSize < 0x10000 := by omega
      simp [number, notShort, inRange]

theorem readCompactSize_sized : Yields readCompactSize (· ≤ maxSize) := by
  have checked : ∀ n, Yields (if n > maxSize then failure else pure n : Decoder Nat) (· ≤ maxSize) := by
    intro n
    constructor
    intro bytes size rest runs
    split at runs
    · cases runs
    · rename_i fits
      cases runs
      exact not_lt.mp fits
  exact .of_any fun _ => .ite (checked _) (.ite (.of_any fun _ => .ite (.of_any checked) (checked _))
    (.ite (.of_any fun _ => .ite (.of_any checked) (checked _))
      (.of_any fun _ => .ite (.of_any checked) (checked _))))

theorem readString_sized : Yields readString fun str => str.length ≤ maxSize :=
  readCompactSize_sized.bind fun nSize fits =>
    ⟨fun takes => ((takeBytes_sized nSize).holds takes).trans_le fits⟩

def compactSize : Codec Nat where
  Admissible := fun nSize => nSize ≤ maxSize
  encode := writeCompactSize
  decode := readCompactSize
  decode_encode := fun _ rest fits => readCompactSize_run fits rest

def string : Codec Bytes where
  Admissible := fun str => str.length ≤ maxSize
  encode := writeString
  decode := readString
  decode_encode := by
    intro str rest fits
    rw [writeString, List.append_assoc, readString, StateT.run_bind, readCompactSize_run fits]
    exact takeBytes_run_append str rest

def outPoint : Codec COutPoint where
  Admissible := fun _ => True
  encode := COutPoint.serialize
  decode := do
    let hash ← u256.decode
    let n ← u32.decode
    return ⟨hash, n⟩
  decode_encode := by
    intro out rest _
    rw [COutPoint.serialize, List.append_assoc, u256.run_bind_encode _ _ _ (u256_admissible _),
      u32.run_bind_encode _ _ _ (u32_admissible _)]
    rfl

def txInput : Codec CTxIn where
  Admissible := fun txin => txin.scriptSig.length ≤ maxSize ∧ txin.scriptWitness = []
  encode := fun txin =>
    txin.prevout.serialize ++ writeString txin.scriptSig ++ u32.encode txin.nSequence
  decode := do
    let prevout ← outPoint.decode
    let scriptSig ← string.decode
    let nSequence ← u32.decode
    return ⟨prevout, scriptSig, nSequence, []⟩
  decode_encode := by
    rintro ⟨prevout, scriptSig, nSequence, scriptWitness⟩ rest ⟨fits, noWitness⟩
    have first := outPoint.run_bind_encode (fun prevout => do
        let scriptSig ← string.decode
        let nSequence ← u32.decode
        return (⟨prevout, scriptSig, nSequence, []⟩ : CTxIn)) prevout
      (string.encode scriptSig ++ (u32.encode nSequence ++ rest)) trivial
    rw [string.run_bind_encode _ _ _ fits, u32.run_bind_encode _ _ _ (u32_admissible _)] at first
    obtain rfl : scriptWitness = [] := noWitness
    rw [List.append_assoc, List.append_assoc]
    exact first

def txOutput : Codec CTxOut where
  Admissible := fun txout =>
    (-2 ^ 63 ≤ txout.nValue ∧ txout.nValue < 2 ^ 63) ∧ txout.scriptPubKey.length ≤ maxSize
  encode := CTxOut.serialize
  decode := do
    let nValue ← u64.decode
    let scriptPubKey ← string.decode
    return ⟨nValue.toInt, scriptPubKey⟩
  decode_encode := by
    rintro ⟨nValue, scriptPubKey⟩ rest ⟨⟨low, high⟩, fits⟩
    have script := string.run_bind_encode (fun scriptPubKey =>
        (pure ⟨(BitVec.ofInt 64 nValue).toInt, scriptPubKey⟩ : Decoder CTxOut)) scriptPubKey rest fits
    have value : (BitVec.ofInt 64 nValue).toInt = nValue := by
      rw [BitVec.toInt_ofInt]
      exact Int.bmod_eq_of_le (by simpa using low) (by simpa using high)
    rw [CTxOut.serialize, List.append_assoc, u64.run_bind_encode _ _ _ (u64_admissible _)]
    rw [value] at script ⊢
    exact script

/-! ## Transactions -/

def txInputs : Codec (List CTxIn) := Codec.vector compactSize txInput
def txOutputs : Codec (List CTxOut) := Codec.vector compactSize txOutput
def witnessStack : Codec (List Bytes) := Codec.vector compactSize string

def readWitnesses : List CTxIn → Decoder (List CTxIn)
  | [] => pure []
  | txin :: vin => do
      let scriptWitness ← witnessStack.decode
      let rest ← readWitnesses vin
      return { txin with scriptWitness } :: rest

/-- The flags and the two vectors. An empty vector of inputs may be the mark of the extended
format. -/
def readBody (fAllowWitness : Bool) : Decoder (Nat × List CTxIn × List CTxOut) := do
  let vin ← txInputs.decode
  if vin.isEmpty && fAllowWitness then do
    let flags ← readNumber 1
    if flags ≠ 0 then do
      let vin ← txInputs.decode
      let vout ← txOutputs.decode
      return (flags, vin, vout)
    else return (0, [], [])
  else do
    let vout ← txOutputs.decode
    return (0, vin, vout)

def readWitness (flags : Nat) (vin : List CTxIn) : Decoder (List CTxIn) :=
  if flags = 0 then pure vin
  else if flags = 1 then readWitnesses vin
  else failure

def readPayload (nVersion nType : BitVec 16) : Decoder Bytes :=
  if nVersion = 3 ∧ nType ≠ transactionNormal then string.decode else pure []

def unserializeTransaction (fAllowWitness : Bool) : Decoder CTransaction := do
  let n32bitVersion ← u32.decode
  let nVersion := n32bitVersion.setWidth 16
  let nType := (n32bitVersion >>> 16).setWidth 16
  let (flags, vin, vout) ← readBody fAllowWitness
  let vin ← readWitness flags vin
  let nLockTime ← u32.decode
  let vExtraPayload ← readPayload nVersion nType
  return { nVersion, nType, vin, vout, nLockTime, vExtraPayload }

/-- The basic format, which a non-empty vector of inputs tells apart from the extended one. -/
theorem readBody_basic {fAllowWitness : Bool} {vin : List CTxIn} {vout : List CTxOut}
    (inputs : txInputs.Admissible vin) (outputs : txOutputs.Admissible vout)
    (basic : (vin.isEmpty && fAllowWitness) = false) (rest : List UInt8) :
    (readBody fAllowWitness).run (txInputs.encode vin ++ (txOutputs.encode vout ++ rest))
      = some ((0, vin, vout), rest) := by
  rw [readBody, txInputs.run_bind_encode _ _ _ inputs, basic, if_neg Bool.false_ne_true,
    txOutputs.run_bind_encode _ _ _ outputs]
  rfl

namespace CTransaction

/-- The type as it comes back from `n32bitVersion`. -/
def storedType (tx : CTransaction) : BitVec 16 := if tx.nVersion.msb then BitVec.allOnes 16 else tx.nType

/-- What the bytes without witness data say of a transaction. -/
def stripped (tx : CTransaction) : CTransaction where
  nVersion := tx.nVersion
  nType := tx.storedType
  vin := tx.vin.map fun txin => { txin with scriptWitness := [] }
  vout := tx.vout
  nLockTime := tx.nLockTime
  vExtraPayload := if tx.nVersion = 3 ∧ tx.nType ≠ transactionNormal then tx.vExtraPayload else []

structure Sized (tx : CTransaction) : Prop where
  inputs : tx.vin.length ≤ maxSize ∧ ∀ txin ∈ tx.vin, txin.scriptSig.length ≤ maxSize
  outputs : txOutputs.Admissible tx.vout
  payload : tx.nVersion = 3 ∧ tx.nType ≠ transactionNormal → tx.vExtraPayload.length ≤ maxSize

theorem length_le_flatMap {α : Type} {items : List α} (encode : α → Bytes) {item : α}
    (member : item ∈ items) : (encode item).length ≤ (items.flatMap encode).length :=
  (List.sublist_flatten_of_mem (List.mem_map_of_mem member)).length_le

theorem mul_count_le_flatMap {α : Type} {items : List α} {encode : α → Bytes} {least : Nat}
    (long : ∀ item ∈ items, least ≤ (encode item).length) :
    items.length * least ≤ (items.flatMap encode).length := by
  have counted := List.card_nsmul_le_sum (items.map fun item => (encode item).length) least
    (List.forall_mem_map.mpr long)
  rwa [List.length_map, ← List.length_flatMap] at counted

variable {tx : CTransaction}

theorem sized_of_length (small : tx.serializeNoWitness.length ≤ maxSize)
    (values : ∀ txout ∈ tx.vout, -2 ^ 63 ≤ txout.nValue ∧ txout.nValue < 2 ^ 63) : tx.Sized := by
  simp only [serializeNoWitness, List.length_append] at small
  have inputBytes : (tx.vin.flatMap txInput.encode).length ≤ maxSize := by
    change (tx.vin.flatMap fun txin : CTxIn =>
      txin.prevout.serialize ++ writeString txin.scriptSig ++ u32.encode txin.nSequence).length ≤ _
    omega
  have outputBytes : (tx.vout.flatMap CTxOut.serialize).length ≤ maxSize := by omega
  have payloadBytes : tx.serializePayload.length ≤ maxSize := by omega
  have inputSize : ∀ txin : CTxIn,
      txin.scriptSig.length ≤ (txInput.encode txin).length ∧ 1 ≤ (txInput.encode txin).length := by
    simp only [txInput, writeString, List.length_append, u32_length]
    omega
  have outputSize : ∀ txout : CTxOut,
      txout.scriptPubKey.length ≤ txout.serialize.length ∧ 1 ≤ txout.serialize.length := by
    simp only [CTxOut.serialize, writeString, List.length_append, u64_length]
    omega
  refine ⟨⟨?_, ?_⟩, ⟨?_, ?_⟩, ?_⟩
  · exact ((mul_one _).symm.trans_le (mul_count_le_flatMap fun txin _ => (inputSize txin).2)).trans inputBytes
  · intro txin member
    exact ((inputSize txin).1.trans (length_le_flatMap txInput.encode member)).trans inputBytes
  · exact ((mul_one _).symm.trans_le (mul_count_le_flatMap fun txout _ => (outputSize txout).2)).trans outputBytes
  · intro txout member
    exact ⟨values txout member,
      ((outputSize txout).1.trans (length_le_flatMap CTxOut.serialize member)).trans outputBytes⟩
  · intro special
    rw [serializePayload, if_pos special, writeString, List.length_append] at payloadBytes
    omega

theorem n32bitVersion_low (tx : CTransaction) : tx.n32bitVersion.setWidth 16 = tx.nVersion := by
  apply BitVec.eq_of_getLsbD_eq
  intro i inside
  simp only [n32bitVersion, BitVec.getLsbD_setWidth, BitVec.getLsbD_or, BitVec.getLsbD_signExtend,
    BitVec.getLsbD_shiftLeft]
  simp [inside, show i < 32 by omega]

theorem n32bitVersion_high (tx : CTransaction) : (tx.n32bitVersion >>> 16).setWidth 16 = tx.storedType := by
  apply BitVec.eq_of_getLsbD_eq
  intro i inside
  simp only [n32bitVersion, storedType, BitVec.getLsbD_setWidth, BitVec.getLsbD_ushiftRight,
    BitVec.getLsbD_or, BitVec.getLsbD_signExtend, BitVec.getLsbD_shiftLeft]
  cases negative : tx.nVersion.msb with
  | true =>
    simp only [if_true, BitVec.getLsbD_allOnes]
    simp [inside, show 16 + i < 32 by omega]
  | false => simp [inside, show 16 + i < 32 by omega, show i < 32 by omega]

theorem special_storedType (tx : CTransaction) :
    (tx.nVersion = 3 ∧ tx.storedType ≠ transactionNormal)
      ↔ (tx.nVersion = 3 ∧ tx.nType ≠ transactionNormal) := by
  constructor
  · rintro ⟨isThree, special⟩
    refine ⟨isThree, ?_⟩
    rwa [storedType, isThree, if_neg (by decide)] at special
  · rintro ⟨isThree, special⟩
    refine ⟨isThree, ?_⟩
    rwa [storedType, isThree, if_neg (by decide)]

/-- The inputs without their witnesses are written as the inputs are. -/
theorem encode_strippedInputs (vin : List CTxIn) :
    txInputs.encode (vin.map fun txin => { txin with scriptWitness := [] })
      = writeCompactSize vin.length ++ (vin.flatMap fun txin =>
          txin.prevout.serialize ++ writeString txin.scriptSig ++ u32.encode txin.nSequence) := by
  change writeCompactSize (vin.map _).length ++ (vin.map _).flatMap txInput.encode = _
  rw [List.length_map, List.flatMap_map]
  rfl

theorem serializeNoWitness_eq (tx : CTransaction) (rest : List UInt8) :
    tx.serializeNoWitness ++ rest
      = u32.encode tx.n32bitVersion ++ (txInputs.encode tx.stripped.vin
        ++ (txOutputs.encode tx.vout ++ (u32.encode tx.nLockTime ++ (tx.serializePayload ++ rest)))) := by
  rw [stripped, encode_strippedInputs]
  change _ = _ ++ (_ ++ ((writeCompactSize _ ++ tx.vout.flatMap CTxOut.serialize) ++ _))
  simp only [serializeNoWitness, List.append_assoc]

theorem readPayload_run (sized : tx.Sized) (rest : List UInt8) :
    (readPayload tx.nVersion tx.storedType).run (tx.serializePayload ++ rest)
      = some (tx.stripped.vExtraPayload, rest) := by
  unfold readPayload serializePayload stripped
  by_cases special : tx.nVersion = 3 ∧ tx.nType ≠ transactionNormal
  · rw [if_pos special, if_pos (tx.special_storedType.mpr special)]
    simp only [if_pos special]
    exact string.decode_encode _ _ (sized.payload special)
  · rw [if_neg special, if_neg (mt tx.special_storedType.mp special)]
    simp only [if_neg special]
    rfl

/-- Reading the bytes without witness data gives back what they say. -/
theorem unserialize_serializeNoWitness (sized : tx.Sized) (rest : List UInt8) :
    (unserializeTransaction false).run (tx.serializeNoWitness ++ rest) = some (tx.stripped, rest) := by
  have inputs : txInputs.Admissible tx.stripped.vin := by
    refine ⟨?_, ?_⟩
    · change (tx.vin.map _).length ≤ maxSize
      rw [List.length_map]
      exact sized.inputs.1
    · intro txin member
      obtain ⟨original, isMember, rfl⟩ := List.mem_map.mp member
      exact ⟨sized.inputs.2 original isMember, rfl⟩
  rw [serializeNoWitness_eq, unserializeTransaction, u32.run_bind_encode _ _ _ (u32_admissible _)]
  simp only [n32bitVersion_low, n32bitVersion_high]
  rw [StateT.run_bind, readBody_basic inputs sized.outputs (Bool.and_false _)]
  simp only [Option.bind_eq_bind, Option.bind_some]
  rw [readWitness, if_pos rfl, pure_bind, u32.run_bind_encode _ _ _ (u32_admissible _),
    StateT.run_bind, readPayload_run sized]
  rfl

/-- Transactions with the same bytes agree on all that the bytes say. -/
theorem serializeNoWitness_inj {left right : CTransaction} (leftSized : left.Sized)
    (rightSized : right.Sized) (same : left.serializeNoWitness = right.serializeNoWitness) :
    left.stripped = right.stripped := by
  have leftRun := unserialize_serializeNoWitness leftSized []
  have rightRun := unserialize_serializeNoWitness rightSized []
  rw [same, rightRun] at leftRun
  exact (Prod.mk.inj (Option.some.inj leftRun)).1.symm

theorem stripped_prevouts (tx : CTransaction) :
    tx.stripped.vin.map CTxIn.prevout = tx.vin.map CTxIn.prevout := by
  simp [stripped, Function.comp_def]

end CTransaction

end BlackRaven.Primitives
