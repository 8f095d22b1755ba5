import BlackRaven.Lib.Codec
import BlackRaven.Primitives.Integers

/-!
Contract: `CScript` of `script/script.h` and `script/script.cpp`.

Owns: the reader of one operation, the list of operations of a script, and the
tests on the raw bytes, among them the ones that recognise asset scripts.

An asset script is recognised by bytes at fixed offsets; nothing is required of its
first 25 bytes.
-/

namespace BlackRaven.Script

open Lib

/-! ## Opcodes -/

def op0 : UInt8 := 0x00
def opPushdata1 : UInt8 := 0x4c
def opPushdata2 : UInt8 := 0x4d
def opPushdata4 : UInt8 := 0x4e
def op1Negate : UInt8 := 0x4f
def opReserved : UInt8 := 0x50
def op1 : UInt8 := 0x51
def op16 : UInt8 := 0x60
def opReturn : UInt8 := 0x6a
def opDrop : UInt8 := 0x75
def opDup : UInt8 := 0x76
def opEqual : UInt8 := 0x87
def opEqualverify : UInt8 := 0x88
def opHash160 : UInt8 := 0xa9
def opChecksig : UInt8 := 0xac
def opCheckmultisig : UInt8 := 0xae
def opBlkrAsset : UInt8 := 0xc0

def maxScriptElementSize : Nat := 520
def maxScriptSize : Nat := 10000

/-! ## Reading operations -/

/-- `ReadLE16` and `ReadLE32` at the front of the script. -/
def readLE (count : Nat) (pc : Bytes) : Option (Nat × Bytes) :=
  if pc.length < count then none else some (ofBytesLE (pc.take count), pc.drop count)

variable (opcode : UInt8) (script : Bytes)

/-- The size of the operand of a push and where the operand starts. -/
def operandSize (pc : Bytes) : Option (Nat × Bytes) :=
  if opcode < opPushdata1 then some (opcode.toNat, pc)
  else if opcode = opPushdata1 then readLE 1 pc
  else if opcode = opPushdata2 then readLE 2 pc
  else if opcode = opPushdata4 then readLE 4 pc
  else some (0, pc)

/-- `GetOp2`: the opcode, its data and the rest of the script. Everything after
`OP_BLKR_ASSET` is its data. -/
def getOp : Bytes → Option (UInt8 × Bytes × Bytes)
  | [] => none
  | opcode :: pc =>
    if opcode = opBlkrAsset then some (opcode, pc, [])
    else
      match operandSize opcode pc with
      | none => none
      | some (nSize, operand) =>
        if operand.length < nSize then none
        else some (opcode, operand.take nSize, operand.drop nSize)

theorem getOp_blkrAsset (data : Bytes) : getOp (opBlkrAsset :: data) = some (opBlkrAsset, data, []) := by
  simp only [getOp, if_true]

theorem getOp_plain {opcode : UInt8} (rest : Bytes) (notAsset : opcode ≠ opBlkrAsset)
    (above : opPushdata4 < opcode) : getOp (opcode :: rest) = some (opcode, [], rest) := by
  have size : operandSize opcode rest = some (0, rest) := by
    have above1 : ¬ opcode < opPushdata1 := by
      intro below
      exact absurd (UInt8.lt_trans above below) (by decide)
    have not1 : opcode ≠ opPushdata1 := fun same => absurd above (by rw [same]; decide)
    have not2 : opcode ≠ opPushdata2 := fun same => absurd above (by rw [same]; decide)
    have not4 : opcode ≠ opPushdata4 := fun same => absurd above (by rw [same]; decide)
    simp only [operandSize, above1, not1, not2, not4, if_false]
  simp only [getOp, notAsset, if_false, size]
  simp

theorem getOp_push {data : Bytes} (rest : Bytes) (direct : data.length < opPushdata1.toNat) :
    getOp (UInt8.ofNat data.length :: (data ++ rest)) = some (UInt8.ofNat data.length, data, rest) := by
  have value : (UInt8.ofNat data.length).toNat = data.length := by
    exact Nat.mod_eq_of_lt (lt_trans direct (by decide))
  have below : UInt8.ofNat data.length < opPushdata1 := by
    rw [UInt8.lt_iff_toNat_lt, value]
    exact direct
  have notAsset : UInt8.ofNat data.length ≠ opBlkrAsset := by
    intro same
    rw [same] at below
    exact absurd below (by decide)
  simp only [getOp, notAsset, if_false, operandSize, below, if_true, value]
  simp

/-- The operations up to the end of the script or to the first that cannot be read,
and whether the end was reached. One operation takes at least one byte, so the length
of the script is enough fuel. -/
def opsFrom : Nat → Bytes → List (UInt8 × Bytes) × Bool
  | 0, pc => ([], pc.isEmpty)
  | fuel + 1, pc =>
    if pc.isEmpty then ([], true)
    else
      match getOp pc with
      | none => ([], false)
      | some (opcode, data, rest) =>
        let later := opsFrom fuel rest
        ((opcode, data) :: later.1, later.2)

def ops : List (UInt8 × Bytes) × Bool := opsFrom script.length script

/-- `Find`, as the truth value it is used as. -/
def find (op : UInt8) : Bool := (ops script).1.any fun operation => operation.1 == op

def isPushOnly : Bool :=
  (ops script).2 && (ops script).1.all fun operation => decide (operation.1 ≤ op16)

def decodeOpN : Nat := if opcode = op0 then 0 else opcode.toNat - 0x50

def isSmallInteger : Bool :=
  opcode == op0 || (decide (op1 ≤ opcode) && decide (opcode ≤ op16))

/-- `operator<<` of a byte vector: the bytes a push of it takes in a script. -/
def pushData (data : Bytes) : Bytes :=
  (if data.length < opPushdata1.toNat then [UInt8.ofNat data.length]
    else if data.length ≤ 0xff then opPushdata1 :: toBytesLE 1 data.length
    else if data.length ≤ 0xffff then opPushdata2 :: toBytesLE 2 data.length
    else opPushdata4 :: toBytesLE 4 data.length) ++ data

/-! ## Tests on the bytes -/

def isPayToPublicKeyHash : Bool :=
  script.length == 25 && script.getD 0 0 == opDup && script.getD 1 0 == opHash160
    && script.getD 2 0 == 0x14 && script.getD 23 0 == opEqualverify
    && script.getD 24 0 == opChecksig

def isPayToScriptHash : Bool :=
  script.length == 23 && script.getD 0 0 == opHash160 && script.getD 1 0 == 0x14 && script.getD 22 0 == opEqual

/-- `IsWitnessProgram`: version and program. -/
def isWitnessProgram : Option (Nat × Bytes) :=
  if script.length < 4 || script.length > 42 then none
  else if !isSmallInteger (script.getD 0 0) then none
  else if (script.getD 1 0).toNat + 2 = script.length then
    some (decodeOpN (script.getD 0 0), script.drop 2)
  else none

/-- What `IsAssetScript` tells apart through `nType` and `fIsOwner`. -/
inductive AssetScriptKind where
  | transferAsset
  | newAsset
  | ownerAsset
  | reissueAsset
  deriving DecidableEq, Repr

-- BLKR_N, BLKR_E, BLKR_X, then the letter of the kind.
def blkrN : UInt8 := 114
def blkrE : UInt8 := 118
def blkrX : UInt8 := 110
def blkrQ : UInt8 := 113
def blkrT : UInt8 := 116
def blkrO : UInt8 := 111

/-- Where the letter of the kind is: the three letters start at 27 or at 28. When
offset 27 has the first letter the other place is not tried. -/
def assetLetterIndex : Option Nat :=
  if script.getD 27 0 = blkrN then
    if script.getD 28 0 = blkrE ∧ script.getD 29 0 = blkrX then some 30 else none
  else if script.getD 28 0 = blkrN ∧ script.getD 29 0 = blkrE ∧ script.getD 30 0 = blkrX then some 31
  else none

/-- `IsAssetScript`: the kind and `nStartingIndex`, where the data of the asset
begins. -/
def isAssetScript : Option (AssetScriptKind × Nat) :=
  if script.length > 31 ∧ script.getD 25 0 = opBlkrAsset then
    match assetLetterIndex script with
    | none => none
    | some index =>
      if script.getD index 0 = blkrT then some (.transferAsset, index + 1)
      else if script.getD index 0 = blkrQ ∧ script.length > 39 then some (.newAsset, index + 1)
      else if script.getD index 0 = blkrO then some (.ownerAsset, index + 1)
      else if script.getD index 0 = blkrN then some (.reissueAsset, index + 1)
      else none
  else none

def assetKind : Option AssetScriptKind := (isAssetScript script).map Prod.fst

def isNullAssetTxDataScript : Bool :=
  decide (script.length > 23) && script.getD 0 0 == opBlkrAsset && script.getD 1 0 == 0x14

def isNullGlobalRestrictionAssetTxDataScript : Bool :=
  decide (script.length > 6) && script.getD 0 0 == opBlkrAsset && script.getD 1 0 == opReserved
    && script.getD 2 0 == opReserved

def isNullAssetVerifierTxDataScript : Bool :=
  decide (script.length > 3) && script.getD 0 0 == opBlkrAsset && script.getD 1 0 == opReserved
    && script.getD 2 0 != opReserved

def isNullAsset : Bool :=
  isNullAssetTxDataScript script || isNullGlobalRestrictionAssetTxDataScript script
    || isNullAssetVerifierTxDataScript script

/-- A recognised asset script is longer than 31 bytes and has `OP_BLKR_ASSET` at
offset 25. -/
theorem isAssetScript_some {script : Bytes} {kind : AssetScriptKind} {start : Nat}
    (recognised : isAssetScript script = some (kind, start)) :
    31 < script.length ∧ script.getD 25 0 = opBlkrAsset ∧ (start = 31 ∨ start = 32) := by
  unfold isAssetScript at recognised
  by_cases shape : script.length > 31 ∧ script.getD 25 0 = opBlkrAsset
  · rw [if_pos shape] at recognised
    refine ⟨shape.1, shape.2, ?_⟩
    have place : ∀ index, assetLetterIndex script = some index → index = 30 ∨ index = 31 := by
      intro index found
      unfold assetLetterIndex at found
      split at found
      · split at found
        · exact Or.inl (Option.some.inj found).symm
        · cases found
      · split at found
        · exact Or.inr (Option.some.inj found).symm
        · cases found
    cases found : assetLetterIndex script with
    | none =>
      rw [found] at recognised
      cases recognised
    | some index =>
      have isIndex := place index found
      simp only [found] at recognised
      have isStart : start = index + 1 := by
        split_ifs at recognised <;> exact (Prod.mk.inj (Option.some.inj recognised)).2.symm
      omega
  · rw [if_neg shape] at recognised
    cases recognised

end BlackRaven.Script
