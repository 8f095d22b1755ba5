import BlackRaven.Lib.LongDivision
import BlackRaven.Primitives.Integers

/-!
Contract: `arith_uint256.h` and `arith_uint256.cpp`, the part proof of work uses.

Owns: the eight-word representation, the operators as the source computes them, the
compact encoding, and for each operator its meaning on natural numbers modulo
`2 ^ 256`.

Does not own: `arith_uint512`, hexadecimal input and output, and the
word-by-word product of two numbers, which the retarget does not call.
-/

namespace BlackRaven.Arith

open Lib Limbs

/-- `base_uint<256>`: eight 32-bit words, least significant first. -/
structure ArithUint256 where
  pn : List (BitVec 32)
  width : pn.length = 8
  deriving DecidableEq

namespace ArithUint256

def value (a : ArithUint256) : Nat := Limbs.value a.pn

/-! ## Construction -/

/-- `base_uint(uint64_t b)`. -/
def ofUint64 (b : Uint64) : ArithUint256 :=
  ⟨[b.setWidth 32, (b >>> 32).setWidth 32, 0, 0, 0, 0, 0, 0], rfl⟩

theorem ofUint64_value (b : Uint64) : (ofUint64 b).value = b.toNat := by
  simp [value, ofUint64, BitVec.toNat_setWidth, BitVec.toNat_ushiftRight, Nat.shiftRight_eq_div_pow]
  omega

def uintToArith256 (a : Uint256) : ArithUint256 :=
  ⟨(List.range 8).map fun x => a.extractLsb' (32 * x) 32, by simp⟩

theorem uintToArith256_value (a : Uint256) : (uintToArith256 a).value = a.toNat := by
  refine value_map_range (by omega) a.isLt fun index _ bit inWord => ?_
  rw [BitVec.getLsbD_extractLsb', decide_eq_true inWord, Bool.true_and]
  rfl

/-! ## Operators -/

variable (a b : ArithUint256) (b32 : Uint32)

/-- `operator*=(uint32_t)`. -/
def mulUint32 : ArithUint256 :=
  ⟨mulWord b32 0 a.pn, by rw [mulWord_length, a.width]⟩

theorem mulUint32_value : (a.mulUint32 b32).value = a.value * b32.toNat % 2 ^ 256 := by
  rw [value, mulUint32, mulWord_value, a.width, Nat.zero_add, Nat.mul_comm b32.toNat]
  rfl

/-- `operator+=`. -/
def add : ArithUint256 :=
  ⟨addCarry 0 a.pn b.pn, by
    rw [addCarry_length _ _ _ (by rw [a.width, b.width]), a.width]⟩

theorem add_value : (a.add b).value = (a.value + b.value) % 2 ^ 256 := by
  rw [value, add, addCarry_value _ _ _ (by rw [a.width, b.width]), a.width, Nat.zero_add]
  rfl

/-- `operator~`. -/
def complement (a : ArithUint256) : ArithUint256 :=
  ⟨Limbs.complement a.pn, by rw [complement_length, a.width]⟩

/-- `operator<<=`. -/
def shiftLeft (a : ArithUint256) (shift : Nat) : ArithUint256 :=
  ⟨Limbs.shiftLeft a.pn shift, by rw [shiftLeft_length, a.width]⟩

/-- `operator>>=`. -/
def shiftRight (a : ArithUint256) (shift : Nat) : ArithUint256 :=
  ⟨Limbs.shiftRight a.pn shift, by rw [shiftRight_length, a.width]⟩

/-- `operator/=`; `none` is the `uint_error` thrown on division by zero. -/
def divide (a b : ArithUint256) : Option ArithUint256 :=
  match divided : Limbs.divide a.pn b.pn with
  | none => none
  | some quotient => some ⟨quotient, by
      rw [divide_length divided, a.width]⟩

theorem divide_value (a b : ArithUint256) (nonzero : 0 < b.value) :
    ∃ quotient, a.divide b = some quotient ∧ quotient.value = a.value / b.value := by
  obtain ⟨words, divided, wordsValue⟩ :=
    Limbs.divide_value (show 0 < 32 by omega) (show a.pn.length = b.pn.length by
      rw [a.width, b.width]) nonzero
  unfold divide
  split
  case h_1 failed => rw [divided] at failed; contradiction
  case h_2 quotient succeeded =>
    rw [divided] at succeeded
    obtain rfl := Option.some.inj succeeded
    exact ⟨_, rfl, wordsValue⟩

def compareTo (a b : ArithUint256) : Ordering := Limbs.compareTo a.pn b.pn

/-- `operator>`. -/
def gt (a b : ArithUint256) : Bool := a.compareTo b == .gt

theorem gt_iff : a.gt b = true ↔ b.value < a.value := by
  rw [gt, compareTo, compareTo_value _ _ (by rw [a.width, b.width]), beq_iff_eq, Nat.compare_eq_gt]
  rfl

/-- `EqualTo(0)`: `a == 0`. -/
def isZero : Bool := a.pn.all (· == 0)

def bits (a : ArithUint256) : Nat := Limbs.bits a.pn

def getLow64 : Uint64 :=
  (a.pn.getD 0 0).setWidth 64 ||| (a.pn.getD 1 0).setWidth 64 <<< 32

/-! ## The compact encoding -/

/-- What `SetCompact` computes: the number and its two flags. -/
structure Compact where
  target : ArithUint256
  fNegative : Bool
  fOverflow : Bool
  deriving DecidableEq

def setCompact (nCompact : Uint32) : Compact :=
  let nSize := (nCompact >>> 24).toNat
  let nWord := nCompact &&& 0x007fffff#32
  let shifted := nWord >>> (8 * (3 - nSize))
  let nWordFinal := if nSize ≤ 3 then shifted else nWord
  { target :=
      if nSize ≤ 3 then ofUint64 (shifted.setWidth 64)
      else (ofUint64 (nWord.setWidth 64)).shiftLeft (8 * (nSize - 3))
    fNegative := nWordFinal != 0 && (nCompact &&& 0x00800000#32) != 0
    fOverflow := nWordFinal != 0 && (decide (nSize > 34) ||
      (decide (nWordFinal.toNat > 0xff) && decide (nSize > 33)) ||
      (decide (nWordFinal.toNat > 0xffff) && decide (nSize > 32))) }

/-- `GetCompact` (`fNegative` is false at every call). -/
def getCompact : Uint32 :=
  let nSize := (a.bits + 7) / 8
  let nCompact : Uint32 :=
    if nSize ≤ 3 then (a.getLow64 <<< (8 * (3 - nSize))).setWidth 32
    else (a.shiftRight (8 * (nSize - 3))).getLow64.setWidth 32
  let signed := nCompact &&& 0x00800000#32 != 0
  let mantissa := if signed then nCompact >>> 8 else nCompact
  let exponent := if signed then nSize + 1 else nSize
  mantissa ||| (BitVec.ofNat 32 exponent) <<< 24

end ArithUint256

end BlackRaven.Arith
