import Mathlib.Data.Nat.Size
import Mathlib.Tactic.Ring

/-!
Contract: fixed-width natural numbers stored as little-endian lists of machine
words, with the schoolbook loops that compute on them word by word.

Owns: the value of a word list, its bits, and for every loop (multiply by a word,
add with carry, complement, increment, negate, subtract, compare, bit length, the
two shifts) the statement that it computes the corresponding operation on natural
numbers modulo the width.

Does not own: long division, which is built from these loops.
-/

namespace BlackRaven.Lib.Limbs

variable {w : Nat}

/-- The number a little-endian list of `w`-bit words denotes. -/
def value : List (BitVec w) → Nat
  | [] => 0
  | limb :: limbs => limb.toNat + 2 ^ w * value limbs

@[simp] theorem value_nil : value ([] : List (BitVec w)) = 0 := rfl

@[simp] theorem value_cons (limb : BitVec w) (limbs : List (BitVec w)) :
    value (limb :: limbs) = limb.toNat + 2 ^ w * value limbs := rfl

theorem range_succ (length : Nat) : 2 ^ (w * (length + 1)) = 2 ^ w * 2 ^ (w * length) := by
  rw [Nat.mul_succ, Nat.pow_add, Nat.mul_comm]

theorem toNat_add_lt (limb : BitVec w) {high bound : Nat} (below : high < bound) :
    limb.toNat + 2 ^ w * high < 2 ^ w * bound := by
  calc limb.toNat + 2 ^ w * high < 2 ^ w * (high + 1) := by rw [Nat.mul_succ]; omega
    _ ≤ 2 ^ w * bound := Nat.mul_le_mul_left _ below

theorem value_lt : ∀ limbs : List (BitVec w), value limbs < 2 ^ (w * limbs.length)
  | [] => by simp
  | limb :: limbs => by
      rw [value_cons, List.length_cons, range_succ]
      exact toNat_add_lt limb (value_lt limbs)

theorem value_testBit (positive : 0 < w) :
    ∀ (limbs : List (BitVec w)) (i : Nat), (value limbs).testBit i = (limbs.getD (i / w) 0).getLsbD (i % w)
  | [], i => by simp
  | limb :: limbs, i => by
      rw [value_cons, Nat.add_comm, Nat.testBit_two_pow_mul_add _ limb.isLt]
      by_cases low : i < w
      · rw [if_pos low, Nat.div_eq_of_lt low, Nat.mod_eq_of_lt low]
        rfl
      · obtain ⟨j, rfl⟩ : ∃ j, i = j + w := ⟨i - w, by omega⟩
        rw [if_neg low, Nat.add_sub_cancel, value_testBit positive limbs j,
          Nat.add_div_right j positive, Nat.add_mod_right]
        rfl

/-! ## Carry loops -/

/-- A digit and a carried-on rest recombine to the sum they were split from. -/
private theorem split_mod (n rest length : Nat) :
    n % 2 ^ w + 2 ^ w * ((n / 2 ^ w + rest) % 2 ^ (w * length))
      = (n + 2 ^ w * rest) % 2 ^ (w * (length + 1)) := by
  rw [range_succ, Nat.mod_mul, Nat.add_mul_mod_self_left, Nat.add_mul_div_left _ _ (Nat.two_pow_pos w)]

/-- Multiplication by one word, least significant word first. -/
def mulWord (factor : BitVec w) : Nat → List (BitVec w) → List (BitVec w)
  | _, [] => []
  | carry, limb :: limbs =>
    let n := carry + factor.toNat * limb.toNat
    BitVec.ofNat w n :: mulWord factor (n / 2 ^ w) limbs

@[simp] theorem mulWord_length (factor : BitVec w) :
    ∀ (limbs : List (BitVec w)) (carry : Nat), (mulWord factor carry limbs).length = limbs.length
  | [], _ => rfl
  | _ :: limbs, _ => by simp [mulWord, mulWord_length factor limbs]

theorem mulWord_value (factor : BitVec w) :
    ∀ (limbs : List (BitVec w)) (carry : Nat),
      value (mulWord factor carry limbs) = (carry + factor.toNat * value limbs) % 2 ^ (w * limbs.length)
  | [], _ => by simp [mulWord, Nat.mod_one]
  | limb :: limbs, carry => by
      simp only [mulWord, value_cons, BitVec.toNat_ofNat, List.length_cons, mulWord_value factor limbs]
      rw [split_mod]
      congr 1
      ring

def addCarry : Nat → List (BitVec w) → List (BitVec w) → List (BitVec w)
  | carry, x :: xs, y :: ys =>
    let n := carry + x.toNat + y.toNat
    BitVec.ofNat w n :: addCarry (n / 2 ^ w) xs ys
  | _, _, _ => []

theorem addCarry_length :
    ∀ (left right : List (BitVec w)) (carry : Nat), left.length = right.length →
      (addCarry carry left right).length = left.length
  | [], [], _, _ => rfl
  | _ :: xs, _ :: ys, _, sameLength => by
      simp [addCarry, addCarry_length xs ys _ (by simpa using sameLength)]

theorem addCarry_value :
    ∀ (left right : List (BitVec w)) (carry : Nat), left.length = right.length →
      value (addCarry carry left right) = (carry + value left + value right) % 2 ^ (w * left.length)
  | [], [], _, _ => by simp [addCarry, Nat.mod_one]
  | x :: xs, y :: ys, carry, sameLength => by
      simp only [addCarry, value_cons, BitVec.toNat_ofNat, List.length_cons,
        addCarry_value xs ys _ (by simpa using sameLength),
        Nat.add_assoc ((carry + x.toNat + y.toNat) / 2 ^ w)]
      rw [split_mod]
      congr 1
      ring

/-! ## Negation and subtraction -/

variable {left right : List (BitVec w)} (limbs : List (BitVec w)) (shift : Nat)

def complement : List (BitVec w) := limbs.map fun limb => ~~~limb

@[simp] theorem complement_length : (complement limbs).length = limbs.length := by simp [complement]

theorem complement_value :
    ∀ limbs : List (BitVec w), value (complement limbs) + value limbs + 1 = 2 ^ (w * limbs.length)
  | [] => by simp [complement]
  | limb :: limbs => by
      have tail := complement_value limbs
      have head : (~~~limb).toNat + limb.toNat + 1 = 2 ^ w := by
        rw [BitVec.toNat_not]
        omega
      rw [List.length_cons, range_succ, ← tail]
      calc value (complement (limb :: limbs)) + value (limb :: limbs) + 1
          = ((~~~limb).toNat + limb.toNat + 1)
              + 2 ^ w * (value (complement limbs) + value limbs) := by
            simp only [complement, List.map_cons, value_cons]
            ring
        _ = 2 ^ w * (value (complement limbs) + value limbs + 1) := by rw [head]; ring

/-- Add one: the carry runs through the words that wrap to zero. -/
def increment : List (BitVec w) → List (BitVec w)
  | [] => []
  | limb :: limbs =>
    if limb + 1 = 0 then (limb + 1) :: increment limbs else (limb + 1) :: limbs

@[simp] theorem increment_length : ∀ limbs : List (BitVec w),
    (increment limbs).length = limbs.length
  | [] => rfl
  | limb :: limbs => by
      unfold increment
      split <;> simp [increment_length limbs]

theorem increment_value :
    ∀ limbs : List (BitVec w), value (increment limbs) = (value limbs + 1) % 2 ^ (w * limbs.length)
  | [] => by simp [increment]
  | limb :: limbs => by
      have sum : (limb + 1).toNat = (limb.toNat + 1) % 2 ^ w := by
        rw [BitVec.toNat_add, show (1 : BitVec w).toNat = 1 % 2 ^ w from rfl, Nat.add_mod_mod]
      have wraps_iff : limb + 1 = 0 ↔ limb.toNat + 1 = 2 ^ w := by
        rw [← BitVec.toNat_inj, sum, show (0 : BitVec w).toNat = 0 by simp, ← Nat.dvd_iff_mod_eq_zero]
        exact ⟨fun divides => le_antisymm limb.isLt (Nat.le_of_dvd (Nat.succ_pos _) divides),
          fun full => full ▸ dvd_rfl⟩
      rw [value_cons, List.length_cons, Nat.add_right_comm, ← split_mod, ← sum]
      unfold increment
      split
      case isTrue wraps =>
        rw [value_cons, increment_value limbs, wraps_iff.mp wraps, Nat.div_self (Nat.two_pow_pos w),
          Nat.add_comm 1]
      case isFalse stays =>
        have noWrap : limb.toNat + 1 < 2 ^ w := lt_of_le_of_ne limb.isLt (mt wraps_iff.mpr stays)
        rw [value_cons, Nat.div_eq_of_lt noWrap, Nat.zero_add, Nat.mod_eq_of_lt (value_lt limbs)]

/-- Two's complement: `~x + 1`. -/
def negate : List (BitVec w) := increment (complement limbs)

@[simp] theorem negate_length : (negate limbs).length = limbs.length := by simp [negate]

theorem negate_value :
    value (negate limbs) = (2 ^ (w * limbs.length) - value limbs) % 2 ^ (w * limbs.length) := by
  have := complement_value limbs
  rw [negate, increment_value, complement_length]
  congr 1
  omega

def subtract (left right : List (BitVec w)) : List (BitVec w) :=
  addCarry 0 left (negate right)

theorem subtract_length (sameLength : left.length = right.length) :
    (subtract left right).length = left.length :=
  addCarry_length _ _ _ (by simpa using sameLength)

theorem subtract_value (sameLength : left.length = right.length) (below : value right ≤ value left) :
    value (subtract left right) = value left - value right := by
  have leftLt := value_lt left
  rw [subtract, addCarry_value _ _ _ (by simpa using sameLength), negate_value, ← sameLength,
    Nat.zero_add, Nat.add_mod_mod,
    show value left + (2 ^ (w * left.length) - value right)
      = value left - value right + 2 ^ (w * left.length) by omega,
    Nat.add_mod_right, Nat.mod_eq_of_lt (by omega)]

/-! ## Comparison and bit length -/

/-- Comparison from the most significant word down. -/
def compareTo : List (BitVec w) → List (BitVec w) → Ordering
  | x :: xs, y :: ys => (compareTo xs ys).then (compare x.toNat y.toNat)
  | _, _ => .eq

theorem compareTo_value :
    ∀ left right : List (BitVec w), left.length = right.length →
      compareTo left right = compare (value left) (value right)
  | [], [], _ => rfl
  | x :: xs, y :: ys, sameLength => by
      rw [compareTo, compareTo_value xs ys (by simpa using sameLength), value_cons, value_cons]
      -- The higher words decide unless they agree.
      rcases Nat.lt_trichotomy (value xs) (value ys) with below | same | above
      · have whole := (toNat_add_lt x below).trans_le (Nat.le_add_left _ y.toNat)
        rw [Nat.compare_eq_lt.mpr below, Nat.compare_eq_lt.mpr whole]
        rfl
      · rw [same, Nat.compare_eq_eq.mpr rfl, Nat.compare_eq_ite_lt, Nat.compare_eq_ite_lt]
        simp
      · have whole := (toNat_add_lt y above).trans_le (Nat.le_add_left _ x.toNat)
        rw [Nat.compare_eq_gt.mpr above, Nat.compare_eq_gt.mpr whole]
        rfl

/-- One past the highest set bit among the lowest `count` bits of a word. -/
def wordBits (word : BitVec w) : Nat → Nat
  | 0 => 0
  | count + 1 => if word.getLsbD count then count + 1 else wordBits word count

theorem wordBits_eq_size (word : BitVec w) :
    ∀ count : Nat, word.toNat < 2 ^ count → wordBits word count = word.toNat.size
  | 0, below => by
      have : word.toNat = 0 := by simpa using below
      rw [this]
      rfl
  | count + 1, below => by
      unfold wordBits
      split
      case isTrue set =>
        have reaches : 2 ^ count ≤ word.toNat := Nat.ge_two_pow_of_testBit set
        have lower : count < word.toNat.size := Nat.lt_size.mpr reaches
        have upper : word.toNat.size ≤ count + 1 := Nat.size_le.mpr below
        omega
      case isFalse clear =>
        refine wordBits_eq_size word count ?_
        by_contra reaches
        refine clear ?_
        exact Nat.testBit_of_two_pow_le_and_two_pow_add_one_gt (by omega) below

/-- One past the position of the highest set bit, zero for zero. -/
def bits : List (BitVec w) → Nat
  | [] => 0
  | limb :: limbs => if bits limbs ≠ 0 then w + bits limbs else wordBits limb w

theorem bits_eq_size : ∀ limbs : List (BitVec w), bits limbs = (value limbs).size
  | [] => rfl
  | limb :: limbs => by
      have tail := bits_eq_size limbs
      have headLt := limb.isLt
      unfold bits
      split
      case isTrue nonzero =>
        have lower : 2 ^ ((value limbs).size - 1) ≤ value limbs := Nat.lt_size.mp (by omega)
        have upper : value limbs < 2 ^ (value limbs).size := Nat.lt_size_self _
        rw [tail] at nonzero ⊢
        apply le_antisymm
        · have : w + (value limbs).size - 1 < (value (limb :: limbs)).size := by
            refine Nat.lt_size.mpr ?_
            rw [show w + (value limbs).size - 1 = w + ((value limbs).size - 1) by omega,
              Nat.pow_add, value_cons]
            exact le_add_left (Nat.mul_le_mul_left _ lower)
          omega
        · refine Nat.size_le.mpr ?_
          rw [value_cons, Nat.pow_add]
          exact toNat_add_lt limb upper
      case isFalse zero =>
        have : value limbs = 0 := by
          rw [← Nat.size_eq_zero]
          omega
        rw [value_cons, this, Nat.mul_zero, Nat.add_zero]
        exact wordBits_eq_size limb w headLt

/-! ## Shifts

Both loops move whole words by `shift / w` positions and carry the bits that cross
a word boundary into the neighbour; written from the receiving word's side. -/

def shiftLeft : List (BitVec w) :=
  (List.range limbs.length).map fun i =>
    (if shift / w ≤ i then limbs.getD (i - shift / w) 0 <<< (shift % w) else 0) |||
      (if shift / w + 1 ≤ i ∧ shift % w ≠ 0 then
        limbs.getD (i - shift / w - 1) 0 >>> (w - shift % w) else 0)

def shiftRight : List (BitVec w) :=
  (List.range limbs.length).map fun i =>
    (limbs.getD (i + shift / w) 0 >>> (shift % w)) |||
      (if shift % w ≠ 0 then limbs.getD (i + shift / w + 1) 0 <<< (w - shift % w) else 0)

@[simp] theorem shiftLeft_length : (shiftLeft limbs shift).length = limbs.length := by simp [shiftLeft]

@[simp] theorem shiftRight_length : (shiftRight limbs shift).length = limbs.length := by simp [shiftRight]

theorem getD_map_range (f : Nat → BitVec w) (n i : Nat) :
    ((List.range n).map f).getD i 0 = if i < n then f i else 0 := by
  by_cases inside : i < n <;> simp [List.getD, inside]

theorem getD_getLsbD (positive : 0 < w) (index : Nat) {bit : Nat} (inWord : bit < w) :
    (limbs.getD index 0).getLsbD bit = (value limbs).testBit (w * index + bit) := by
  rw [value_testBit positive, Nat.mul_add_div positive, Nat.div_eq_of_lt inWord, Nat.add_zero,
    Nat.mul_add_mod, Nat.mod_eq_of_lt inWord]

theorem value_map_range (positive : 0 < w) {f : Nat → BitVec w} {length n : Nat} (below : n < 2 ^ (w * length))
    (agree : ∀ index < length, ∀ bit < w, (f index).getLsbD bit = n.testBit (w * index + bit)) :
    value ((List.range length).map f) = n := by
  apply Nat.eq_of_testBit_eq
  intro i
  rw [value_testBit positive, getD_map_range]
  split
  case isTrue inside => rw [agree _ inside _ (Nat.mod_lt i positive), Nat.div_add_mod]
  case isFalse outside =>
    rw [Nat.div_lt_iff_lt_mul positive, Nat.mul_comm, not_lt] at outside
    rw [Nat.testBit_lt_two_pow (below.trans_le (Nat.pow_le_pow_right (by decide) outside))]
    exact BitVec.getLsbD_zero

theorem shiftLeft_value (positive : 0 < w) (limbs : List (BitVec w)) (shift : Nat) :
    value (shiftLeft limbs shift) = value limbs * 2 ^ shift % 2 ^ (w * limbs.length) := by
  refine value_map_range positive (Nat.mod_lt _ (Nat.two_pow_pos _)) fun q inside r inWord => ?_
  have within : w * q + r < w * limbs.length := by
    have := Nat.mul_le_mul_left w inside
    rw [Nat.mul_succ] at this
    omega
  have shiftLt : shift % w < w := Nat.mod_lt _ positive
  have shiftSplit := Nat.div_add_mod shift w
  rw [Nat.testBit_mod_two_pow, ← Nat.shiftLeft_eq, Nat.testBit_shiftLeft, decide_eq_true within,
    Bool.true_and, BitVec.getLsbD_or]
  generalize shift / w = k, shift % w = s at *
  rcases Nat.lt_or_ge q k with low | reached
  · have : w * (q + 1) ≤ w * k := Nat.mul_le_mul_left _ low
    rw [Nat.mul_succ] at this
    rw [if_neg (by omega), if_neg (by omega), decide_eq_false (by omega)]
    simp
  obtain ⟨d, rfl⟩ := Nat.exists_eq_add_of_le reached
  rw [if_pos reached, BitVec.getLsbD_shiftLeft, Nat.add_sub_cancel_left, Nat.mul_add]
  by_cases crosses : r < s
  · -- The bit comes from the word below the aligned one.
    rw [decide_eq_true crosses]
    cases d with
    | zero =>
      rw [if_neg (by omega), decide_eq_false (show ¬ w * k + w * 0 + r ≥ shift by omega)]
      simp
    | succ d =>
      rw [if_pos (by omega), BitVec.getLsbD_ushiftRight, Nat.add_sub_cancel,
        getD_getLsbD _ positive d (by omega), Nat.mul_succ,
        decide_eq_true (show w * k + (w * d + w) + r ≥ shift by omega),
        show w * k + (w * d + w) + r - shift = w * d + (w - s + r) by omega]
      simp
  · -- The bit comes from the aligned word.
    have second : BitVec.getLsbD
        (if k + 1 ≤ k + d ∧ s ≠ 0 then limbs.getD (d - 1) 0 >>> (w - s) else 0) r = false := by
      split
      · rw [BitVec.getLsbD_ushiftRight]
        exact BitVec.getLsbD_of_ge _ _ (by omega)
      · exact BitVec.getLsbD_zero
    rw [second, getD_getLsbD _ positive d (by omega), decide_eq_true inWord, decide_eq_false crosses,
      decide_eq_true (show w * k + w * d + r ≥ shift by omega), show w * k + w * d + r - shift = w * d + (r - s) by omega]
    simp

theorem shiftRight_value (positive : 0 < w) (limbs : List (BitVec w)) (shift : Nat) :
    value (shiftRight limbs shift) = value limbs / 2 ^ shift := by
  refine value_map_range positive ((Nat.div_le_self _ _).trans_lt (value_lt limbs)) fun q inside r inWord => ?_
  have shiftLt : shift % w < w := Nat.mod_lt _ positive
  have shiftSplit := Nat.div_add_mod shift w
  rw [← Nat.shiftRight_eq_div_pow, Nat.testBit_shiftRight, BitVec.getLsbD_or, BitVec.getLsbD_ushiftRight]
  generalize shift / w = k, shift % w = s at *
  by_cases crosses : s + r < w
  · -- The bit stays in the aligned word.
    rw [getD_getLsbD _ positive _ crosses, Nat.mul_add,
      show w * q + w * k + (s + r) = shift + (w * q + r) by omega]
    split
    · rw [BitVec.getLsbD_shiftLeft, decide_eq_true (show r < w - s by omega)]
      simp
    · simp
  · -- The bit comes from the word above the aligned one.
    rw [BitVec.getLsbD_of_ge _ _ (by omega), if_pos (by omega), BitVec.getLsbD_shiftLeft,
      getD_getLsbD _ positive _ (by omega), decide_eq_true inWord,
      decide_eq_false (show ¬ r < w - s by omega), Nat.mul_add, Nat.mul_add,
      show w * q + w * k + w * 1 + (r - (w - s)) = shift + (w * q + r) by omega]
    simp

end BlackRaven.Lib.Limbs
