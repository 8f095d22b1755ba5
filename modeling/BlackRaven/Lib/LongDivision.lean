import BlackRaven.Lib.Limbs

/-!
Contract: shift-and-subtract division on little-endian word lists.

Owns: the loop, the invariant that carries it (`DivisionState`), and the statement
that the loop returns the floor of the exact quotient.
-/

namespace BlackRaven.Lib.Limbs

variable {w : Nat}

variable (limbs : List (BitVec w)) (length position : Nat)

def zeros : List (BitVec w) := List.replicate length 0

@[simp] theorem zeros_length : (zeros length : List (BitVec w)).length = length := by
  simp [zeros]

@[simp] theorem zeros_value : ∀ length : Nat, value (zeros length : List (BitVec w)) = 0
  | 0 => rfl
  | length + 1 => by
      have tail := zeros_value length
      rw [zeros] at tail ⊢
      rw [List.replicate_succ, value_cons, tail, show (0 : BitVec w).toNat = 0 % 2 ^ w from rfl,
        Nat.zero_mod, Nat.mul_zero]

def setBit : List (BitVec w) :=
  limbs.modify (position / w) fun limb => limb ||| (1 : BitVec w) <<< (position % w)

@[simp] theorem setBit_length : (setBit limbs position).length = limbs.length := by simp [setBit]

private theorem getD_modify (f : BitVec w → BitVec w) (limbs : List (BitVec w)) (target i : Nat)
    (inside : target < limbs.length) :
    (limbs.modify target f).getD i 0 = if i = target then f (limbs.getD target 0) else limbs.getD i 0 := by
  rw [List.getD_eq_getElem?_getD, List.getElem?_modify]
  by_cases here : i = target
  · subst here
    simp [List.getD_eq_getElem?_getD, inside]
  · rw [if_neg here, List.getD_eq_getElem?_getD]
    simp only [Ne.symm here, if_false]
    rw [id_map']

theorem setBit_value (positive : 0 < w) (limbs : List (BitVec w)) (position : Nat)
    (inside : position < w * limbs.length) :
    value (setBit limbs position) = value limbs ||| 2 ^ position := by
  have wordInside : position / w < limbs.length := by
    rwa [Nat.div_lt_iff_lt_mul positive, Nat.mul_comm]
  apply Nat.eq_of_testBit_eq
  intro i
  rw [value_testBit positive, setBit, getD_modify _ _ _ _ wordInside, Nat.testBit_or,
    value_testBit positive, Nat.testBit_two_pow]
  by_cases sameWord : i / w = position / w
  · rw [if_pos sameWord, BitVec.getLsbD_or, sameWord]
    congr 1
    have iSplit := Nat.div_add_mod i w
    have positionSplit := Nat.div_add_mod position w
    have iLt : i % w < w := Nat.mod_lt _ positive
    rw [sameWord] at iSplit
    rw [show (1 : BitVec w) = 1#w from rfl, BitVec.getLsbD_shiftLeft, decide_eq_true iLt,
      Bool.true_and, BitVec.getLsbD_one]
    by_cases sameBit : position = i
    · subst sameBit
      simp [positive]
    · rw [decide_eq_false sameBit]
      by_cases below : i % w < position % w
      · simp [below]
      · simp only [below, decide_false, Bool.not_false, Bool.true_and, Bool.and_eq_false_iff,
          decide_eq_false_iff_not]
        omega
  · rw [if_neg sameWord, decide_eq_false (fun same => sameWord (by rw [same])), Bool.or_false]

/-- Setting a bit below which everything is still clear adds its weight. -/
theorem setBit_value_of_clear (positive : 0 < w) (limbs : List (BitVec w)) (position : Nat)
    (inside : position < w * limbs.length) (clear : 2 ^ (position + 1) ∣ value limbs) :
    value (setBit limbs position) = value limbs + 2 ^ position := by
  obtain ⟨upper, isUpper⟩ := clear
  rw [setBit_value positive limbs position inside, isUpper,
    Nat.two_pow_add_eq_or_of_lt (Nat.pow_lt_pow_right (by omega) (by omega))]

/-! ## The loop -/

/-- `shift + 1` rounds: compare, subtract and set the quotient bit, halve the divisor. -/
def divLoop : Nat → List (BitVec w) → List (BitVec w) → List (BitVec w) → List (BitVec w)
  | 0, _, _, quotient => quotient
  | shift + 1, num, div, quotient =>
    if compareTo num div ≠ .lt then
      divLoop shift (subtract num div) (shiftRight div 1) (setBit quotient shift)
    else
      divLoop shift num (shiftRight div 1) quotient

/-- What holds when `rounds` rounds are still to go. -/
structure DivisionState (divisor rounds : Nat) (num div quotient : List (BitVec w)) : Prop where
  numLength : num.length = div.length
  quotientLength : quotient.length = div.length
  roundsFit : rounds ≤ w * div.length
  aligned : value div = divisor * 2 ^ rounds / 2
  remainder : value num < divisor * 2 ^ rounds
  clear : 2 ^ rounds ∣ value quotient

variable {divisor shift : Nat} {num div quotient : List (BitVec w)}

private theorem aligned_succ : divisor * 2 ^ (shift + 1) / 2 = divisor * 2 ^ shift := by
  rw [Nat.pow_succ, ← Nat.mul_assoc, Nat.mul_div_cancel _ (by omega)]

theorem DivisionState.skip (positive : 0 < w)
    (state : DivisionState divisor (shift + 1) num div quotient) (below : value num < value div) :
    DivisionState divisor shift num (shiftRight div 1) quotient where
  numLength := by rw [shiftRight_length, state.numLength]
  quotientLength := by rw [shiftRight_length, state.quotientLength]
  roundsFit := by have := state.roundsFit; rw [shiftRight_length]; omega
  aligned := by rw [shiftRight_value positive, state.aligned, aligned_succ, Nat.pow_one]
  remainder := by rwa [state.aligned, aligned_succ] at below
  clear := Nat.dvd_trans (Nat.pow_dvd_pow 2 (by omega)) state.clear

theorem DivisionState.take (positive : 0 < w)
    (state : DivisionState divisor (shift + 1) num div quotient) (reaches : value div ≤ value num) :
    DivisionState divisor shift (subtract num div) (shiftRight div 1) (setBit quotient shift) where
  numLength := by rw [subtract_length state.numLength, shiftRight_length, state.numLength]
  quotientLength := by rw [setBit_length, shiftRight_length, state.quotientLength]
  roundsFit := by have := state.roundsFit; rw [shiftRight_length]; omega
  aligned := by rw [shiftRight_value positive, state.aligned, aligned_succ, Nat.pow_one]
  remainder := by
    have remainder := state.remainder
    rw [Nat.pow_succ, ← Nat.mul_assoc] at remainder
    rw [subtract_value state.numLength reaches, state.aligned, aligned_succ]
    omega
  clear := by
    have inside : shift < w * quotient.length := by
      have := state.roundsFit
      rw [state.quotientLength]
      omega
    rw [setBit_value_of_clear positive quotient shift inside state.clear]
    exact Nat.dvd_add (Nat.dvd_trans (Nat.pow_dvd_pow 2 (by omega)) state.clear) (Nat.dvd_refl _)

/-- From a division state the loop adds the exact quotient of what is left. -/
theorem divLoop_value (positive : 0 < w) {divisor : Nat} (divisorPositive : 0 < divisor) :
    ∀ (rounds : Nat) (num div quotient : List (BitVec w)),
      DivisionState divisor rounds num div quotient →
      value (divLoop rounds num div quotient) = value quotient + value num / divisor
  | 0, num, div, quotient, state => by
      have remainder := state.remainder
      rw [Nat.pow_zero, Nat.mul_one] at remainder
      rw [divLoop, Nat.div_eq_of_lt remainder, Nat.add_zero]
  | shift + 1, num, div, quotient, state => by
      have order := compareTo_value num div state.numLength
      unfold divLoop
      split
      case isTrue notBelow =>
        have reaches : value div ≤ value num := by
          rw [order, ne_eq, Nat.compare_eq_lt] at notBelow
          omega
        have inside : shift < w * quotient.length := by
          have := state.roundsFit
          rw [state.quotientLength]
          omega
        rw [divLoop_value positive divisorPositive shift _ _ _ (state.take positive reaches),
          setBit_value_of_clear positive quotient shift inside state.clear,
          subtract_value state.numLength reaches]
        have weight : value div = divisor * 2 ^ shift := by rw [state.aligned, aligned_succ]
        have quotientSplit : value num / divisor = (value num - value div) / divisor + 2 ^ shift := by
          rw [weight] at reaches ⊢
          rw [← Nat.add_mul_div_left _ _ divisorPositive, Nat.sub_add_cancel reaches]
        omega
      case isFalse below =>
        have strictlyBelow : value num < value div := by
          rw [order, ne_eq, not_not, Nat.compare_eq_lt] at below
          exact below
        exact divLoop_value positive divisorPositive shift _ _ _ (state.skip positive strictlyBelow)

/-! ## Division -/

/-- Division; `none` where the divisor is zero. -/
def divide (num div : List (BitVec w)) : Option (List (BitVec w)) :=
  if bits div = 0 then none
  else if bits div > bits num then some (zeros num.length)
  else
    let shift := bits num - bits div
    some (divLoop (shift + 1) num (shiftLeft div shift) (zeros num.length))

theorem divLoop_length :
    ∀ (rounds : Nat) (num div quotient : List (BitVec w)),
      (divLoop rounds num div quotient).length = quotient.length
  | 0, _, _, _ => rfl
  | shift + 1, num, div, quotient => by
      unfold divLoop
      split
      · rw [divLoop_length shift, setBit_length]
      · rw [divLoop_length shift]

theorem divide_length (divided : divide num div = some quotient) : quotient.length = num.length := by
  unfold divide at divided
  split at divided
  · contradiction
  · split at divided
    · rw [← Option.some.inj divided, zeros_length]
    · rw [← Option.some.inj divided, divLoop_length, zeros_length]

/-- Aligning the divisor with the numerator starts the loop in a division state. -/
private theorem divisionState_start (positive : 0 < w) {num div : List (BitVec w)}
    (sameLength : num.length = div.length) (nonzero : bits div ≠ 0)
    (fits : bits div ≤ bits num) :
    DivisionState (value div) (bits num - bits div + 1) num
      (shiftLeft div (bits num - bits div)) (zeros num.length) := by
  rw [bits_eq_size] at nonzero
  have divLower : 2 ^ ((value div).size - 1) ≤ value div := Nat.lt_size.mp (by omega)
  have divUpper : value div < 2 ^ (value div).size := Nat.lt_size_self _
  have numUpper : value num < 2 ^ (value num).size := Nat.lt_size_self _
  have numFits : (value num).size ≤ w * num.length := Nat.size_le.mpr (value_lt num)
  rw [bits_eq_size, bits_eq_size] at *
  obtain ⟨shift, isShift⟩ : ∃ shift, (value num).size = (value div).size + shift :=
    ⟨(value num).size - (value div).size, by omega⟩
  rw [isShift, Nat.add_sub_cancel_left]
  rw [isShift] at numFits numUpper
  have noOverflow : value div * 2 ^ shift < 2 ^ (w * div.length) := by
    calc value div * 2 ^ shift
        < 2 ^ (value div).size * 2 ^ shift := Nat.mul_lt_mul_of_pos_right divUpper (Nat.two_pow_pos _)
      _ = 2 ^ ((value div).size + shift) := (Nat.pow_add _ _ _).symm
      _ ≤ 2 ^ (w * div.length) := Nat.pow_le_pow_right (by omega) (by rw [← sameLength]; exact numFits)
  exact {
    numLength := by rw [shiftLeft_length, sameLength]
    quotientLength := by rw [shiftLeft_length, zeros_length, sameLength]
    roundsFit := by rw [shiftLeft_length, ← sameLength]; omega
    aligned := by rw [shiftLeft_value positive, Nat.mod_eq_of_lt noOverflow, aligned_succ]
    remainder := by
      calc value num < 2 ^ ((value div).size + shift) := numUpper
        _ = 2 ^ ((value div).size - 1) * 2 ^ (shift + 1) := by rw [← Nat.pow_add]; congr 1; omega
        _ ≤ value div * 2 ^ (shift + 1) := Nat.mul_le_mul_right _ divLower
    clear := by rw [zeros_value]; exact Nat.dvd_zero _ }

/-- The loop computes the floor of the exact quotient, and only division by zero fails. -/
theorem divide_value (positive : 0 < w) {num div : List (BitVec w)}
    (sameLength : num.length = div.length) (nonzero : 0 < value div) :
    ∃ quotient, divide num div = some quotient ∧ value quotient = value num / value div := by
  have bitsNonzero : bits div ≠ 0 := by
    rw [bits_eq_size]
    have := Nat.size_pos.mpr nonzero
    omega
  unfold divide
  rw [if_neg bitsNonzero]
  split
  case isTrue longer =>
    refine ⟨_, rfl, ?_⟩
    rw [bits_eq_size, bits_eq_size] at longer
    have below : value num < value div := Nat.lt_of_not_le fun reaches =>
      absurd (Nat.size_le_size reaches) (by omega)
    rw [zeros_value, Nat.div_eq_of_lt below]
  case isFalse fits =>
    refine ⟨_, rfl, ?_⟩
    rw [divLoop_value positive nonzero _ _ _ _
      (divisionState_start positive sameLength bitsNonzero (by omega)), zeros_value, Nat.zero_add]

end BlackRaven.Lib.Limbs
