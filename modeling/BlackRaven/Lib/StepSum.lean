import Mathlib.Algebra.BigOperators.Intervals
import Mathlib.Data.Int.ConditionallyCompleteOrder
import Mathlib.Tactic.Ring

/-!
Contract: partial sums of a sequence that is constant on blocks of equal length.

Owns: the closed form of `∑ k < n, f (k / width)` and the two order facts that
locate where such a sum crosses a bound.

Does not own: any particular schedule.
-/

namespace BlackRaven.Lib.StepSum

open Finset

variable (f : Nat → Int) (width n blocks : Nat)

/-- The sum of the first `n` terms of a sequence that holds `f j` on the block
`[j * width, (j + 1) * width)`. -/
def stepSum : Int :=
  ∑ k ∈ range n, f (k / width)

theorem stepSum_zero : stepSum f width 0 = 0 := by
  simp [stepSum]

theorem stepSum_succ : stepSum f width (n + 1) = stepSum f width n + f (n / width) := by
  simp [stepSum, sum_range_succ]

theorem stepSum_within (f : Nat → Int) (width blocks : Nat) :
    ∀ rest : Nat, rest ≤ width →
      stepSum f width (blocks * width + rest) = stepSum f width (blocks * width) + rest * f blocks
  | 0, _ => by simp
  | rest + 1, within => by
      have quotient : (blocks * width + rest) / width = blocks := by
        rw [Nat.mul_comm, Nat.mul_add_div (by omega), Nat.div_eq_of_lt (by omega), Nat.add_zero]
      rw [← Nat.add_assoc, stepSum_succ, stepSum_within f width blocks rest (by omega), quotient]
      push_cast
      ring

theorem stepSum_blocks : stepSum f width (blocks * width) = width * ∑ j ∈ range blocks, f j := by
  induction blocks with
  | zero => simp [stepSum]
  | succ blocks ih =>
    rw [Nat.succ_mul, stepSum_within f width blocks width le_rfl, ih, sum_range_succ]
    ring

theorem stepSum_closed (rest : Nat) (within : rest ≤ width) :
    stepSum f width (blocks * width + rest) = width * (∑ j ∈ range blocks, f j) + rest * f blocks := by
  rw [stepSum_within f width blocks rest within, stepSum_blocks]

theorem stepSum_mono (nonneg : ∀ j, 0 ≤ f j) : Monotone (stepSum f width) := by
  refine monotone_nat_of_le_succ fun n => ?_
  rw [stepSum_succ]
  have := nonneg (n / width)
  omega

/-- A monotone partial sum that meets `bound` at `n` and grows right after it
stays within the bound exactly up to `n`. -/
theorem stepSum_le_iff (bound : Int) (nonneg : ∀ j, 0 ≤ f j) (reached : stepSum f width n = bound)
    (grows : 0 < f (n / width)) (h : Nat) :
    stepSum f width h ≤ bound ↔ h ≤ n := by
  have monotone := stepSum_mono f width nonneg
  constructor
  · intro within
    by_contra above
    have := monotone (show n + 1 ≤ h by omega)
    rw [stepSum_succ] at this
    omega
  · intro below
    rw [← reached]
    exact monotone below

end BlackRaven.Lib.StepSum
