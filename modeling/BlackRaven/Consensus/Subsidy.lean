import BlackRaven.Consensus.Params
import BlackRaven.Lib.StepSum
import Mathlib.Tactic.Positivity

/-!
Contract: `GetBlockSubsidy` of `validation.cpp` and the money it mints over a whole
chain.

Owns: the subsidy schedule, its closed form as a step function of the height, and
the height up to which the minted money stays inside `MoneyRange` on the main
network.

Does not own: fees (they move money that was already minted) and the genesis
coinbase, which never enters the coin set.
-/

namespace BlackRaven.Consensus

open Lib.StepSum
open Finset

/-- `GetBlockSubsidy`. The height is that of the *previous* block; `nPrevBits` is
not read. A shift by a negative count is undefined in C++; the count is reduced
modulo 64, as the shift instruction does. -/
def getBlockSubsidy (_nPrevBits nPrevHeight : Int) (consensusParams : Params) : CAmount :=
  let halvings := nPrevHeight.tdiv consensusParams.nSubsidyHalvingInterval
  if halvings ≥ 64 then 0
  else (5000 * coin) >>> (halvings % 64).toNat

def subsidyAfter (halvings : Nat) : CAmount :=
  if halvings ≥ 64 then 0 else (5000 * coin) >>> halvings

theorem subsidyAfter_nonneg (halvings : Nat) : 0 ≤ subsidyAfter halvings := by
  unfold subsidyAfter
  split
  · exact le_rfl
  · rw [Int.shiftRight_eq_div_pow]
    exact Int.ediv_nonneg (by decide) (by positivity)

/-- At a height of the chain the subsidy depends on the number of completed
halving periods only. -/
theorem getBlockSubsidy_eq_subsidyAfter (nPrevBits : Int) (height interval : Nat)
    (params : Params) (isInterval : params.nSubsidyHalvingInterval = interval) :
    getBlockSubsidy nPrevBits height params = subsidyAfter (height / interval) := by
  have halvings : (height : Int).tdiv interval = ((height / interval : Nat) : Int) := by
    rfl
  simp only [getBlockSubsidy, subsidyAfter, isInterval, halvings]
  generalize height / interval = periods
  by_cases exhausted : periods ≥ 64
  · rw [if_pos (by omega), if_pos exhausted]
  · rw [if_neg (by omega), if_neg exhausted]
    congr 1
    omega

/-- The money minted by the blocks `1, …, height` of a chain in which block `k` has
difficulty bits `nBits k`: block `k + 1` may claim the subsidy of height `k`. -/
def mintedUpTo (params : Params) (nBits : Nat → Int) (height : Nat) : CAmount :=
  ∑ k ∈ range height, getBlockSubsidy (nBits k) k params

section

variable (params : Params) (nBits : Nat → Int) (interval : Nat)
  (isInterval : params.nSubsidyHalvingInterval = interval) (height : Nat)

include params nBits interval isInterval height

theorem mintedUpTo_eq_stepSum : mintedUpTo params nBits height = stepSum subsidyAfter interval height := by
  exact sum_congr rfl fun k _ =>
    getBlockSubsidy_eq_subsidyAfter (nBits k) k interval params isInterval

theorem mintedUpTo_nonneg : 0 ≤ mintedUpTo params nBits height := by
  rw [mintedUpTo_eq_stepSum params nBits interval isInterval]
  calc (0 : Int) = stepSum subsidyAfter interval 0 := (stepSum_zero _ _).symm
    _ ≤ stepSum subsidyAfter interval height := stepSum_mono _ _ subsidyAfter_nonneg (Nat.zero_le _)

end

/-! ## The main network -/

/-- The last height at which everything minted so far is a valid amount. -/
def lastHeightInMoneyRange : Nat := 5200000

/-- `maxMoney` is met exactly, two million blocks into the second halving period. -/
private theorem stepSum_at_lastHeight : stepSum subsidyAfter 3200000 lastHeightInMoneyRange = maxMoney := by
  have split : lastHeightInMoneyRange = 1 * 3200000 + 2000000 := by decide
  rw [split, stepSum_closed _ _ _ _ (by decide)]
  decide

/-- On the main network the minted money is within `MoneyRange` exactly up to
height 5 200 000; the schedule keeps minting after that. -/
theorem mintedUpTo_moneyRange_iff (nBits : Nat → Int) (height : Nat) :
    moneyRange (mintedUpTo mainParams nBits height) = true ↔ height ≤ lastHeightInMoneyRange := by
  have interval : mainParams.nSubsidyHalvingInterval = (3200000 : Nat) := rfl
  have nonneg := mintedUpTo_nonneg mainParams nBits 3200000 interval height
  rw [moneyRange_iff, and_iff_right nonneg, mintedUpTo_eq_stepSum mainParams nBits 3200000 interval]
  exact stepSum_le_iff subsidyAfter 3200000 lastHeightInMoneyRange maxMoney
    subsidyAfter_nonneg stepSum_at_lastHeight (by decide) height

/-- One block later the minted money is no valid amount any more. -/
theorem mintedUpTo_exceeds_maxMoney :
    moneyRange (mintedUpTo mainParams (fun _ => 0x1f0fffff) 5200001) = false := by
  have interval : mainParams.nSubsidyHalvingInterval = (3200000 : Nat) := rfl
  rw [mintedUpTo_eq_stepSum mainParams _ 3200000 interval,
    show (5200001 : Nat) = 1 * 3200000 + 2000001 from rfl, stepSum_closed _ _ _ _ (by decide)]
  decide

end BlackRaven.Consensus
