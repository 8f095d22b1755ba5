import BlackRaven.Pow.Retarget

/-!
Contract: `DarkGravityWave` against the same computation over unbounded integers.

Owns: the exact average, the bound that keeps every product of the averaging loop
below `2 ^ 256`, and the exact condition under which the closing product stays below
it too.
-/

namespace BlackRaven.Pow

open Arith Arith.ArithUint256 Chain Consensus

def targetOf (nBits : Uint32) : Nat := (setCompact nBits).target.value

/-! ## Over unbounded integers -/

/-- The weighted average from round `nCountBlocks` on, with exact division. -/
def exactAverageFrom : Nat → Nat → List Nat → Nat
  | _, average, [] => average
  | nCountBlocks, average, target :: rest =>
    exactAverageFrom (nCountBlocks + 1)
      (if nCountBlocks = 1 then target
        else (average * nCountBlocks + target) / (nCountBlocks + 1)) rest

/-- The average of the counted targets, newest first. -/
def exactAverage (targets : List Nat) : Nat := exactAverageFrom 1 0 targets

def exactTarget (powLimit average : Nat) (nActualTimespan nTargetTimespan : Nat) : Nat :=
  min powLimit (average * nActualTimespan / nTargetTimespan)

theorem exactAverage_constant {target : Nat} {targets : List Nat} (nonempty : targets ≠ [])
    (constant : ∀ value ∈ targets, value = target) : exactAverage targets = target := by
  have loop : ∀ (rest : List Nat) (nCountBlocks : Nat), 2 ≤ nCountBlocks →
      (∀ value ∈ rest, value = target) → exactAverageFrom nCountBlocks target rest = target := by
    intro rest
    induction rest with
    | nil =>
      intro nCountBlocks _ _
      rfl
    | cons head tail ih =>
      intro nCountBlocks notFirst same
      rw [exactAverageFrom, if_neg (by omega), same head List.mem_cons_self, ← Nat.mul_succ,
        Nat.mul_div_cancel _ (Nat.succ_pos nCountBlocks)]
      exact ih (nCountBlocks + 1) (by omega) (List.forall_mem_cons.mp same).2
  cases targets with
  | nil => exact absurd rfl nonempty
  | cons head tail =>
    rw [exactAverage, exactAverageFrom, if_pos rfl, constant head List.mem_cons_self]
    exact loop tail 2 le_rfl (List.forall_mem_cons.mp constant).2

/-! ## The averaging loop -/

/-- One round is exact and stays below the limit: a product of a number below
`2 ^ 248` with a count of at most 181 is below `2 ^ 256`. -/
private theorem averageStep_exact {limit nCountBlocks : Nat} (small : limit < 2 ^ 248)
    (first : 1 ≤ nCountBlocks) (counted : nCountBlocks ≤ nPastBlocks)
    {bnPastTargetAvg bnTarget : ArithUint256} (targetLe : bnTarget.value ≤ limit)
    (averageLe : nCountBlocks = 1 ∨ bnPastTargetAvg.value ≤ limit) :
    ∃ next, averageStep nCountBlocks bnPastTargetAvg bnTarget = some next ∧
      next.value = (if nCountBlocks = 1 then bnTarget.value
        else (bnPastTargetAvg.value * nCountBlocks + bnTarget.value) / (nCountBlocks + 1)) ∧
      next.value ≤ limit := by
  unfold averageStep
  by_cases isFirst : nCountBlocks = 1
  · rw [if_pos isFirst, if_pos isFirst]
    exact ⟨bnTarget, rfl, rfl, targetLe⟩
  · rw [if_neg isFirst, if_neg isFirst]
    have average := averageLe.resolve_left isFirst
    have countLt : nCountBlocks ≤ 180 := counted
    have product : bnPastTargetAvg.value * nCountBlocks + bnTarget.value
        ≤ limit * (nCountBlocks + 1) := by
      exact Nat.add_le_add (Nat.mul_le_mul_right _ average) targetLe
    have range : limit * (nCountBlocks + 1) < 2 ^ 256 := by
      calc limit * (nCountBlocks + 1) ≤ limit * 181 := Nat.mul_le_mul_left _ (by omega)
        _ < 2 ^ 256 := by omega
    have divisor : (ofUint64 (BitVec.ofNat 64 (nCountBlocks + 1))).value = nCountBlocks + 1 := by
      rw [ofUint64_value, BitVec.toNat_ofNat, Nat.mod_eq_of_lt (by omega)]
    have numerator : ((bnPastTargetAvg.mulUint32 (BitVec.ofNat 32 nCountBlocks)).add bnTarget).value
        = bnPastTargetAvg.value * nCountBlocks + bnTarget.value := by
      rw [add_value, mulUint32_value, BitVec.toNat_ofNat,
        Nat.mod_eq_of_lt (show nCountBlocks < 2 ^ 32 by omega), Nat.mod_add_mod,
        Nat.mod_eq_of_lt (by omega)]
    obtain ⟨next, divided, nextValue⟩ := divide_value
      ((bnPastTargetAvg.mulUint32 (BitVec.ofNat 32 nCountBlocks)).add bnTarget)
      (ofUint64 (BitVec.ofNat 64 (nCountBlocks + 1))) (by rw [divisor]; omega)
    rw [numerator, divisor] at nextValue
    refine ⟨next, divided, nextValue, ?_⟩
    rw [nextValue]
    exact Nat.div_le_of_le_mul (by rw [Nat.mul_comm (nCountBlocks + 1)]; exact product)

theorem averageLoop_exact {limit : Nat} (small : limit < 2 ^ 248) :
    ∀ (counted : List CBlockIndex) (nCountBlocks : Nat) (bnPastTargetAvg : ArithUint256),
      1 ≤ nCountBlocks → nCountBlocks + counted.length ≤ nPastBlocks + 1 →
      (∀ pindex ∈ counted, targetOf pindex.nBits ≤ limit) →
      (nCountBlocks = 1 ∧ counted ≠ [] ∨ bnPastTargetAvg.value ≤ limit) →
      ∃ average, averageLoop nCountBlocks bnPastTargetAvg counted = some average ∧
        average.value = exactAverageFrom nCountBlocks bnPastTargetAvg.value
          (counted.map fun pindex => targetOf pindex.nBits) ∧
        average.value ≤ limit
  | [], _, bnPastTargetAvg, _, _, _, start => by
      rcases start with ⟨-, nonempty⟩ | averageLe
      · exact absurd rfl nonempty
      · exact ⟨bnPastTargetAvg, rfl, rfl, averageLe⟩
  | pindex :: rest, nCountBlocks, bnPastTargetAvg, first, fits, targets, start => by
      have targetLe := targets pindex List.mem_cons_self
      obtain ⟨next, step, nextValue, nextLe⟩ := averageStep_exact small first
        (by rw [List.length_cons] at fits; omega) targetLe (start.imp And.left id)
      obtain ⟨average, loop, averageValue, averageLe⟩ :=
        averageLoop_exact small rest (nCountBlocks + 1) next (by omega)
          (by rw [List.length_cons] at fits; omega)
          (List.forall_mem_cons.mp targets).2 (Or.inr nextLe)
      refine ⟨average, ?_, ?_, averageLe⟩
      · unfold averageLoop
        rw [step]
        exact loop
      · rw [averageValue, nextValue]
        rfl

/-! ## Scaling -/

/-- Scaling computes the product modulo `2 ^ 256`, then divides and caps exactly. -/
theorem scaleTarget_value (bnPowLimit bnTarget : ArithUint256) {span whole : Nat}
    (spanLt : span < 2 ^ 32) (wholePositive : 0 < whole) (wholeLt : whole < 2 ^ 64) :
    ∃ bnNew, scaleTarget bnPowLimit bnTarget span whole = some bnNew ∧
      bnNew.value = min bnPowLimit.value (bnTarget.value * span % 2 ^ 256 / whole) := by
  have divisor : (ofUint64 (BitVec.ofInt 64 whole)).value = whole := by
    rw [ofUint64_value, BitVec.ofInt_natCast, BitVec.toNat_ofNat, Nat.mod_eq_of_lt wholeLt]
  have product : (bnTarget.mulUint32 (BitVec.ofInt 32 span)).value
      = bnTarget.value * span % 2 ^ 256 := by
    rw [mulUint32_value, BitVec.ofInt_natCast, BitVec.toNat_ofNat, Nat.mod_eq_of_lt spanLt]
  obtain ⟨quotient, divided, quotientValue⟩ := divide_value
    (bnTarget.mulUint32 (BitVec.ofInt 32 span)) (ofUint64 (BitVec.ofInt 64 whole))
    (by rw [divisor]; exact wholePositive)
  rw [product, divisor] at quotientValue
  refine ⟨if quotient.gt bnPowLimit then bnPowLimit else quotient, ?_, ?_⟩
  · simp only [scaleTarget, divided, Option.bind_eq_bind, Option.bind_some, Option.pure_def]
  · rw [← quotientValue]
    by_cases above : quotient.gt bnPowLimit = true
    · rw [if_pos above, Nat.min_eq_left (Nat.le_of_lt ((gt_iff _ _).mp above))]
    · rw [if_neg above, Nat.min_eq_right (Nat.le_of_not_lt fun below =>
        above ((gt_iff _ _).mpr below))]

/-! ## The main network -/

/-- The exact average of the blocks `DarkGravityWave` counts. -/
def countedAverage (chain : List CBlockIndex) : Nat :=
  exactAverage ((chain.take nPastBlocks).map fun pindex => targetOf pindex.nBits)

/-- The timespan between the counted blocks, clamped to a third and three times the
target timespan. -/
def countedTimespan (params : Params) (chain : List CBlockIndex) : Int :=
  match (chain.take nPastBlocks).head?, (chain.take nPastBlocks).getLast? with
  | some pindexLast, some pindex => actualTimespan params pindexLast pindex
  | _, _ => 0

theorem mainTargetTimespan : targetTimespan mainParams = 10800 := rfl

theorem clampTimespan_range (span : Int) :
    3600 ≤ clampTimespan 10800 span ∧ clampTimespan 10800 span ≤ 32400 := by
  simp only [clampTimespan, show (10800 : Int).tdiv 3 = 3600 from rfl]
  split <;> split <;> omega

theorem mainPowLimit_value : (uintToArith256 mainParams.powLimit).value = 2 ^ 248 - 1 := by
  rfl

section

variable {chain : List CBlockIndex} (full : (chain.take nPastBlocks).length = nPastBlocks)
  (targets : ∀ pindex ∈ chain.take nPastBlocks, targetOf pindex.nBits ≤ 2 ^ 248 - 1)

include full targets

/-- `bnNew` on the main network: exact up to the reduction modulo `2 ^ 256`. -/
theorem retargetedTarget_value :
    ∃ (bnNew : ArithUint256) (span : Nat), retargetedTarget chain mainParams = some bnNew ∧
      countedTimespan mainParams chain = span ∧ 3600 ≤ span ∧ span ≤ 32400 ∧
      countedAverage chain ≤ 2 ^ 248 - 1 ∧
      bnNew.value = min (2 ^ 248 - 1) (countedAverage chain * span % 2 ^ 256 / 10800) := by
  have nonempty : chain.take nPastBlocks ≠ [] := by
    intro empty
    rw [empty] at full
    exact absurd full (by decide)
  obtain ⟨average, loop, averageValue, averageLe⟩ :=
    averageLoop_exact (show 2 ^ 248 - 1 < 2 ^ 248 by omega) (chain.take nPastBlocks) 1 (ofUint64 0)
      le_rfl (by rw [full, Nat.add_comm]) targets (Or.inl ⟨rfl, nonempty⟩)
  obtain ⟨pindexLast, isHead⟩ := Option.isSome_iff_exists.mp (List.isSome_head?.mpr nonempty)
  have isLast := List.getLast?_eq_some_getLast nonempty
  generalize (chain.take nPastBlocks).getLast nonempty = pindex at isLast
  have range := clampTimespan_range (pindexLast.getBlockTime - pindex.getBlockTime)
  obtain ⟨span, isSpan⟩ : ∃ span : Nat, actualTimespan mainParams pindexLast pindex = span :=
    Int.eq_ofNat_of_zero_le (by
      rw [actualTimespan, mainTargetTimespan]
      omega)
  rw [actualTimespan, mainTargetTimespan] at isSpan
  obtain ⟨bnNew, scaled, bnNewValue⟩ := scaleTarget_value (uintToArith256 mainParams.powLimit)
    average (show span < 2 ^ 32 by omega) (show 0 < 10800 by omega) (show 10800 < 2 ^ 64 by omega)
  have averageIs : average.value = countedAverage chain := by
    rw [averageValue, ofUint64_value]
    rfl
  refine ⟨bnNew, span, ?_, ?_, by omega, by omega, by rw [← averageIs]; exact averageLe, ?_⟩
  · unfold retargetedTarget
    simp only [isHead, isLast, loop, Option.bind_eq_bind, Option.bind_some, actualTimespan,
      mainTargetTimespan, isSpan]
    exact scaled
  · rw [countedTimespan, isHead, isLast]
    simp only [actualTimespan, mainTargetTimespan, isSpan]
  · rw [bnNewValue, averageIs, mainPowLimit_value]

/-- The new target is the exact one, and in particular not below a third of the
average, exactly when the closing product does not wrap. -/
theorem retargetedTarget_exact_iff :
    ∃ bnNew, retargetedTarget chain mainParams = some bnNew ∧
      ((bnNew.value = exactTarget (2 ^ 248 - 1) (countedAverage chain)
            (countedTimespan mainParams chain).toNat 10800 ∧
          countedAverage chain / 3 ≤ bnNew.value)
        ↔ countedAverage chain * (countedTimespan mainParams chain).toNat < 2 ^ 256) := by
  obtain ⟨bnNew, span, computed, isSpan, spanGe, spanLe, averageLe, bnNewValue⟩ :=
    retargetedTarget_value full targets
  refine ⟨bnNew, computed, ?_⟩
  rw [isSpan, Int.toNat_natCast, bnNewValue, exactTarget]
  generalize countedAverage chain = average at *
  constructor
  · rintro ⟨exact, -⟩
    omega
  · intro below
    rw [Nat.mod_eq_of_lt below]
    refine ⟨rfl, le_min (by omega) ?_⟩
    calc average / 3 = average * 3600 / 10800 := by omega
      _ ≤ average * span / 10800 := Nat.div_le_div_right (Nat.mul_le_mul_left _ spanGe)

end

end BlackRaven.Pow
