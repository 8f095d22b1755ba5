import BlackRaven.Governance.Superblock
import Mathlib.Tactic.Tauto

/-!
Contract: `IsBlockValueValid` of `smartnode-payments.cpp`, and what it lets a cycle of
superblocks mint.

Owns: the rule for old budgets, the rule for superblocks with the triggers it reads, and the
largest value a coinbase may have at a height.

Does not own: fees, and the payees of a coinbase.
-/

namespace BlackRaven.Governance

open Consensus Primitives
open Finset

/-! ## Triggers -/

/-- An active trigger whose governance object is there. -/
structure Trigger where
  nBlockHeight : Int
  /-- `IsSetCachedFunding` after `UpdateSentinelVariables`. -/
  fCachedFunding : Bool
  /-- `GetAbsoluteYesCount(VOTE_SIGNAL_FUNDING)`. -/
  nAbsoluteYesCount : Int
  vecPayments : List CGovernancePayment

/-- What the rules read from the rest of the node. -/
structure GovernanceView where
  isSynced : Bool
  fLiteMode : Bool
  /-- `SPORK_9_SUPERBLOCKS_ENABLED`. -/
  superblocksEnabled : Bool
  vecTriggers : List Trigger

def isSuperblockTriggered (params : BudgetParams) (view : GovernanceView) (nBlockHeight : Int) : Bool :=
  isValidBlockHeight params nBlockHeight
    && view.vecTriggers.any fun trigger => nBlockHeight == trigger.nBlockHeight && trigger.fCachedFunding

def getBestSuperblock (params : BudgetParams) (view : GovernanceView) (nBlockHeight : Int) :
    Option (List CGovernancePayment) :=
  if !isValidBlockHeight params nBlockHeight then none
  else
    (view.vecTriggers.foldl (fun best trigger =>
      if nBlockHeight ≠ trigger.nBlockHeight then best
      else if trigger.nAbsoluteYesCount > best.1 then (trigger.nAbsoluteYesCount, some trigger.vecPayments)
      else best) ((0 : Int), (none : Option (List CGovernancePayment)))).2

def superblockIsValid (params : BudgetParams) (view : GovernanceView) (txNew : CTransaction)
    (nBlockHeight : Int) (blockReward : CAmount) : Except Failure Bool :=
  match getBestSuperblock params view nBlockHeight with
  | some vecPayments => isValid params vecPayments txNew nBlockHeight blockReward
  | none => .ok false

/-! ## Block values -/

/-- The check against a limit, with `strErrorRet`. -/
def checkValue (nBlockHeight : Int) (actual limit : CAmount) (reason : String) : Option String :=
  if actual ≤ limit then none
  else some s!"coinbase pays too much at height {nBlockHeight} (actual={actual} vs limit={limit}), {reason}"

/-- `IsOldBudgetBlockValueValid` on the value of the coinbase; the error, if any. -/
def isOldBudgetBlockValueValid (params : BudgetParams) (view : GovernanceView) (valueOut : CAmount)
    (nBlockHeight : Int) (blockReward : CAmount) : Option String :=
  if nBlockHeight < params.nBudgetPaymentsStartBlock then
    some s!"Incorrect block {nBlockHeight}, old budgets are not activated yet"
  else if nBlockHeight ≥ params.nSuperblockStartBlock then
    some s!"Incorrect block {nBlockHeight}, old budgets are no longer active"
  else
    let nOffset := nBlockHeight.tmod params.nBudgetPaymentsCycleBlocks
    if nBlockHeight ≥ params.nBudgetPaymentsStartBlock ∧ nOffset < params.nBudgetPaymentsWindowBlocks then
      if view.isSynced then
        checkValue nBlockHeight valueOut blockReward "exceeded block reward, old budgets are disabled"
      else none
    else
      checkValue nBlockHeight valueOut blockReward
        "exceeded block reward, block is not in old budget cycle window"

def nSuperblockMaxValue (params : BudgetParams) (nBlockHeight : Int) (blockReward : CAmount) : CAmount :=
  toInt64 (blockReward + getPaymentsLimit params nBlockHeight)

/-- `IsBlockValueValid`: the error, if any. -/
def isBlockValueValid (params : BudgetParams) (view : GovernanceView) (coinbase : CTransaction)
    (nBlockHeight : Int) (blockReward : CAmount) : Except Failure (Option String) :=
  getValueOut coinbase >>= fun valueOut =>
  if nBlockHeight < params.nBudgetPaymentsStartBlock then
    .ok (checkValue nBlockHeight valueOut blockReward "exceeded block reward, old budgets are not activated yet")
  else if nBlockHeight < params.nSuperblockStartBlock then
    .ok (isOldBudgetBlockValueValid params view valueOut nBlockHeight blockReward)
  else if !isValidBlockHeight params nBlockHeight then
    .ok (checkValue nBlockHeight valueOut blockReward
      "exceeded block reward, only regular blocks are allowed at this height")
  else
    let maxValue := nSuperblockMaxValue params nBlockHeight blockReward
    if ¬ valueOut ≤ maxValue then
      .ok (checkValue nBlockHeight valueOut maxValue "exceeded superblock max value")
    else if !view.isSynced || view.fLiteMode then .ok none
    else if !view.superblocksEnabled then
      .ok (checkValue nBlockHeight valueOut blockReward "exceeded block reward, superblocks are disabled")
    else if !isSuperblockTriggered params view nBlockHeight then
      .ok (checkValue nBlockHeight valueOut blockReward "exceeded block reward, no triggered superblock detected")
    else
      (superblockIsValid params view coinbase nBlockHeight blockReward).map fun valid =>
        if valid then none else some s!"invalid superblock detected at height {nBlockHeight}"

/-! ## The largest value -/

def subsidyAt (params : BudgetParams) (nBlockHeight : Int) : Int :=
  getBlockSubsidy 1 (nBlockHeight - 1) params.consensus

/-- A coinbase without fees may have this value, whatever the node knows. -/
def Allows (params : BudgetParams) (nBlockHeight value : Int) : Prop :=
  ∃ (view : GovernanceView) (coinbase : CTransaction), coinbase.isCoinBase = true
    ∧ getValueOut coinbase = .ok value
    ∧ isBlockValueValid params view coinbase nBlockHeight (subsidyAt params nBlockHeight) = .ok none

/-- What bounds the value of a coinbase in the most permissive node, one that is not synced. -/
def valueBound (params : BudgetParams) (nBlockHeight : Int) : Int :=
  if nBlockHeight < params.nBudgetPaymentsStartBlock then subsidyAt params nBlockHeight
  else if nBlockHeight < params.nSuperblockStartBlock then
    if nBlockHeight.tmod params.nBudgetPaymentsCycleBlocks < params.nBudgetPaymentsWindowBlocks then maxMoney
    else subsidyAt params nBlockHeight
  else if isValidBlockHeight params nBlockHeight then
    nSuperblockMaxValue params nBlockHeight (subsidyAt params nBlockHeight)
  else subsidyAt params nBlockHeight

variable {nBlockHeight value : Int} {params : BudgetParams} {start : Nat}

theorem checkValue_eq_none {actual limit : Int} {reason : String} :
    checkValue nBlockHeight actual limit reason = none ↔ actual ≤ limit := by
  unfold checkValue
  split
  · exact iff_of_true rfl ‹_›
  · exact iff_of_false nofun ‹_›

theorem isBlockValueValid_le {view : GovernanceView} {coinbase : CTransaction}
    (isValue : getValueOut coinbase = .ok value)
    (passes : isBlockValueValid params view coinbase nBlockHeight (subsidyAt params nBlockHeight) = .ok none)
    (inRange : value ≤ maxMoney) : value ≤ valueBound params nBlockHeight := by
  unfold isBlockValueValid at passes
  rw [isValue] at passes
  change (if _ then _ else _ : Except Failure (Option String)) = _ at passes
  unfold valueBound
  split at passes
  · rw [if_pos ‹_›]
    exact checkValue_eq_none.mp (Except.ok.inj passes)
  rw [if_neg ‹_›]
  split at passes
  · -- Old budgets.
    rename_i started before
    have budget := Except.ok.inj passes
    unfold isOldBudgetBlockValueValid at budget
    rw [if_neg started, if_neg (not_le.mpr before)] at budget
    rw [if_pos before]
    split
    · exact inRange
    · rw [if_neg (by tauto)] at budget
      exact checkValue_eq_none.mp budget
  rw [if_neg ‹_›]
  split at passes
  · rename_i regular
    rw [if_neg (by simpa using regular)]
    exact checkValue_eq_none.mp (Except.ok.inj passes)
  · rename_i super
    rw [if_pos (by simpa using super)]
    dsimp only at passes
    split at passes
    · exact checkValue_eq_none.mp (Except.ok.inj passes)
    · exact not_not.mp ‹_›

def unsyncedView : GovernanceView := ⟨false, false, false, []⟩

theorem unsynced_isBlockValueValid {coinbase : CTransaction}
    (isValue : getValueOut coinbase = .ok value) (bound : value ≤ valueBound params nBlockHeight) :
    isBlockValueValid params unsyncedView coinbase nBlockHeight (subsidyAt params nBlockHeight) = .ok none := by
  unfold valueBound at bound
  unfold isBlockValueValid
  rw [isValue]
  change (if _ then _ else _ : Except Failure (Option String)) = _
  split
  · rw [if_pos ‹_›] at bound
    exact congrArg _ (checkValue_eq_none.mpr bound)
  rw [if_neg ‹_›] at bound
  split
  · rename_i started before
    refine congrArg _ ?_
    rw [if_pos before] at bound
    unfold isOldBudgetBlockValueValid
    rw [if_neg started, if_neg (not_le.mpr before)]
    dsimp only
    split
    · rfl
    · rw [if_neg (by rename_i outside; exact fun inside => outside ⟨not_lt.mp started, inside⟩)] at bound
      exact checkValue_eq_none.mpr bound
  rw [if_neg ‹_›] at bound
  split
  · rename_i regular
    rw [if_neg (by simpa using regular)] at bound
    exact congrArg _ (checkValue_eq_none.mpr bound)
  · rename_i super
    rw [if_pos (by simpa using super)] at bound
    rw [if_neg (not_not.mpr bound)]
    rfl

theorem allows_iff :
    Allows params nBlockHeight value
      ↔ 0 ≤ value ∧ value ≤ maxMoney ∧ value ≤ valueBound params nBlockHeight := by
  constructor
  · rintro ⟨view, coinbase, -, isValue, passes⟩
    obtain ⟨nonneg, isSum, inRange⟩ := getValueOut_eq_ok.mp isValue
    exact ⟨isSum ▸ valueSum_nonneg nonneg, inRange, isBlockValueValid_le isValue passes inRange⟩
  · rintro ⟨nonneg, inRange, bound⟩
    have isValue : getValueOut (coinbaseWith [⟨value, []⟩]) = .ok value := by
      refine getValueOut_eq_ok.mpr ⟨?_, ?_, inRange⟩
      · intro out member
        obtain rfl := List.mem_singleton.mp member
        exact nonneg
      · exact (Int.add_zero value).symm
    exact ⟨unsyncedView, coinbaseWith [⟨value, []⟩], rfl, isValue, unsynced_isBlockValueValid isValue bound⟩

/-! ## A cycle -/

def cycleLength (params : BudgetParams) : Nat := params.nSuperblockCycle.toNat

/-- A coinbase may exceed the subsidy: in the window of the old budgets, or as a superblock. -/
def MintsMore (params : BudgetParams) (nBlockHeight : Int) : Prop :=
  params.nBudgetPaymentsStartBlock ≤ nBlockHeight
    ∧ (nBlockHeight < params.nSuperblockStartBlock
        ∧ nBlockHeight.tmod params.nBudgetPaymentsCycleBlocks < params.nBudgetPaymentsWindowBlocks
      ∨ params.nSuperblockStartBlock ≤ nBlockHeight ∧ isValidBlockHeight params nBlockHeight = true
        ∧ subsidyAt params nBlockHeight < nSuperblockMaxValue params nBlockHeight (subsidyAt params nBlockHeight))

/-- No coinbase passes: the largest value of the superblock has wrapped to a negative one. -/
def Barred (params : BudgetParams) (nBlockHeight : Int) : Prop :=
  params.nBudgetPaymentsStartBlock ≤ nBlockHeight ∧ params.nSuperblockStartBlock ≤ nBlockHeight
    ∧ isValidBlockHeight params nBlockHeight = true
    ∧ nSuperblockMaxValue params nBlockHeight (subsidyAt params nBlockHeight) < 0

theorem subsidyAt_bounds (params : BudgetParams) (nBlockHeight : Int) :
    0 ≤ subsidyAt params nBlockHeight ∧ subsidyAt params nBlockHeight ≤ 500000000000 := by
  unfold subsidyAt getBlockSubsidy
  dsimp only
  split
  · exact ⟨le_rfl, by decide⟩
  · rw [Int.shiftRight_eq_div_pow]
    exact ⟨Int.ediv_nonneg (by decide) (by positivity), Int.ediv_le_self _ (by decide)⟩

section Bound

variable {params : BudgetParams} {nBlockHeight : Int}

theorem mintsMore_iff :
    MintsMore params nBlockHeight ↔ subsidyAt params nBlockHeight < valueBound params nBlockHeight := by
  have bounds := subsidyAt_bounds params nBlockHeight
  unfold MintsMore valueBound
  split_ifs with early before inside super
  · exact iff_of_false (fun more => absurd early (not_lt.mpr more.1)) (lt_irrefl _)
  · exact iff_of_true ⟨not_lt.mp early, .inl ⟨before, inside⟩⟩ (bounds.2.trans_lt (by decide))
  · refine iff_of_false ?_ (lt_irrefl _)
    rintro ⟨-, ⟨-, window⟩ | ⟨late, -⟩⟩
    · exact inside window
    · exact absurd before (not_lt.mpr late)
  · constructor
    · rintro ⟨-, ⟨soon, -⟩ | ⟨-, -, exceeds⟩⟩
      · exact absurd soon before
      · exact exceeds
    · exact fun exceeds => ⟨not_lt.mp early, .inr ⟨not_lt.mp before, super, exceeds⟩⟩
  · refine iff_of_false ?_ (lt_irrefl _)
    rintro ⟨-, ⟨soon, -⟩ | ⟨-, isSuper, -⟩⟩
    · exact before soon
    · exact super isSuper

theorem barred_iff : Barred params nBlockHeight ↔ valueBound params nBlockHeight < 0 := by
  have bounds := subsidyAt_bounds params nBlockHeight
  unfold Barred valueBound
  split_ifs with early before inside super
  · exact iff_of_false (fun barred => absurd early (not_lt.mpr barred.1)) (by omega)
  · exact iff_of_false (fun barred => absurd before (not_lt.mpr barred.2.1)) (by decide)
  · exact iff_of_false (fun barred => absurd before (not_lt.mpr barred.2.1)) (by omega)
  · exact ⟨fun barred => barred.2.2.2, fun wraps => ⟨not_lt.mp early, not_lt.mp before, super, wraps⟩⟩
  · exact iff_of_false (fun barred => super barred.2.2.1) (by omega)

theorem subsidyAt_le_valueBound (regular : isValidBlockHeight params nBlockHeight = false) :
    subsidyAt params nBlockHeight ≤ valueBound params nBlockHeight := by
  have bounds := subsidyAt_bounds params nBlockHeight
  unfold valueBound
  rw [regular, if_neg Bool.false_ne_true]
  split_ifs
  · exact le_rfl
  · exact bounds.2.trans (by decide)
  · exact le_rfl
  · exact le_rfl

/-- Only a superblock exceeds the subsidy and yet has a bound of its own. -/
theorem valueBound_eq_maxMoney (more : MintsMore params nBlockHeight)
    (regular : isValidBlockHeight params nBlockHeight = false) :
    valueBound params nBlockHeight = 2100000000000000000 := by
  obtain ⟨started, ⟨before, inside⟩ | ⟨-, super, -⟩⟩ := more
  · unfold valueBound
    rw [if_neg (not_lt.mpr started), if_pos before, if_pos inside]
    rfl
  · rw [regular] at super
    cases super

end Bound

theorem superblock_unique {i j : Nat} (iInside : i < cycleLength params)
    (jInside : j < cycleLength params) (iSuper : isValidBlockHeight params (start + i) = true)
    (jSuper : isValidBlockHeight params (start + j) = true) : i = j := by
  unfold cycleLength at iInside jInside
  simp only [isValidBlockHeight, Bool.and_eq_true, beq_iff_eq] at iSuper jSuper
  have divides : params.nSuperblockCycle ∣ (start + i : Int) - (start + j) :=
    Int.dvd_sub (Int.dvd_of_tmod_eq_zero iSuper.2) (Int.dvd_of_tmod_eq_zero jSuper.2)
  have small : |(start + i : Int) - (start + j)| < params.nSuperblockCycle := by
    rw [abs_lt]
    omega
  have same := Int.eq_zero_of_abs_lt_dvd divides small
  omega

/-- The values of a cycle in which every block takes what it can. -/
def largestValues (params : BudgetParams) (start k : Nat) : Int :=
  min 2100000000000000000 (valueBound params (start + k))

theorem largestValues_allowed {k : Nat} (open_ : ¬ Barred params (start + k)) :
    Allows params (start + k) (largestValues params start k) := by
  have nonneg := not_lt.mp (mt barred_iff.mpr open_)
  exact allows_iff.mpr ⟨le_min (by decide) nonneg, min_le_left _ _, min_le_right _ _⟩

/-- What a superblock height may fall short of its subsidy. -/
def shortfall (params : BudgetParams) (start k : Nat) : Int :=
  if isValidBlockHeight params (start + k) then 500000000000 else 0

theorem sum_shortfall_le (params : BudgetParams) (start : Nat) :
    ∑ k ∈ range (cycleLength params), shortfall params start k ≤ 500000000000 := by
  unfold shortfall
  rw [← sum_filter, sum_const]
  have one : ((range (cycleLength params)).filter fun k : Nat =>
      isValidBlockHeight params (start + k) = true).card ≤ 1 := by
    refine card_le_one.mpr fun i iMember j jMember => ?_
    obtain ⟨iInside, iSuper⟩ := mem_filter.mp iMember
    obtain ⟨jInside, jSuper⟩ := mem_filter.mp jMember
    exact superblock_unique (mem_range.mp iInside) (mem_range.mp jInside) iSuper jSuper
  rw [nsmul_eq_mul]
  omega

/-- One block above its subsidy puts the whole cycle above the subsidies. -/
theorem sum_largestValues {place : Nat} (inside : place < cycleLength params)
    (open_ : ∀ k < cycleLength params, ¬ Barred params (start + k)) (more : MintsMore params (start + place)) :
    ∑ k ∈ range (cycleLength params), subsidyAt params (start + k)
      < ∑ k ∈ range (cycleLength params), largestValues params start k := by
  have above := mintsMore_iff.mp more
  have atPlace : subsidyAt params (start + place) < largestValues params start place :=
    lt_min ((subsidyAt_bounds params _).2.trans_lt (by decide)) above
  have regularBlocks : ∀ k : Nat, isValidBlockHeight params (start + k) = false →
      subsidyAt params (start + k) ≤ largestValues params start k := fun k regular =>
    le_min ((subsidyAt_bounds params _).2.trans (by decide)) (subsidyAt_le_valueBound regular)
  cases super : isValidBlockHeight params (start + place) with
  | true =>
    -- It is the superblock, and no other block has less than its subsidy.
    refine sum_lt_sum (fun k member => ?_) ⟨place, mem_range.mpr inside, atPlace⟩
    cases other : isValidBlockHeight params (start + k) with
    | true =>
      obtain rfl := superblock_unique (mem_range.mp member) inside other super
      exact atPlace.le
    | false => exact regularBlocks k other
  | false =>
    -- It may take all money, which a superblock that takes nothing does not make up for.
    have all : largestValues params start place = 2100000000000000000 := by
      rw [largestValues, valueBound_eq_maxMoney more super, min_self]
    have each : ∀ k ∈ range (cycleLength params),
        subsidyAt params (start + k) + (if k = place then 2000000000000000000 else 0)
          ≤ largestValues params start k + shortfall params start k := by
      intro k member
      have bounds := subsidyAt_bounds params (start + k)
      by_cases isPlace : k = place
      · subst isPlace
        rw [if_pos rfl, all, shortfall, super, if_neg Bool.false_ne_true]
        omega
      · rw [if_neg isPlace, shortfall]
        cases other : isValidBlockHeight params (start + k) with
        | true =>
          have nonneg : 0 ≤ largestValues params start k :=
            (allows_iff.mp (largestValues_allowed (open_ k (mem_range.mp member)))).1
          rw [if_pos rfl]
          omega
        | false =>
          have enough := regularBlocks k other
          omega
    have total := sum_le_sum each
    rw [sum_add_distrib, sum_add_distrib, sum_ite_eq', if_pos (mem_range.mpr inside)] at total
    have short := sum_shortfall_le params start
    omega

/-- Over the blocks of a cycle from any height on, no coinbases within `IsBlockValueValid` are
worth more than the subsidies exactly when none of the blocks may exceed its own subsidy, or
one of them cannot be mined at all. -/
theorem cycle_value_le_iff (params : BudgetParams) (start : Nat) :
    (∀ values : Nat → Int, (∀ k < cycleLength params, Allows params (start + k) (values k)) →
        ∑ k ∈ range (cycleLength params), values k
          ≤ ∑ k ∈ range (cycleLength params), subsidyAt params (start + k))
      ↔ (∃ k < cycleLength params, Barred params (start + k))
        ∨ ∀ k < cycleLength params, ¬ MintsMore params (start + k) := by
  constructor
  · intro bounded
    by_cases barred : ∃ k < cycleLength params, Barred params (start + k)
    · exact .inl barred
    · have open_ : ∀ k < cycleLength params, ¬ Barred params (start + k) :=
        fun k inside isBarred => barred ⟨k, inside, isBarred⟩
      refine .inr fun k inside more => ?_
      exact absurd (bounded (largestValues params start) fun k inside => largestValues_allowed (open_ k inside))
        (not_le.mpr (sum_largestValues inside open_ more))
  · rintro (⟨k, inside, barred⟩ | regular) values allowed
    · obtain ⟨nonneg, -, bound⟩ := allows_iff.mp (allowed k inside)
      exact absurd (nonneg.trans bound) (not_le.mpr (barred_iff.mp barred))
    · refine sum_le_sum fun k member => ?_
      have inside := mem_range.mp member
      exact (allows_iff.mp (allowed k inside)).2.2.trans (not_lt.mp (mt mintsMore_iff.mpr (regular k inside)))

/-- On the development network the first cycle of superblocks may mint twice its subsidies. -/
theorem devNet_cycle_mints_double :
    (∀ k < cycleLength devNetBudget, Allows devNetBudget ((4200 : Nat) + k)
        (if k = 0 then 125000 * coin else 5000 * coin))
      ∧ ∑ k ∈ range (cycleLength devNetBudget), (if k = 0 then 125000 * coin else 5000 * coin)
        = 2 * ∑ k ∈ range (cycleLength devNetBudget), subsidyAt devNetBudget ((4200 : Nat) + k)
      ∧ 0 < ∑ k ∈ range (cycleLength devNetBudget), subsidyAt devNetBudget ((4200 : Nat) + k) := by
  refine ⟨fun k inside => allows_iff.mpr ?_, by decide, by decide⟩
  revert k
  decide

end BlackRaven.Governance
