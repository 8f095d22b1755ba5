import BlackRaven.Arith.Uint256
import BlackRaven.Consensus.CheckTxAssets
import BlackRaven.Lib.GreedyMatch

/-!
Contract: `CSuperblock` of `governance-classes.cpp`.

Owns: the heights and the payments limit of superblocks, `IsValid`, and for which schedules
every coinbase that passes it pays the schedule.

Does not own: how a schedule is read off a governance object. `ParsePaymentAmount` lets no
amount outside `MoneyRange` through, which a payment carries with it.
-/

namespace BlackRaven.Governance

open Consensus Lib Primitives

/-! ## GetValueOut -/

def valueSum (outs : List CTxOut) : Int := (outs.map CTxOut.nValue).sum

theorem valueSum_cons (out : CTxOut) (outs : List CTxOut) : valueSum (out :: outs) = out.nValue + valueSum outs := by
  simp [valueSum]

theorem valueSum_nonneg {outs : List CTxOut} (nonneg : ∀ out ∈ outs, (0 : Int) ≤ out.nValue) : 0 ≤ valueSum outs := by
  refine List.sum_nonneg fun value member => ?_
  obtain ⟨out, isOut, rfl⟩ := List.mem_map.mp member
  exact nonneg out isOut

variable {value nBlockHeight : Int} {vecPayments : List CGovernancePayment} {params : BudgetParams}

theorem inMoneyRange : moneyRange value = true ↔ 0 ≤ value ∧ value ≤ 2100000000000000000 :=
  moneyRange_iff value

theorem addValue_refused_iff {start : Int} (lower : 0 ≤ start) (upper : start ≤ 2100000000000000000) :
    (!moneyRange value) = true ∨ (!moneyRange (toInt64 (start + value))) = true
      ↔ ¬ (0 ≤ value ∧ start + value ≤ 2100000000000000000) := by
  rw [Bool.not_eq_true', Bool.not_eq_true', ← Bool.not_eq_true, ← Bool.not_eq_true, ← not_and_or,
    not_iff_not, inMoneyRange, inMoneyRange]
  constructor
  · rintro ⟨⟨nonneg, below⟩, -, total⟩
    rw [toInt64_of_range (by omega) (by omega)] at total
    exact ⟨nonneg, total⟩
  · rintro ⟨nonneg, total⟩
    rw [toInt64_of_range (by omega) (by omega)]
    omega

theorem valueOut_loop {outs : List CTxOut} {start : Int} (lower : 0 ≤ start)
    (upper : start ≤ 2100000000000000000) :
    outs.foldlM (fun nValueOut txout =>
        let nValueOut := toInt64 (nValueOut + txout.nValue)
        if !moneyRange txout.nValue ∨ !moneyRange nValueOut then
          .error (.thrown "GetValueOut: value out of range")
        else .ok nValueOut) start = (.ok value : Except Failure Int)
      ↔ (∀ out ∈ outs, (0 : Int) ≤ out.nValue) ∧ value = start + valueSum outs
        ∧ value ≤ 2100000000000000000 := by
  induction outs generalizing start with
  | nil =>
    constructor
    · intro runs
      cases runs
      exact ⟨fun _ impossible => absurd impossible List.not_mem_nil, (Int.add_zero _).symm, upper⟩
    · rintro ⟨-, rfl, -⟩
      exact congrArg Except.ok (Int.add_zero _).symm
  | cons head tail ih =>
    rw [List.foldlM_cons, valueSum_cons, List.forall_mem_cons]
    by_cases fits : (0 : Int) ≤ head.nValue ∧ start + head.nValue ≤ 2100000000000000000
    · have passes := mt (addValue_refused_iff lower upper).mp (not_not.mpr fits)
      have same : toInt64 (start + head.nValue) = start + head.nValue := toInt64_of_range (by omega) (by omega)
      rw [if_neg passes, same]
      refine (ih (by omega) fits.2).trans ?_
      rw [Int.add_assoc, and_iff_right fits.1]
    · rw [if_pos ((addValue_refused_iff lower upper).mpr fits)]
      refine iff_of_false nofun ?_
      rintro ⟨⟨nonneg, others⟩, rfl, bound⟩
      have rest := valueSum_nonneg others
      exact fits ⟨nonneg, by omega⟩

/-- `GetValueOut` does not throw exactly when no value is negative and the sum is in range. -/
theorem getValueOut_eq_ok {tx : CTransaction} :
    getValueOut tx = .ok value
      ↔ (∀ out ∈ tx.vout, (0 : Int) ≤ out.nValue) ∧ value = valueSum tx.vout ∧ value ≤ 2100000000000000000 := by
  have loop := @valueOut_loop value tx.vout 0 le_rfl (by decide)
  rw [Int.zero_add] at loop
  exact loop

/-! ## Heights and limits -/

/-- The consensus parameters with those of budgets and superblocks. -/
structure BudgetParams where
  consensus : Params
  nBudgetPaymentsStartBlock : Int
  nBudgetPaymentsCycleBlocks : Int
  nBudgetPaymentsWindowBlocks : Int
  nSuperblockStartBlock : Int
  nSuperblockCycle : Int

def isValidBlockHeight (params : BudgetParams) (nBlockHeight : Int) : Bool :=
  decide (nBlockHeight ≥ params.nSuperblockStartBlock) && nBlockHeight.tmod params.nSuperblockCycle == 0

/-- `GetPaymentsLimit`. It asks for the superblock part of the subsidy, which
`GetBlockSubsidy` does not tell from the whole. -/
def getPaymentsLimit (params : BudgetParams) (nBlockHeight : Int) : CAmount :=
  if !isValidBlockHeight params nBlockHeight then 0
  else
    let nBits : Int :=
      if params.consensus.fPowAllowMinDifficultyBlocks then
        ((Arith.ArithUint256.uintToArith256 params.consensus.powLimit).getCompact.toNat : Int)
      else 1
    let nSuperblockPartOfSubsidy := getBlockSubsidy nBits (nBlockHeight - 1) params.consensus
    toInt64 (nSuperblockPartOfSubsidy * params.nSuperblockCycle)

/-! ## IsValid -/

structure CGovernancePayment where
  script : Bytes
  nAmount : CAmount
  inRange : moneyRange nAmount = true
  deriving DecidableEq

variable (payment : CGovernancePayment)

def CGovernancePayment.out : CTxOut := ⟨payment.nAmount, payment.script⟩

def getPaymentsTotalAmount (vecPayments : List CGovernancePayment) : CAmount :=
  vecPayments.foldl (fun nPaymentsTotalAmount payment => toInt64 (nPaymentsTotalAmount + payment.nAmount)) 0

/-- `CSuperblock::IsValid`. A payment that was found leaves `nVoutIndex` at its output. -/
def isValid (params : BudgetParams) (vecPayments : List CGovernancePayment) (txNew : CTransaction)
    (nBlockHeight : Int) (blockReward : CAmount) : Except Failure Bool :=
  if !isValidBlockHeight params nBlockHeight then .ok false
  else if txNew.vout.length < vecPayments.length then .ok false
  else
    let nPaymentsTotalAmount := getPaymentsTotalAmount vecPayments
    if nPaymentsTotalAmount > getPaymentsLimit params nBlockHeight then .ok false
    else
      getValueOut txNew >>= fun nBlockValue =>
      if nBlockValue > toInt64 (blockReward + nPaymentsTotalAmount) then .ok false
      else .ok (greedyMatch txNew.vout (vecPayments.map CGovernancePayment.out) 0)

/-! ## What passes -/

def paymentsSum (vecPayments : List CGovernancePayment) : Int := valueSum (vecPayments.map CGovernancePayment.out)

/-- A schedule with neighbours that are the same payment taken once. -/
def collapsed (vecPayments : List CGovernancePayment) : List CGovernancePayment :=
  vecPayments.destutter (· ≠ ·)

theorem out_injective : Function.Injective CGovernancePayment.out := by
  rintro ⟨script, nAmount, _⟩ ⟨otherScript, otherAmount, _⟩ same
  cases same
  rfl

theorem out_nonneg : (0 : Int) ≤ payment.out.nValue :=
  (inMoneyRange.mp payment.inRange).1

theorem paymentsSum_cons (vecPayments : List CGovernancePayment) :
    paymentsSum (payment :: vecPayments) = payment.nAmount + paymentsSum vecPayments :=
  valueSum_cons payment.out (vecPayments.map CGovernancePayment.out)

theorem total_loop {start : Int} :
    vecPayments.foldl (fun total payment => toInt64 (total + payment.nAmount)) (toInt64 start)
      = toInt64 (start + paymentsSum vecPayments) := by
  induction vecPayments generalizing start with
  | nil => exact congrArg toInt64 (Int.add_zero start).symm
  | cons head tail ih =>
    rw [List.foldl_cons, toInt64_add_left, ih, paymentsSum_cons, Int.add_assoc]

theorem getPaymentsTotalAmount_eq (vecPayments : List CGovernancePayment) :
    getPaymentsTotalAmount vecPayments = toInt64 (paymentsSum vecPayments) := by
  have loop := @total_loop vecPayments 0
  rw [Int.zero_add] at loop
  exact loop

/-- What `IsValid` has checked when it returns true. -/
structure Accepted (params : BudgetParams) (vecPayments : List CGovernancePayment) (txNew : CTransaction)
    (nBlockHeight : Int) (blockReward : CAmount) : Prop where
  height : isValidBlockHeight params nBlockHeight = true
  outputs : vecPayments.length ≤ txNew.vout.length
  limit : getPaymentsTotalAmount vecPayments ≤ getPaymentsLimit params nBlockHeight
  nonneg : ∀ out ∈ txNew.vout, (0 : Int) ≤ out.nValue
  inRange : valueSum txNew.vout ≤ 2100000000000000000
  value : valueSum txNew.vout ≤ toInt64 (blockReward + getPaymentsTotalAmount vecPayments)
  found : ((collapsed vecPayments).map CGovernancePayment.out).Sublist txNew.vout

theorem isValid_eq_true_iff {txNew : CTransaction} {blockReward : CAmount} :
    isValid params vecPayments txNew nBlockHeight blockReward = .ok true
      ↔ Accepted params vecPayments txNew nBlockHeight blockReward := by
  unfold isValid
  have search : greedyMatch txNew.vout (vecPayments.map CGovernancePayment.out) 0 = true
      ↔ ((collapsed vecPayments).map CGovernancePayment.out).Sublist txNew.vout := by
    rw [greedyMatch_iff, ← List.map_destutter_ne _ out_injective, List.drop_zero]
    rfl
  constructor
  · intro passes
    split at passes
    · cases passes
    rename_i height
    split at passes
    · cases passes
    rename_i outputs
    dsimp only at passes
    split at passes
    · cases passes
    rename_i limit
    obtain ⟨value, isValue, rest⟩ := bind_eq_ok.mp passes
    obtain ⟨nonneg, rfl, inRange⟩ := getValueOut_eq_ok.mp isValue
    split at rest
    · cases rest
    rename_i bound
    exact ⟨by simpa using height, not_lt.mp outputs, not_lt.mp limit, nonneg, inRange, not_lt.mp bound,
      search.mp (Except.ok.inj rest)⟩
  · intro accepted
    rw [accepted.height, if_neg (by decide), if_neg (not_lt.mpr accepted.outputs)]
    rw [if_neg (not_lt.mpr accepted.limit)]
    refine bind_eq_ok.mpr ⟨_, getValueOut_eq_ok.mpr ⟨accepted.nonneg, rfl, accepted.inRange⟩, ?_⟩
    rw [if_neg (not_lt.mpr accepted.value), search.mpr accepted.found]

/-! ## What is paid -/

/-- Every payment of the schedule has its own output in the coinbase, in their order. -/
def Paid (vecPayments : List CGovernancePayment) (txNew : CTransaction) : Prop :=
  Placed (vecPayments.map CGovernancePayment.out) txNew.vout

/-- A coinbase can pass with this schedule: the height is one of superblocks, the total of
`GetPaymentsTotalAmount` is within the limit, and the outputs that are looked for are worth no
more than all money. -/
structure Payable (params : BudgetParams) (vecPayments : List CGovernancePayment) (nBlockHeight : Int) : Prop where
  height : isValidBlockHeight params nBlockHeight = true
  limit : getPaymentsTotalAmount vecPayments ≤ getPaymentsLimit params nBlockHeight
  worth : paymentsSum (collapsed vecPayments) ≤ 2100000000000000000

theorem valueSum_sublist {some_ all : List CTxOut} (sublist : some_.Sublist all)
    (nonneg : ∀ out ∈ all, (0 : Int) ≤ out.nValue) : valueSum some_ ≤ valueSum all := by
  refine (sublist.map CTxOut.nValue).sum_le_sum fun value member => ?_
  obtain ⟨out, isOut, rfl⟩ := List.mem_map.mp member
  exact nonneg out isOut

theorem accepted_pays {txNew : CTransaction} {blockReward : CAmount}
    (accepted : Accepted params vecPayments txNew nBlockHeight blockReward)
    (distinct : vecPayments.IsChain (· ≠ ·)) :
    Paid vecPayments txNew ∧ paymentsSum vecPayments ≤ getPaymentsLimit params nBlockHeight := by
  have same : collapsed vecPayments = vecPayments := List.destutter_of_isChain _ vecPayments distinct
  have found := accepted.found
  rw [same] at found
  refine ⟨placed_iff.mpr found, ?_⟩
  -- The payments are worth no more than the coinbase, so their sum does not wrap.
  have worth := (valueSum_sublist found accepted.nonneg).trans accepted.inRange
  have nonneg : 0 ≤ valueSum (vecPayments.map CGovernancePayment.out) := by
    refine valueSum_nonneg fun out member => ?_
    obtain ⟨payment, -, rfl⟩ := List.mem_map.mp member
    exact out_nonneg payment
  have limit := accepted.limit
  rw [getPaymentsTotalAmount_eq, paymentsSum, toInt64_of_range (by omega) (by omega)] at limit
  exact limit

def coinbaseWith (vout : List CTxOut) : CTransaction where
  nVersion := 1
  nType := 0
  vin := [⟨⟨0, 0xffffffff#32⟩, [], 0xffffffff#32, []⟩]
  vout := vout
  nLockTime := 0
  vExtraPayload := []

/-- The outputs that are looked for, each once, and empty outputs to another script. -/
def thriftyOuts (vecPayments : List CGovernancePayment) (filler : Bytes) : List CTxOut :=
  (collapsed vecPayments).map CGovernancePayment.out ++ List.replicate vecPayments.length ⟨0, filler⟩

theorem valueSum_thriftyOuts (vecPayments : List CGovernancePayment) (filler : Bytes) :
    valueSum (thriftyOuts vecPayments filler) = paymentsSum (collapsed vecPayments) := by
  simp [thriftyOuts, valueSum, paymentsSum]

theorem thriftyOuts_accepted (payable : Payable params vecPayments nBlockHeight) (filler : Bytes) :
    Accepted params vecPayments (coinbaseWith (thriftyOuts vecPayments filler)) nBlockHeight
      (toInt64 (2100000000000000000 - getPaymentsTotalAmount vecPayments)) where
  height := payable.height
  outputs := by simp [coinbaseWith, thriftyOuts]
  limit := payable.limit
  nonneg := by
    intro out member
    rcases List.mem_append.mp member with isPayment | isFiller
    · obtain ⟨payment, -, rfl⟩ := List.mem_map.mp isPayment
      exact out_nonneg payment
    · obtain ⟨-, rfl⟩ := List.mem_replicate.mp isFiller
      exact le_refl _
  inRange := (valueSum_thriftyOuts vecPayments filler).trans_le payable.worth
  value := by
    rw [toInt64_add_left, Int.sub_add_cancel]
    exact (valueSum_thriftyOuts vecPayments filler).trans_le payable.worth
  found := List.sublist_append_left _ _

theorem thriftyOuts_unpaid (repeats : ¬ vecPayments.IsChain (· ≠ ·)) {filler : Bytes}
    (foreign : ∀ payment ∈ vecPayments, payment.script ≠ filler) :
    ¬ Paid vecPayments (coinbaseWith (thriftyOuts vecPayments filler)) := by
  intro paid
  obtain ⟨looked, fillers, splits, inFront, behind⟩ := List.sublist_append_iff.mp (placed_iff.mp paid)
  have noFillers : fillers = [] := by
    refine List.eq_nil_iff_forall_not_mem.mpr fun out member => ?_
    have isPayment : out ∈ vecPayments.map CGovernancePayment.out := by
      rw [splits]
      exact List.mem_append_right looked member
    obtain ⟨payment, listed, rfl⟩ := List.mem_map.mp isPayment
    exact foreign payment listed (congrArg CTxOut.scriptPubKey (List.eq_of_mem_replicate (behind.subset member)))
  rw [noFillers, List.append_nil] at splits
  rw [← splits] at inFront
  have length := inFront.length_le
  rw [List.length_map, List.length_map] at length
  have same : collapsed vecPayments = vecPayments :=
    (List.destutter_sublist _ vecPayments).eq_of_length_le length
  exact repeats ((List.destutter_eq_self_iff _ vecPayments).mp same)

/-- Every coinbase that passes pays the whole schedule, within the limit, exactly when no two
neighbouring payments are the same, or no coinbase can pass. -/
theorem isValid_pays_iff (params : BudgetParams) (vecPayments : List CGovernancePayment) (nBlockHeight : Int) :
    (∀ txNew blockReward, txNew.isCoinBase = true →
        isValid params vecPayments txNew nBlockHeight blockReward = .ok true →
        Paid vecPayments txNew ∧ paymentsSum vecPayments ≤ getPaymentsLimit params nBlockHeight)
      ↔ vecPayments.IsChain (· ≠ ·) ∨ ¬ Payable params vecPayments nBlockHeight := by
  constructor
  · intro pays
    by_contra neither
    obtain ⟨repeats, payable⟩ := not_or.mp neither
    obtain ⟨filler, unused⟩ := Infinite.exists_notMem_finset
      (vecPayments.map CGovernancePayment.script).toFinset
    have foreign : ∀ payment ∈ vecPayments, payment.script ≠ filler := by
      rintro payment listed rfl
      exact unused (List.mem_toFinset.mpr (List.mem_map_of_mem listed))
    have accepted := thriftyOuts_accepted (not_not.mp payable) filler
    exact thriftyOuts_unpaid repeats foreign (pays _ _ rfl (isValid_eq_true_iff.mpr accepted)).1
  · rintro condition txNew blockReward - passes
    have accepted := isValid_eq_true_iff.mp passes
    have payable : Payable params vecPayments nBlockHeight :=
      ⟨accepted.height, accepted.limit, (valueSum_sublist accepted.found accepted.nonneg).trans accepted.inRange⟩
    exact accepted_pays accepted (condition.resolve_right (not_not.mpr payable))

/-! ## The development network -/

/-- The values `CDevNetParams` gives, over main-network values for what superblocks do not
read. -/
def devNetBudget : BudgetParams where
  consensus :=
    { mainParams with
      nSubsidyHalvingInterval := 210240
      powLimit := 0x7fffffffffffffffffffffffffffffffffffffffffffffffffffffffffffffff#256
      fPowAllowMinDifficultyBlocks := true }
  nBudgetPaymentsStartBlock := 4100
  nBudgetPaymentsCycleBlocks := 50
  nBudgetPaymentsWindowBlocks := 10
  nSuperblockStartBlock := 4200
  nSuperblockCycle := 24

def hundredCoins : CGovernancePayment := ⟨mainFounderPayee, 100 * coin, by decide⟩

/-- A schedule that pays it twice passes with a coinbase that pays it once. -/
theorem repeated_payment_unpaid :
    isValid devNetBudget [hundredCoins, hundredCoins]
        (coinbaseWith [⟨5000 * coin, [0x51]⟩, hundredCoins.out]) 4200 (5000 * coin) = .ok true
      ∧ ¬ Paid [hundredCoins, hundredCoins] (coinbaseWith [⟨5000 * coin, [0x51]⟩, hundredCoins.out]) := by
  refine ⟨by decide, fun paid => ?_⟩
  have sublist := placed_iff.mp paid
  revert sublist
  decide

end BlackRaven.Governance
