import BlackRaven.Consensus.CheckTxAssets

/-!
Contract: what a transaction accepted by `CheckTransaction` and `CheckTxAssets` does to
the total of an asset.

Owns: the exact totals of the transfer outputs and of the spent coins, that acceptance
makes them equal modulo 2^64, and exactly when they are equal.
-/

namespace BlackRaven.Consensus

open Assets Lib Primitives Script

/-- A transaction that passed both checks, with whatever height, reward and flags
`CheckTransaction` was called. -/
structure TxAccepted (env : TxEnv) (ctx : TxAssetsContext) (tx : CTransaction) : Prop where
  sameNetwork : ctx.env = env.assets
  notCoinBase : tx.isCoinBase = false
  checked : ∃ nHeight blockReward fMempoolCheck fBlockCheck,
    checkTransaction env tx nHeight blockReward fMempoolCheck fBlockCheck = .ok ()
  assetsChecked : ∃ totals, checkTxAssets ctx tx = .ok totals

variable {ctx : TxAssetsContext} {tx : CTransaction} {next s totals : OutputTotals} {txout : CTxOut}

theorem TxAccepted.of_outcomes {env : TxEnv} {nHeight : Int} {blockReward : CAmount}
    {fMempoolCheck fBlockCheck : Bool} (sameNetwork : ctx.env = env.assets)
    (notCoinBase : tx.isCoinBase = false)
    (checked : checkTransaction env tx nHeight blockReward fMempoolCheck fBlockCheck = .ok ())
    (assetsChecked : (checkTxAssets ctx tx).toOption.isSome = true) : TxAccepted env ctx tx :=
  ⟨sameNetwork, notCoinBase, ⟨nHeight, blockReward, fMempoolCheck, fBlockCheck, checked⟩,
    toOption_isSome.mp assetsChecked⟩

/-! ## Exact totals -/

def transferEntry (out : CTxOut) : Option (Bytes × CAmount) :=
  (transferData out.scriptPubKey).map fun transfer => (transfer.strName, transfer.nAmount)

def spentEntry (inputs : CoinsView) (txin : CTxIn) : Option (Bytes × CAmount) :=
  (inputs txin.prevout).bind fun coin_ => assetAmount coin_.out.scriptPubKey

/-- The amount of an asset in the transfer outputs, as an integer. -/
def transferredTotal (tx : CTransaction) (name : Bytes) : Int :=
  keyTotal (tx.vout.filterMap transferEntry) name

/-- The amount of an asset in the spent coins, as an integer. -/
def spentTotal (inputs : CoinsView) (tx : CTransaction) (name : Bytes) : Int :=
  keyTotal (tx.vin.filterMap (spentEntry inputs)) name

/-- How often a total passes the end of the range of `int64_t`. -/
def int64Wraps (total : Int) : Int := (total + 2 ^ 63) / 2 ^ 64

/-! ## What the loops add up -/

def creditEntry (entry : Option (Bytes × CAmount)) (totals : Tally Bytes) : Tally Bytes :=
  match entry with
  | none => totals
  | some credit => totals.credit toInt64 credit

theorem foldl_creditEntry {ι : Type} (entry : ι → Option (Bytes × CAmount)) (items : List ι) :
    items.foldl (fun totals item => creditEntry (entry item) totals) ∅
      = Tally.ofCredits toInt64 (items.filterMap entry) := by
  rw [Tally.ofCredits, List.foldl_filterMap]
  congr 1
  funext totals item
  cases entry item <;> rfl

theorem checkAssetInput_totalInputs {s next : InputTotals} {txin : CTxIn}
    (steps : checkAssetInput ctx s txin = .ok next) :
    next.totalInputs = creditEntry (spentEntry ctx.inputs txin) s.totalInputs := by
  unfold checkAssetInput at steps
  unfold spentEntry
  split at steps
  · cases steps
  next coin_ found =>
    rw [found]
    by_cases plain : (assetKind coin_.out.scriptPubKey).isNone
    · rw [if_pos plain] at steps
      cases steps
      rw [Option.isNone_iff_eq_none] at plain
      simp only [Option.bind_some, assetAmount, plain]
      rfl
    · rw [if_neg plain] at steps
      cases held : assetAmount coin_.out.scriptPubKey with
      | none =>
        simp only [getAssetData, held] at steps
        cases steps
      | some entry =>
        simp only [getAssetData, held, Option.map_some] at steps
        rw [Option.bind_some, held]
        split at steps
        · split at steps
          · cases steps
          · split at steps
            · cases steps
            · cases steps
              rfl
        · cases steps
          rfl

theorem checkTransferOutput_totalOutputs {mapAddresses : Std.TreeMap Bytes Bytes}
    (steps : checkTransferOutput ctx tx mapAddresses s txout = .ok next) :
    next.totalOutputs = creditEntry (transferEntry txout) s.totalOutputs := by
  unfold checkTransferOutput at steps
  unfold transferEntry
  split at steps
  · cases steps
  next transfer read =>
    rw [read]
    obtain ⟨_, -, unitsChecked⟩ := bind_eq_ok.mp steps
    obtain ⟨_, -, isNext⟩ := bind_eq_ok.mp unitsChecked
    cases isNext
    rfl

theorem checkReissueOutput_totalOutputs (steps : checkReissueOutput ctx tx s txout = .ok next)
    : next.totalOutputs = s.totalOutputs := by
  unfold checkReissueOutput at steps
  split at steps
  · cases steps
  · split at steps
    · rw [rejected, ite_error_eq_ok] at steps
      cases steps.2
      rfl
    · cases steps
      rfl

theorem transferEntry_of_kind (other : assetKind txout.scriptPubKey ≠ some .transferAsset) :
    transferEntry txout = none := by
  unfold transferEntry
  cases read : transferData txout.scriptPubKey with
  | none => rfl
  | some transfer => exact absurd (readKind_kind read) other

theorem checkAssetOutput_totalOutputs {mapAddresses : Std.TreeMap Bytes Bytes}
    (steps : checkAssetOutput ctx tx mapAddresses s txout = .ok next) :
    next.totalOutputs = creditEntry (transferEntry txout) s.totalOutputs := by
  obtain ⟨_, -, rest⟩ := bind_eq_ok.mp steps
  obtain ⟨middle, kindChecked, isNext⟩ := bind_eq_ok.mp rest
  cases isNext
  change middle.totalOutputs = _
  split at kindChecked
  case h_1 => exact checkTransferOutput_totalOutputs kindChecked
  case h_2 isReissue =>
    rw [transferEntry_of_kind (by rw [isReissue]; decide)]
    exact checkReissueOutput_totalOutputs kindChecked
  case h_3 notTransfer _ =>
    rw [transferEntry_of_kind notTransfer]
    cases kindChecked
    rfl

theorem spentEntry_inRange {inputs : CoinsView} {txin : CTxIn} {entry : Bytes × CAmount}
    (spent : spentEntry inputs txin = some entry) : InRange entry.2 := by
  rw [spentEntry, Option.bind_eq_some_iff] at spent
  obtain ⟨coin_, -, held⟩ := spent
  unfold assetAmount at held
  split at held
  · cases held
  · obtain ⟨asset, read, rfl⟩ := Option.map_eq_some_iff.mp held
    have inRange := readKind_yields readNewAsset_inRange read
    exact inRange
  · obtain ⟨transfer, read, rfl⟩ := Option.map_eq_some_iff.mp held
    have inRange := readKind_yields readAssetTransfer_inRange read
    exact inRange
  · obtain ⟨assetName, read, rfl⟩ := Option.map_eq_some_iff.mp held
    change InRange ownerAssetAmount
    exact toInt64_of_range (by decide) (by decide)
  · obtain ⟨reissue, read, rfl⟩ := Option.map_eq_some_iff.mp held
    have inRange := readKind_yields readReissueAsset_inRange read
    exact inRange

theorem transferEntry_inRange {entry : Bytes × CAmount}
    (transferred : transferEntry txout = some entry) : InRange entry.2 := by
  obtain ⟨transfer, read, rfl⟩ := Option.map_eq_some_iff.mp transferred
  have inRange := readKind_yields readAssetTransfer_inRange read
  exact inRange

/-! ## Acceptance -/

theorem checkTotals_ok {totalInputs totalOutputs : Tally Bytes}
    (balanced : checkTotals totalInputs totalOutputs = .ok ()) (name : Bytes) :
    totalOutputs[name]? = totalInputs[name]? := by
  obtain ⟨_, eachChecked, sizes⟩ := bind_eq_ok.mp balanced
  rw [rejected, ite_error_eq_ok, not_not] at sizes
  have each : ∀ (key : Bytes) (total : Int), totalOutputs[key]? = some total → totalInputs[key]? = some total := by
    intro key total found
    have checked := forM_eq_ok.mp eachChecked (key, total)
      (Std.TreeMap.mem_toList_iff_getElem?_eq_some.mpr found)
    unfold checkTotal at checked
    split at checked
    · cases checked
    · rename_i other isOther
      rw [rejected, ite_error_eq_ok, not_not] at checked
      have isTotal : other = total := checked.1
      rw [← isTotal]
      exact isOther
  have included : ∀ key : Bytes, key ∈ totalOutputs → key ∈ totalInputs := by
    intro key member
    rw [Std.TreeMap.mem_iff_isSome_getElem?] at member ⊢
    obtain ⟨total, found⟩ := Option.isSome_iff_exists.mp member
    rw [each key total found]
    rfl
  cases found : totalOutputs[name]? with
  | some total => exact (each name total found).symm
  | none =>
    -- The sizes are equal, so the inputs have no asset the outputs lack.
    have absent : name ∉ totalOutputs := by
      rw [Std.TreeMap.mem_iff_isSome_getElem?, found]
      simp
    have notSpent : name ∉ totalInputs := fun member =>
      absent (Tally.mem_of_size_eq included sizes.1 member)
    rw [Std.TreeMap.mem_iff_isSome_getElem?, Bool.not_eq_true, Option.isSome_eq_false_iff,
      Option.isNone_iff_eq_none] at notSpent
    exact notSpent.symm

theorem toInt64_eq_sub (total : Int) : toInt64 total = total - 2 ^ 64 * int64Wraps total := by
  unfold toInt64 int64Wraps
  rw [Int.bmod_def]
  split <;> omega

/-- The totals kept by the two loops of an accepted transaction are the same. -/
theorem accepted_sameTotals (accepted : checkTxAssets ctx tx = .ok totals) (name : Bytes) :
    (Tally.ofCredits toInt64 (tx.vout.filterMap transferEntry))[name]?
      = (Tally.ofCredits toInt64 (tx.vin.filterMap (spentEntry ctx.inputs)))[name]? := by
  unfold checkTxAssets at accepted
  rw [rejected, ite_error_eq_ok] at accepted
  obtain ⟨inputTotals, inputsChecked, rest⟩ := bind_eq_ok.mp accepted.2
  obtain ⟨outputTotals, outputsChecked, rest⟩ := bind_eq_ok.mp rest
  obtain ⟨_, -, rest⟩ := bind_eq_ok.mp rest
  obtain ⟨_, balanced, -⟩ := bind_eq_ok.mp rest
  have isInputs : inputTotals.totalInputs
      = Tally.ofCredits toInt64 (tx.vin.filterMap (spentEntry ctx.inputs)) := by
    rw [← foldl_creditEntry]
    exact foldlM_project (fun s txin next steps => checkAssetInput_totalInputs steps) inputsChecked
  have isOutputs : outputTotals.totalOutputs
      = Tally.ofCredits toInt64 (tx.vout.filterMap transferEntry) := by
    rw [← foldl_creditEntry]
    exact foldlM_project (fun s txout next steps => checkAssetOutput_totalOutputs steps) outputsChecked
  rw [← isInputs, ← isOutputs]
  exact checkTotals_ok balanced name

theorem totals_of_mem {ι : Type} {entry : ι → Option (Bytes × CAmount)}
    (inRange : ∀ {item credit}, entry item = some credit → InRange credit.2) {items : List ι} {name : Bytes}
    (member : name ∈ (items.filterMap entry).map Prod.fst) :
    (Tally.ofCredits toInt64 (items.filterMap entry))[name]?
      = some (toInt64 (keyTotal (items.filterMap entry) name)) := by
  apply Tally.ofCredits_of_mem toInt64_add_left _ member
  intro credit credited
  obtain ⟨item, -, isCredit⟩ := List.mem_filterMap.mp credited
  exact inRange isCredit

/-- An accepted transaction transfers the assets it spends, and no others. -/
theorem accepted_sameNames (accepted : checkTxAssets ctx tx = .ok totals) (name : Bytes) :
    name ∈ (tx.vout.filterMap transferEntry).map Prod.fst
      ↔ name ∈ (tx.vin.filterMap (spentEntry ctx.inputs)).map Prod.fst := by
  have same := accepted_sameTotals accepted name
  constructor
  · intro transferred
    by_contra notSpent
    rw [totals_of_mem transferEntry_inRange transferred, Tally.ofCredits_of_not_mem notSpent] at same
    cases same
  · intro spent
    by_contra notTransferred
    rw [totals_of_mem spentEntry_inRange spent, Tally.ofCredits_of_not_mem notTransferred] at same
    cases same

theorem accepted_congruent (accepted : checkTxAssets ctx tx = .ok totals) (name : Bytes) :
    toInt64 (transferredTotal tx name) = toInt64 (spentTotal ctx.inputs tx name) := by
  by_cases transferred : name ∈ (tx.vout.filterMap transferEntry).map Prod.fst
  · have spent := (accepted_sameNames accepted name).mp transferred
    have same := accepted_sameTotals accepted name
    rw [totals_of_mem transferEntry_inRange transferred, totals_of_mem spentEntry_inRange spent] at same
    exact Option.some.inj same
  · have notSpent := mt (accepted_sameNames accepted name).mpr transferred
    rw [transferredTotal, spentTotal, keyTotal_of_not_mem transferred, keyTotal_of_not_mem notSpent]

/-- An accepted transaction conserves an asset exactly when the two 64-bit totals wrap
around equally often. -/
theorem assets_conserved_iff {env : TxEnv} {ctx : TxAssetsContext} {tx : CTransaction}
    (accepted : TxAccepted env ctx tx) (name : Bytes) :
    transferredTotal tx name = spentTotal ctx.inputs tx name
      ↔ int64Wraps (transferredTotal tx name) = int64Wraps (spentTotal ctx.inputs tx name) := by
  obtain ⟨totals, assetsChecked⟩ := accepted.assetsChecked
  have congruent := accepted_congruent assetsChecked name
  rw [toInt64_eq_sub, toInt64_eq_sub] at congruent
  constructor
  · intro conserved
    rw [conserved]
  · intro sameWraps
    omega

/-! ## Sample transactions -/

def goldName : Bytes := ascii "GOLD"

/-- An asset state with one divisible root asset and nothing else. -/
def goldView : AssetView where
  checkIfAssetExists := fun name => name == goldName
  getAssetMetaDataIfExists := fun name =>
    if name = goldName then some ⟨goldName, coin, 8, 0, 0, []⟩ else none
  getAssetVerifierStringIfExists := fun _ _ => none
  checkForAddressQualifier := fun _ _ => false
  checkForAddressRestriction := fun _ _ => false
  checkForGlobalRestriction := fun _ => false

/-- No check on these transactions depends on a digest. -/
def goldEnv : TxEnv :=
  ⟨⟨Digests.tabulated [] Digests.nil_sized, mainAssetParams⟩, mainParams, 0⟩

def goldOutput (amount : CAmount) : CTxOut :=
  ⟨0, CAssetTransfer.constructTransaction ⟨goldName, amount, [], 0⟩ (payToPubkeyHash (List.replicate 20 7))⟩

def goldOutPoint : COutPoint := ⟨1, 0⟩

def goldContext : TxAssetsContext where
  env := goldEnv.assets
  inputs := fun prevout => if prevout = goldOutPoint then some ⟨goldOutput coin, 10, false⟩ else none
  assetCache := some goldView
  fCheckMempool := false
  fRunningUnitTests := false
  mempoolHasAsset := fun _ => false
  mapReissuedAssets := fun _ => none
  collectMessages := false
  currentTime := 0
  nBlocktime := 0

def goldTx (amounts : List CAmount) : CTransaction :=
  .plain [⟨goldOutPoint, [], 0xffffffff#32, []⟩] (amounts.map goldOutput)

/-- Two outputs of the largest amount and one of a little more than the input add up to
the input modulo 2^64. -/
def wrappingAmounts : List CAmount := [2 ^ 63 - 1, 2 ^ 63 - 1, coin + 2]

theorem wrappingTx_accepted : TxAccepted goldEnv goldContext (goldTx wrappingAmounts) := by
  have checked : checkTransaction goldEnv (goldTx wrappingAmounts) 11 0 false true = .ok () := by
    decide +kernel
  exact .of_outcomes rfl rfl checked (by decide)

theorem wrappingTx_creates_units :
    TxAccepted goldEnv goldContext (goldTx wrappingAmounts)
      ∧ spentTotal goldContext.inputs (goldTx wrappingAmounts) goldName = coin
      ∧ transferredTotal (goldTx wrappingAmounts) goldName = coin + 2 ^ 64 := by
  refine ⟨wrappingTx_accepted, ?_, ?_⟩ <;> decide

theorem assets_conserved_splitTx :
    transferredTotal (goldTx [coin / 4, coin / 4 * 3]) goldName
      = spentTotal goldContext.inputs (goldTx [coin / 4, coin / 4 * 3]) goldName := by
  have checked : checkTransaction goldEnv (goldTx [coin / 4, coin / 4 * 3]) 11 0 false true = .ok () := by
    decide +kernel
  have accepted : TxAccepted goldEnv goldContext (goldTx [coin / 4, coin / 4 * 3]) :=
    .of_outcomes rfl rfl checked (by decide)
  exact (assets_conserved_iff accepted goldName).mpr (by decide)

end BlackRaven.Consensus
