import BlackRaven.Chain.PoolIndependence

/-!
Contract: the two ways `CheckTransaction` is called, for the mempool and for a block.

Owns: what separates them. `AcceptToMemoryPoolWorker` leaves both flags at their default,
so neither of the two checks on the value of a reissue output is made.
-/

namespace BlackRaven.Chain

open Consensus Lib Primitives Script

/-- `CheckTransaction` as `AcceptToMemoryPoolWorker` calls it. -/
def checkPoolTransaction (env : TxEnv) (tx : CTransaction) : Except Failure Unit :=
  checkTransaction env tx 0 0 false false

def ReissuesWithoutValue (tx : CTransaction) : Prop :=
  ∀ out ∈ tx.vout, assetKind out.scriptPubKey = some .reissueAsset → out.nValue = 0

instance (tx : CTransaction) : Decidable (ReissuesWithoutValue tx) :=
  inferInstanceAs (Decidable (∀ out ∈ tx.vout,
    assetKind out.scriptPubKey = some .reissueAsset → out.nValue = 0))

theorem scanAsset_block {s next : OutputScan} {txout : CTxOut} :
    scanAsset false true s txout = .ok next
      ↔ scanAsset false false s txout = .ok next
        ∧ (assetKind txout.scriptPubKey = some .reissueAsset → txout.nValue = 0) := by
  unfold scanAsset
  cases isKind : assetKind txout.scriptPubKey with
  | none => simp
  | some kind =>
    cases kind with
    | reissueAsset => by_cases noValue : txout.nValue = 0 <;> simp [noValue]
    | transferAsset => simp
    | newAsset => simp
    | ownerAsset => simp

theorem scanOutput_block (env : TxEnv) (s : OutputScan) (txout : CTxOut) (next : OutputScan) :
    scanOutput env false true s txout = .ok next
      ↔ scanOutput env false false s txout = .ok next
        ∧ (assetKind txout.scriptPubKey = some .reissueAsset → txout.nValue = 0) := by
  unfold scanOutput
  simp only [bind_eq_ok, scanAsset_block]
  constructor
  · rintro ⟨valued, values, scanned, scans, asset, noValue⟩
    exact ⟨⟨valued, values, scanned, scans, asset⟩, noValue⟩
  · rintro ⟨⟨valued, values, scanned, scans, asset⟩, noValue⟩
    exact ⟨valued, values, scanned, scans, asset, noValue⟩

theorem checkInputs_of_not_coinBase {env : TxEnv} {tx : CTransaction}
    (notCoinBase : tx.isCoinBase = false) (nHeight : Int) (blockReward : CAmount) :
    checkInputs env tx nHeight blockReward = checkInputs env tx 0 0 := by
  unfold checkInputs
  rw [notCoinBase]
  rfl

/-- A block asks for nothing more than the mempool but that reissues have no value. -/
theorem checkTransaction_block {env : TxEnv} {tx : CTransaction}
    (notCoinBase : tx.isCoinBase = false) (nHeight : Int) (blockReward : CAmount) :
    checkTransaction env tx nHeight blockReward false true = .ok ()
      ↔ checkPoolTransaction env tx = .ok () ∧ ReissuesWithoutValue tx := by
  unfold checkPoolTransaction checkTransaction
  rw [checkInputs_of_not_coinBase notCoinBase nHeight blockReward]
  simp only [rejected, ite_error_eq_ok]
  constructor
  · rintro ⟨vin, vout, size, payload, passes⟩
    obtain ⟨scan, scanned, passes⟩ := bind_eq_ok.mp passes
    obtain ⟨scanned, noValue⟩ := (foldlM_guarded (scanOutput_block env)).mp scanned
    exact ⟨⟨vin, vout, size, payload, bind_eq_ok.mpr ⟨scan, scanned, passes⟩⟩, noValue⟩
  · rintro ⟨⟨vin, vout, size, payload, passes⟩, noValue⟩
    obtain ⟨scan, scanned, passes⟩ := bind_eq_ok.mp passes
    have guarded := (foldlM_guarded (scanOutput_block env)).mpr ⟨scanned, noValue⟩
    exact ⟨vin, vout, size, payload, bind_eq_ok.mpr ⟨scan, guarded, passes⟩⟩

/-- What the mempool lets in passes `CheckTransaction` of the next block exactly when its
reissues have no value; and a block template of such transactions, with a coinbase that
passes, is rejected for one of them exactly when a reissue in it has one. -/
theorem pool_rules_cover_block_rules_iff (env : BlockEnv) :
    (∀ tx nHeight blockReward, tx.isCoinBase = false →
        ((checkPoolTransaction env.txEnv tx = .ok () →
            checkTransaction env.txEnv tx nHeight blockReward false true = .ok ())
          ↔ (checkPoolTransaction env.txEnv tx = .ok () → ReissuesWithoutValue tx)))
      ∧ ∀ (block : CBlock) coinbase pooled nHeight, block.vtx = coinbase :: pooled →
          checkTransaction env.txEnv coinbase (toInt32 (nHeight - 1))
              (getBlockSubsidy 1 (toInt32 (nHeight - 1)) env.chainparams.consensus) false true
            = .ok () →
          (∀ tx ∈ pooled, tx.isCoinBase = false ∧ checkPoolTransaction env.txEnv tx = .ok ()) →
          (checkTransactions env block nHeight false = .ok () ↔ ∀ tx ∈ pooled, ReissuesWithoutValue tx) := by
  constructor
  · intro tx nHeight blockReward notCoinBase
    rw [checkTransaction_block notCoinBase]
    tauto
  · intro block coinbase pooled nHeight isBlock passes accepted
    unfold checkTransactions
    rw [forM_eq_ok, isBlock, List.forall_mem_cons]
    constructor
    · rintro ⟨-, all⟩ tx member
      exact ((checkTransaction_block (accepted tx member).1 _ _).mp (all tx member)).2
    · intro noValue
      refine ⟨passes, fun tx member => ?_⟩
      obtain ⟨notCoinBase, pools⟩ := accepted tx member
      exact (checkTransaction_block notCoinBase _ _).mpr ⟨pools, noValue tx member⟩

theorem pool_rules_cover_reissueBlock :
    checkTransactions reissueContext.blockEnv reissueBlock 2 false = .ok () := by
  have coinbasePasses : checkTransaction reissueContext.blockEnv.txEnv reissueCoinbase
      (toInt32 (2 - 1))
      (getBlockSubsidy 1 (toInt32 (2 - 1)) reissueContext.blockEnv.chainparams.consensus)
      false true = .ok () := by
    decide
  refine ((pool_rules_cover_block_rules_iff reissueContext.blockEnv).2 reissueBlock reissueCoinbase
    [reissueTx] 2 rfl coinbasePasses ?_).mpr ?_
  · intro tx member
    rw [List.mem_singleton] at member
    subst member
    decide +kernel
  · intro tx member
    rw [List.mem_singleton] at member
    subst member
    decide

/-- The same reissue with one base unit in its last output. -/
def valuedReissueTx : CTransaction :=
  { reissueTx with
    vout := reissueTx.vout.dropLast ++ [{ goldReissue with nValue := 1 }] }

theorem valuedReissueTx_only_for_pool :
    valuedReissueTx.isCoinBase = false
      ∧ checkPoolTransaction reissueContext.blockEnv.txEnv valuedReissueTx = .ok ()
      ∧ checkTransaction reissueContext.blockEnv.txEnv valuedReissueTx 1 (5000 * coin) false true
        = .error (dos 0 rejectInvalid "bad-txns-asset-reissued-amount-isn't-zero") := by
  refine ⟨rfl, ?_, ?_⟩ <;> decide +kernel

end BlackRaven.Chain
