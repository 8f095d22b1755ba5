import BlackRaven.Chain.ConnectBlock
import BlackRaven.Chain.Difficulty
import BlackRaven.Consensus.Ownership

/-!
Contract: what the verdict on a block owes to the mempool.

`CheckTxAssets` looks a reissue up in the global `mapReissuedAssets`, which acceptance to
the mempool fills, and refuses it when the map has the asset under another transaction.
`ConnectBlock` calls it with `fCheckMempool` off, which does not turn this look-up off.

Owns: that this is the only way the mempool enters, and for which blocks it decides.
-/

namespace BlackRaven.Chain

open Assets Consensus Lib Primitives Script

def PoolView.empty : PoolView := ⟨fun _ => false, fun _ => none⟩

/-- The output reissues an asset that the map has under another transaction. -/
def ReissuedElsewhere (pool : PoolView) (txid : Uint256) (out : CTxOut) : Prop :=
  ∃ reissue hash, reissueData out.scriptPubKey = some reissue
    ∧ pool.mapReissuedAssets reissue.strName = some hash ∧ hash ≠ txid

/-- A transaction of the block reissues an asset that the map has under another
transaction. The genesis block is connected without its transactions. -/
def PoolConflict (ctx : ConnectContext) (pool : PoolView) (block : CBlock) : Prop :=
  block.header.getHash ctx.crypto ≠ ctx.chainparams.consensus.hashGenesisBlock
    ∧ ∃ tx ∈ block.vtx, tx.isCoinBase = false
      ∧ ∃ out ∈ tx.vout, ReissuedElsewhere pool (tx.getHash ctx.globals.env.digests) out

/-! ## One transaction -/

def withoutPairs (totals : OutputTotals) : OutputTotals :=
  { totals with vPairReissueAssets := [] }

section Transaction

variable {ctx : ConnectContext} {pool : PoolView} {block : CBlock} {pindex : CBlockIndex}
  {s : CoinsState} {tx : CTransaction}

variable {out : CTxOut} {same totals : OutputTotals}

/-- A reissue output that is not recorded elsewhere is checked as without a mempool. -/
theorem checkReissueOutput_empty
    (free : ¬ ReissuedElsewhere pool (tx.getHash ctx.globals.env.digests) out)
    (agree : withoutPairs totals = withoutPairs same) :
    (checkReissueOutput (assetsContext ctx pool block s) tx totals out).map withoutPairs
      = (checkReissueOutput (assetsContext ctx .empty block s) tx same out).map withoutPairs := by
  unfold checkReissueOutput
  cases read : reissueData out.scriptPubKey with
  | none => rfl
  | some reissue =>
    have unrecorded : (assetsContext ctx .empty block s).mapReissuedAssets reissue.strName = none := rfl
    simp only [unrecorded]
    cases recorded : (assetsContext ctx pool block s).mapReissuedAssets reissue.strName with
    | none => exact congrArg Except.ok agree
    | some hash =>
      have sameTx : hash = tx.getHash (assetsContext ctx pool block s).env.digests := by
        by_contra different
        exact free ⟨reissue, hash, read, recorded, different⟩
      simp only [if_neg (not_not.mpr sameTx)]
      exact congrArg Except.ok agree

theorem checkReissueOutput_ok {next : OutputTotals}
    (passes : checkReissueOutput (assetsContext ctx pool block s) tx totals out = .ok next) :
    ¬ ReissuedElsewhere pool (tx.getHash ctx.globals.env.digests) out := by
  rintro ⟨reissue, hash, read, recorded, different⟩
  have isRecorded : (assetsContext ctx pool block s).mapReissuedAssets reissue.strName = some hash := recorded
  simp only [checkReissueOutput, read, isRecorded, rejected, ite_error_eq_ok] at passes
  exact passes.1 different

theorem ReissuedElsewhere.kind {txid : Uint256} (elsewhere : ReissuedElsewhere pool txid out)
    : assetKind out.scriptPubKey = some .reissueAsset := by
  obtain ⟨_, _, read, -⟩ := elsewhere
  exact readKind_kind read

theorem checkTransferOutput_empty {mapAddresses : Std.TreeMap Bytes Bytes}
    (agree : withoutPairs totals = withoutPairs same) :
    (checkTransferOutput (assetsContext ctx pool block s) tx mapAddresses totals out).map withoutPairs
      = (checkTransferOutput (assetsContext ctx .empty block s) tx mapAddresses same out).map withoutPairs := by
  have sameTotals : totals.totalOutputs = same.totalOutputs := congrArg (·.totalOutputs) agree
  have sameIndex : totals.index = same.index := congrArg (·.index) agree
  have sameMessages : totals.setMessages = same.setMessages := congrArg (·.setMessages) agree
  unfold checkTransferOutput
  cases transferData out.scriptPubKey with
  | none => rfl
  | some transfer =>
    apply bind_map_congr id rfl
    intro _ _ _
    apply bind_map_congr id rfl
    intro _ _ _
    simp only [Except.map, withoutPairs, sameTotals, sameIndex, sameMessages]
    rfl

theorem checkAssetOutput_empty {mapAddresses : Std.TreeMap Bytes Bytes}
    (free : ¬ ReissuedElsewhere pool (tx.getHash ctx.globals.env.digests) out)
    (agree : withoutPairs totals = withoutPairs same) :
    (checkAssetOutput (assetsContext ctx pool block s) tx mapAddresses totals out).map
        withoutPairs
      = (checkAssetOutput (assetsContext ctx .empty block s) tx mapAddresses same out).map withoutPairs := by
  apply bind_map_congr id rfl
  intro _ _ _
  apply bind_map_congr withoutPairs
  · split
    · exact checkTransferOutput_empty agree
    · exact checkReissueOutput_empty free agree
    · exact congrArg Except.ok agree
  intro value following sameValue
  have sameIndex : value.index = following.index := congrArg (·.index) sameValue
  have sameTotals : value.totalOutputs = following.totalOutputs := congrArg (·.totalOutputs) sameValue
  have sameMessages : value.setMessages = following.setMessages := congrArg (·.setMessages) sameValue
  simp only [Except.map, withoutPairs, sameTotals, sameIndex, sameMessages]

theorem checkTxAssets_empty
    (free : ∀ out ∈ tx.vout, ¬ ReissuedElsewhere pool (tx.getHash ctx.globals.env.digests) out) :
    (checkTxAssets (assetsContext ctx pool block s) tx).map withoutPairs
      = (checkTxAssets (assetsContext ctx .empty block s) tx).map withoutPairs := by
  have sameInputs : (assetsContext ctx pool block s).inputs = (assetsContext ctx .empty block s).inputs := rfl
  unfold checkTxAssets
  rw [sameInputs]
  by_cases missing : (!haveInputs (assetsContext ctx .empty block s).inputs tx) = true
  · rw [if_pos missing, if_pos missing]
  · rw [if_neg missing, if_neg missing]
    apply bind_map_congr id rfl
    intro inputTotals same sameTotals
    cases sameTotals
    apply bind_map_congr withoutPairs
    · apply foldlM_map_congr _ rfl
      intro totals following out member agree
      exact checkAssetOutput_empty (free out member) agree
    intro totals following agree
    have sameOutputs : totals.totalOutputs = following.totalOutputs := congrArg (·.totalOutputs) agree
    apply bind_map_congr id rfl
    intro _ _ _
    rw [sameOutputs]
    apply bind_map_congr id rfl
    intro _ _ _
    exact congrArg Except.ok agree

/-- A transaction that passed has no output that is recorded elsewhere. -/
theorem checkTxAssets_free (passes : checkTxAssets (assetsContext ctx pool block s) tx = .ok totals) :
    ∀ out ∈ tx.vout, ¬ ReissuedElsewhere pool (tx.getHash ctx.globals.env.digests) out := by
  unfold checkTxAssets at passes
  rw [rejected, ite_error_eq_ok] at passes
  obtain ⟨inputTotals, -, passes⟩ := bind_eq_ok.mp passes.2
  obtain ⟨outputTotals, scanned, -⟩ := bind_eq_ok.mp passes
  apply foldlM_established (fun (out : CTxOut) (_ : OutputTotals) =>
    ¬ ReissuedElsewhere pool (tx.getHash ctx.globals.env.digests) out) _ _ scanned
  · intro totals out next steps elsewhere
    obtain ⟨_, -, steps⟩ := bind_eq_ok.mp steps
    obtain ⟨_, checked, -⟩ := bind_eq_ok.mp steps
    simp only [elsewhere.kind] at checked
    exact checkReissueOutput_ok checked elsewhere
  · intro _ _ _ _ _ holds
    exact holds

theorem connectTx_empty {c : ConnectState} (free : tx.isCoinBase = false → ∀ out ∈ tx.vout,
      ¬ ReissuedElsewhere pool (tx.getHash ctx.globals.env.digests) out) :
    connectTx ctx pool block pindex c tx = connectTx ctx .empty block pindex c tx := by
  unfold connectTx
  cases isCoinBase : tx.isCoinBase with
  | true => rfl
  | false =>
    have spends : checkSpends ctx pool block pindex (lookedUp c.s tx) c.nFees tx
        = checkSpends ctx .empty block pindex (lookedUp c.s tx) c.nFees tx := by
      unfold checkSpends
      simp only [bind_const_congr (checkTxAssets_empty (free isCoinBase))]
    simp only [spends]

theorem connectTx_free {c next : ConnectState}
    (connects : connectTx ctx pool block pindex c tx = .ok next) (notCoinBase : tx.isCoinBase = false) :
    ∀ out ∈ tx.vout, ¬ ReissuedElsewhere pool (tx.getHash ctx.globals.env.digests) out := by
  obtain ⟨_, stages⟩ := connectTx_ok connects
  obtain ⟨totals, passes⟩ := (stages.spends notCoinBase).assets
  exact checkTxAssets_free passes

end Transaction

/-! ## The block -/

section Block

variable {ctx : ConnectContext} {pool : PoolView} {fJustCheck : Bool} {block : CBlock}
  {pindex : CBlockIndex} {view : BlockView}

/-- A block the map does not conflict with is connected as on a node without a mempool:
the same verdict, the same reason and the same state. -/
theorem connectBlock_empty (free : ¬ PoolConflict ctx pool block) :
    connectBlock ctx pool fJustCheck block pindex view
      = connectBlock ctx .empty fJustCheck block pindex view := by
  unfold connectBlock
  congr 1
  cases passes : checkBlock ctx.blockEnv ctx.mapBlockIndex block pindex.nHeight (!fJustCheck)
      (!fJustCheck) false with
  | error failure => rfl
  | ok checked =>
    obtain ⟨sameHeader, sameTxs⟩ := checkBlock_same passes
    change connectChecked ctx pool fJustCheck checked pindex view
      = connectChecked ctx .empty fJustCheck checked pindex view
    unfold connectChecked
    by_cases genesis : checked.header.getHash ctx.crypto = ctx.chainparams.consensus.hashGenesisBlock
    · simp only [if_pos genesis]
    · have loops : connectTransactions ctx pool checked pindex view
          = connectTransactions ctx .empty checked pindex view := by
        apply foldlM_congr_of_mem
        intro c tx member
        apply connectTx_empty
        intro notCoinBase out outMember elsewhere
        rw [sameHeader] at genesis
        rw [sameTxs] at member
        exact free ⟨genesis, tx, member, notCoinBase, out, outMember, elsewhere⟩
      simp only [if_neg genesis, loops]

theorem connectBlock_free {connected : Connected}
    (connects : connectBlock ctx pool fJustCheck block pindex view = .ok connected) :
    ¬ PoolConflict ctx pool block := by
  rintro ⟨notGenesis, tx, member, notCoinBase, out, outMember, elsewhere⟩
  unfold connectBlock at connects
  rw [ite_error_eq_ok] at connects
  obtain ⟨checked, passes, connects⟩ := bind_eq_ok.mp connects.2
  obtain ⟨sameHeader, sameTxs⟩ := checkBlock_same passes
  obtain ⟨_, -, connects⟩ := bind_eq_ok.mp connects
  rw [if_neg (by rw [sameHeader]; exact notGenesis)] at connects
  obtain ⟨c, loops, -⟩ := bind_eq_ok.mp connects
  have free := foldlM_established (fun (tx : CTransaction) (_ : ConnectState) =>
      tx.isCoinBase = false → ∀ out ∈ tx.vout,
        ¬ ReissuedElsewhere pool (tx.getHash ctx.globals.env.digests) out)
    (fun _ _ _ steps => connectTx_free steps) (fun _ _ _ _ _ holds => holds) loops
  exact free tx (by rw [sameTxs]; exact member) notCoinBase out outMember elsewhere

/-- A node connects exactly the blocks that a node without a mempool connects and that its
own map does not conflict with. -/
theorem connectBlock_isOk_iff (pool : PoolView) :
    (connectBlock ctx pool fJustCheck block pindex view).isOk = true
      ↔ (connectBlock ctx .empty fJustCheck block pindex view).isOk = true ∧ ¬ PoolConflict ctx pool block := by
  constructor
  · intro accepts
    cases connects : connectBlock ctx pool fJustCheck block pindex view with
    | error failure =>
      rw [connects] at accepts
      cases accepts
    | ok connected =>
      have free := connectBlock_free connects
      rw [← connectBlock_empty free, connects]
      exact ⟨rfl, free⟩
  · rintro ⟨accepts, free⟩
    rw [connectBlock_empty free]
    exact accepts

end Block

/-- Two nodes with different mempools agree on a block exactly when it is invalid on its
own or their maps agree on whether it reissues an asset out of turn. -/
theorem verdict_pool_independent_iff (ctx : ConnectContext) (first second : PoolView)
    (fJustCheck : Bool) (block : CBlock) (pindex : CBlockIndex) (view : BlockView) :
    (connectBlock ctx first fJustCheck block pindex view).isOk
        = (connectBlock ctx second fJustCheck block pindex view).isOk
      ↔ ((connectBlock ctx .empty fJustCheck block pindex view).isOk = true →
          (PoolConflict ctx first block ↔ PoolConflict ctx second block)) := by
  rw [Bool.eq_iff_iff, connectBlock_isOk_iff first, connectBlock_isOk_iff second]
  tauto

/-! ## A block that reissues GOLD

Block 2 of the main network. The owner token of GOLD and the coin that pays the burn fee
need no signature. -/

def anyoneCanSpend : Bytes := [op1]

def coinbaseTx (scriptSig : Bytes) : List CTxOut → CTransaction :=
  .plain [⟨⟨0, 0xffffffff#32⟩, scriptSig, sequenceFinal, []⟩]

def reissueBurnKey : Bytes := toBytesLE 20 0x464f047bb6c8e758e0df3a3a31404efe92c8c75c

def goldOwnerToken : CTxOut :=
  ⟨0, CAssetTransfer.constructTransaction ⟨ascii "GOLD!", ownerAssetAmount, [], 0⟩ (disguisedFront victimKeyID)⟩

def goldReissue : CTxOut :=
  ⟨0, CReissueAsset.constructTransaction ⟨goldName, coin, -1, 1, []⟩ (disguisedFront victimKeyID)⟩

def reissueTx : CTransaction :=
  .plain [⟨⟨1, 0⟩, [], sequenceFinal, []⟩, ⟨⟨2, 0⟩, [], sequenceFinal, []⟩]
    [⟨100 * coin, payToPubkeyHash reissueBurnKey⟩, goldOwnerToken, goldReissue]

def reissueCoinbase : CTransaction := coinbaseTx [1, 2] [⟨5000 * coin, anyoneCanSpend⟩]

def reissueCoinbaseHash : Nat := 0x699fc879313635a0ab38b8963b099820e5e425276365851db1d22d7226349dbf
def reissueTxHash : Nat := 0xa16b2715d83f2b1cf58a960d915afba015da19f42669d3d490679290b196c500
def reissueRoot : Nat := 0xa5d5137494b593224ff933b63dfe07822d1f0aec190f9402a566bd3b3b5937ae

/-- SHA-256 on the transactions, their Merkle tree and the two addresses. -/
def reissueDigestTable : List (Bytes × Bytes) :=
  Digests.hashRows [(reissueCoinbase.serializeNoWitness,
      0xf6350cee28c9467988bbdc430bb9e29038b525256ac886ffb9ed9a74bd052654, reissueCoinbaseHash),
    (reissueTx.serializeNoWitness,
      0xe0852eb8252ae84a12017c0fdb06437dc6ca6671dc563d3a0a214011fcb28bcf, reissueTxHash),
    (merkleNode reissueCoinbaseHash reissueTxHash,
      0x72e8fa903b91d35903d82a696173b601be6534f926721483a1ebcf08572e8a32, reissueRoot),
    (25 :: reissueBurnKey,
      0xe12576d956f1a7d786569cc7f18ecff2a028457ffdc6752265d7e37c50209109,
      0xbc79ff54dd0ac0ae976911bcd802ce78f9745fba2c2693ed5da5372b4624d53f),
    victimRow]

def reissueEnv : AssetEnv :=
  ⟨Digests.tabulated reissueDigestTable (by decide +kernel), mainAssetParams⟩

def reissueBlock : CBlock where
  header := { minutelyHeader 1 with hashMerkleRoot := BitVec.ofNat 256 reissueRoot }
  vtx := [reissueCoinbase, reissueTx]
  fChecked := false

def minutelyIndex (height : Nat) (header : CBlockHeader) : CBlockIndex :=
  { CBlockIndex.ofHeader (minutelyHash (height + 1)) header with
    pprev := some (minutelyHash height), nHeight := height + 1 }

def reissueIndex : CBlockIndex := minutelyIndex 1 reissueBlock.header

def minutelyContext (globals : AssetGlobals) (map : BlockMap) (tipHeight : Int) : ConnectContext where
  crypto := countingCrypto
  chainparams := mainChainParams
  curve := deadCurve
  view := minutelyNode
  services := .plain
  mapBlockIndex := map
  tipHeight := tipHeight
  globals := globals

def reissueContext : ConnectContext :=
  minutelyContext
    { AssetGlobals.initial reissueEnv false with
      passetsdb := ⟨Std.TreeMap.ofList [(goldName, ⟨⟨goldName, coin, 8, 1, 0, []⟩, some 1, 1⟩)] compare, ∅, ∅⟩ }
    (((mainInitialState.mapBlockIndex).set (minutelyIndex 0 (minutelyHeader 0))).set reissueIndex) 1

def reissueView : BlockView where
  coins := .atop ∅ (.base fun out =>
    if out = ⟨1, 0⟩ then some ⟨⟨200 * coin, anyoneCanSpend⟩, 1, false⟩
    else if out = ⟨2, 0⟩ then some ⟨goldOwnerToken, 1, false⟩
    else none)
  assetsCache := .empty
  hashBlock := minutelyHash 1

/-- A node whose mempool has another reissue of GOLD. -/
def goldPending : PoolView := ⟨fun _ => false, fun name => if name = goldName then some 3 else none⟩

theorem reissueBlock_verdict_depends_on_pool :
    (connectBlock reissueContext .empty false reissueBlock reissueIndex reissueView).isOk = true
      ∧ (connectBlock reissueContext goldPending false reissueBlock reissueIndex reissueView).isOk = false := by
  constructor <;> decide +kernel

end BlackRaven.Chain
