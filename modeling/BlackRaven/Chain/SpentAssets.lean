import BlackRaven.Chain.Metadata
import BlackRaven.Consensus.AssetOutputs

/-!
Contract: `TrySpendCoin` in `UpdateCoins`, along a run of connected blocks.

Owns: that every asset script in the coin set can be read, wherever in the caches the coin
is, and that therefore the assertion on `SpendCoin` never fails.
-/

namespace BlackRaven.Chain

open Assets Consensus Lib Lib.WriteBack Primitives Script

/-- Every coin that is kept somewhere can be read. -/
def CoinsReadable (coins : CoinsStore) : Prop :=
  coins.Every fun _ coin_ => Readable coin_.out.scriptPubKey

/-! ## Spending -/

theorem coinAsset_eq (env : AssetEnv) (script : Bytes) :
    CAssetsCache.coinAsset env script
      = (assetAmount script).map fun entry => (entry.1, env.address script, entry.2) := by
  unfold CAssetsCache.coinAsset assetAmount
  split <;> simp [Option.map_map, Function.comp_def, *]

/-- An asset script always has an address: the bytes where a key hash would be. -/
theorem address_ne_nil (env : AssetEnv) {script : Bytes} (isAsset : (assetKind script).isSome = true) :
    env.address script ≠ [] := by
  obtain ⟨kind, isKind⟩ := Option.isSome_iff_exists.mp isAsset
  have notScriptHash : isPayToScriptHash script = false := by
    rw [Bool.eq_false_iff]
    intro isScriptHash
    have short := isPayToScriptHash_length isScriptHash
    unfold assetKind isAssetScript at isKind
    rw [if_neg (by omega)] at isKind
    cases isKind
  apply encodeDestination_ne_nil
  have found : extractDestination env.digests script = some (.keyID ((script.drop 3).take 20)) := by
    unfold extractDestination solver
    simp only [notScriptHash, isKind]
    cases kind <;> rfl
  rw [found]
  exact nofun

theorem trySpendCoin_isSome (globals : AssetGlobals) (cache : CAssetsCache) {txOut : CTxOut}
    (readable : Readable txOut.scriptPubKey) :
    ∃ spent, cache.trySpendCoin globals txOut = some spent := by
  unfold CAssetsCache.trySpendCoin
  cases isKind : assetKind txOut.scriptPubKey with
  | none => exact ⟨cache, rfl⟩
  | some kind =>
    have isAsset : (assetKind txOut.scriptPubKey).isSome = true := by rw [isKind]; rfl
    obtain ⟨name, amount, read, named⟩ := readable isAsset
    have addressed := address_ne_nil globals.env isAsset
    rw [coinAsset_eq, read]
    simp only [Option.isNone_some, Bool.false_eq_true, if_false, Option.map_some, addressed, named, or_self]
    split
    · exact ⟨_, rfl⟩
    · split <;> exact ⟨_, rfl⟩

theorem spendInput_ok {globals : AssetGlobals} {s : CoinsState × List Coin} {txin : CTxIn}
    {coin_ : Coin} (readable : CoinsReadable s.1.coins) (held : s.1.coins.read txin.prevout = some coin_) :
    ∃ next, spendInput globals s txin = .ok next ∧ CoinsReadable next.1.coins
      ∧ ∀ other, other ≠ txin.prevout → next.1.coins.read other = s.1.coins.read other := by
  obtain ⟨spent, spends⟩ := trySpendCoin_isSome globals s.1.assetsCache (readable.read held)
  exact ⟨_, spendInput_eq_ok.mpr ⟨some coin_, spent, Store.take_of_read held, spends, rfl⟩,
    Store.Every.take readable txin.prevout, fun _ different => s.1.coins.take_read_of_ne different⟩

/-- All inputs of a transaction that has them and spends each once. -/
theorem spendInputs_ok {globals : AssetGlobals} {vin : List CTxIn} {s : CoinsState × List Coin}
    (readable : CoinsReadable s.1.coins) (distinct : (vin.map CTxIn.prevout).Nodup)
    (have_ : ∀ txin ∈ vin, (s.1.coins.read txin.prevout).isSome = true) :
    ∃ spent, vin.foldlM (spendInput globals) s = .ok spent := by
  induction vin generalizing s with
  | nil => exact ⟨s, rfl⟩
  | cons txin rest ih =>
    rw [List.map_cons, List.nodup_cons] at distinct
    obtain ⟨coin_, held⟩ := Option.isSome_iff_exists.mp (have_ txin List.mem_cons_self)
    obtain ⟨next, spends, nextReadable, others⟩ := spendInput_ok readable held
    obtain ⟨spent, later⟩ := ih nextReadable distinct.2 (by
      intro other member
      rw [others _ (ne_of_mem_of_not_mem (List.mem_map_of_mem member) distinct.1)]
      exact have_ other (List.mem_cons_of_mem _ member))
    exact ⟨spent, bind_eq_ok.mpr ⟨next, spends, later⟩⟩

/-! ## The coins of checked transactions -/

section Every

variable {good : COutPoint → Coin → Prop}

theorem addCoin_every {coins next : CoinsStore} {outpoint : COutPoint} {coin_ : Coin}
    {possible_overwrite : Bool} (every : coins.Every good)
    (isGood : isUnspendable coin_.out.scriptPubKey = false → good outpoint coin_)
    (adds : addCoin coins outpoint coin_ possible_overwrite = .ok next) : next.Every good := by
  obtain ⟨-, adds⟩ := addCoin_eq_ok.mp adds
  split at adds
  · exact adds ▸ every
  next spendable => exact every.put (isGood (by simpa using spendable)) adds

variable {nHeight : Nat} {tx : CTransaction} {globals : AssetGlobals} {s : CoinsState}

theorem txCoins_script {txid : Uint256} {item : COutPoint × Coin}
    (member : item ∈ txCoins tx txid nHeight) : item.2.out ∈ tx.vout := by
  obtain ⟨indexed, isIndexed, rfl⟩ := List.mem_map.mp member
  exact List.fst_mem_of_mem_zipIdx isIndexed

theorem addCoins_every {next : CoinsState} {blockHash : Uint256} (every : s.coins.Every good)
    (outputs : ∀ item ∈ txCoins tx (tx.getHash globals.env.digests) nHeight,
      isUnspendable item.2.out.scriptPubKey = false → good item.1 item.2)
    (adds : addCoins globals s tx nHeight blockHash = .ok next) : next.coins.Every good := by
  refine foldlM_invariant (fun s : CoinsState => s.coins.Every good) ?_ ?_ adds
  · intro s item added member holds step
    obtain ⟨coins, addsCoin, rfl⟩ := map_eq_ok.mp step
    exact addCoin_every holds (outputs item member) addsCoin
  · exact every

theorem updateCoins_every {next : CoinsState} {blockHash : Uint256} {undo : List Coin}
    (every : s.coins.Every good) (outputs : ∀ item ∈ txCoins tx (tx.getHash globals.env.digests) nHeight,
      isUnspendable item.2.out.scriptPubKey = false → good item.1 item.2)
    (updates : updateCoins globals s tx nHeight blockHash = .ok (next, undo)) :
    next.coins.Every good := by
  obtain ⟨spent, spends, adds, -⟩ := updateCoins_ok updates
  apply addCoins_every _ outputs adds
  split at spends
  · cases spends
    exact every
  · refine foldlM_invariant (fun s : CoinsState × List Coin => s.1.coins.Every good) ?_ ?_ spends
    · intro s txin next _ holds step
      obtain ⟨_, _, -, -, rfl⟩ := spendInput_eq_ok.mp step
      exact holds.take txin.prevout
    · exact every

theorem lookedUp_every (every : s.coins.Every good) (tx : CTransaction) : (lookedUp s tx).coins.Every good := by
  unfold lookedUp fetchInputs
  split
  · exact every
  · exact foldl_invariant (Store.Every good) (fun txin _ _ holds => holds.fetch txin.prevout) every

theorem blockView_every {c : Chainstate} (every : c.coinsTip.Every good) : c.blockView.coins.Every good := by
  refine ⟨?_, every⟩
  intro key entry found
  cases found

end Every

/-! ## Runs -/

section Runs

variable {node : NodeContext} {c after : Chainstate} {connection : Connection}

section

variable (readable : CoinsReadable c.coinsTip)

include readable

theorem midway_readable {s : ConnectState} (midway : Midway node c connection s) : CoinsReadable s.s.coins := by
  obtain ⟨checked, done, rest, passes, split, runs⟩ := midway
  obtain ⟨-, tipHeight, nHeight, blockReward, pass⟩ := checkedBlock_transactions passes
  refine foldlM_invariant (fun s : ConnectState => CoinsReadable s.s.coins) ?_ ?_ runs
  · intro before tx next member holds connects
    obtain ⟨undo, stages⟩ := connectTx_ok connects
    have inBlock : tx ∈ checked.vtx := by
      rw [split]
      exact List.mem_append_left rest member
    exact updateCoins_every (lookedUp_every holds tx)
      (fun item made _ => checkTransaction_readable (pass tx inBlock) (txCoins_script made)) stages.updates
  · exact blockView_every readable

theorem connectTip_readable {connected : Connected}
    (connects : c.connectTip node connection = .ok (after, connected)) :
    CoinsReadable after.coinsTip := by
  obtain ⟨checked, tip⟩ := connectTip_ok connects
  obtain ⟨last, loop⟩ := connectChecked_ok tip.connects
  have viewReadable : CoinsReadable connected.view.coins := by
    rw [loop.view]
    exact midway_readable readable (tip.midway loop)
  obtain ⟨_, flushed, rfl⟩ := flushView_ok tip.flushes
  exact viewReadable.flush flushed

theorem chainStep_readable {step : ChainStep} (steps : chainStep node c step = .ok after) :
    CoinsReadable after.coinsTip := by
  cases step with
  | connect connection =>
    obtain ⟨⟨next, connected⟩, connects, rfl⟩ := map_eq_ok.mp steps
    exact connectTip_readable readable connects
  | flush =>
    obtain ⟨_, flushed, rfl⟩ := flushStateToDisk_ok steps
    refine ⟨?_, Store.Every.flush readable flushed⟩
    intro key entry found
    cases found
  | readCoin outpoint =>
    cases steps
    exact Store.Every.fetch readable outpoint
  | readAsset item =>
    cases steps
    exact readable
  | reindexing flag =>
    cases steps
    exact readable

theorem chainRun_readable {steps : List ChainStep} (runs : chainRun node c steps = .ok after) :
    CoinsReadable after.coinsTip := by
  refine foldlM_invariant (fun c : Chainstate => CoinsReadable c.coinsTip) ?_ readable runs
  intro s step next _ holds steps
  exact chainStep_readable holds steps

end

end Runs

theorem initial_readable (env : AssetEnv) (fAssetIndex : Bool) :
    CoinsReadable (Chainstate.initial env fAssetIndex).coinsTip := by
  constructor
  · intro key entry found
    cases found
  · intro key value impossible
    cases impossible

theorem checkTxInputs_have {inputs : CoinsView} {tx : CTransaction} {nSpendHeight : Int}
    {txfee : CAmount} (passes : checkTxInputs inputs tx nSpendHeight = .ok txfee)
    (notCoinBase : tx.isCoinBase = false) {txin : CTxIn} (member : txin ∈ tx.vin) :
    (inputs txin.prevout).isSome = true := by
  unfold checkTxInputs haveInputs at passes
  rw [rejected, ite_error_eq_ok, notCoinBase, Bool.false_or, Bool.not_eq_true',
    Bool.not_eq_false, List.all_eq_true] at passes
  exact passes.1 txin member

/-- In every state of a run, at every point of a block that passed `CheckBlock`: a
transaction that has passed the checks before `UpdateCoins` spends all its inputs there, the
asset coins among them. -/
theorem spends_never_fail (node : NodeContext) (env : AssetEnv) (fAssetIndex : Bool)
    (steps : List ChainStep) (c : Chainstate)
    (runs : chainRun node (.initial env fAssetIndex) steps = .ok c) (connection : Connection)
    (checked : CBlock) (passes : c.checkedBlock node connection = .ok checked)
    (done rest : List CTransaction) (tx : CTransaction) (isBlock : checked.vtx = done ++ tx :: rest)
    (s : ConnectState) (reached : done.foldlM (connectTx (c.context node connection) connection.pool checked
      connection.pindex) ⟨c.blockView.toCoinsState, 0, 0, [], true⟩ = .ok s)
    (notCoinBase : tx.isCoinBase = false) (nFees : CAmount)
    (spendable : checkSpends (c.context node connection) connection.pool checked connection.pindex
      (lookedUp s.s tx) s.nFees tx = .ok nFees) :
    ∃ spent, tx.vin.foldlM (spendInput c.globals) (lookedUp s.s tx, []) = .ok spent := by
  have readable := chainRun_readable (initial_readable env fAssetIndex) runs
  have midway : Midway node c connection s := ⟨checked, done, tx :: rest, passes, isBlock, reached⟩
  obtain ⟨-, tipHeight, nHeight, blockReward, pass⟩ := checkedBlock_transactions passes
  obtain ⟨scan, operation, transaction⟩ := checkTransaction_ok (pass tx (by rw [isBlock]; simp))
  obtain ⟨txfee, inputs⟩ := (checkSpends_ok spendable).inputs
  have looked : CoinsReadable (lookedUp s.s tx).coins := lookedUp_every (midway_readable readable midway) tx
  apply spendInputs_ok looked
  · have distinct := transaction.inputs
    unfold checkInputs at distinct
    rw [rejected, ite_error_eq_ok] at distinct
    simpa using distinct.1
  · intro txin member
    exact checkTxInputs_have inputs notCoinBase member

/-! ## A chain from the genesis block

A hundred blocks with nothing but a coinbase. The first coinbase is then spent: one of its
outputs issues the tag #KYC to a script that starts with `OP_RETURN`, the other issues #TAG,
which the next block transfers. Below height 6048 a coinbase need not have the height in
it, and from block 2 on they are all the same transaction. -/

def firstCoinbase : CTransaction :=
  coinbaseTx [1, 2] [⟨2500 * coin, anyoneCanSpend⟩, ⟨2500 * coin, anyoneCanSpend⟩]

def laterCoinbase : CTransaction :=
  coinbaseTx [2, 2] [⟨4975 * coin, anyoneCanSpend⟩, ⟨25 * coin, mainFounderPayee⟩]

def firstCoinbaseHash : Nat := 0x5ae53110fb205e25731dc1e7acafabaf98fe4308d90cf773d9ddbc88e6fa9ba9
def laterCoinbaseHash : Nat := 0xf38e38f19b5fd418e390b9b714287b69677245e2738a7d356492a12b3e40cfee

def qualifierBurnKey : Bytes := toBytesLE 20 0x8b27c9535cc583ac1d1ea310306e33eac80c3a85

def unsignedTx (prevout : COutPoint) : List CTxOut → CTransaction :=
  .plain [⟨prevout, [], sequenceFinal, []⟩]

/-- The issue of a qualifier to a script, out of one output of the first coinbase. -/
def qualifierIssue (name : String) (index : Uint32) (front : Bytes) : CTransaction :=
  unsignedTx ⟨BitVec.ofNat 256 firstCoinbaseHash, index⟩
    [⟨1000 * coin, payToPubkeyHash qualifierBurnKey⟩, ⟨1500 * coin, anyoneCanSpend⟩,
      ⟨0, CNewAsset.constructTransaction ⟨ascii name, coin, 0, 0, 0, []⟩ front⟩]

/-- Twenty-five bytes that start with `OP_RETURN`. -/
def returnFront (keyID : Bytes) : Bytes := opReturn :: ([1, 1] ++ keyID ++ [1, 1])

def kycIssue : CTransaction := qualifierIssue "#KYC" 0 (returnFront victimKeyID)
def tagIssue : CTransaction := qualifierIssue "#TAG" 1 (disguisedFront victimKeyID)

def kycIssueHash : Nat := 0x0166acc5c00406624b9937a663487f118d09c6050511c80ce1beafa89c3ec925
def tagIssueHash : Nat := 0xe8eeac46f2cc37a4b5b5a6331a5bfc56ba39d20c5b798633ba7ac4f5fba8bb6d

def tagTransfer : CTransaction :=
  unsignedTx ⟨BitVec.ofNat 256 tagIssueHash, 2⟩
    [⟨0, CAssetTransfer.constructTransaction ⟨ascii "#TAG", coin, [], 0⟩ (disguisedFront victimKeyID)⟩]

def tagTransferHash : Nat := 0x4a45090a95182cbf88dcb706786ebd09ba546e6dbb814b6f80f5a180a5ae412a

def issueBranches : Nat × Nat :=
  (0x2a92dea30758169acda91b170fbfaadf4022b698d1f62deb4d9e3e4889933474,
    0xe952e1f7caf9f8def7c5060df1628a31d161f7e3a46a5e574e6ecf766c809268)

def issueRoot : Nat := 0x290965acdeb08f1b422ecccda6585d36f23fe6ef8ded16665e05f74716479c47
def transferRoot : Nat := 0x00986732798768428fe1f415608de9b99b6831f1e755cbc7066cadbc66051010

/-- SHA-256 on the transactions, their Merkle trees and the two addresses. -/
def launchRows : List (Bytes × Bytes) :=
  Digests.hashRows [(laterCoinbase.serializeNoWitness,
      0x5abb5ae1ae1ef2a27a9f676c870d12444e43cba8038aba34199aecea0284bd3d, laterCoinbaseHash),
    (firstCoinbase.serializeNoWitness,
      0x246e3d1abbf66c629f33743c4bc0df8bbf5221c8b2265be5393b1a79fef001d4, firstCoinbaseHash),
    (kycIssue.serializeNoWitness,
      0x470f75ff236ec8424a36214f5fa8426d985695b73672886eca1bd318b583d9fe, kycIssueHash),
    (tagIssue.serializeNoWitness,
      0xcacb008e5c5b36d65f4c847a105e266f741462b57fe4db9c540af64cbdac9589, tagIssueHash),
    (tagTransfer.serializeNoWitness,
      0xd4dea2b5c1aef75f0b25045b03daecd70029ef5698e8c0a2a1440e411d4002e5, tagTransferHash),
    (merkleNode laterCoinbaseHash kycIssueHash,
      0xecebc6eee849d7ac4228c303a69f40c151d4d81bcd8d5a32a600cf96c975cced, issueBranches.1),
    (merkleNode tagIssueHash tagIssueHash,
      0xc733a9a206f9da0adc9ecac54d098cb2a8a98300cc6c8d90dcc41a78e793f5c5, issueBranches.2),
    (merkleNode issueBranches.1 issueBranches.2,
      0x3feb2b3ed8562f90ba31e3ccbee112a526ac8fafcfb87223843300b2da10dd9e, issueRoot),
    (merkleNode laterCoinbaseHash tagTransferHash,
      0x5d6435b7b6f20abab03d7a371649895b4fd56cd1aff4265c3fbbdb5e077da1b6, transferRoot),
    (25 :: qualifierBurnKey,
      0x107b9daa6b6ef0437d6e9f58022546facf18b4f647634c897eb74ca1fa7ab10d,
      0x6a3f2e77b244751e1336f844395d1ae5090dd6da149618bda98db86c80623741),
    victimRow]

def launchEnv : AssetEnv :=
  ⟨Digests.tabulated (genesisRows ++ launchRows) (by decide +kernel), mainAssetParams⟩

/-- The transactions of the block at `height + 1`, and the root of their Merkle tree. -/
def launchContents (height : Nat) : List CTransaction × Nat :=
  if height = 0 then ([firstCoinbase], firstCoinbaseHash)
  else if height = 100 then ([laterCoinbase, kycIssue, tagIssue], issueRoot)
  else if height = 101 then ([laterCoinbase, tagTransfer], transferRoot)
  else ([laterCoinbase], laterCoinbaseHash)

section Blocks

variable (contents : Nat → List CTransaction × Nat) (height : Nat)

def blockOf : CBlock where
  header := { minutelyHeader height with hashMerkleRoot := BitVec.ofNat 256 (contents height).2 }
  vtx := (contents height).1
  fChecked := false

def mapOf : BlockMap := fun hash =>
  if 0 < hash.toNat ∧ hash.toNat ≤ 203 then
    some (minutelyIndex (hash.toNat - 1) (blockOf contents (hash.toNat - 1)).header)
  else mainInitialState.mapBlockIndex hash

def connectionOf : Connection where
  mapBlockIndex := mapOf contents
  tipHeight := height
  pool := .empty
  source := .memory (blockOf contents height) (mapOf contents) height
  pindex := minutelyIndex height (blockOf contents height).header

end Blocks

def launchBlock : Nat → CBlock := blockOf launchContents
def launchMap : BlockMap := mapOf launchContents
def launchConnection : Nat → Connection := connectionOf launchContents

def launchSteps (blocks : Nat) : List ChainStep :=
  connectGenesis :: (List.range blocks).map fun height => .connect (launchConnection height)

def spendsTag (c : Chainstate) : Bool :=
  let connection := launchConnection 101
  (c.checkedBlock launchNode connection).toOption.any fun checked =>
    checked.vtx == [laterCoinbase] ++ tagTransfer :: []
      && ([laterCoinbase].foldlM (connectTx (c.context launchNode connection) connection.pool checked
          connection.pindex) ⟨c.blockView.toCoinsState, 0, 0, [], true⟩).toOption.any fun s =>
        (checkSpends (c.context launchNode connection) connection.pool checked connection.pindex
            (lookedUp s.s tagTransfer) s.nFees tagTransfer).toOption.isSome
          && (s.s.coins.read ⟨BitVec.ofNat 256 tagIssueHash, 2⟩).any fun coin_ =>
            assetKind coin_.out.scriptPubKey == some .newAsset

def knowsTags (c : Chainstate) : Bool :=
  (c.table (ascii "#KYC")).isSome && (c.table (ascii "#TAG")).isSome

theorem launch_determine : IdsDetermineOutputs launchEnv.digests ((launchSteps 101).flatMap ChainStep.vtx) := by
  have among : ∀ tx ∈ (launchSteps 101).flatMap ChainStep.vtx,
      tx ∈ mainGenesisBlock.vtx ++ [firstCoinbase, laterCoinbase, kycIssue, tagIssue] := by decide +kernel
  have determine : IdsDetermineOutputs launchEnv.digests
      (mainGenesisBlock.vtx ++ [firstCoinbase, laterCoinbase, kycIssue, tagIssue]) := by decide +kernel
  exact fun tx member other isOther => determine tx (among tx member) other (among other isOther)

theorem launch_reached :
    ((chainRun launchNode (.initial launchEnv true) (launchSteps 101)).toOption.any fun c =>
      spendsTag c && knowsTags c) = true := by
  decide +kernel

theorem spends_never_fail_tagTransfer :
    ∃ (c : Chainstate) (checked : CBlock) (s : ConnectState) (nFees : CAmount)
      (spent : CoinsState × List Coin),
      chainRun launchNode (.initial launchEnv true) (launchSteps 101) = .ok c
        ∧ c.checkedBlock launchNode (launchConnection 101) = .ok checked
        ∧ checkSpends (c.context launchNode (launchConnection 101)) .empty checked
          (launchConnection 101).pindex (lookedUp s.s tagTransfer) s.nFees tagTransfer = .ok nFees
        ∧ ((s.s.coins.read ⟨BitVec.ofNat 256 tagIssueHash, 2⟩).any fun coin_ =>
          assetKind coin_.out.scriptPubKey == some .newAsset) = true
        ∧ tagTransfer.vin.foldlM (spendInput c.globals) (lookedUp s.s tagTransfer, []) = .ok spent := by
  obtain ⟨c, runs, evaluated⟩ := toOption_any.mp launch_reached
  obtain ⟨evaluated, -⟩ := Bool.and_eq_true_iff.mp evaluated
  obtain ⟨checked, passes, evaluated⟩ := toOption_any.mp evaluated
  obtain ⟨isBlock, evaluated⟩ := Bool.and_eq_true_iff.mp evaluated
  obtain ⟨s, reached, evaluated⟩ := toOption_any.mp evaluated
  obtain ⟨spendable, isAsset⟩ := Bool.and_eq_true_iff.mp evaluated
  obtain ⟨nFees, spendable⟩ := toOption_isSome.mp spendable
  obtain ⟨spent, spends⟩ := spends_never_fail launchNode launchEnv true (launchSteps 101) c runs
    (launchConnection 101) checked passes [laterCoinbase] [] tagTransfer
    (eq_of_beq isBlock) s reached rfl nFees spendable
  exact ⟨c, checked, s, nFees, spent, runs, passes, spendable, isAsset, spends⟩

theorem stored_metadata_launch :
    ∃ (c : Chainstate) (kyc tag : CNewAsset),
      chainRun launchNode (.initial launchEnv true) (launchSteps 101) = .ok c
        ∧ c.table (ascii "#KYC") = some kyc ∧ WellFormedAsset kyc
        ∧ c.table (ascii "#TAG") = some tag ∧ WellFormedAsset tag := by
  obtain ⟨c, runs, evaluated⟩ := toOption_any.mp launch_reached
  obtain ⟨knowsKyc, knowsTag⟩ := Bool.and_eq_true_iff.mp (Bool.and_eq_true_iff.mp evaluated).2
  obtain ⟨kyc, isKyc⟩ := Option.isSome_iff_exists.mp knowsKyc
  obtain ⟨tag, isTag⟩ := Option.isSome_iff_exists.mp knowsTag
  obtain ⟨-, wellFormed, -⟩ := stored_metadata_wellFormed launchNode launchEnv true _ c launch_determine runs
  exact ⟨c, kyc, tag, runs, isKyc, wellFormed _ kyc isKyc, isTag, wellFormed _ tag isTag⟩

end BlackRaven.Chain
