import BlackRaven.Consensus.Conservation
import BlackRaven.Script.KeySpend
import BlackRaven.Script.Sighash

/-!
Contract: who can spend an asset output.

Owns: the comparison of the address an asset output is attributed to with what its script
asks of a spend.

Neither `CheckTransaction` nor `CheckTxAssets` looks at the first 25 bytes of an asset
script, so the two agree only where those bytes are the pay-to-public-key-hash template.
-/

namespace BlackRaven.Consensus

open Assets Lib Primitives Script

variable (digests : Digests) (curve : Secp256k1)

/-- The input presents, on top of its stack, a key of the hash `keyID` and a signature by
that key over the spending transaction. -/
def SignedByKey (nFlags : ScriptFlags) (out : CTxOut) (txTo : CTransaction) (nIn : Fin txTo.vin.length)
    (keyID : Bytes) : Prop :=
  ∃ vchPubKey vchSig below,
    evalScript ⟨digests, nFlags, transactionSignatureChecker digests curve txTo nIn out.nValue⟩
        .base [] (txTo.vin.get nIn).scriptSig = .ok (vchPubKey :: vchSig :: below)
      ∧ digests.hash160 vchPubKey = keyID
      ∧ curve.verify vchPubKey
          (signatureHash digests (findAndDelete out.scriptPubKey (pushData vchSig)) txTo nIn
            (vchSig.getLastD 0) out.nValue .base)
          vchSig.dropLast = true

/-- Only the key an output is attributed to can spend it, in any transaction of any block. -/
def OnlyAttributedKeySpends (consensus : Params) (out : CTxOut) : Prop :=
  ∀ (keyID : Bytes) (blockTime : Int) (txTo : CTransaction) (nIn : Fin txTo.vin.length),
    extractDestination digests out.scriptPubKey = some (.keyID keyID) →
    scriptCheck digests curve (getBlockScriptFlags blockTime consensus) out txTo nIn = .ok () →
    SignedByKey digests curve (getBlockScriptFlags blockTime consensus) out txTo nIn keyID

theorem assetOutput_onlyAttributedKeySpends (digests : Digests) (curve : Secp256k1)
    (consensus : Params) {out : CTxOut} (recognised : (isAssetScript out.scriptPubKey).isSome = true)
    (template : HasKeyTemplate out.scriptPubKey) :
    OnlyAttributedKeySpends digests curve consensus out := by
  intro keyID blockTime txTo nIn attributed accepted
  obtain ⟨⟨kind, start⟩, isKind⟩ := Option.isSome_iff_exists.mp recognised
  rw [extractDestination_assetScript digests isKind] at attributed
  cases attributed
  obtain ⟨vchPubKey, vchSig, below, presented, isKey, signed⟩ :=
    verifyScript_keyTemplate recognised template accepted
  refine ⟨vchPubKey, vchSig, below, presented, isKey, ?_⟩
  -- `CheckSig` also asks for a well-formed key and a signature that is not empty.
  change checkSig digests curve txTo nIn out.nValue vchSig vchPubKey _ .base = true at signed
  simp only [checkSig, Bool.and_eq_true] at signed
  exact signed.2

/-! ## Outputs anyone can spend -/

/-- A key hash between bytes that make the first 25 bytes one push. -/
def disguisedFront (keyID : Bytes) : Bytes := opPush24 :: ([1, 1] ++ keyID ++ [1, 1])

/-- A transaction whose only input has neither a script signature nor a witness. -/
def keylessTx (prevout : COutPoint) : CTransaction := .plain [⟨prevout, [], 0xffffffff#32, []⟩] []

/-- Whatever key hash stands behind such a front, the output is attributed to it and
anyone can spend it. -/
theorem disguised_not_onlyAttributedKeySpends (consensus : Params) {keyID data : Bytes}
    (nValue : CAmount) (sized : keyID.length = 20)
    (recognised : (isAssetScript (disguisedFront keyID ++ opBlkrAsset :: data)).isSome = true)
    (small : data.length ≤ maxScriptElementSize) :
    ¬ OnlyAttributedKeySpends digests curve consensus
        ⟨nValue, disguisedFront keyID ++ opBlkrAsset :: data⟩ := by
  intro onlyKey
  obtain ⟨⟨kind, start⟩, isKind⟩ := Option.isSome_iff_exists.mp recognised
  have attributed := extractDestination_assetScript digests isKind
  -- Any time from which on the flags ask for pay-to-script-hash.
  have spent : scriptCheck digests curve (getBlockScriptFlags kawpowActivationTime consensus)
      ⟨nValue, disguisedFront keyID ++ opBlkrAsset :: data⟩ (keylessTx ⟨0, 0⟩) ⟨0, by decide⟩
      = .ok () := by
    have pushedSize : ([1, 1] ++ keyID ++ [1, 1]).length = 24 := by simp [sized]
    have pushedTrue : castToBool ([1, 1] ++ keyID ++ [1, 1]) = true := by simp [castToBool]
    exact verifyScript_pushAssetScript _ rfl rfl (fun _ => rfl) pushedSize pushedTrue small
  obtain ⟨_, _, _, presented, _, _⟩ := onlyKey _ _ _ _ attributed spent
  -- The stack after an empty script signature is empty.
  cases presented

def victimKeyID : Bytes := List.replicate 20 7

/-- SHA-256 on the key as an address has it. -/
def victimRow : Bytes × Nat × Nat :=
  (25 :: victimKeyID, 0x89c7da402bd4784734d99dd027ce52db6d33c202f26544c62011526321845d76,
    0x5d5edad41b920723b4b5d8639f174b1977dc31e160853d2b61f7b8c7ae5053e7)

/-- A transfer of the whole coin to a script that is attributed to `victimKeyID`. -/
def disguisedOutput : CTxOut :=
  ⟨0, CAssetTransfer.constructTransaction ⟨goldName, coin, [], 0⟩ (disguisedFront victimKeyID)⟩

def disguisedTx : CTransaction := { goldTx [] with vout := [disguisedOutput] }

def deadCurve : Secp256k1 := ⟨fun _ _ _ => false, fun _ => false⟩

theorem disguisedOutput_spent_without_key :
    TxAccepted goldEnv goldContext disguisedTx
      ∧ disguisedOutput ∈ disguisedTx.vout
      ∧ (isAssetScript disguisedOutput.scriptPubKey).isSome = true
      ∧ extractDestination goldEnv.assets.digests disguisedOutput.scriptPubKey = some (.keyID victimKeyID)
      ∧ ¬ OnlyAttributedKeySpends goldEnv.assets.digests deadCurve mainParams disguisedOutput := by
  have checked : checkTransaction goldEnv disguisedTx 11 0 false true = .ok () := by decide +kernel
  have shape : disguisedOutput = ⟨0, disguisedFront victimKeyID
      ++ opBlkrAsset :: disguisedOutput.scriptPubKey.drop 26⟩ := by decide
  refine ⟨.of_outcomes rfl rfl checked (by decide), List.mem_singleton.mpr rfl,
    by decide, by decide, ?_⟩
  rw [shape]
  exact disguised_not_onlyAttributedKeySpends _ _ _ 0 rfl (by decide) (by decide)

/-! ## An output its key spends -/

/-- A public key; its hash is `keyedKeyID`. -/
def keyedPubKey : Bytes :=
  toBytesLE 33 0x584cfc60605087cdf6a46778bfc66a2b833b809e19d825d189c36270b8a073f903

def keyedKeyID : Bytes := toBytesLE 20 0x345ed91b63b702ba9b9250d0cf065aea15ddc00a

def keyedOutput : CTxOut :=
  ⟨0, CAssetTransfer.constructTransaction ⟨goldName, coin, [], 0⟩ (payToPubkeyHash keyedKeyID)⟩

/-- What the signature of `keyedTx` signs, before hashing. -/
def keyedPreimage : Bytes :=
  serializeForSignature keyedOutput.scriptPubKey (goldTx [coin]) ⟨0, by decide⟩ 1 ++ serializeHashType 1

def keyedHash : Nat := 0xe93170b8b3baa7b171dcb581bfa0f52b5d07b49f742defb53ef09f4964b11e31

/-- The signature of `keyedHash` by the key, without the hash type. -/
def keyedSig : Bytes :=
  toBytesLE 70 0xe9e340dd259de1491955918f73c1e2ed72bd9bddfe08490d4d5d39913160080d2002bea7623c9d91e7abb826d19159ec63fa7a8d2d7e6c923747d6079e4abe09d10f20024430

def keyedPubKeySha256 : Bytes :=
  toBytesLE 32 0xb108f782cf3fd6cdb9fc2ef75d4257f4c5c55b1f184d1438276ed29d566fdc57

def keyedPreimageSha256 : Bytes :=
  toBytesLE 32 0x70c96ff32d11fc892300922dfc54620f02b66d46f71f2e3be020f4a7673aa05e

def keyedDigests : Digests :=
  { Digests.tabulated
      [(keyedPubKey, keyedPubKeySha256), (keyedPreimage, keyedPreimageSha256),
        (keyedPreimageSha256, toBytesLE 32 keyedHash)] (by decide) with
    ripemd160 := fun bytes => if bytes = keyedPubKeySha256 then keyedKeyID else List.replicate 20 0
    ripemd160_length := by
      intro bytes
      split
      · rfl
      · exact List.length_replicate }

def keyedCurve : Secp256k1 :=
  ⟨fun vchPubKey hash vchSig =>
    decide (vchPubKey = keyedPubKey ∧ hash = BitVec.ofNat 256 keyedHash ∧ vchSig = keyedSig),
    fun _ => true⟩

def keyedTx : CTransaction :=
  { goldTx [coin] with
    vin := [⟨goldOutPoint, pushData (keyedSig ++ [1]) ++ pushData keyedPubKey, 0xffffffff#32, []⟩] }

theorem keyedOutput_onlyAttributedKeySpends :
    scriptCheck keyedDigests keyedCurve (getBlockScriptFlags kawpowActivationTime mainParams)
        keyedOutput keyedTx ⟨0, by decide⟩ = .ok ()
      ∧ OnlyAttributedKeySpends keyedDigests keyedCurve mainParams keyedOutput := by
  constructor
  · decide +kernel
  · exact assetOutput_onlyAttributedKeySpends keyedDigests keyedCurve mainParams (by decide)
      (by decide)

end BlackRaven.Consensus
