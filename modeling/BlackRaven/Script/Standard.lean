import BlackRaven.Primitives.Base58
import BlackRaven.Script.Script

/-!
Contract: `Solver` and `ExtractDestination` of `script/standard.cpp`, and as much of
`CPubKey` as they use.

Owns: the address an output is attributed to.

For an asset script that address is read at the offsets 3 to 22, whatever the first
three bytes are.
-/

namespace BlackRaven.Script

open Primitives

inductive TxnOutType where
  | nonstandard
  | pubkey
  | pubkeyhash
  | scripthash
  | multisig
  | nullData
  | witnessV0Scripthash
  | witnessV0Keyhash
  | newAsset
  | reissueAsset
  | transferAsset
  | restrictedAssetData
  deriving DecidableEq, Repr

/-- The type `IsAssetScript` reports for a kind. -/
def AssetScriptKind.txnOutType : AssetScriptKind → TxnOutType
  | .transferAsset => .transferAsset
  | .newAsset => .newAsset
  | .ownerAsset => .newAsset
  | .reissueAsset => .reissueAsset

def pubKeyLength (chHeader : UInt8) : Nat :=
  if chHeader = 2 ∨ chHeader = 3 then 33
  else if chHeader = 4 ∨ chHeader = 6 ∨ chHeader = 7 then 65
  else 0

/-- `CPubKey::IsValid` of a key set from bytes: the length the header byte asks for. -/
def pubKeyIsValid (vch : Bytes) : Bool :=
  match vch with
  | [] => false
  | chHeader :: _ => decide (pubKeyLength chHeader ≠ 0 ∧ pubKeyLength chHeader = vch.length)

def isPubKeySize (data : Bytes) : Bool := decide (33 ≤ data.length) && decide (data.length ≤ 65)

/-! ## Templates -/

/-- `OP_PUBKEY OP_CHECKSIG`. -/
def matchPubkey : List (UInt8 × Bytes) → Option (List Bytes)
  | [(_, key), (second, _)] => if isPubKeySize key ∧ second = opChecksig then some [key] else none
  | _ => none

/-- `OP_DUP OP_HASH160 OP_PUBKEYHASH OP_EQUALVERIFY OP_CHECKSIG`. -/
def matchPubkeyHash : List (UInt8 × Bytes) → Option (List Bytes)
  | [(first, _), (second, _), (_, hash), (fourth, _), (fifth, _)] =>
    if first = opDup ∧ second = opHash160 ∧ hash.length = 20 ∧ fourth = opEqualverify
        ∧ fifth = opChecksig then some [hash] else none
  | _ => none

/-- `OP_SMALLINTEGER OP_PUBKEYS OP_SMALLINTEGER OP_CHECKMULTISIG`. -/
def matchMultisig : List (UInt8 × Bytes) → Option (List Bytes)
  | [] => none
  | (first, _) :: rest =>
    let keys := rest.takeWhile fun operation => isPubKeySize operation.2
    match rest.drop keys.length with
    | [(last, _), (check, _)] =>
      if isSmallInteger first ∧ isSmallInteger last ∧ check = opCheckmultisig then
        some ([UInt8.ofNat (decodeOpN first)] :: keys.map Prod.snd ++ [[UInt8.ofNat (decodeOpN last)]])
      else none
    | _ => none

/-- The extra conditions on a multisig match: `m` of `n` with `n` keys. -/
def multisigFits (solutions : List Bytes) : Bool :=
  let m := (solutions.headD []).headD 0
  let n := (solutions.getLastD []).headD 0
  decide (1 ≤ m) && decide (1 ≤ n) && decide (m ≤ n) && decide (solutions.length - 2 = n.toNat)

/-! ## Solver -/

/-- `Solver`: the type and `vSolutionsRet`, or `none` when it returns false. -/
def solver (scriptPubKey : Bytes) : Option (TxnOutType × List Bytes) :=
  if isPayToScriptHash scriptPubKey then
    some (.scripthash, [(scriptPubKey.drop 2).take 20])
  else
    match assetKind scriptPubKey with
    | some kind => some (kind.txnOutType, [(scriptPubKey.drop 3).take 20])
    | none =>
      match isWitnessProgram scriptPubKey with
      | some (witnessversion, witnessprogram) =>
        if witnessversion = 0 ∧ witnessprogram.length = 20 then
          some (.witnessV0Keyhash, [witnessprogram])
        else if witnessversion = 0 ∧ witnessprogram.length = 32 then
          some (.witnessV0Scripthash, [witnessprogram])
        else none
      | none =>
        if scriptPubKey.length ≥ 1 ∧ scriptPubKey.getD 0 0 = opReturn
            ∧ isPushOnly (scriptPubKey.drop 1) then
          some (.nullData, [])
        else if scriptPubKey.length ≥ 1 ∧ scriptPubKey.getD 0 0 = opBlkrAsset
            ∧ isPushOnly (scriptPubKey.drop 1) then
          if scriptPubKey.length ≥ 23 ∧ scriptPubKey.getD 1 0 ≠ opReserved then
            some (.restrictedAssetData, [(scriptPubKey.drop 2).take 20])
          else some (.restrictedAssetData, [])
        else
          let operations := ops scriptPubKey
          if !operations.2 then none
          else
            match matchPubkey operations.1, matchPubkeyHash operations.1, matchMultisig operations.1 with
            | some solutions, _, _ => some (.pubkey, solutions)
            | none, some solutions, _ => some (.pubkeyhash, solutions)
            | none, none, some solutions =>
              if multisigFits solutions then some (.multisig, solutions) else none
            | none, none, none => none

/-- `ExtractDestination`: `none` when it returns false. -/
def extractDestination (digests : Digests) (scriptPubKey : Bytes) : Option CTxDestination :=
  match solver scriptPubKey with
  | none => none
  | some (whichType, vSolutions) =>
    match whichType, vSolutions with
    | .pubkey, [key] => if pubKeyIsValid key then some (.keyID (digests.hash160 key)) else none
    | .pubkeyhash, [hash] => some (.keyID hash)
    | .scripthash, [hash] => some (.scriptID hash)
    | .newAsset, [hash] => some (.keyID hash)
    | .reissueAsset, [hash] => some (.keyID hash)
    | .transferAsset, [hash] => some (.keyID hash)
    | .restrictedAssetData, [hash] => some (.keyID hash)
    | _, _ => none

/-- `GetScriptForDestination` of a key id. -/
def payToPubkeyHash (keyID : Bytes) : Bytes :=
  [opDup, opHash160] ++ pushData keyID ++ [opEqualverify, opChecksig]

def getScriptForNullAssetDataDestination : CTxDestination → Bytes
  | .noDestination => []
  | .keyID id | .scriptID id => opBlkrAsset :: pushData id

/-- The address the asset code attributes an output to: `ExtractDestination`, whose
verdict is ignored, then `EncodeDestination`. -/
def scriptAddress (digests : Digests) (prefixes : AddressPrefixes) (scriptPubKey : Bytes) : Bytes :=
  encodeDestination digests prefixes ((extractDestination digests scriptPubKey).getD .noDestination)

theorem isPayToScriptHash_length {script : Bytes} (isP2SH : isPayToScriptHash script = true) :
    script.length = 23 := by
  simp only [isPayToScriptHash, Bool.and_eq_true, beq_iff_eq] at isP2SH
  exact isP2SH.1.1.1

/-- An asset script belongs to the key id at the offsets 3 to 22. -/
theorem extractDestination_assetScript (digests : Digests) {script : Bytes}
    {kind : AssetScriptKind} {start : Nat} (recognised : isAssetScript script = some (kind, start)) :
    extractDestination digests script = some (.keyID ((script.drop 3).take 20)) := by
  have notP2SH : isPayToScriptHash script = false := by
    rw [Bool.eq_false_iff]
    intro isP2SH
    have := isPayToScriptHash_length isP2SH
    have := (isAssetScript_some recognised).1
    omega
  have isKind : assetKind script = some kind := by rw [assetKind, recognised, Option.map_some]
  have solved : solver script = some (kind.txnOutType, [(script.drop 3).take 20]) := by
    simp only [solver, notP2SH, isKind]
    rfl
  unfold extractDestination
  rw [solved]
  cases kind with
  | transferAsset => rfl
  | newAsset => rfl
  | ownerAsset => rfl
  | reissueAsset => rfl

end BlackRaven.Script
