import BlackRaven.Assets.Names
import BlackRaven.Primitives.Transaction
import BlackRaven.Script.Standard

/-!
Contract: the records of `assets/assettypes.h`, how they are read from an output
script, and the asset parameters of a network.

Owns: which record an output carries. Whatever follows a record in its script is
ignored, as in the source.
-/

namespace BlackRaven.Assets

open Consensus Lib Primitives Script

/-! ## Records -/

structure CNewAsset where
  strName : Bytes
  nAmount : CAmount
  units : Int
  nReissuable : Int
  nHasIPFS : Int
  strIPFSHash : Bytes
  deriving DecidableEq, Repr

structure CAssetTransfer where
  strName : Bytes
  nAmount : CAmount
  message : Bytes
  nExpireTime : Int
  deriving DecidableEq, Repr

structure CReissueAsset where
  strName : Bytes
  nAmount : CAmount
  nUnits : Int
  nReissuable : Int
  strIPFSHash : Bytes
  deriving DecidableEq, Repr

structure CNullAssetTxData where
  assetName : Bytes
  flag : Int
  deriving DecidableEq, Repr

/-! ## Reading -/

def readInt8 : Decoder Int := do
  let n ← readNumber 1
  return (n : Int).bmod (2 ^ 8)

def readInt64 : Decoder Int := do
  let n ← readNumber 8
  return toInt64 n

def ipfsSha2256 : Nat := 0x12
def ipfsSha2256Len : UInt8 := 0x20

/-- `ReadWriteAssetHash`, reading: with fewer than 33 bytes left nothing is read. The
first byte says whether the 32 bytes are an IPFS hash or a transaction id. -/
def readAssetHash : Decoder (Option Bytes) := do
  let remaining ← get
  if remaining.length < 33 then return none
  let kind ← readNumber 1
  let hash ← readString
  let marker := if kind = ipfsSha2256 then [UInt8.ofNat ipfsSha2256, ipfsSha2256Len] else []
  return some (marker ++ hash.take 32)

def readNewAsset : Decoder CNewAsset := do
  let strName ← readString
  let nAmount ← readInt64
  let units ← readInt8
  let nReissuable ← readInt8
  let nHasIPFS ← readInt8
  let strIPFSHash ← if nHasIPFS = 1 then readAssetHash else pure none
  return { strName, nAmount, units, nReissuable, nHasIPFS, strIPFSHash := strIPFSHash.getD [] }

def readAssetTransfer : Decoder CAssetTransfer := do
  let strName ← readString
  let nAmount ← readInt64
  let message ← readAssetHash
  let remaining ← get
  let nExpireTime ← if message.isSome && decide (remaining.length ≥ 8) then readInt64 else pure 0
  return { strName, nAmount, message := message.getD [], nExpireTime }

def readReissueAsset : Decoder CReissueAsset := do
  let strName ← readString
  let nAmount ← readInt64
  let nUnits ← readInt8
  let nReissuable ← readInt8
  let strIPFSHash ← readAssetHash
  return { strName, nAmount, nUnits, nReissuable, strIPFSHash := strIPFSHash.getD [] }

def readNullAssetTxData : Decoder CNullAssetTxData := do
  let assetName ← readString
  let flag ← readInt8
  return { assetName, flag }

/-! ## Writing -/

def txidNotifier : UInt8 := 0x54

def writeInt64 (value : Int) : Bytes := u64.encode (BitVec.ofInt 64 value)
def writeInt8 (value : Int) : Bytes := [UInt8.ofNat (value % 256).toNat]

/-- `ReadWriteAssetHash`, writing: nothing for a hash of another length. -/
def writeAssetHash (hash : Bytes) : Bytes :=
  if hash.length = 34 then UInt8.ofNat ipfsSha2256 :: writeString (hash.drop 2)
  else if hash.length = 32 then txidNotifier :: writeString hash
  else []

variable (asset : CNewAsset) (data : CNullAssetTxData)

def CNewAsset.serialize : Bytes :=
  writeString asset.strName ++ writeInt64 asset.nAmount ++ writeInt8 asset.units
    ++ writeInt8 asset.nReissuable ++ writeInt8 asset.nHasIPFS
    ++ (if asset.nHasIPFS = 1 then writeAssetHash asset.strIPFSHash else [])

def CAssetTransfer.serialize (transfer : CAssetTransfer) : Bytes :=
  writeString transfer.strName ++ writeInt64 transfer.nAmount ++ writeAssetHash transfer.message
    ++ (if writeAssetHash transfer.message ≠ [] ∧ transfer.nExpireTime ≠ 0 then
          writeInt64 transfer.nExpireTime else [])

def CReissueAsset.serialize (reissue : CReissueAsset) : Bytes :=
  writeString reissue.strName ++ writeInt64 reissue.nAmount ++ writeInt8 reissue.nUnits
    ++ writeInt8 reissue.nReissuable ++ writeAssetHash reissue.strIPFSHash

/-- What the `ConstructTransaction` functions put behind a script: the three letters,
the letter of the kind and the data, as the operand of a push that is dropped. -/
def assetSuffix (letter : UInt8) (payload : Bytes) : Bytes :=
  opBlkrAsset :: pushData ([blkrN, blkrE, blkrX, letter] ++ payload) ++ [opDrop]

def CNewAsset.constructTransaction (script : Bytes) : Bytes :=
  script ++ assetSuffix blkrQ asset.serialize

def CNewAsset.constructOwnerTransaction (script : Bytes) : Bytes :=
  script ++ assetSuffix blkrO (writeString (asset.strName ++ ownerTag))

def CAssetTransfer.constructTransaction (transfer : CAssetTransfer) (script : Bytes) : Bytes :=
  script ++ assetSuffix blkrT transfer.serialize

def CReissueAsset.constructTransaction (reissue : CReissueAsset) (script : Bytes) : Bytes :=
  script ++ assetSuffix blkrN reissue.serialize

def CNullAssetTxData.serialize : Bytes :=
  writeString data.assetName ++ writeInt8 data.flag

def CNullAssetTxData.constructTransaction (script : Bytes) : Bytes :=
  script ++ pushData data.serialize

/-- `CNullAssetTxVerifierString::ConstructTransaction`. -/
def constructVerifierTransaction (verifier script : Bytes) : Bytes :=
  script ++ [opBlkrAsset, opReserved] ++ pushData (writeString verifier)

/-! ## Records of an output script -/

/-- Read a record from the part of a script that starts at an offset. -/
def readAt {α : Type} (decoder : Decoder α) (script : Bytes) (start : Nat) : Option α :=
  (decoder.run (script.drop start)).map Prod.fst

def readKind {α : Type} (kind : AssetScriptKind) (decoder : Decoder α) (script : Bytes) : Option α :=
  match isAssetScript script with
  | some (found, start) => if found = kind then readAt decoder script start else none
  | none => none

/-- The record of `AssetFromScript`. -/
def newAssetData : Bytes → Option CNewAsset := readKind .newAsset readNewAsset

/-- The record of `TransferAssetFromScript`. -/
def transferData : Bytes → Option CAssetTransfer := readKind .transferAsset readAssetTransfer

/-- The name `OwnerAssetFromScript` reads. -/
def ownerData : Bytes → Option Bytes := readKind .ownerAsset readString

/-- The record of `ReissueAssetFromScript`. -/
def reissueData : Bytes → Option CReissueAsset := readKind .reissueAsset readReissueAsset

/-- The record of `AssetNullDataFromScript`. -/
def nullAssetData (script : Bytes) : Option CNullAssetTxData :=
  if isNullAssetTxDataScript script then readAt readNullAssetTxData script 23 else none

def globalAssetNullDataFromScript (script : Bytes) : Option CNullAssetTxData :=
  if isNullGlobalRestrictionAssetTxDataScript script then readAt readNullAssetTxData script 4 else none

def assetNullVerifierDataFromScript (script : Bytes) : Option Bytes :=
  if isNullAssetVerifierTxDataScript script then readAt readString script 3 else none

/-- A new-asset script whose name has a type with a property: the family of
`IsScriptNewUniqueAsset`, `IsScriptNewMsgChannelAsset`, `IsScriptNewQualifierAsset` and
`IsScriptNewRestrictedAsset`. -/
def isScriptNewTyped (accepts : AssetType → Bool) (script : Bytes) : Bool :=
  match newAssetData script with
  | none => false
  | some asset => (nameType asset.strName).any accepts

def isScriptNewUniqueAsset : Bytes → Bool := isScriptNewTyped (· == .unique)
def isScriptNewMsgChannelAsset : Bytes → Bool := isScriptNewTyped (· == .msgchannel)
def isScriptNewQualifierAsset : Bytes → Bool :=
  isScriptNewTyped fun type => type == .qualifier || type == .subQualifier
def isScriptNewRestrictedAsset : Bytes → Bool := isScriptNewTyped (· == .restricted)

variable {α : Type} {kind : AssetScriptKind} {decoder : Decoder α} {script : Bytes} {value : α}

theorem readKind_some (read : readKind kind decoder script = some value) :
    ∃ start, isAssetScript script = some (kind, start) ∧ readAt decoder script start = some value := by
  unfold readKind at read
  cases recognised : isAssetScript script with
  | none =>
    rw [recognised] at read
    cases read
  | some found =>
    simp only [recognised] at read
    by_cases isKind : found.1 = kind
    · rw [if_pos isKind] at read
      exact ⟨found.2, by rw [← isKind], read⟩
    · rw [if_neg isKind] at read
      cases read

theorem readKind_kind (read : readKind kind decoder script = some value) : assetKind script = some kind := by
  obtain ⟨start, recognised, -⟩ := readKind_some read
  rw [assetKind, recognised, Option.map_some]

theorem readKind_yields {post : α → Prop} (yields : Yields decoder post)
    (read : readKind kind decoder script = some value) : post value := by
  obtain ⟨start, -, readsAt⟩ := readKind_some read
  rw [readAt, Option.map_eq_some_iff] at readsAt
  obtain ⟨⟨result, rest⟩, runs, rfl⟩ := readsAt
  exact yields.holds runs

/-! ## Amounts are 64-bit -/

def InRange (amount : Int) : Prop := toInt64 amount = amount

theorem readInt64_inRange : Yields readInt64 InRange :=
  Yields.of_any fun n => Yields.pure (Int.bmod_bmod (x := n))

theorem readNewAsset_inRange : Yields readNewAsset fun asset => InRange asset.nAmount := by
  apply Yields.of_any
  intro name
  apply Yields.bind readInt64_inRange
  intro amount inRange
  iterate 3
    apply Yields.of_any
    intro field
  apply Yields.ite <;> exact Yields.of_any fun hash => Yields.pure inRange

theorem readAssetTransfer_inRange : Yields readAssetTransfer fun transfer => InRange transfer.nAmount := by
  apply Yields.of_any
  intro name
  apply Yields.bind readInt64_inRange
  intro amount inRange
  apply Yields.of_any
  intro message
  apply Yields.of_any
  intro remaining
  apply Yields.ite <;> exact Yields.of_any fun time => Yields.pure inRange

theorem readReissueAsset_inRange : Yields readReissueAsset fun reissue => InRange reissue.nAmount := by
  apply Yields.of_any
  intro name
  apply Yields.bind readInt64_inRange
  intro amount inRange
  iterate 3
    apply Yields.of_any
    intro field
  exact Yields.pure inRange

/-! ## Networks -/

structure AssetParams where
  prefixes : AddressPrefixes
  isTestnet : Bool
  nIssueAssetBurnAmount : CAmount
  nReissueAssetBurnAmount : CAmount
  nIssueSubAssetBurnAmount : CAmount
  nIssueUniqueAssetBurnAmount : CAmount
  nIssueMsgChannelAssetBurnAmount : CAmount
  nIssueQualifierAssetBurnAmount : CAmount
  nIssueSubQualifierAssetBurnAmount : CAmount
  nIssueRestrictedAssetBurnAmount : CAmount
  nAddNullQualifierTagBurnAmount : CAmount
  strIssueAssetBurnAddress : Bytes
  strReissueAssetBurnAddress : Bytes
  strIssueSubAssetBurnAddress : Bytes
  strIssueUniqueAssetBurnAddress : Bytes
  strIssueMsgChannelAssetBurnAddress : Bytes
  strIssueQualifierAssetBurnAddress : Bytes
  strIssueSubQualifierAssetBurnAddress : Bytes
  strIssueRestrictedAssetBurnAddress : Bytes
  strAddNullQualifierTagBurnAddress : Bytes

def mainAssetParams : AssetParams where
  prefixes := { pubkeyAddress := [25], scriptAddress := [122] }
  isTestnet := false
  nIssueAssetBurnAmount := 500 * coin
  nReissueAssetBurnAmount := 100 * coin
  nIssueSubAssetBurnAmount := 100 * coin
  nIssueUniqueAssetBurnAmount := 5 * coin
  nIssueMsgChannelAssetBurnAmount := 100 * coin
  nIssueQualifierAssetBurnAmount := 1000 * coin
  nIssueSubQualifierAssetBurnAmount := 100 * coin
  nIssueRestrictedAssetBurnAmount := 1500 * coin
  nAddNullQualifierTagBurnAmount := coin / 10
  strIssueAssetBurnAddress := ascii "1BSrfxDfwZaKp5ZccJTMSKERGzkZry8u5Ao"
  strReissueAssetBurnAddress := ascii "BCuf7Zghzuca6V6xs1mbGXsia7tug15LTw"
  strIssueSubAssetBurnAddress := ascii "B6hBVCpU3Tm2Lsg5WunE5HxNCEPt5cAkrr"
  strIssueUniqueAssetBurnAddress := ascii "BR5Xm54JgcVxU8NAufKor91EAK4DUMLmB9"
  strIssueMsgChannelAssetBurnAddress := ascii "B7HnraAtb8jbBwm3oVkLhSPZckCyT7h6Hr"
  strIssueQualifierAssetBurnAddress := ascii "BGbX2cJk3vS4Wvrt8qmPCrfaApQNtK9dwu"
  strIssueSubQualifierAssetBurnAddress := ascii "BE6rb2uC3vktwpvfxQz9ZbwseXoTbovjXP"
  strIssueRestrictedAssetBurnAddress := ascii "BLU2iZqXgzksy7JHWwTkMmgD7cbGDuHdsa"
  strAddNullQualifierTagBurnAddress := ascii "BBfeHERECJVoHjhEJNoZ6SAB12xwzkDsKw"

def AssetParams.getBurnAmount (params : AssetParams) : AssetType → CAmount
  | .root => params.nIssueAssetBurnAmount
  | .sub => params.nIssueSubAssetBurnAmount
  | .msgchannel => params.nIssueMsgChannelAssetBurnAmount
  | .unique => params.nIssueUniqueAssetBurnAmount
  | .reissue => params.nReissueAssetBurnAmount
  | .qualifier => params.nIssueQualifierAssetBurnAmount
  | .subQualifier => params.nIssueSubQualifierAssetBurnAmount
  | .restricted => params.nIssueRestrictedAssetBurnAmount
  | .nullAddQualifier => params.nAddNullQualifierTagBurnAmount
  | .owner | .vote | .invalid => 0

def AssetParams.getBurnAddress (params : AssetParams) : AssetType → Bytes
  | .root => params.strIssueAssetBurnAddress
  | .sub => params.strIssueSubAssetBurnAddress
  | .msgchannel => params.strIssueMsgChannelAssetBurnAddress
  | .unique => params.strIssueUniqueAssetBurnAddress
  | .reissue => params.strReissueAssetBurnAddress
  | .qualifier => params.strIssueQualifierAssetBurnAddress
  | .subQualifier => params.strIssueSubQualifierAssetBurnAddress
  | .restricted => params.strIssueRestrictedAssetBurnAddress
  | .nullAddQualifier => params.strAddNullQualifierTagBurnAddress
  | .owner | .vote | .invalid => []

/-- What the asset checks take from outside: the digests and the network. -/
structure AssetEnv where
  digests : Digests
  params : AssetParams

/-- The address the source reads off an asset or null-asset script. -/
def AssetEnv.address (env : AssetEnv) (script : Bytes) : Bytes :=
  scriptAddress env.digests env.params.prefixes script

end BlackRaven.Assets
