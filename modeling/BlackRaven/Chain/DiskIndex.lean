import BlackRaven.Chain.HeaderChain

/-!
Contract: the block index on disk: `CDiskBlockIndex` of `chain.h`,
`CBlockTreeDB::LoadBlockIndexGuts` of `txdb.cpp` and `InsertBlockIndex` of
`validation.cpp`.

Owns: the record format, the loading loop, and the exact condition under which the
entry of an accepted header survives being written and loaded.

The record has the height of the entry and not the height field of the header; the
hash is computed anew from it.
-/

namespace BlackRaven.Chain

open Arith Consensus Lib BlackRaven.Pow Primitives

/-- `CLIENT_VERSION` of release 0.1.0.0. -/
def clientVersion : Nat := 10000

/-- `VARINT` of an `int`. -/
def diskInt : Codec Nat := varInt intMax.toNat

/-- `VARINT` of an `unsigned int`. -/
def diskUint : Codec Uint32 := varIntWord 32

theorem clientVersion_admissible : diskInt.Admissible clientVersion := by
  show clientVersion ≤ intMax.toNat
  decide

/-! ## Records -/

/-- The fields of `CDiskBlockIndex` that take part in its serialization. -/
structure CDiskBlockIndex where
  nHeight : Nat
  nStatus : Uint32
  nTx : Uint32
  nFile : Nat
  nDataPos : Uint32
  nUndoPos : Uint32
  nVersion : Uint32
  hashPrev : Uint256
  hashMerkleRoot : Uint256
  nTime : Uint32
  nBits : Uint32
  nNonce : Uint32
  nNonce64 : Uint64
  mixHash : Uint256
  deriving DecidableEq

namespace CDiskBlockIndex

def ofIndex (pindex : CBlockIndex) : CDiskBlockIndex where
  nHeight := pindex.nHeight
  nStatus := pindex.nStatus
  nTx := pindex.nTx
  nFile := pindex.nFile
  nDataPos := pindex.nDataPos
  nUndoPos := pindex.nUndoPos
  nVersion := pindex.nVersion
  hashPrev := pindex.pprev.getD 0
  hashMerkleRoot := pindex.hashMerkleRoot
  nTime := pindex.nTime
  nBits := pindex.nBits
  nNonce := pindex.nNonce
  nNonce64 := pindex.nNonce64
  mixHash := pindex.mixHash

variable (nTime nStatus : Uint32) (index : CDiskBlockIndex)

def hasFile : Bool := nStatus &&& (blockHaveData ||| blockHaveUndo) != 0
def hasData : Bool := nStatus &&& blockHaveData != 0
def hasUndo : Bool := nStatus &&& blockHaveUndo != 0
def isX16R : Bool := decide (nTime.toNat < kawpowActivationTime)

def fileField : Codec Nat := conditional (hasFile nStatus) diskInt 0
def dataField : Codec Uint32 := conditional (hasData nStatus) diskUint 0
def undoField : Codec Uint32 := conditional (hasUndo nStatus) diskUint 0
def nonceField : Codec Uint32 := conditional (isX16R nTime) u32 0
def nonce64Field : Codec Uint64 := conditional (!isX16R nTime) u64 0
def mixField : Codec Uint256 := conditional (!isX16R nTime) u256 0

/-- `SerializationOp`, writing to disk. -/
def serialize : Bytes :=
  diskInt.encode clientVersion ++ (diskInt.encode index.nHeight ++
    (diskUint.encode index.nStatus ++ (diskUint.encode index.nTx ++
    ((fileField index.nStatus).encode index.nFile ++
    ((dataField index.nStatus).encode index.nDataPos ++
    ((undoField index.nStatus).encode index.nUndoPos ++
    (u32.encode index.nVersion ++ (u256.encode index.hashPrev ++
    (u256.encode index.hashMerkleRoot ++ (u32.encode index.nTime ++
    (u32.encode index.nBits ++ ((nonceField index.nTime).encode index.nNonce ++
    ((nonce64Field index.nTime).encode index.nNonce64 ++
    (mixField index.nTime).encode index.mixHash)))))))))))))

/-- `SerializationOp`, reading into a fresh object. -/
def deserialize : Decoder CDiskBlockIndex := do
  let _ ← diskInt.decode
  let nHeight ← diskInt.decode
  let nStatus ← diskUint.decode
  let nTx ← diskUint.decode
  let nFile ← (fileField nStatus).decode
  let nDataPos ← (dataField nStatus).decode
  let nUndoPos ← (undoField nStatus).decode
  let nVersion ← u32.decode
  let hashPrev ← u256.decode
  let hashMerkleRoot ← u256.decode
  let nTime ← u32.decode
  let nBits ← u32.decode
  let nNonce ← (nonceField nTime).decode
  let nNonce64 ← (nonce64Field nTime).decode
  let mixHash ← (mixField nTime).decode
  return { nHeight, nStatus, nTx, nFile, nDataPos, nUndoPos, nVersion, hashPrev, hashMerkleRoot,
           nTime, nBits, nNonce, nNonce64, mixHash }

/-- What reading brings back: fields that are not written keep their defaults. -/
def stored : CDiskBlockIndex :=
  { index with
    nFile := if hasFile index.nStatus then index.nFile else 0
    nDataPos := if hasData index.nStatus then index.nDataPos else 0
    nUndoPos := if hasUndo index.nStatus then index.nUndoPos else 0
    nNonce := if isX16R index.nTime then index.nNonce else 0
    nNonce64 := if !isX16R index.nTime then index.nNonce64 else 0
    mixHash := if !isX16R index.nTime then index.mixHash else 0 }

def header : CBlockHeader where
  nVersion := index.nVersion
  hashPrevBlock := index.hashPrev
  hashMerkleRoot := index.hashMerkleRoot
  nTime := index.nTime
  nBits := index.nBits
  nNonce := index.nNonce
  nHeight := BitVec.ofNat 32 index.nHeight
  nNonce64 := index.nNonce64
  mixHash := index.mixHash

def getBlockHash (crypto : PowHash) (index : CDiskBlockIndex) : Uint256 :=
  index.header.getHash crypto

/-- The values an `int` of the source can hold. -/
def InRange : Prop :=
  index.nHeight ≤ intMax.toNat ∧ index.nFile ≤ intMax.toNat

theorem serialize_stored : index.stored.serialize = index.serialize := by
  simp only [serialize, stored, fileField, dataField, undoField, nonceField, nonce64Field, mixField,
    conditional_encode]

theorem deserialize_serialize {index : CDiskBlockIndex} (inRange : index.InRange) :
    deserialize.run index.serialize = some (index.stored, []) := by
  have height : diskInt.Admissible index.stored.nHeight := inRange.1
  have file : (fileField index.stored.nStatus).Admissible index.stored.nFile := conditional_admissible inRange.2
  have data : (dataField index.stored.nStatus).Admissible index.stored.nDataPos :=
    conditional_admissible trivial
  have undo : (undoField index.stored.nStatus).Admissible index.stored.nUndoPos :=
    conditional_admissible trivial
  have nonce : (nonceField index.stored.nTime).Admissible index.stored.nNonce :=
    conditional_admissible (u32_admissible _)
  have nonce64 : (nonce64Field index.stored.nTime).Admissible index.stored.nNonce64 :=
    conditional_admissible (u64_admissible _)
  have mix : (mixField index.stored.nTime).Admissible index.stored.mixHash :=
    conditional_admissible (u256_admissible _)
  rw [← serialize_stored]
  unfold deserialize serialize
  rw [Codec.run_bind_encode _ _ _ _ clientVersion_admissible,
    Codec.run_bind_encode _ _ _ _ height,
    Codec.run_bind_encode diskUint _ _ _ trivial, Codec.run_bind_encode diskUint _ _ _ trivial,
    Codec.run_bind_encode _ _ _ _ file, Codec.run_bind_encode _ _ _ _ data,
    Codec.run_bind_encode _ _ _ _ undo, Codec.run_bind_encode _ _ _ _ (u32_admissible _),
    Codec.run_bind_encode _ _ _ _ (u256_admissible _),
    Codec.run_bind_encode _ _ _ _ (u256_admissible _),
    Codec.run_bind_encode _ _ _ _ (u32_admissible _),
    Codec.run_bind_encode _ _ _ _ (u32_admissible _), Codec.run_bind_encode _ _ _ _ nonce,
    Codec.run_bind_encode _ _ _ _ nonce64, Codec.run_bind_encode_last _ _ _ mix]
  rfl

/-- Both nonce formats reach the hash through the serialization only. -/
theorem header_stored_serialize : index.stored.header.serialize = index.header.serialize := by
  unfold CBlockHeader.serialize CBlockHeader.formatBytes
  congr 1
  by_cases early : index.nTime.toNat < kawpowActivationTime <;> simp [header, stored, isX16R, early]

end CDiskBlockIndex

/-! ## Loading -/

/-- A `CBlockIndex()` under a key of `mapBlockIndex`. -/
def CBlockIndex.blank (hash : Uint256) : CBlockIndex where
  hashBlock := hash
  pprev := none
  nHeight := 0
  nFile := 0
  nDataPos := 0
  nUndoPos := 0
  nChainWork := ArithUint256.ofUint64 0
  nTx := 0
  nChainTx := 0
  nStatus := 0
  nVersion := 0
  hashMerkleRoot := 0
  nTime := 0
  nBits := 0
  nNonce := 0
  nNonce64 := 0
  mixHash := 0
  nSequenceId := 0
  nTimeMax := 0

/-- `InsertBlockIndex`: the pointer, null for the null hash, and the map. -/
def insertBlockIndex (map : BlockMap) (hash : Uint256) : Option Uint256 × BlockMap :=
  if hash = 0 then (none, map)
  else
    match map hash with
    | some _ => (some hash, map)
    | none => (some hash, map.set (CBlockIndex.blank hash))

inductive LoadFailure where
  | failedToReadValue
  | checkProofOfWorkFailed
  /-- The record hashes to the null hash, for which there is no entry to write to. -/
  | nullEntry
  deriving DecidableEq, Repr

/-- The entry that takes over the fields of a record. -/
def assignFields (pindexNew : CBlockIndex) (pprev : Option Uint256) (diskindex : CDiskBlockIndex) :
    CBlockIndex :=
  { pindexNew with
    pprev := pprev
    nHeight := diskindex.nHeight
    nFile := diskindex.nFile
    nDataPos := diskindex.nDataPos
    nUndoPos := diskindex.nUndoPos
    nVersion := diskindex.nVersion
    hashMerkleRoot := diskindex.hashMerkleRoot
    nTime := diskindex.nTime
    nBits := diskindex.nBits
    nNonce := diskindex.nNonce
    nStatus := diskindex.nStatus
    nTx := diskindex.nTx
    nNonce64 := diskindex.nNonce64
    mixHash := diskindex.mixHash }

/-- One round of `LoadBlockIndexGuts`. -/
def loadIndexEntry (crypto : PowHash) (params : Params) (map : BlockMap) (value : Bytes) :
    Except LoadFailure BlockMap :=
  match CDiskBlockIndex.deserialize.run value with
  | none => .error .failedToReadValue
  | some (diskindex, _) =>
    let hash := diskindex.getBlockHash crypto
    if hash = 0 then .error .nullEntry
    else
      let inserted := (insertBlockIndex map hash).2
      let (pprev, linked) := insertBlockIndex inserted diskindex.hashPrev
      let pindexNew := assignFields ((linked hash).getD (CBlockIndex.blank hash)) pprev diskindex
      if !checkProofOfWork pindexNew.hashBlock pindexNew.nBits params then
        .error .checkProofOfWorkFailed
      else .ok (linked.set pindexNew)

/-- `LoadBlockIndexGuts` over the values of the block index records, in key order. -/
def loadBlockIndexGuts (crypto : PowHash) (params : Params) (map : BlockMap) :
    List Bytes → Except LoadFailure BlockMap
  | [] => .ok map
  | value :: rest => do
      let next ← loadIndexEntry crypto params map value
      loadBlockIndexGuts crypto params next rest

def BlockMap.empty : BlockMap := fun _ => none

def Keyed (map : BlockMap) : Prop := ∀ hash pindex, map hash = some pindex → pindex.hashBlock = hash

theorem Keyed.empty : Keyed BlockMap.empty := by
  intro hash pindex found
  cases found

variable {map : BlockMap} {crypto : PowHash} {params : Params}

theorem Keyed.set (keyed : Keyed map) (pindex : CBlockIndex) : Keyed (map.set pindex) := by
  intro hash known found
  rcases BlockMap.eq_of_set found with ⟨rfl, rfl⟩ | old
  · rfl
  · exact keyed _ _ old

theorem insertBlockIndex_keyed (keyed : Keyed map) (hash : Uint256) : Keyed (insertBlockIndex map hash).2 := by
  unfold insertBlockIndex
  split
  · exact keyed
  · split
    · exact keyed
    · exact keyed.set _

theorem insertBlockIndex_known {known : Uint256} (hash : Uint256)
    (isKnown : (map known).isSome = true) : (insertBlockIndex map hash).2 known = map known := by
  unfold insertBlockIndex
  split
  · rfl
  · split
    · rfl
    · next unknown =>
      obtain ⟨pindex, found⟩ := Option.isSome_iff_exists.mp isKnown
      rw [found]
      exact BlockMap.set_of_found unknown found

theorem insertBlockIndex_pointer {hash : Uint256} (notNull : hash ≠ 0) :
    (insertBlockIndex map hash).1 = some hash := by
  unfold insertBlockIndex
  rw [if_neg notNull]
  split <;> rfl

theorem loadIndexEntry_ok {next : BlockMap} {value : Bytes} (keyed : Keyed map)
    (loaded : loadIndexEntry crypto params map value = .ok next) :
    Keyed next ∧ ∃ diskindex rest, CDiskBlockIndex.deserialize.run value = some (diskindex, rest) := by
  unfold loadIndexEntry at loaded
  split at loaded
  · cases loaded
  next diskindex rest decoded =>
    rw [ite_error_eq_ok, ite_error_eq_ok] at loaded
    obtain ⟨-, -, isNext⟩ := loaded
    cases isNext
    refine ⟨?_, diskindex, rest, decoded⟩
    exact (insertBlockIndex_keyed (insertBlockIndex_keyed keyed _) _).set _

theorem loadBlockIndexGuts_eq (values : List Bytes) (map : BlockMap) :
    loadBlockIndexGuts crypto params map values = values.foldlM (loadIndexEntry crypto params) map := by
  induction values generalizing map with
  | nil => rfl
  | cons value rest ih => simp only [loadBlockIndexGuts, List.foldlM_cons, ih]

/-! ## Surviving a restart -/

/-- An entry read back: the same place in the tree, the same status, the same
positions as far as the status has any, and the same header. -/
structure Restored (pindex back : CBlockIndex) : Prop where
  hashBlock : back.hashBlock = pindex.hashBlock
  pprev : back.pprev = pindex.pprev
  nHeight : back.nHeight = pindex.nHeight
  nStatus : back.nStatus = pindex.nStatus
  nTx : back.nTx = pindex.nTx
  nFile : CDiskBlockIndex.hasFile pindex.nStatus = true → back.nFile = pindex.nFile
  nDataPos : CDiskBlockIndex.hasData pindex.nStatus = true → back.nDataPos = pindex.nDataPos
  nUndoPos : CDiskBlockIndex.hasUndo pindex.nStatus = true → back.nUndoPos = pindex.nUndoPos
  header : back.getBlockHeader.serialize = pindex.getBlockHeader.serialize

/-- What an entry has to fulfil for its record to bring it back. -/
structure Storable (crypto : PowHash) (params : Params) (pindex : CBlockIndex) : Prop where
  nHeight : pindex.nHeight ≤ intMax.toNat
  nFile : pindex.nFile ≤ intMax.toNat
  notNull : pindex.hashBlock ≠ 0
  pprev : pindex.pprev ≠ some 0
  hash : pindex.getBlockHeader.getHash crypto = pindex.hashBlock
  work : checkProofOfWork pindex.hashBlock pindex.nBits params = true

theorem loadIndexEntry_restores {pindex : CBlockIndex} (keyed : Keyed map)
    (storable : Storable crypto params pindex) :
    ∃ next, loadIndexEntry crypto params map (CDiskBlockIndex.ofIndex pindex).serialize = .ok next ∧
      (∃ back, next pindex.hashBlock = some back ∧ Restored pindex back) ∧
      ∀ hash, hash ≠ pindex.hashBlock → (map hash).isSome = true → next hash = map hash := by
  have decoded := CDiskBlockIndex.deserialize_serialize
    (show (CDiskBlockIndex.ofIndex pindex).InRange from ⟨storable.nHeight, storable.nFile⟩)
  have header := CDiskBlockIndex.header_stored_serialize (CDiskBlockIndex.ofIndex pindex)
  have hash : (CDiskBlockIndex.ofIndex pindex).stored.getBlockHash crypto = pindex.hashBlock := by
    rw [← storable.hash]
    exact CBlockHeader.getHash_of_serialize crypto header
  have pointer : ∀ inserted : BlockMap,
      (insertBlockIndex inserted (CDiskBlockIndex.ofIndex pindex).stored.hashPrev).1 = pindex.pprev := by
    intro inserted
    change (insertBlockIndex inserted (pindex.pprev.getD 0)).1 = pindex.pprev
    cases isPrev : pindex.pprev with
    | none => exact congrArg Prod.fst (if_pos rfl)
    | some previous =>
      refine insertBlockIndex_pointer ?_
      rintro rfl
      exact storable.pprev isPrev
  unfold loadIndexEntry
  simp only [decoded, hash, if_neg storable.notNull, pointer]
  generalize linking : (insertBlockIndex (insertBlockIndex map pindex.hashBlock).2
    (CDiskBlockIndex.ofIndex pindex).stored.hashPrev).2 = linked
  have linkedKeyed : Keyed linked := by
    rw [← linking]
    exact insertBlockIndex_keyed (insertBlockIndex_keyed keyed _) _
  have base : ((linked pindex.hashBlock).getD (CBlockIndex.blank pindex.hashBlock)).hashBlock
      = pindex.hashBlock := by
    cases found : linked pindex.hashBlock with
    | none => rfl
    | some old => exact linkedKeyed _ _ found
  generalize (linked pindex.hashBlock).getD (CBlockIndex.blank pindex.hashBlock) = old at base
  generalize written : assignFields old pindex.pprev (CDiskBlockIndex.ofIndex pindex).stored = back
  have backHash : back.hashBlock = pindex.hashBlock := by
    rw [← written]
    exact base
  have work : checkProofOfWork back.hashBlock back.nBits params = true := by
    rw [backHash, ← written]
    exact storable.work
  rw [if_neg (by simp [work])]
  refine ⟨_, rfl, ⟨back, ?_, ?_⟩, ?_⟩
  · rw [← backHash, BlockMap.set_self]
  · subst written
    exact
      { hashBlock := backHash
        pprev := rfl
        nHeight := rfl
        nStatus := rfl
        nTx := rfl
        nFile := fun present => if_pos present
        nDataPos := fun present => if_pos present
        nUndoPos := fun present => if_pos present
        header := header }
  · intro other different known
    rw [BlockMap.set_of_ne _ _ (by rw [backHash]; exact different), ← linking,
      insertBlockIndex_known, insertBlockIndex_known _ known]
    rw [insertBlockIndex_known _ known]
    exact known

section Accepted

variable {genesis : Uint256} {crypto : PowHash} {chainparams : ChainParams} {node : NodeView}
  {s : ChainState genesis} {block : CBlockHeader}

/-- The hash a block is indexed under meets the target of the block, whichever of the
two checks admitted it. -/
theorem headerChecks_work (consistent : crypto.NoVerifyConsistent) {map : BlockMap} {pindexPrev : CBlockIndex}
    (checks : headerChecks crypto chainparams node map block = .ok pindexPrev) :
    checkProofOfWork (block.getHash crypto) block.nBits chainparams.consensus = true := by
  rcases checkBlockHeader_ok (headerChecks_ok checks).1 with ⟨-, -, work⟩ | ⟨-, work, mix⟩
  · exact work
  · have same : block.getHash crypto = (block.getHashFull crypto).1 := by
      unfold CBlockHeader.getHashFull at mix ⊢
      unfold CBlockHeader.getHash
      by_cases early : block.nTime.toNat < kawpowActivationTime
      · rw [if_pos early, if_pos early]
      · rw [if_neg early] at mix ⊢
        rw [if_neg early, CBlockHeader.kawpowHashOnlyMix, ← mix (by simpa [CBlockHeader.isKawpow] using early)]
        exact consistent _ _ _
    rw [same]
    exact work

/-- Replacing the height of a header shows in its serialization on the KAWPOW format
only. -/
theorem serialize_height_iff {height : Nat} (fits : height ≤ intMax.toNat) :
    ({ block with nHeight := BitVec.ofNat 32 height } : CBlockHeader).serialize = block.serialize
      ↔ (block.isKawpow = true → block.nHeight.toNat = height) := by
  have small : height < 2 ^ 32 := lt_of_le_of_lt fits (by decide)
  constructor
  · intro same kawpow
    have heights := CBlockHeader.nHeight_of_serialize same kawpow
    rw [← heights, BitVec.toNat_ofNat, Nat.mod_eq_of_lt small]
  · intro claimed
    by_cases early : block.nTime.toNat < kawpowActivationTime
    · rw [CBlockHeader.serialize, CBlockHeader.serialize, CBlockHeader.formatBytes,
        CBlockHeader.formatBytes, if_pos early, if_pos early]
      rfl
    · have isHeight := claimed (by simpa [CBlockHeader.isKawpow] using early)
      rw [← isHeight, BitVec.ofNat_toNat, BitVec.setWidth_eq]

/-- The entry of an admitted header survives a restart, under the hash it was accepted
with and with the header it was accepted with, exactly when its height fits the type
and a KAWPOW header has the height of its place in the chain. Neither it nor a header before it
has the null hash. -/
theorem storedEntry_restored_iff (consistent : crypto.NoVerifyConsistent)
    (notNull : block.getHash crypto ≠ 0) (noneNull : s.mapBlockIndex 0 = none)
    (admitted : NewlyAdmits crypto chainparams node s block) {entry : CBlockIndex}
    (isEntry : (acceptBlockHeader crypto chainparams node s block).2.mapBlockIndex
      (block.getHash crypto) = some entry)
    {pindex : CBlockIndex} (later : SameHeader pindex entry) (nFile : pindex.nFile ≤ intMax.toNat)
    {before : List Bytes} {loaded : BlockMap}
    (earlier : loadBlockIndexGuts crypto chainparams.consensus BlockMap.empty before = .ok loaded) :
    ((∃ next back,
          loadBlockIndexGuts crypto chainparams.consensus BlockMap.empty
              (before ++ [(CDiskBlockIndex.ofIndex pindex).serialize]) = .ok next ∧
            next (block.getHash crypto) = some back ∧ Restored pindex back ∧
            back.getBlockHeader.serialize = block.serialize) ∧
        pindex.getBlockHeader.serialize = block.serialize)
      ↔ (realHeight s.mapBlockIndex block ≤ intMax.toNat ∧
          (block.isKawpow = true → block.nHeight.toNat = realHeight s.mapBlockIndex block)) := by
  obtain ⟨-, pindexPrev, checks, -, -⟩ := newlyAdmits_iff.mp admitted
  have parent := (headerChecks_ok checks).2.1
  have height : realHeight s.mapBlockIndex block = pindexPrev.nHeight + 1 := by
    rw [realHeight, parent]
  have placed : SameHeader pindex (placedEntry crypto block pindexPrev) := by
    have isNew := newIndexEntry_sameHeader crypto (BitVec.ofNat 32 blockValidTree) parent
    have newHash : _ = block.getHash crypto := isNew.hashBlock
    rw [(acceptBlockHeader_state admitted).1, ← newHash, BlockMap.set_self] at isEntry
    cases isEntry
    exact later.trans isNew
  have header : pindex.getBlockHeader
      = { block with nHeight := BitVec.ofNat 32 (pindexPrev.nHeight + 1) } := placed.getBlockHeader
  rw [loadBlockIndexGuts_eq] at earlier
  have loadedKeyed : Keyed loaded :=
    foldlM_invariant Keyed (fun _ _ _ _ keyed loads => (loadIndexEntry_ok keyed loads).1) Keyed.empty earlier
  have last : loadBlockIndexGuts crypto chainparams.consensus BlockMap.empty
      (before ++ [(CDiskBlockIndex.ofIndex pindex).serialize])
        = loadIndexEntry crypto chainparams.consensus loaded (CDiskBlockIndex.ofIndex pindex).serialize := by
    rw [loadBlockIndexGuts_eq, List.foldlM_append, earlier]
    exact bind_pure (loadIndexEntry crypto chainparams.consensus loaded _)
  rw [height]
  constructor
  · rintro ⟨⟨next, back, isLoaded, -, -, -⟩, sameHeader⟩
    rw [last] at isLoaded
    obtain ⟨-, diskindex, rest, decoded⟩ := loadIndexEntry_ok loadedKeyed isLoaded
    obtain ⟨_, heightRead, -⟩ := Option.bind_eq_some_iff.mp decoded
    have fits : pindex.nHeight ≤ intMax.toNat := varInt_decode_le (by decide) heightRead
    rw [placed.nHeight] at fits
    rw [header] at sameHeader
    exact ⟨fits, (serialize_height_iff fits).mp sameHeader⟩
  · rintro ⟨fits, claimed⟩
    have sameHeader : pindex.getBlockHeader.serialize = block.serialize := by
      rw [header]
      exact (serialize_height_iff fits).mpr claimed
    have hash : pindex.hashBlock = block.getHash crypto := placed.hashBlock
    have storable : Storable crypto chainparams.consensus pindex :=
      { nHeight := by rw [placed.nHeight]; exact fits
        nFile := nFile
        notNull := by rw [hash]; exact notNull
        pprev := by
          rw [placed.pprev]
          intro isNull
          have nullParent : block.hashPrevBlock = 0 := Option.some.inj isNull
          rw [nullParent, noneNull] at parent
          cases parent
        hash := by rw [hash]; exact CBlockHeader.getHash_of_serialize crypto sameHeader
        work := by
          rw [hash, placed.nBits]
          exact headerChecks_work consistent checks }
    obtain ⟨next, isNext, ⟨back, isBack, restored⟩, -⟩ := loadIndexEntry_restores loadedKeyed storable
    exact ⟨⟨next, back, by rw [last, isNext], by rw [← hash]; exact isBack, restored,
      by rw [restored.header, sameHeader]⟩, sameHeader⟩

end Accepted

/-! ### A header on each side of the condition

A ProgPoW that knows a solution for claimed height 7 and one for the nonce 3. -/

def restartCrypto : PowHash where
  hash256 := fun _ => 0
  hashX16R := fun _ _ => 1
  progpow := fun height _ nonce => (if height = 7 ∨ nonce = 3 then 7 else ~~~0, 5)
  progpowNoVerify := fun height _ mix nonce =>
    if mix = 5 ∧ (height = 7 ∨ nonce = 3) then 7 else ~~~0

theorem restartCrypto_consistent : restartCrypto.NoVerifyConsistent := by
  intro height headerHash nonce
  simp [restartCrypto]

theorem restartCrypto_neverNull (header : CBlockHeader) : header.getHash restartCrypto ≠ 0 := by
  unfold CBlockHeader.getHash
  split
  · exact (by decide : (1 : Uint256) ≠ 0)
  · simp only [CBlockHeader.kawpowHashOnlyMix, restartCrypto]
    split <;> decide

/-- Block 1 of the main network, claiming height 7. -/
def misplacedHeader : CBlockHeader :=
  { forgedHeader with nHeight := 7, nNonce64 := 1, mixHash := 5 }

/-- Block 1 of the main network, claiming height 1. -/
def placedHeader : CBlockHeader :=
  { forgedHeader with nHeight := 1, nNonce64 := 3, mixHash := 5 }

def entryAfter (block : CBlockHeader) : CBlockIndex :=
  newIndexEntry restartCrypto mainInitialState.mapBlockIndex block (BitVec.ofNat 32 blockValidTree)

theorem misplacedHeader_admitted :
    NewlyAdmits restartCrypto mainChainParams sampleNode mainInitialState misplacedHeader :=
  ⟨by decide, by decide⟩

theorem placedHeader_admitted :
    NewlyAdmits restartCrypto mainChainParams sampleNode mainInitialState placedHeader :=
  ⟨by decide, by decide⟩

theorem entryAfter_found {block : CBlockHeader}
    (admitted : NewlyAdmits restartCrypto mainChainParams sampleNode mainInitialState block)
    (hash : (entryAfter block).hashBlock = block.getHash restartCrypto) :
    (acceptBlockHeader restartCrypto mainChainParams sampleNode mainInitialState
      block).2.mapBlockIndex (block.getHash restartCrypto) = some (entryAfter block) := by
  rw [(acceptBlockHeader_state admitted).1, ← hash]
  exact BlockMap.set_self _ _

/-- The node accepts the header, writes its entry, and refuses to load it. -/
theorem misplacedHeader_lost_on_restart :
    restartCrypto.NoVerifyConsistent ∧ (∀ header : CBlockHeader, header.getHash restartCrypto ≠ 0) ∧
      NewlyAdmits restartCrypto mainChainParams sampleNode mainInitialState misplacedHeader ∧
      (acceptBlockHeader restartCrypto mainChainParams sampleNode mainInitialState
        misplacedHeader).2.mapBlockIndex (misplacedHeader.getHash restartCrypto)
          = some (entryAfter misplacedHeader) ∧
      loadBlockIndexGuts restartCrypto mainParams BlockMap.empty
        [(CDiskBlockIndex.ofIndex (entryAfter misplacedHeader)).serialize] = .error .checkProofOfWorkFailed ∧
      (entryAfter misplacedHeader).getBlockHeader.serialize ≠ misplacedHeader.serialize ∧
      (entryAfter misplacedHeader).getBlockHeader.getHash restartCrypto
        ≠ misplacedHeader.getHash restartCrypto := by
  refine ⟨restartCrypto_consistent, restartCrypto_neverNull, misplacedHeader_admitted,
    entryAfter_found misplacedHeader_admitted (by decide), ?_, by decide, by decide⟩
  have refused : (loadBlockIndexGuts restartCrypto mainParams BlockMap.empty
      [(CDiskBlockIndex.ofIndex (entryAfter misplacedHeader)).serialize]).map (fun _ => ())
        = .error .checkProofOfWorkFailed := by decide +kernel
  exact map_eq_error.mp refused

theorem storedEntry_restored_placedHeader :
    ((∃ next back,
          loadBlockIndexGuts restartCrypto mainParams BlockMap.empty
              ([] ++ [(CDiskBlockIndex.ofIndex (entryAfter placedHeader)).serialize]) = .ok next ∧
            next (placedHeader.getHash restartCrypto) = some back ∧
            Restored (entryAfter placedHeader) back ∧
            back.getBlockHeader.serialize = placedHeader.serialize) ∧
        (entryAfter placedHeader).getBlockHeader.serialize = placedHeader.serialize)
      ↔ (realHeight mainInitialState.mapBlockIndex placedHeader ≤ intMax.toNat ∧
          (placedHeader.isKawpow = true →
            placedHeader.nHeight.toNat = realHeight mainInitialState.mapBlockIndex placedHeader)) :=
  @storedEntry_restored_iff _ restartCrypto mainChainParams sampleNode mainInitialState placedHeader
    restartCrypto_consistent (restartCrypto_neverNull _) rfl placedHeader_admitted
    (entryAfter placedHeader) (entryAfter_found placedHeader_admitted (by decide))
    (entryAfter placedHeader) rfl (by decide) [] BlockMap.empty rfl

end BlackRaven.Chain
