import BlackRaven.Chain.MainNetwork
import BlackRaven.Lib.Outcome
import BlackRaven.Pow.Exactness

/-!
Contract: what a newly admitted header has proved.

Owns: the inversion of the header checks, the full KAWPOW check as a property of a
header, and the exact condition under which admission above the last checkpoint
implies it.

The source chooses between the full check and the one that trusts the claimed mix
hash by the height *written in the header*. No step compares that height with the
position of the block, so the two can differ.
-/

namespace BlackRaven.Chain

open Arith.ArithUint256 Consensus Lib BlackRaven.Pow Primitives

variable {genesis : Uint256} {crypto : PowHash} {chainparams : ChainParams} {node : NodeView}
  {s : ChainState genesis} {block : CBlockHeader}

/-! ## Inversion -/

variable {map : BlockMap}

theorem checkBlockHeader_ok (passed : checkBlockHeader crypto chainparams map block true = .ok ()) :
    (block.isKawpow = true ∧ mixOnlyPath chainparams.checkpoints map block = true ∧
        checkProofOfWork (block.getHash crypto) block.nBits chainparams.consensus = true) ∨
      (¬ (block.isKawpow = true ∧ mixOnlyPath chainparams.checkpoints map block = true) ∧
        checkProofOfWork (block.getHashFull crypto).1 block.nBits chainparams.consensus = true ∧
        (block.isKawpow = true → (block.getHashFull crypto).2 = block.mixHash)) := by
  unfold checkBlockHeader at passed
  simp only [Bool.true_and, Bool.and_eq_true] at passed
  split at passed
  case isTrue cheap =>
    rw [ite_error_eq_ok] at passed
    exact Or.inl ⟨cheap.1, cheap.2, by simpa using passed.1⟩
  case isFalse full =>
    rw [ite_error_eq_ok, ite_error_eq_ok] at passed
    refine Or.inr ⟨full, by simpa using passed.1, fun kawpow => ?_⟩
    have := passed.2.1
    simpa [kawpow] using this

theorem headerChecks_ok {pindexPrev : CBlockIndex}
    (passed : headerChecks crypto chainparams node map block = .ok pindexPrev) :
    checkBlockHeader crypto chainparams map block true = .ok () ∧
      map block.hashPrevBlock = some pindexPrev ∧
      pindexPrev.hasStatus blockFailedMask = false ∧
      pindexPrev.hasStatus blockConflictChainlock = false ∧
      contextualCheckBlockHeader chainparams node map block pindexPrev = .ok () := by
  obtain ⟨⟨⟩, headerPassed, rest⟩ := bind_eq_ok.mp passed
  split at rest
  · cases rest
  · next parent found =>
    rw [ite_error_eq_ok, ite_error_eq_ok] at rest
    obtain ⟨notFailed, notConflicting, rest⟩ := rest
    obtain ⟨⟨⟩, contextual, isParent⟩ := bind_eq_ok.mp rest
    cases isParent
    exact ⟨headerPassed, found, by simpa using notFailed, by simpa using notConflicting, contextual⟩

/-- `AcceptBlockHeader` returns true for a header that was not in the index. -/
def NewlyAdmits (crypto : PowHash) (chainparams : ChainParams) (node : NodeView)
    (s : ChainState genesis) (block : CBlockHeader) : Prop :=
  s.mapBlockIndex (block.getHash crypto) = none ∧
    (acceptBlockHeader crypto chainparams node s block).1 = .ok (block.getHash crypto)

theorem ne_genesis_of_unknown {hash : Uint256} (unknown : s.mapBlockIndex hash = none) : hash ≠ genesis := by
  intro isGenesis
  have known := s.knowsGenesis
  rw [isGenesis] at unknown
  rw [unknown] at known
  cases known

/-- Newly admitted means: every check passed, no failed ancestor, no chainlock
against it. -/
theorem newlyAdmits_iff :
    NewlyAdmits crypto chainparams node s block ↔
      s.mapBlockIndex (block.getHash crypto) = none ∧
        ∃ pindexPrev, headerChecks crypto chainparams node s.mapBlockIndex block = .ok pindexPrev ∧
          failedAncestor s pindexPrev = none ∧
          node.hasConflictingChainLock (pindexPrev.nHeight + 1) (block.getHash crypto) = false := by
  refine and_congr_right fun unknown => ?_
  unfold acceptBlockHeader
  rw [if_neg (ne_genesis_of_unknown unknown), unknown]
  cases checks : headerChecks crypto chainparams node s.mapBlockIndex block with
  | error failure => simp
  | ok pindexPrev =>
    cases ancestor : failedAncestor s pindexPrev with
    | some failedit => simp [ancestor]
    | none =>
      cases locked : node.hasConflictingChainLock (pindexPrev.nHeight + 1) (block.getHash crypto) with
      | true => simp [ancestor, locked]
      | false => simp [ancestor, locked]

/-- The state after a new admission holds the new entry and nothing else is new. -/
theorem acceptBlockHeader_state (admitted : NewlyAdmits crypto chainparams node s block) :
    (acceptBlockHeader crypto chainparams node s block).2.mapBlockIndex
        = s.mapBlockIndex.set (newIndexEntry crypto s.mapBlockIndex block (BitVec.ofNat 32 blockValidTree)) ∧
      (acceptBlockHeader crypto chainparams node s block).2.gFailedBlocks = s.gFailedBlocks := by
  obtain ⟨unknown, pindexPrev, checks, ancestor, unlocked⟩ := newlyAdmits_iff.mp admitted
  simp only [acceptBlockHeader, if_neg (ne_genesis_of_unknown unknown), unknown, checks, ancestor,
    unlocked, addToBlockIndex]
  exact ⟨rfl, rfl⟩

/-! ## The full check -/

theorem checkProofOfWork_le {hash : Uint256} {nBits : Uint32} {params : Params}
    (passed : checkProofOfWork hash nBits params = true) :
    hash.toNat ≤ targetOf nBits ∧ targetOf nBits ≤ params.powLimit.toNat := by
  simp only [checkProofOfWork] at passed
  split at passed
  · cases passed
  · next inRange =>
    simp only [Bool.or_eq_true, not_or] at inRange
    have notAboveLimit := inRange.2
    have notAboveTarget : ¬ (uintToArith256 hash).gt (setCompact nBits).target = true := by
      simpa using passed
    rw [gt_iff, uintToArith256_value] at notAboveLimit notAboveTarget
    exact ⟨Nat.le_of_not_lt notAboveTarget, Nat.le_of_not_lt notAboveLimit⟩

/-- `KAWPOWHash` is at most the target and computes the claimed mix hash. -/
def FullKawpow (crypto : PowHash) (block : CBlockHeader) : Prop :=
  (block.kawpowHash crypto).1.toNat ≤ targetOf block.nBits ∧ (block.kawpowHash crypto).2 = block.mixHash

/-- Admission that would have gone the same way for every ProgPoW: the full hash had
no part in it. -/
def DecidedByMixOnly (crypto : PowHash) (chainparams : ChainParams) (node : NodeView)
    (s : ChainState genesis) (block : CBlockHeader) : Prop :=
  ∀ progpow, NewlyAdmits { crypto with progpow := progpow } chainparams node s block

def AboveLastCheckpoint (chainparams : ChainParams) (map : BlockMap) (height : Nat) : Prop :=
  ∀ pcheckpoint, getLastCheckpoint chainparams.checkpoints map = some pcheckpoint → pcheckpoint.nHeight < height

def realHeight (map : BlockMap) (block : CBlockHeader) : Nat :=
  match map block.hashPrevBlock with
  | none => 0
  | some pindexPrev => pindexPrev.nHeight + 1

theorem mixOnlyPath_iff :
    mixOnlyPath chainparams.checkpoints map block = true
      ↔ ¬ AboveLastCheckpoint chainparams map block.nHeight.toNat := by
  unfold mixOnlyPath AboveLastCheckpoint
  cases getLastCheckpoint chainparams.checkpoints map <;> simp

section

variable (kawpow : block.isKawpow = true)

include kawpow

private theorem headerChecks_progpow {map : BlockMap}
    (cheap : mixOnlyPath chainparams.checkpoints map block = true)
    (progpow : Uint32 → Uint256 → Uint64 → Uint256 × Uint256) :
    headerChecks { crypto with progpow := progpow } chainparams node map block
      = headerChecks crypto chainparams node map block := by
  have sameHash : block.getHash { crypto with progpow := progpow } = block.getHash crypto := rfl
  unfold headerChecks checkBlockHeader
  rw [kawpow, cheap, sameHash]
  rfl

theorem decidedByMixOnly_of_claimed (admitted : NewlyAdmits crypto chainparams node s block)
    (claimed : ¬ AboveLastCheckpoint chainparams s.mapBlockIndex block.nHeight.toNat) :
    DecidedByMixOnly crypto chainparams node s block := by
  intro progpow
  have cheap := mixOnlyPath_iff.mpr claimed
  rw [newlyAdmits_iff] at admitted ⊢
  obtain ⟨unknown, pindexPrev, checks, rest⟩ := admitted
  exact ⟨unknown, pindexPrev, by rw [headerChecks_progpow kawpow cheap, checks], rest⟩

theorem fullKawpow_of_claimed (admitted : NewlyAdmits crypto chainparams node s block)
    (claimed : AboveLastCheckpoint chainparams s.mapBlockIndex block.nHeight.toNat) :
    FullKawpow crypto block := by
  obtain ⟨-, pindexPrev, checks, -⟩ := newlyAdmits_iff.mp admitted
  have notCheap : ¬ mixOnlyPath chainparams.checkpoints s.mapBlockIndex block = true :=
    fun cheap => mixOnlyPath_iff.mp cheap claimed
  have late : ¬ block.nTime.toNat < kawpowActivationTime := by
    simpa [CBlockHeader.isKawpow] using kawpow
  have full : block.getHashFull crypto = block.kawpowHash crypto := if_neg late
  rcases checkBlockHeader_ok (headerChecks_ok checks).1 with ⟨-, cheap, -⟩ | ⟨-, work, mix⟩
  · exact absurd cheap notCheap
  · rw [full] at work mix
    exact ⟨(checkProofOfWork_le work).1, mix kawpow⟩

theorem not_decidedByMixOnly_of_claimed
    (claimed : AboveLastCheckpoint chainparams s.mapBlockIndex block.nHeight.toNat) :
    ¬ DecidedByMixOnly crypto chainparams node s block := by
  intro decided
  have full := fullKawpow_of_claimed kawpow (decided fun _ _ _ => (0, ~~~block.mixHash)) claimed
  have : ~~~block.mixHash = block.mixHash := full.2
  have firstBit := congrArg (fun value => BitVec.getLsbD value 0) this
  simp at firstBit

end

/-- A newly admitted KAWPOW header above the last checkpoint has passed the full check,
and the mix-only check decides below it only, exactly when a block that is above the
last checkpoint also says so in its header. -/
theorem fullKawpow_above_checkpoint_iff (kawpow : block.isKawpow = true)
    (admitted : NewlyAdmits crypto chainparams node s block) :
    ((AboveLastCheckpoint chainparams s.mapBlockIndex (realHeight s.mapBlockIndex block) →
          FullKawpow crypto block) ∧
        (DecidedByMixOnly crypto chainparams node s block →
          ¬ AboveLastCheckpoint chainparams s.mapBlockIndex (realHeight s.mapBlockIndex block)))
      ↔ (AboveLastCheckpoint chainparams s.mapBlockIndex (realHeight s.mapBlockIndex block) →
          AboveLastCheckpoint chainparams s.mapBlockIndex block.nHeight.toNat) := by
  constructor
  · rintro ⟨-, mixOnly⟩ really
    by_contra claimed
    exact mixOnly (decidedByMixOnly_of_claimed kawpow admitted claimed) really
  · intro declared
    constructor
    · intro really
      exact fullKawpow_of_claimed kawpow admitted (declared really)
    · intro decided really
      exact not_decidedByMixOnly_of_claimed kawpow (declared really) decided

/-! ### A header at each side of the condition

A ProgPoW under which only the nonce 7 meets a target, and a header of block 1 of the
main network. -/

def sampleCrypto : PowHash where
  hash256 := fun _ => 0
  hashX16R := fun _ _ => 0
  progpow := fun _ _ nonce => (if nonce = 7 then 7 else ~~~0, 5)
  progpowNoVerify := fun _ _ mix nonce =>
    if mix = 5 then (if nonce = 7 then 7 else ~~~0) else nonce.setWidth 256

def sampleNode : NodeView where
  nAdjustedTime := 1778983890
  fCheckpointsEnabled := true
  hasConflictingChainLock := fun _ _ => false

/-- Claims height 0 and an invented mix hash; no work was done for it. -/
def forgedHeader : CBlockHeader where
  nVersion := 4
  hashPrevBlock := mainParams.hashGenesisBlock
  hashMerkleRoot := 0
  nTime := 1778983890
  nBits := 0x2000ffff
  nNonce := 0
  nHeight := 0
  nNonce64 := 1
  mixHash := 1

def honestHeader : CBlockHeader := { forgedHeader with nHeight := 1, nNonce64 := 7, mixHash := 5 }

theorem forgedHeader_admitted_without_work :
    sampleCrypto.NoVerifyConsistent ∧ forgedHeader.isKawpow = true ∧
      NewlyAdmits sampleCrypto mainChainParams sampleNode mainInitialState forgedHeader ∧
      AboveLastCheckpoint mainChainParams mainInitialState.mapBlockIndex
        (realHeight mainInitialState.mapBlockIndex forgedHeader) ∧
      ¬ FullKawpow sampleCrypto forgedHeader := by
  refine ⟨fun _ _ _ => rfl, by decide, ⟨by decide, by decide⟩, ?_, ?_⟩
  · intro pcheckpoint found
    have isGenesis : getLastCheckpoint mainChainParams.checkpoints mainInitialState.mapBlockIndex
        = some mainGenesisIndex := rfl
    rw [isGenesis] at found
    cases found
    decide
  · intro full
    exact absurd full.2 (by decide)

theorem fullKawpow_above_checkpoint_honestHeader :
    ((AboveLastCheckpoint mainChainParams mainInitialState.mapBlockIndex
            (realHeight mainInitialState.mapBlockIndex honestHeader) →
          FullKawpow sampleCrypto honestHeader) ∧
        (DecidedByMixOnly sampleCrypto mainChainParams sampleNode mainInitialState honestHeader →
          ¬ AboveLastCheckpoint mainChainParams mainInitialState.mapBlockIndex
            (realHeight mainInitialState.mapBlockIndex honestHeader)))
      ↔ (AboveLastCheckpoint mainChainParams mainInitialState.mapBlockIndex
            (realHeight mainInitialState.mapBlockIndex honestHeader) →
          AboveLastCheckpoint mainChainParams mainInitialState.mapBlockIndex honestHeader.nHeight.toNat) :=
  fullKawpow_above_checkpoint_iff (by decide) ⟨by decide, by decide⟩

end BlackRaven.Chain
