import BlackRaven.Arith.Uint256
import BlackRaven.Primitives.BlockHeader
import Mathlib.Data.List.Sort

/-!
Contract: `CBlockIndex` of `chain.h` and the tree `mapBlockIndex` holds.

Owns: index entries, the walk along `pprev`, the median time, and the header an
entry can be turned back into.

Does not own: `pskip`. It only shortens walks along `pprev`.

A pointer to an entry is the entry's block hash, its key in `mapBlockIndex`.
-/

namespace BlackRaven.Chain

open Arith Primitives

/-! ## Block status -/

def blockValidTree : Nat := 2
def blockValidScripts : Nat := 5
def blockValidMask : Uint32 := 7#32
def blockHaveData : Uint32 := 8#32
def blockHaveUndo : Uint32 := 16#32
def blockFailedValid : Uint32 := 32#32
def blockFailedChild : Uint32 := 64#32
def blockFailedMask : Uint32 := blockFailedValid ||| blockFailedChild
def blockConflictChainlock : Uint32 := 256#32

/-! ## Entries -/

structure CBlockIndex where
  /-- `*phashBlock`. -/
  hashBlock : Uint256
  pprev : Option Uint256
  /-- Height in the chain: one more than the parent's. -/
  nHeight : Nat
  nFile : Nat
  nDataPos : Uint32
  nUndoPos : Uint32
  nChainWork : ArithUint256
  nTx : Uint32
  nChainTx : Uint32
  nStatus : Uint32
  nVersion : Uint32
  hashMerkleRoot : Uint256
  nTime : Uint32
  nBits : Uint32
  nNonce : Uint32
  nNonce64 : Uint64
  mixHash : Uint256
  nSequenceId : Int
  nTimeMax : Uint32
  deriving DecidableEq

namespace CBlockIndex

def hasStatus (pindex : CBlockIndex) (flags : Uint32) : Bool := pindex.nStatus &&& flags != 0

def isValid (pindex : CBlockIndex) (nUpTo : Nat) : Bool :=
  if pindex.hasStatus blockFailedMask then false
  else decide ((pindex.nStatus &&& blockValidMask).toNat ≥ nUpTo)

def raiseValidity (pindex : CBlockIndex) (nUpTo : Nat) : CBlockIndex :=
  if pindex.hasStatus blockFailedMask then pindex
  else if (pindex.nStatus &&& blockValidMask).toNat < nUpTo then
    { pindex with nStatus := (pindex.nStatus &&& ~~~blockValidMask) ||| BitVec.ofNat 32 nUpTo }
  else pindex

/-- `CBlockIndex(const CBlockHeader& block)`, under the hash it is inserted with. -/
def ofHeader (hash : Uint256) (block : CBlockHeader) : CBlockIndex where
  hashBlock := hash
  pprev := none
  nHeight := block.nHeight.toNat
  nFile := 0
  nDataPos := 0
  nUndoPos := 0
  nChainWork := ArithUint256.ofUint64 0
  nTx := 0
  nChainTx := 0
  nStatus := 0
  nVersion := block.nVersion
  hashMerkleRoot := block.hashMerkleRoot
  nTime := block.nTime
  nBits := block.nBits
  nNonce := block.nNonce
  nNonce64 := block.nNonce64
  mixHash := block.mixHash
  nSequenceId := 0
  nTimeMax := 0

/-- `GetBlockHeader`: the height is the chain height of the entry. -/
def getBlockHeader (pindex : CBlockIndex) : CBlockHeader where
  nVersion := pindex.nVersion
  hashPrevBlock := pindex.pprev.getD 0
  hashMerkleRoot := pindex.hashMerkleRoot
  nTime := pindex.nTime
  nBits := pindex.nBits
  nNonce := pindex.nNonce
  nHeight := BitVec.ofNat 32 pindex.nHeight
  nNonce64 := pindex.nNonce64
  mixHash := pindex.mixHash

def getBlockTime (pindex : CBlockIndex) : Int := pindex.nTime.toNat

end CBlockIndex

/-! ## The tree -/

abbrev BlockMap := Uint256 → Option CBlockIndex

variable (map : BlockMap) (pindex : CBlockIndex)

def BlockMap.set : BlockMap :=
  fun hash => if hash = pindex.hashBlock then some pindex else map hash

@[simp] theorem BlockMap.set_self : map.set pindex pindex.hashBlock = some pindex := by simp [BlockMap.set]

theorem BlockMap.set_of_ne {hash : Uint256} (different : hash ≠ pindex.hashBlock) :
    map.set pindex hash = map hash := by
  simp [BlockMap.set, different]

variable {map pindex} in
theorem BlockMap.set_of_found {hash : Uint256} {known : CBlockIndex}
    (isNew : map pindex.hashBlock = none) (found : map hash = some known) :
    map.set pindex hash = some known := by
  rw [set_of_ne, found]
  rintro rfl
  rw [isNew] at found
  cases found

variable {map pindex} in
theorem BlockMap.eq_of_set {hash : Uint256} {known : CBlockIndex} (found : map.set pindex hash = some known) :
    hash = pindex.hashBlock ∧ known = pindex ∨ map hash = some known := by
  unfold BlockMap.set at found
  split at found
  case isTrue isNew => exact Or.inl ⟨isNew, (Option.some.inj found).symm⟩
  case isFalse => exact Or.inr found

/-- An entry followed by its ancestors, at most `fuel` of them. -/
def walk (map : BlockMap) : Nat → CBlockIndex → List CBlockIndex
  | 0, pindex => [pindex]
  | fuel + 1, pindex =>
    match pindex.pprev.bind map with
    | none => [pindex]
    | some pprev => pindex :: walk map fuel pprev

/-- The chain that ends in an entry, tip first. An entry has at most `nHeight`
ancestors. -/
def chainOf : List CBlockIndex :=
  walk map pindex.nHeight pindex

def getAncestor (height : Nat) : Option CBlockIndex :=
  (chainOf map pindex).find? fun ancestor => ancestor.nHeight == height

/-- `GetMedianTimePast` over a chain, tip first. -/
def getMedianTimePast (chain : List CBlockIndex) : Int :=
  let times := ((chain.take 11).map CBlockIndex.getBlockTime).insertionSort (· ≤ ·)
  times.getD (times.length / 2) 0

theorem mem_walk {map : BlockMap} {fuel : Nat} {pindex ancestor : CBlockIndex}
    (member : ancestor ∈ walk map fuel pindex) :
    ancestor = pindex ∨ ∃ hash, map hash = some ancestor := by
  induction fuel generalizing pindex with
  | zero =>
    left
    simpa [walk] using member
  | succ fuel ih =>
    unfold walk at member
    split at member
    · left
      simpa using member
    · next pprev parent =>
        rcases List.mem_cons.mp member with here | above
        · exact Or.inl here
        · right
          rcases ih above with isParent | found
          · obtain ⟨hash, -, lookup⟩ := Option.bind_eq_some_iff.mp parent
            exact ⟨hash, isParent ▸ lookup⟩
          · exact found

end BlackRaven.Chain
