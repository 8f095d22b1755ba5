import BlackRaven.Primitives.Transaction

/-!
Contract: `CBlock` of `primitives/block.h` and the Merkle roots of `consensus/merkle.cpp`.

Owns: blocks, their serialized sizes, and the root the source computes in one pass over
the transactions together with the sign of a repeated subtree.

Does not own: `txoutFounder`, which only the miner reads, and Merkle branches.
-/

namespace BlackRaven.Primitives

structure CBlock where
  header : CBlockHeader
  vtx : List CTransaction
  /-- Memory only: `CheckBlock` has passed. -/
  fChecked : Bool
  deriving DecidableEq

/-! ## Sizes -/

def CBlock.serialize (block : CBlock) : Bytes :=
  block.header.serialize ++ writeCompactSize block.vtx.length ++ block.vtx.flatMap CTransaction.serialize

def CBlock.serializeNoWitness (block : CBlock) : Bytes :=
  block.header.serialize ++ writeCompactSize block.vtx.length
    ++ block.vtx.flatMap CTransaction.serializeNoWitness

/-! ## Merkle roots -/

section Merkle

variable (digests : Digests)

/-- `CHash256` over two hashes. -/
def merkleCombine (left right : Uint256) : Uint256 :=
  digests.hash (u256.encode left ++ u256.encode right)

/-- The variables of `MerkleComputation`. A level of `inner` is there exactly when the
matching bit of `count` is set, so the list has `count` as its binary digits. -/
structure MerkleState where
  inner : List (Option Uint256)
  mutated : Bool

/-- Store a hash at the lowest free level and combine it with the ones below on the way. -/
def merkleCarry (h : Uint256) : List (Option Uint256) → List (Option Uint256) × Bool
  | [] => ([some h], false)
  | none :: above => (some h :: above, false)
  | some left :: above =>
    let stored := merkleCarry (merkleCombine digests left h) above
    (none :: stored.1, left == h || stored.2)

def merkleStep (s : MerkleState) (leaf : Uint256) : MerkleState :=
  let stored := merkleCarry digests leaf s.inner
  ⟨stored.1, s.mutated || stored.2⟩

/-- The sweep above a level. A hash that occupies a level below the top is combined with
itself; the result rises through the occupied levels to the first free one. -/
def merkleSweep : (rising : Bool) → Uint256 → List (Option Uint256) → Uint256
  | _, h, [] => h
  | rising, h, level :: above =>
    let arriving := if rising then h else merkleCombine digests h h
    match level with
    | none => merkleSweep false arriving above
    | some left => merkleSweep true (merkleCombine digests left arriving) above

/-- Find the lowest level that is occupied and sweep from there. -/
def merkleTop : List (Option Uint256) → Uint256
  | [] => 0
  | none :: above => merkleTop above
  | some h :: above => merkleSweep digests false h above

/-- `ComputeMerkleRoot`: the root and whether two equal hashes were combined. -/
def computeMerkleRoot (leaves : List Uint256) : Uint256 × Bool :=
  let final := leaves.foldl (merkleStep digests) ⟨[], false⟩
  (merkleTop digests final.inner, final.mutated)

def blockMerkleRoot (block : CBlock) : Uint256 × Bool :=
  computeMerkleRoot digests (block.vtx.map (CTransaction.getHash digests))

/-- `BlockWitnessMerkleRoot`: the hash of the coinbase counts as zero. -/
def blockWitnessMerkleRoot (block : CBlock) : Uint256 :=
  (computeMerkleRoot digests (0 :: (block.vtx.drop 1).map (CTransaction.getWitnessHash digests))).1

end Merkle

end BlackRaven.Primitives
