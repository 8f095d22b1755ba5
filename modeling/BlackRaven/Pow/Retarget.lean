import BlackRaven.Chain.BlockIndex
import BlackRaven.Consensus.Params

/-!
Contract: `pow.cpp` and `GetBlockProof` of `chain.cpp`.

Owns: the retarget rules as the source computes them, on eight-word integers.

Does not own: their meaning over unbounded integers.

A chain is given tip first, `pindexLast` and then its ancestors. `none` stands for a
failed assertion or a `uint_error`, both of which stop the node.
-/

namespace BlackRaven.Pow

open Arith Arith.ArithUint256 Chain Consensus Primitives

def checkProofOfWork (hash : Uint256) (nBits : Uint32) (params : Params) : Bool :=
  let compact := setCompact nBits
  if compact.fNegative || compact.target.isZero || compact.fOverflow
      || compact.target.gt (uintToArith256 params.powLimit) then false
  else !(uintToArith256 hash).gt compact.target

/-- `GetBlockProof`. The divisor `bnTarget + 1` is zero only for a target of
`2 ^ 256 - 1`, which no compact encoding denotes. -/
def getBlockProof (nBits : Uint32) : Option ArithUint256 :=
  let compact := setCompact nBits
  if compact.fNegative || compact.fOverflow || compact.target.isZero then some (ofUint64 0)
  else do
    let quotient ← compact.target.complement.divide (compact.target.add (ofUint64 1))
    return quotient.add (ofUint64 1)

/-! ## DarkGravityWave -/

def nPastBlocks : Nat := 180

def averageStep (nCountBlocks : Nat) (bnPastTargetAvg bnTarget : ArithUint256) :
    Option ArithUint256 :=
  if nCountBlocks = 1 then some bnTarget
  else
    ((bnPastTargetAvg.mulUint32 (BitVec.ofNat 32 nCountBlocks)).add bnTarget).divide
      (ofUint64 (BitVec.ofNat 64 (nCountBlocks + 1)))

/-- The loop over the counted blocks, from round `nCountBlocks` on. -/
def averageLoop : Nat → ArithUint256 → List CBlockIndex → Option ArithUint256
  | _, bnPastTargetAvg, [] => some bnPastTargetAvg
  | nCountBlocks, bnPastTargetAvg, pindex :: rest => do
      let next ← averageStep nCountBlocks bnPastTargetAvg (setCompact pindex.nBits).target
      averageLoop (nCountBlocks + 1) next rest

variable (chain : List CBlockIndex) (pblock : CBlockHeader) (params : Params) (pindexLast pindex : CBlockIndex)

def isKawpowIndex : Bool :=
  decide (pindex.nTime.toNat ≥ kawpowActivationTime)

/-- The two clamping branches on `nActualTimespan`. -/
def clampTimespan (nTargetTimespan nActualTimespan : Int) : Int :=
  let raised := if nActualTimespan < nTargetTimespan.tdiv 3 then nTargetTimespan.tdiv 3 else nActualTimespan
  if raised > nTargetTimespan * 3 then nTargetTimespan * 3 else raised

/-- Scale a target by a timespan and cap it. `operator*=` takes the timespan as a
`uint32_t`, `operator/=` takes the divisor as a `uint64_t`. -/
def scaleTarget (bnPowLimit bnTarget : ArithUint256) (nActualTimespan nTargetTimespan : Int) :
    Option ArithUint256 := do
  let product := bnTarget.mulUint32 (BitVec.ofInt 32 nActualTimespan)
  let bnNew ← product.divide (ofUint64 (BitVec.ofInt 64 nTargetTimespan))
  return if bnNew.gt bnPowLimit then bnPowLimit else bnNew

def targetTimespan : Int := nPastBlocks * params.nPowTargetSpacing

/-- The clamped `nActualTimespan` between the newest and the oldest counted block. -/
def actualTimespan : Int :=
  clampTimespan (targetTimespan params) (pindexLast.getBlockTime - pindex.getBlockTime)

/-- `bnNew` at the end of `DarkGravityWave`. -/
def retargetedTarget : Option ArithUint256 := do
  let counted := chain.take nPastBlocks
  let pindexLast ← counted.head?
  let pindex ← counted.getLast?
  let bnPastTargetAvg ← averageLoop 1 (ofUint64 0) counted
  scaleTarget (uintToArith256 params.powLimit) bnPastTargetAvg
    (actualTimespan params pindexLast pindex) (targetTimespan params)

/-- The walk back over blocks at the minimum difficulty, on networks that allow it. -/
def lastNonMinimum (params : Params) (nProofOfWorkLimit : Uint32) : List CBlockIndex → Option Uint32
  | [] => none
  | [pindex] => some pindex.nBits
  | pindex :: pprev :: rest =>
    let interval := params.nPowTargetTimespan.tdiv params.nPowTargetSpacing
    if Int.tmod pindex.nHeight interval ≠ 0 ∧ pindex.nBits = nProofOfWorkLimit then
      lastNonMinimum params nProofOfWorkLimit (pprev :: rest)
    else some pindex.nBits

def darkGravityWave :
    Option Uint32 := do
  let pindexLast ← chain.head?
  let nProofOfWorkLimit := (uintToArith256 params.powLimit).getCompact
  if pindexLast.nHeight < nPastBlocks then return nProofOfWorkLimit
  if params.fPowAllowMinDifficultyBlocks && params.fPowNoRetargeting then
    if (pblock.nTime.toNat : Int) > pindexLast.getBlockTime + params.nPowTargetSpacing * 2 then
      return nProofOfWorkLimit
    else
      return ← lastNonMinimum params nProofOfWorkLimit chain
  let counted := chain.take nPastBlocks
  -- The loop asserts a predecessor for every block but the last one it counts.
  if counted.length ≠ nPastBlocks then none
  if pblock.isKawpow && counted.countP isKawpowIndex != nPastBlocks then return nProofOfWorkLimit
  let bnNew ← retargetedTarget chain params
  return bnNew.getCompact

/-! ## The other retarget rules -/

def calculateNextWorkRequired (nFirstBlockTime : Int) (params : Params) : Option Uint32 := do
  if params.fPowNoRetargeting then return pindexLast.nBits
  let nPowTargetTimespan := params.nPowTargetTimespan
  let span := pindexLast.getBlockTime - nFirstBlockTime
  let raised := if span < nPowTargetTimespan.tdiv 4 then nPowTargetTimespan.tdiv 4 else span
  let nActualTimespan := if raised > nPowTargetTimespan * 4 then nPowTargetTimespan * 4 else raised
  let bnNew ← scaleTarget (uintToArith256 params.powLimit) (setCompact pindexLast.nBits).target
    nActualTimespan nPowTargetTimespan
  return bnNew.getCompact

def getNextWorkRequiredBTC :
    Option Uint32 := do
  let pindexLast ← chain.head?
  let nProofOfWorkLimit := (uintToArith256 params.powLimit).getCompact
  let interval := params.nPowTargetTimespan.tdiv params.nPowTargetSpacing
  if Int.tmod (pindexLast.nHeight + 1) interval ≠ 0 then
    if params.fPowAllowMinDifficultyBlocks then
      if (pblock.nTime.toNat : Int) > pindexLast.getBlockTime + params.nPowTargetSpacing * 2 then
        return nProofOfWorkLimit
      else
        return ← lastNonMinimum params nProofOfWorkLimit chain
    return pindexLast.nBits
  let nHeightFirst : Int := pindexLast.nHeight - (interval - 1)
  let pindexFirst ← chain.find? fun pindex => (pindex.nHeight : Int) == nHeightFirst
  calculateNextWorkRequired pindexLast pindexFirst.getBlockTime params

def getNextWorkRequired :
    Option Uint32 := do
  let pindexLast ← chain.head?
  if (pindexLast.nHeight : Int) < params.nMinimumDifficultyBlocks then
    return (uintToArith256 params.powLimit).getCompact
  if (pindexLast.nHeight : Int) + 1 < params.nPowDGWHeight then
    getNextWorkRequiredBTC chain pblock params
  else
    darkGravityWave chain pblock params

end BlackRaven.Pow
