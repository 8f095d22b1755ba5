import BlackRaven.Consensus.Amount
import BlackRaven.Primitives.Integers

/-!
Contract: `consensus/params.h`, the reward part of `founder_payment.h`, and the
values `CMainParams` gives them in `chainparams.cpp`.

Owns: the consensus parameters that the modelled rules read.

Does not own: the parameters of the smartnode, governance, long-living-quorum and
version-bits subsystems, which no modelled rule reads.
-/

namespace BlackRaven.Consensus

structure FounderRewardStructure where
  blockHeight : Int
  /-- Basis points of the block subsidy (10000 = 100%). -/
  rewardBasisPoints : Int
  deriving DecidableEq, Repr

/-- `FounderPayment`, with the payee script in place of the address string it is
derived from (`GetScriptForDestination(CBitcoinAddress(founderAddress).Get())`). -/
structure FounderPayment where
  rewardStructures : List FounderRewardStructure
  startBlock : Int
  payee : Bytes
  deriving DecidableEq, Repr

structure Params where
  hashGenesisBlock : Uint256
  nSubsidyHalvingInterval : Int
  /-- Block height at which DIP0003 becomes active. -/
  dip0003Height : Int
  bip65Enabled : Bool
  bip66Enabled : Bool
  bipCSVEnabled : Bool
  nSegwitEnabled : Bool
  powLimit : Uint256
  fPowAllowMinDifficultyBlocks : Bool
  fPowNoRetargeting : Bool
  nPowTargetSpacing : Int
  nPowTargetTimespan : Int
  nPowDGWHeight : Int
  nMinimumDifficultyBlocks : Int
  nFounderPayment : FounderPayment
  deriving DecidableEq, Repr

/-! ## The main network -/

/-- The pay-to-public-key-hash script of `B75r9F5RG37pDjKWumQyF7e8V5EDZXW7W2`. -/
def mainFounderPayee : Bytes :=
  [0x76, 0xa9, 0x14, 0x1c, 0xe4, 0x65, 0x19, 0x03, 0x81, 0x41, 0x2d, 0x8a, 0xe1, 0xd4,
    0x8f, 0x29, 0xa7, 0xfa, 0xa6, 0x66, 0xe3, 0x07, 0xf7, 0x88, 0xac]

def mainParams : Params where
  hashGenesisBlock := 0x0001a5916e8deb24b32cfa5c8b97c0b40685bd7616a40cdc27088ce4c690bd1a#256
  nSubsidyHalvingInterval := 3200000
  dip0003Height := intMax
  bip65Enabled := true
  bip66Enabled := true
  bipCSVEnabled := true
  nSegwitEnabled := true
  powLimit := 0x00ffffffffffffffffffffffffffffffffffffffffffffffffffffffffffffff#256
  fPowAllowMinDifficultyBlocks := false
  fPowNoRetargeting := false
  nPowTargetSpacing := 1 * 60
  nPowTargetTimespan := 2016 * 60
  nPowDGWHeight := 1
  nMinimumDifficultyBlocks := 0
  nFounderPayment :=
    { rewardStructures := [⟨intMax, 50⟩], startBlock := 1, payee := mainFounderPayee }

end BlackRaven.Consensus
