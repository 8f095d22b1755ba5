import BlackRaven.Chain.HeaderAcceptance
import BlackRaven.Primitives.Block
import BlackRaven.Primitives.Text
import BlackRaven.Script.Script

/-!
Contract: `CMainParams` of `chainparams.cpp` as far as blocks go, and the state a node
of the main network starts from.
-/

namespace BlackRaven.Chain

open Arith Consensus Lib BlackRaven.Pow Primitives Script

def mainChainParams : ChainParams where
  consensus := mainParams
  checkpoints := [(0, mainParams.hashGenesisBlock)]

def mainGenesis : CBlockHeader where
  nVersion := 4
  hashPrevBlock := 0
  hashMerkleRoot := 0x6d713fa7557a598e1fc0e5d02d517e01e94ea6f8b4f888cc830c77a9a6180188#256
  nTime := 1778983830
  nBits := 0x1f0fffff
  nNonce := 7897
  nHeight := 0
  nNonce64 := 7897
  mixHash := 0x2081c658c3fb1db0b638dacf795e2f9236b8f91af1981033324583a016c9630e#256

/-- The transaction of `CreateGenesisBlock`. -/
def mainGenesisTx : CTransaction where
  nVersion := 1
  nType := transactionNormal
  vin := [⟨⟨0, 0xffffffff⟩,
    pushData [] ++ pushData [0xff, 0xff, 0x00, 0x1d] ++ pushData [0x04]
      ++ pushData (ascii "BlackRaven BLKR genesis 2026-05-17T02:10:30Z fair launch"),
    0xffffffff, []⟩]
  vout := [⟨5000 * coin, pushData (toBytesLE 65
    0x04678afdb0fe5548271967f1a67130b7105cd6a828e03909a67962e0ea1f61deb649f6bc3f4cef38c4f35504e51ec112de5c384df7ba0b8d578a4c702b6bf11d5f).reverse
      ++ [opChecksig]⟩]
  nLockTime := 0
  vExtraPayload := []

def mainGenesisBlock : CBlock where
  header := mainGenesis
  vtx := [mainGenesisTx]
  fChecked := false

/-- The entry of the genesis block once it is connected. -/
def mainGenesisIndex : CBlockIndex :=
  { CBlockIndex.ofHeader mainParams.hashGenesisBlock mainGenesis with
    nTx := 1
    nChainTx := 1
    nStatus := BitVec.ofNat 32 blockValidScripts ||| blockHaveData
    nTimeMax := mainGenesis.nTime
    nChainWork := (getBlockProof mainGenesis.nBits).getD (ArithUint256.ofUint64 0) }

def mainInitialState : ChainState mainParams.hashGenesisBlock where
  mapBlockIndex := BlockMap.set (fun _ => none) mainGenesisIndex
  pindexBestHeader := some mainParams.hashGenesisBlock
  gFailedBlocks := []
  setDirtyBlockIndex := []
  knowsGenesis := by decide

end BlackRaven.Chain
