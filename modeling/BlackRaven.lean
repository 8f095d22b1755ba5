import BlackRaven.Assets.Existence
import BlackRaven.Assets.VerifierText
import BlackRaven.Chain.CoinLayers
import BlackRaven.Chain.CoinStorage
import BlackRaven.Chain.DiskIndex
import BlackRaven.Chain.MempoolRules
import BlackRaven.Chain.TipUndo
import BlackRaven.Evo.ListRebuild
import BlackRaven.Evo.BlockVerdict
import BlackRaven.Governance.BlockValue
import BlackRaven.Llmq.ChainLocks
import BlackRaven.Llmq.InstantSend
import BlackRaven.Llmq.MinableCommitments
import BlackRaven.Llmq.QuorumSelection
import BlackRaven.Net.CompactBlocks
import BlackRaven.Net.Sporks
import BlackRaven.Chain.TransferOrder
import BlackRaven.Assets.LatestVerifier
import BlackRaven.Chain.AssetAmounts
import BlackRaven.Assets.Snapshots
