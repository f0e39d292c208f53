import RolloutCore.CycleOrder
import RolloutCore.CycleTaint
import RolloutCore.FakeGuarantees
import RolloutCore.HttpAdapter
import RolloutCore.HttpEvidence
import RolloutCore.HttpDrain
import RolloutCore.HttpBootstrap
import RolloutCore.LifecycleLedger
import RolloutCore.Refusals
import RolloutCore.HttpSeeding
import RolloutCore.RunnerRefusals
import RolloutCore.LifecycleDriver
import RolloutCore.FakeCampaigns
import RolloutCore.ReplayCli
import RolloutCore.ReplayVerdicts
import RolloutCore.Loaders
import RolloutCore.DigestCollisions
import RolloutCore.StagedIdentity
import RolloutCore.DrainDeadline
import RolloutCore.ReplayDiagnostics
import RolloutCore.ReplayStatistics
import RolloutCore.DigestTexts
import RolloutCore.LifecycleGuards
import RolloutCore.DrainBudget
import RolloutCore.ConcurrentCycles
import RolloutCore.Publication
import RolloutCore.Deployment
import RolloutCore.Interrupted
import RolloutCore.LifecycleOnly
import RolloutCore.ReplayShards
import RolloutCore.ReplayPipeline
import RolloutCore.FaultTable
import RolloutCore.JournalReplay
import RolloutCore.FailedTranscript
