import EgoAgent.Acceptance.Commitment
import EgoAgent.Api.EventDelivery
import EgoAgent.Api.EventTampering
import EgoAgent.Api.ExecutionApprovals
import EgoAgent.Api.StageHistories
import EgoAgent.Benchmarks.BridgeLedger
import EgoAgent.Benchmarks.ReleaseGate
import EgoAgent.Benchmarks.TraceTruth
import EgoAgent.Bridge.AttentionFit
import EgoAgent.Bridge.LiveRepeat
import EgoAgent.Bridge.Staffing
import EgoAgent.Bridge.StatusProjection
import EgoAgent.Datasets.Guarantees
import EgoAgent.Gateway.GpuLaunches
import EgoAgent.Gateway.ReverseOrder
import EgoAgent.Gateway.SecretRedaction
import EgoAgent.ResearchOs.ExperimentMatrix
import EgoAgent.ResearchOs.FocusBudget
import EgoAgent.Rxp.CanonicalForm
import EgoAgent.Rxp.EvidenceReady
import EgoAgent.Rxp.GateOrder
import EgoAgent.Rxp.GrantIssue
import EgoAgent.Rxp.OmissionProof
import EgoAgent.Rxp.Refinement
import EgoAgent.Rxp.RootCommits
import EgoAgent.Rxp.SharedRegistry
import EgoAgent.SecureMemory.BrokerDispatch
import EgoAgent.SecureMemory.BudgetRetries
import EgoAgent.SecureMemory.CandidateQuotas
import EgoAgent.SecureMemory.LeaseBinding
import EgoAgent.SecureMemory.ReceiptRuns
import EgoAgent.SecureMemory.Scanner
import EgoAgent.SkillRuntime.ReleaseLifecycle
import EgoAgent.TrustedMemory.Capsule
import EgoAgent.TrustedMemory.Retrieval
