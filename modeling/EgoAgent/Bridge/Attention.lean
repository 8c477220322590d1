import EgoAgent.Api.WireLength
import EgoAgent.Lib.SelfSize
import EgoAgent.Lib.SortedSet
import EgoAgent.SecureMemory.Canonical

/-!
Attention packets: the current task with as many ranked facts as a budget of tokens holds.
-/

namespace EgoAgent.Attention

open EgoAgent.Api
open EgoAgent.SecureMemory (domainDigest digestText)

/-! ### Contexts and facts -/

/-- `AttentionFactRef`. -/
structure AttentionFactRef where
  factSha256 : Digest
  tenantId : String
  projectId : String
  component : String
  version : String
  outcome : String
  origin : String
  lifecycle : String
  relevanceScoreBasisPoints : Int
  evidenceWatermark : Int
  deriving DecidableEq

def AttentionFactRef.digest (fact : AttentionFactRef) : String := fact.factSha256.labelled ""

def AttentionFactRef.json (fact : AttentionFactRef) : Json Empty := .dict
  [("fact_sha256", digestText fact.factSha256), ("tenant_id", .str fact.tenantId),
    ("project_id", .str fact.projectId), ("component", .str fact.component),
    ("version", .str fact.version), ("outcome", .str fact.outcome), ("origin", .str fact.origin),
    ("lifecycle", .str fact.lifecycle),
    ("relevance_score_basis_points", .int fact.relevanceScoreBasisPoints),
    ("evidence_watermark", .int fact.evidenceWatermark)]

/-- The fields that a packet takes over from its context. -/
structure TaskCapsule where
  tenantId : String
  projectId : String
  taskId : String
  turn : Int
  generation : Int
  requirementLedgerSha256 : Digest
  workspaceCheckpointSha256 : Digest
  policySha256 : Digest
  memoryWatermark : Int
  currentRequirementText : String
  tenantNonempty : tenantId ≠ ""
  projectNonempty : projectId ≠ ""
  taskNonempty : taskId ≠ ""
  turnRange : 1 ≤ turn ∧ turn ≤ 5
  generationPositive : 1 ≤ generation
  watermarkNonnegative : 0 ≤ memoryWatermark
  requirementNonempty : currentRequirementText ≠ ""

/-- What `normalize_sorted_unique` makes of a tuple. -/
structure SortedIds where
  ids : List String
  nonempty : ∀ id ∈ ids, id ≠ ""
  ascending : ids.Pairwise (· < ·)

/-- `AttentionSourceContext`. -/
structure AttentionSourceContext extends TaskCapsule where
  unresolvedFailureIds : SortedIds
  unresolvedConflictIds : SortedIds
  mandatoryPolicyConstraintIds : SortedIds
  explicitExclusionDigests : List Digest
  exclusionsAscending : (explicitExclusionDigests.map (Digest.labelled "")).Pairwise (· < ·)

def AttentionSourceContext.configured (context : AttentionSourceContext) : List String :=
  context.explicitExclusionDigests.map (Digest.labelled "")

inductive Failure where
  | value (message : String)
  | runtime (message : String)
  | budgetExceeded (message : String)
  deriving DecidableEq

/-! ### Packets -/

structure AttentionPacket extends TaskCapsule where
  unresolvedFailureIds : List String
  mandatoryPolicyConstraintIds : List String
  eligibleFactRefs : List AttentionFactRef
  explicitExclusions : List String
  tokenBudget : Int
  estimatedTokens : Int
  sourceContextSha256 : Digest
  packetSha256 : Digest

/-- The members that are measured, without the estimate and the digests. -/
def budgetMembers (capsule : TaskCapsule) (unresolved mandatory : List String)
    (facts : List AttentionFactRef) (exclusions : List String) (tokenBudget : Int) :
    List (String × Json Empty) :=
  [("schema_version", .str "agentteams-attention-packet/v1"), ("tenant_id", .str capsule.tenantId),
    ("project_id", .str capsule.projectId), ("task_id", .str capsule.taskId),
    ("turn", .int capsule.turn), ("generation", .int capsule.generation),
    ("requirement_ledger_sha256", digestText capsule.requirementLedgerSha256),
    ("workspace_checkpoint_sha256", digestText capsule.workspaceCheckpointSha256),
    ("policy_sha256", digestText capsule.policySha256),
    ("memory_watermark", .int capsule.memoryWatermark),
    ("current_requirement_text", .str capsule.currentRequirementText),
    ("unresolved_failure_ids", .list (unresolved.map .str)),
    ("mandatory_policy_constraint_ids", .list (mandatory.map .str)),
    ("eligible_fact_refs", .list (facts.map AttentionFactRef.json)),
    ("explicit_exclusions", .list (exclusions.map .str)), ("token_budget", .int tokenBudget)]

/-- `sorted(set(failures).union(conflicts))`. -/
def AttentionSourceContext.unresolved (context : AttentionSourceContext) : List String :=
  sortedSet (context.unresolvedFailureIds.ids ++ context.unresolvedConflictIds.ids)

def measured (payload : List (String × Json Empty)) (estimate : Int)
    (sourceContext packet : Json Empty) : Json Empty :=
  .dict (payload ++ [("estimated_tokens", .int estimate), ("source_context_sha256", sourceContext),
    ("packet_sha256", packet)])

section Packets

variable (sha256 : Bytes → Digest)

def AttentionPacket.members (packet : AttentionPacket) : List (String × Json Empty) :=
  budgetMembers packet.toTaskCapsule packet.unresolvedFailureIds
    packet.mandatoryPolicyConstraintIds packet.eligibleFactRefs packet.explicitExclusions
    packet.tokenBudget

def AttentionPacket.json (packet : AttentionPacket) : Json Empty :=
  measured packet.members packet.estimatedTokens (digestText packet.sourceContextSha256)
    (digestText packet.packetSha256)

def sourceCore (payload : List (String × Json Empty)) (estimate : Int) :
    List (String × Json Empty) :=
  payload ++ [("estimated_tokens", .int estimate)]

def sourceDigest (payload : List (String × Json Empty)) (estimate : Int) : Digest :=
  domainDigest sha256 "agentteams-attention-source-context" (.dict (sourceCore payload estimate))

/-- `(-score, digest)`, the key of the ranking. -/
def AttentionFactRef.rank (fact : AttentionFactRef) : Int ×ₗ String :=
  toLex (-fact.relevanceScoreBasisPoints, fact.digest)

def rankedFacts (facts : List AttentionFactRef) : List AttentionFactRef :=
  facts.insertionSort fun left right => left.rank ≤ right.rank

/-- `_validate_sorted_unique`. -/
def validateSortedUnique (values : List String) (fieldName : String) : Except Failure Unit := do
  raiseIf (∃ value ∈ values, value = "") (.value (fieldName ++ " values must be non-empty"))
  raiseIf (values.insertionSort (· ≤ ·) ≠ values ∨ ¬ values.Nodup)
    (.value (fieldName ++ " must be sorted and duplicate-free"))

/-- The scope of a fact, as both the compiler and the packet check it. -/
def validateFactScope (capsule : TaskCapsule) (tenant project stale lifecycle : String)
    (fact : AttentionFactRef) : Except Failure Unit := do
  raiseIf (fact.tenantId ≠ capsule.tenantId) (.value tenant)
  raiseIf (fact.projectId ≠ capsule.projectId) (.value project)
  raiseIf (fact.evidenceWatermark ≠ capsule.memoryWatermark) (.value stale)
  raiseIf (fact.lifecycle ≠ "VALIDATED") (.value lifecycle)

/-- The validators of `AttentionPacket`. -/
def AttentionPacket.validate (packet : AttentionPacket) : Except Failure Unit := do
  validateSortedUnique packet.unresolvedFailureIds "unresolved_failure_ids"
  validateSortedUnique packet.mandatoryPolicyConstraintIds "mandatory_policy_constraint_ids"
  validateSortedUnique packet.explicitExclusions "explicit_exclusions"
  raiseIf (packet.tokenBudget ≤ 0) (.value "token_budget must be positive")
  raiseIf (packet.tokenBudget < packet.estimatedTokens)
    (.value "estimated token count exceeds token_budget")
  raiseIf (¬ (packet.eligibleFactRefs.map AttentionFactRef.digest).Nodup)
    (.value "eligible_fact_refs must contain unique fact digests")
  raiseIf (packet.eligibleFactRefs ≠ rankedFacts packet.eligibleFactRefs)
    (.value "eligible_fact_refs must be ordered by relevance then fact digest")
  raiseIf (∃ fact ∈ packet.eligibleFactRefs, fact.digest ∈ packet.explicitExclusions)
    (.value "eligible facts cannot also be explicitly excluded")
  packet.eligibleFactRefs.forM (validateFactScope packet.toTaskCapsule
    "attention fact tenant does not match the packet tenant"
    "attention fact project does not match the packet project"
    "attention fact has a stale evidence watermark"
    "eligible attention facts must have the VALIDATED lifecycle")
  raiseIf (packet.sourceContextSha256 ≠
      sourceDigest sha256 packet.members packet.estimatedTokens)
    (.value "attention source/context digest does not match")
  raiseIf (packet.packetSha256 ≠ domainDigest sha256 "agentteams-attention-packet"
      (.dict (sourceCore packet.members packet.estimatedTokens ++
        [("source_context_sha256", digestText packet.sourceContextSha256)])))
    (.value "attention packet digest does not match its canonical payload")

/-! ### The compiler -/

end Packets

end EgoAgent.Attention
