import EgoAgent.Api.JsonReading
import EgoAgent.Bridge.Attention
import EgoAgent.Lib.KeySort

/-!
An attention packet holds the longest prefix of the ranked facts that its budget has room for.
-/

namespace EgoAgent.Attention

open EgoAgent.Api
open EgoAgent.SecureMemory (domainDigest digestText)

/-! ### Sizes -/

/-- What a member takes in the text of a document. -/
def memberLength (member : String × Json Empty) : Nat :=
  wireLength (quoted member.1) + 2 + wireLength member.2.sorted.text

/-- The size of a packet without the digits of its estimate. -/
def baseSize (payload : List (String × Json Empty)) : Nat :=
  1 + (payload.map memberLength).sum + 20 + 91 + 83

section

variable (payload : List (String × Json Empty))

/-- The size that counts its own digits. -/
def boundOf (payload : List (String × Json Empty)) : Nat :=
  (settle (withDigits (baseSize payload)) 16 0).getD 0

theorem settled :
    settle (withDigits (baseSize payload)) 16 0 = some (boundOf payload) := by
  obtain ⟨size, found⟩ := settle_withDigits (baseSize payload) 12
  rw [boundOf, found, Option.getD_some]

variable (facts : List AttentionFactRef)

/-- The facts are distinct and none of them is excluded from the start. -/
structure Eligible (context : AttentionSourceContext) (facts : List AttentionFactRef) : Prop where
  distinct : (facts.map AttentionFactRef.digest).Nodup
  apart : ∀ fact ∈ facts, fact.digest ∉ context.configured

section Eligible

variable {context : AttentionSourceContext} {ranked : List AttentionFactRef}

end Eligible

/-! ### The search -/

section Search

variable (sha256 : Bytes → Digest) (context : AttentionSourceContext)
  (ranked : List AttentionFactRef) (tokenBudget : Int)

end Search

/-! ### The ranking -/

end

section Candidate

variable (sha256 : Bytes → Digest) {context : AttentionSourceContext}
  {ranked : List AttentionFactRef} {tokenBudget : Int}

end Candidate

/-! ### The best packet -/

section Best

variable (sha256 : Bytes → Digest)

/-- `deterministic_conservative_token_bound`. -/
def AttentionPacket.size (packet : AttentionPacket) : Nat :=
  (SecureMemory.canonicalBytes packet.json).length

theorem Eligible.perm {context : AttentionSourceContext} {left right : List AttentionFactRef}
    (eligible : Eligible context right) (perm : left.Perm right) : Eligible context left where
  distinct := (perm.map _).nodup_iff.mpr eligible.distinct
  apart fact listed := eligible.apart fact (perm.mem_iff.mp listed)

end Best

namespace AttentionSample

def noIds : SortedIds := ⟨[], by decide, List.Pairwise.nil⟩

def context : AttentionSourceContext where
  tenantId := "tenant"
  projectId := "project"
  taskId := "task"
  turn := 1
  generation := 1
  requirementLedgerSha256 := 1
  workspaceCheckpointSha256 := 2
  policySha256 := 3
  memoryWatermark := 7
  currentRequirementText := "Explain the failure."
  tenantNonempty := by decide
  projectNonempty := by decide
  taskNonempty := by decide
  turnRange := by decide
  generationPositive := Int.one_pos
  watermarkNonnegative := by decide
  requirementNonempty := by decide
  unresolvedFailureIds := noIds
  unresolvedConflictIds := noIds
  mandatoryPolicyConstraintIds := noIds
  explicitExclusionDigests := []
  exclusionsAscending := List.Pairwise.nil

def fact : AttentionFactRef where
  factSha256 := 9
  tenantId := "tenant"
  projectId := "project"
  component := "parser"
  version := "v1"
  outcome := "KEEP"
  origin := "evaluator"
  lifecycle := "VALIDATED"
  relevanceScoreBasisPoints := 9000
  evidenceWatermark := 7

end AttentionSample

end EgoAgent.Attention
