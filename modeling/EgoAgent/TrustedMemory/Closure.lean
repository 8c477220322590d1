import EgoAgent.Gateway.WorkspaceContract
import EgoAgent.TrustedMemory.Focus

/-!
`build_decision_closure`: Control's decision, the evaluator's result and the evidence.

A closure is built from verified inputs only and is the same whatever order the
evidence and the admission receipts come in.
-/

namespace EgoAgent.TrustedMemory

open EgoAgent.Api

/-! ### Receipts -/

inductive AdmissionStatus where
  | admitted
  | quarantined
  deriving DecidableEq

/-- What is read of an `AdmissionReceipt`. -/
structure AdmissionReceipt where
  status : AdmissionStatus
  taskId : String
  generation : Nat
  contentSha256 : Option String
  receiptSha256 : String
  retained : status = .admitted ↔ contentSha256.isSome

/-- An `EvaluatorSourceReceipt`; its validator admits verified sources only. -/
structure EvaluatorSourceReceipt where
  issuerId : String
  keyId : String
  campaignId : String
  taskId : String
  generation : Nat
  sequence : Nat
  idempotencyKey : String
  envelopeSha256 : Option String
  admission : AdmissionReceipt
  receiptSha256 : String

/-! ### Inputs -/

structure EvidenceBinding where
  evidenceId : String
  evidenceDigest : String
  deriving DecidableEq

inductive AuthoritySource where
  | control
  | model
  | worker
  | matrix
  | reviewer
  deriving DecidableEq

structure TerminalDecisionRecord where
  tenantId : String
  projectId : String
  taskId : String
  generation : Nat
  taskVersion : Nat
  decisionId : String
  outcome : DecisionOutcome
  terminal : Bool
  authoritySource : AuthoritySource
  decisionDigest : String

structure EvaluatorResultBinding where
  evaluatorId : String
  sourceReceipt : EvaluatorSourceReceipt
  evaluatorResultDigest : String
  signatureVerified : Bool
  verifiedFactDigests : List String

/-- The arguments of `build_decision_closure`. -/
structure ClosureInputs where
  terminalDecision : TerminalDecisionRecord
  evaluatorResult : EvaluatorResultBinding
  evidence : List EvidenceBinding
  admissionReceipts : List AdmissionReceipt
  policyVersion : String
  ruleVersion : String
  memoryWatermark : Nat

inductive FinalizationError where
  | closureRejected (reason : String)
  | finalizationRejected (reason : String)
  | validation
  | value (message : String)
  | store (error : MemoryError)

/-! ### Closures -/

/-- A field of type `Digest`. -/
abbrev DigestText (text : String) : Prop := Gateway.isSha256 text = true

abbrev SortedUnique (items : List String) : Prop := items.Pairwise (· < ·)

structure DecisionClosureCore where
  closureId : String
  tenantId : String
  projectId : String
  taskId : String
  generation : Nat
  taskVersion : Nat
  decisionId : String
  decisionDigest : String
  decisionOutcome : DecisionOutcome
  evaluatorId : String
  evaluatorSourceReceiptDigest : String
  evaluatorResultDigest : String
  verifiedFactDigests : List String
  evidenceIds : List String
  evidenceDigests : List String
  evidenceBindingsDigest : String
  admissionReceiptDigests : List String
  policyVersion : String
  ruleVersion : String
  memoryWatermark : Nat

/-- The field constraints and the validators of `DecisionClosureCore`. -/
@[mk_iff]
structure DecisionClosureCore.Valid (core : DecisionClosureCore) : Prop where
  identifiers : ∀ text ∈ [core.closureId, core.tenantId, core.projectId, core.taskId,
    core.decisionId, core.evaluatorId], Bounded 200 text
  versions : ∀ text ∈ [core.policyVersion, core.ruleVersion], Bounded 120 text
  positive : 1 ≤ core.generation ∧ 1 ≤ core.taskVersion
  digests : ∀ text ∈ [core.decisionDigest, core.evaluatorSourceReceiptDigest,
    core.evaluatorResultDigest, core.evidenceBindingsDigest] ++ core.verifiedFactDigests ++
      core.evidenceDigests ++ core.admissionReceiptDigests, DigestText text
  nonempty : core.verifiedFactDigests ≠ [] ∧ core.evidenceIds ≠ [] ∧
    core.evidenceDigests ≠ [] ∧ core.admissionReceiptDigests ≠ []
  factsSorted : SortedUnique core.verifiedFactDigests
  idsSorted : SortedUnique core.evidenceIds
  digestsSorted : SortedUnique core.evidenceDigests
  receiptsSorted : SortedUnique core.admissionReceiptDigests
  aligned : core.evidenceIds.length = core.evidenceDigests.length

instance (core : DecisionClosureCore) : Decidable core.Valid :=
  decidable_of_iff' _ (DecisionClosureCore.valid_iff core)

def DecisionClosureCore.members (core : DecisionClosureCore) : List (String × Json Empty) :=
  [("schema_version", .str "egoagentos-decision-closure/v1"), ("closure_id", .str core.closureId),
    ("tenant_id", .str core.tenantId), ("project_id", .str core.projectId),
    ("task_id", .str core.taskId), ("generation", .int core.generation),
    ("task_version", .int core.taskVersion), ("decision_id", .str core.decisionId),
    ("decision_digest", .str core.decisionDigest),
    ("decision_outcome", .str core.decisionOutcome.text),
    ("evaluator_id", .str core.evaluatorId),
    ("evaluator_source_receipt_digest", .str core.evaluatorSourceReceiptDigest),
    ("evaluator_result_digest", .str core.evaluatorResultDigest),
    ("verified_fact_digests", texts core.verifiedFactDigests),
    ("evidence_ids", texts core.evidenceIds), ("evidence_digests", texts core.evidenceDigests),
    ("evidence_bindings_digest", .str core.evidenceBindingsDigest),
    ("admission_receipt_digests", texts core.admissionReceiptDigests),
    ("policy_version", .str core.policyVersion), ("rule_version", .str core.ruleVersion),
    ("memory_watermark", .int core.memoryWatermark)]

def DecisionClosureCore.json (core : DecisionClosureCore) : Json Empty := .dict core.members

/-- A `DecisionClosure`; its digest is the one its validator demands. -/
structure DecisionClosure where
  core : DecisionClosureCore
  valid : core.Valid

section Closing

variable (sha256 : Bytes → Digest)

def DecisionClosure.digest (closure : DecisionClosure) : String :=
  domainSha256 sha256 "trusted-memory-decision-closure" closure.core.json

def DecisionClosure.json (closure : DecisionClosure) : Json Empty := .dict
  [("core", closure.core.json), ("closure_digest", .str (closure.digest sha256))]

/-! ### Building -/

def EvidenceBinding.precedes (left right : EvidenceBinding) : Bool :=
  left.evidenceId < right.evidenceId ∨
    (left.evidenceId = right.evidenceId ∧ left.evidenceDigest ≤ right.evidenceDigest)

def EvidenceBinding.json (binding : EvidenceBinding) : Json Empty := .dict
  [("evidence_id", .str binding.evidenceId), ("evidence_digest", .str binding.evidenceDigest)]

def closureIdentity (inputs : ClosureInputs) : String :=
  domainSha256 sha256 "trusted-memory-decision-closure-id" <| .dict
    [("decision_digest", .str inputs.terminalDecision.decisionDigest),
      ("evaluator_result_digest", .str inputs.evaluatorResult.evaluatorResultDigest),
      ("source_receipt_digest", .str inputs.evaluatorResult.sourceReceipt.receiptSha256)]

def closureCore (inputs : ClosureInputs) : DecisionClosureCore :=
  let decision := inputs.terminalDecision
  let result := inputs.evaluatorResult
  let evidence := inputs.evidence.mergeSort EvidenceBinding.precedes
  { closureId := "closure-" ++ String.ofList ((closureIdentity sha256 inputs).toList.take 32)
    tenantId := decision.tenantId
    projectId := decision.projectId
    taskId := decision.taskId
    generation := decision.generation
    taskVersion := decision.taskVersion
    decisionId := decision.decisionId
    decisionDigest := decision.decisionDigest
    decisionOutcome := decision.outcome
    evaluatorId := result.evaluatorId
    evaluatorSourceReceiptDigest := result.sourceReceipt.receiptSha256
    evaluatorResultDigest := result.evaluatorResultDigest
    verifiedFactDigests := result.verifiedFactDigests
    evidenceIds := evidence.map EvidenceBinding.evidenceId
    evidenceDigests := sortedTexts (evidence.map EvidenceBinding.evidenceDigest)
    evidenceBindingsDigest := domainSha256 sha256 "trusted-memory-evidence-bindings" <|
      .list (evidence.map EvidenceBinding.json)
    admissionReceiptDigests :=
      sortedTexts (inputs.admissionReceipts.map AdmissionReceipt.receiptSha256)
    policyVersion := inputs.policyVersion
    ruleVersion := inputs.ruleVersion
    memoryWatermark := inputs.memoryWatermark }

/-- The construction of `DecisionClosureCore` and of the closure around it. -/
def closeCore (core : DecisionClosureCore) : Except FinalizationError DecisionClosure :=
  if valid : core.Valid then .ok ⟨core, valid⟩ else .error .validation

/-- `build_decision_closure`. -/
def buildDecisionClosure (inputs : ClosureInputs) : Except FinalizationError DecisionClosure := do
  let decision := inputs.terminalDecision
  let result := inputs.evaluatorResult
  let source := result.sourceReceipt
  raiseIf (decision.authoritySource ≠ .control) (.closureRejected "control_authority_required")
  raiseIf (decision.terminal = false) (.closureRejected "terminal_decision_required")
  raiseIf (result.signatureVerified = false) (.closureRejected "evaluator_signature_not_verified")
  raiseIf (source.admission.status ≠ .admitted) (.closureRejected "evaluator_source_not_admitted")
  raiseIf (source.envelopeSha256 ≠ some result.evaluatorResultDigest)
    (.closureRejected "evaluator_result_digest_mismatch")
  raiseIf (source.taskId ≠ decision.taskId ∨ source.generation ≠ decision.generation)
    (.closureRejected "evaluator_scope_mismatch")
  raiseIf (inputs.admissionReceipts = [] ∨
      ∃ receipt ∈ inputs.admissionReceipts, receipt.status ≠ .admitted)
    (.closureRejected "admission_receipt_not_admitted")
  raiseIf (∃ receipt ∈ inputs.admissionReceipts,
      receipt.taskId ≠ decision.taskId ∨ receipt.generation ≠ decision.generation)
    (.closureRejected "admission_scope_mismatch")
  raiseIf (inputs.evidence = []) (.closureRejected "evidence_required")
  raiseIf (¬ (inputs.evidence.map EvidenceBinding.evidenceId).Nodup ∨
      ¬ (inputs.evidence.map EvidenceBinding.evidenceDigest).Nodup)
    (.closureRejected "duplicate_evidence")
  closeCore (closureCore sha256 inputs)

end Closing

end EgoAgent.TrustedMemory
