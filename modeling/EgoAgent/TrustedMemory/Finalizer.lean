import EgoAgent.TrustedMemory.Closure

/-!
`InternalFinalizer.finalize`: a closure and the facts it names, in one transaction.

Each part has an idempotency key of its own made from the caller's: one for the
closure and one for every lineage.
-/

namespace EgoAgent.TrustedMemory

open EgoAgent.Api Effect

/-! ### The store -/

/-- A row of `trusted_memory_decision_closures`. -/
structure ClosureRow where
  tenantId : String
  projectId : String
  closureDigest : String
  closureBytes : Bytes
  closureBytesSha256 : String
  idempotencyKey : String

structure Memory where
  tables : Tables
  decisionClosures : List ClosureRow

def Memory.empty : Memory := ⟨.empty, []⟩

/-- A call of `append_decision_closure`.  The bytes are those of a document;
bytes that are not canonical JSON are refused before anything is read. -/
structure ClosureCall where
  tenantId : String
  projectId : String
  closureDigest : String
  document : Json Empty
  idempotencyKey : String

def ClosureCall.bytes (call : ClosureCall) : Bytes := SecureMemory.canonicalBytes call.document

def ClosureRow.inScope (row : ClosureRow) (tenantId projectId : String) : Prop :=
  row.tenantId = tenantId ∧ row.projectId = projectId

instance (row : ClosureRow) (tenantId projectId : String) :
    Decidable (row.inScope tenantId projectId) :=
  inferInstanceAs (Decidable (_ ∧ _))

def Memory.closureByKey (memory : Memory) (tenantId projectId idempotencyKey : String) :
    Option ClosureRow :=
  memory.decisionClosures.find? fun row =>
    row.inScope tenantId projectId ∧ row.idempotencyKey = idempotencyKey

def Memory.closureByDigest (memory : Memory) (tenantId projectId closureDigest : String) :
    Option ClosureRow :=
  memory.decisionClosures.find? fun row =>
    row.inScope tenantId projectId ∧ row.closureDigest = closureDigest

section Finalizing

variable (sha256 : Bytes → Digest)

/-- `closure_digest` and `core` of the document agree with the digest. -/
def ClosureCall.bound (call : ClosureCall) : Bool :=
  match call.document with
  | .dict members =>
      match Dict.get? members "closure_digest", Dict.get? members "core" with
      | some (.str digest), some (.dict core) =>
          digest = call.closureDigest ∧
            domainSha256 sha256 "trusted-memory-decision-closure" (.dict core) = call.closureDigest
      | _, _ => false
  | _ => false

def ClosureCall.admissible (call : ClosureCall) : Except MemoryError Unit := do
  raiseIf (Gateway.isSha256 call.closureDigest = false)
    (.value "expected a lowercase 64-character SHA-256 digest")
  raiseIf (call.tenantId = "" ∨ call.projectId = "" ∨ call.idempotencyKey = "")
    (.value "decision closure scope and idempotency key must be non-empty")
  raiseIf (call.bound sha256 = false)
    (.value "decision closure digest does not match canonical bytes")

def ClosureCall.row (call : ClosureCall) : ClosureRow :=
  { tenantId := call.tenantId
    projectId := call.projectId
    closureDigest := call.closureDigest
    closureBytes := call.bytes
    closureBytesSha256 := (sha256 call.bytes).labelled ""
    idempotencyKey := call.idempotencyKey }

/-- `append_decision_closure`.  A closure found by its digest keeps the key it
was stored under; the key of the call is not recorded. -/
def appendDecisionClosure (call : ClosureCall) : Effect Memory MemoryError ClosureRow := do
  check (call.admissible sha256)
  transaction do
    let memory ← read
    match memory.closureByKey call.tenantId call.projectId call.idempotencyKey with
    | some existing =>
        if existing.closureDigest ≠ call.closureDigest ∨ existing.closureBytes ≠ call.bytes then
          check (.error (.conflict "decision_closure_idempotency_conflict"
            "Decision closure idempotency key has different canonical bytes"))
        else pure existing
    | none =>
        match memory.closureByDigest call.tenantId call.projectId call.closureDigest with
        | some existing =>
            if existing.closureBytes ≠ call.bytes then
              check (.error (.conflict "decision_closure_bytes_conflict"
                "Decision closure digest has different canonical bytes"))
            else pure existing
        | none => do
            write fun memory => { memory with
              decisionClosures := memory.decisionClosures ++ [call.row sha256] }
            pure (call.row sha256)

/-! ### Facts -/

structure FactScope where
  tenantId : Option String
  projectId : String
  component : String
  version : Option String
  problemId : Option String

structure SourceRef where
  kind : String
  identifier : String

/-- A `TrustedFactCore` as it is submitted. -/
structure SubmittedCore where
  factId : String
  content : TrustedFactCore
  statementUtf8Base64 : String
  outcome : DecisionOutcome
  applicabilityScope : FactScope
  sourceRefs : List SourceRef
  supportDigests : List String

structure FactRevisionInput where
  revisionId : String
  lineageId : String
  revision : Nat
  core : SubmittedCore
  expectedCurrentEventHash : Option String

structure FinalizationRequest extends ClosureInputs where
  facts : List FactRevisionInput

def optionalText : Option String → Json Empty
  | some text => .str text
  | none => .null

def FactScope.json (scope : FactScope) : Json Empty := .dict
  [("tenant_id", optionalText scope.tenantId), ("project_id", .str scope.projectId),
    ("component", .str scope.component), ("version", optionalText scope.version),
    ("problem_id", optionalText scope.problemId)]

def SourceRef.json (source : SourceRef) : Json Empty := .dict
  [("kind", .str source.kind), ("identifier", .str source.identifier)]

def SubmittedCore.json (core : SubmittedCore) : Json Empty := .dict
  [("schema_version", .str "secure-memory-trusted-fact/v1"), ("fact_id", .str core.factId),
    ("fact_kind", .str core.content.factKind),
    ("statement_utf8_base64", .str core.statementUtf8Base64),
    ("outcome", .str core.outcome.text), ("applicability_scope", core.applicabilityScope.json),
    ("source_refs", .list (core.sourceRefs.map SourceRef.json)),
    ("support_digests", texts core.supportDigests)]

def SubmittedCore.digest (core : SubmittedCore) : String :=
  domainSha256 sha256 "trusted-fact" core.json

/-- The pattern and the length of `StableId`. -/
def isStableId (text : String) : Bool :=
  match text.toList with
  | [] => false
  | first :: rest =>
      first.isAlphanum ∧ text.length ≤ 200 ∧
        rest.all fun c => c.isAlphanum ∨ c = '.' ∨ c = '_' ∨ c = ':' ∨ c = '/' ∨ c = '-'

theorem isStableId_bounded {text : String} (stable : isStableId text = true) :
    Bounded 200 text := by
  unfold isStableId at stable
  split at stable
  · cases stable
  · next first rest shape =>
      simp only [decide_eq_true_eq] at stable
      refine ⟨?_, stable.2.1⟩
      rw [← String.length_toList, shape]
      exact Nat.le_add_left 1 rest.length

/-- The construction of `MemoryScope`. -/
def memoryScope (tenantId projectId component version : String) :
    Except FinalizationError Scope :=
  if valid : isStableId tenantId = true ∧ isStableId projectId = true ∧
      isStableId component = true ∧ Bounded 120 version then
    .ok ⟨tenantId, projectId, component, version, isStableId_bounded valid.1,
      isStableId_bounded valid.2.1, isStableId_bounded valid.2.2.1, valid.2.2.2⟩
  else .error .validation

def Scope.json (scope : Scope) : Json Empty := .dict
  [("tenant_id", .str scope.tenantId), ("project_id", .str scope.projectId),
    ("component", .str scope.component), ("version", .str scope.version)]

def provenanceJson (closure : DecisionClosure) (scope : Scope) : Json Empty := .dict
  [("schema_version", .str "egoagentos-fact-provenance/v1"), ("scope", scope.json),
    ("task_id", .str closure.core.taskId), ("generation", .int closure.core.generation),
    ("task_version", .int closure.core.taskVersion), ("decision_id", .str closure.core.decisionId),
    ("decision_digest", .str closure.core.decisionDigest),
    ("decision_closure_digest", .str (closure.digest sha256)),
    ("origin", .str MemoryOrigin.localTrusted.text), ("evaluator_id", .str closure.core.evaluatorId),
    ("evaluator_result_digest", .str closure.core.evaluatorResultDigest),
    ("external_attestation_digest", .null),
    ("verified_fact_digests", texts closure.core.verifiedFactDigests),
    ("evidence_ids", texts closure.core.evidenceIds),
    ("evidence_digests", texts closure.core.evidenceDigests),
    ("policy_version", .str closure.core.policyVersion),
    ("rule_version", .str closure.core.ruleVersion)]

/-- The construction of `FactProvenance`. -/
def factProvenance (closure : DecisionClosure) (scope : Scope) :
    Except FinalizationError FactProvenance :=
  if stable : isStableId closure.core.taskId = true ∧ isStableId closure.core.decisionId = true ∧
      isStableId closure.core.evaluatorId = true ∧
      ∀ evidenceId ∈ closure.core.evidenceIds, isStableId evidenceId = true then
    .ok
      { decisionClosureDigest := closure.digest sha256
        evidenceIds := closure.core.evidenceIds
        evidenceDigests := closure.core.evidenceDigests
        document := provenanceJson sha256 closure scope
        idsSorted := closure.valid.idsSorted
        digestsSorted := closure.valid.digestsSorted
        idsBounded := fun evidenceId member => isStableId_bounded (stable.2.2.2 evidenceId member)
        nonempty := closure.valid.nonempty.2.1
        aligned := closure.valid.aligned }
  else .error .validation

/-- A `TrustedFact` with the document it is stored as. -/
structure BuiltFact where
  fact : TrustedFact
  document : Json Empty

def BuiltFact.record (built : BuiltFact) : Record := ⟨.trustedFact built.fact, built.document⟩

/-- The fields of a fact record that its digest is taken of. -/
def factValues (item : FactRevisionInput) (scope : Scope) (provenance : FactProvenance) :
    List (String × Json Empty) :=
  [("schema_version", .str "egoagentos-trusted-memory-fact/v1"),
    ("revision_id", .str item.revisionId), ("lineage_id", .str item.lineageId),
    ("revision", .int item.revision), ("scope", scope.json),
    ("outcome", .str item.core.outcome.text), ("origin", .str MemoryOrigin.localTrusted.text),
    ("state", .str "VALIDATED"), ("core", item.core.json),
    ("trusted_fact_digest", .str (item.core.digest sha256)),
    ("provenance", provenance.document)]

/-- The construction of `TrustedFact`; its bindings hold by construction. -/
def trustedFact (item : FactRevisionInput) (scope : Scope) (provenance : FactProvenance) :
    Except FinalizationError BuiltFact :=
  if valid : 1 ≤ item.revision ∧ isStableId item.lineageId = true ∧
      isStableId item.revisionId = true then
    let values := factValues sha256 item scope provenance
    .ok
      { fact :=
          { scope
            lineageId := item.lineageId
            revisionId := item.revisionId
            revision := item.revision
            outcome := item.core.outcome
            origin := .localTrusted
            core := item.core.content
            trustedFactDigest := item.core.digest sha256
            provenance
            revisionPositive := valid.1
            lineageBounded := isStableId_bounded valid.2.1
            revisionIdBounded := isStableId_bounded valid.2.2
            trustedOrigin := .inl rfl }
        document := .dict (values ++
          [("record_digest", .str (domainSha256 sha256 "trusted-memory-fact-record" (.dict values)))]) }
  else .error .validation

/-- One round of the loop of `_build_facts`. -/
def buildFact (closure : DecisionClosure) (evidence : List EvidenceBinding)
    (item : FactRevisionInput) : Except FinalizationError BuiltFact := do
  let core := item.core
  raiseIf (core.applicabilityScope.tenantId ≠ some closure.core.tenantId ∨
      core.applicabilityScope.projectId ≠ closure.core.projectId)
    (.finalizationRejected "fact_scope_mismatch")
  let version ← expect (.finalizationRejected "fact_version_required")
    core.applicabilityScope.version
  raiseIf (core.outcome ≠ closure.core.decisionOutcome)
    (.finalizationRejected "fact_outcome_mismatch")
  raiseIf (∃ source ∈ core.sourceRefs,
      source.identifier ∉ evidence.map EvidenceBinding.evidenceId)
    (.finalizationRejected "fact_source_evidence_mismatch")
  raiseIf (∃ digest ∈ core.supportDigests, digest ∉ evidence.map EvidenceBinding.evidenceDigest)
    (.finalizationRejected "fact_support_digest_mismatch")
  let scope ← memoryScope closure.core.tenantId closure.core.projectId
    core.applicabilityScope.component version
  let provenance ← factProvenance sha256 closure scope
  trustedFact sha256 item scope provenance

def FactRevisionInput.precedes (left right : FactRevisionInput) : Bool :=
  left.lineageId < right.lineageId ∨
    (left.lineageId = right.lineageId ∧ left.revisionId ≤ right.revisionId)

def FinalizationRequest.inputs (request : FinalizationRequest) : List FactRevisionInput :=
  request.facts.mergeSort FactRevisionInput.precedes

/-- `_build_facts`. -/
def buildFacts (request : FinalizationRequest) (closure : DecisionClosure) :
    Except FinalizationError (List BuiltFact) := do
  raiseIf (sortedTexts (request.inputs.map fun item => item.core.digest sha256) ≠
      closure.core.verifiedFactDigests)
    (.finalizationRejected "facts_not_exactly_named_by_evaluator_result")
  raiseIf (¬ (request.evidence.map EvidenceBinding.evidenceId).Nodup)
    (.finalizationRejected "duplicate_evidence_id")
  request.inputs.mapM (buildFact sha256 closure request.evidence)

/-! ### Finalization -/

structure FinalizationResult where
  closure : DecisionClosure
  facts : List BuiltFact
  events : List HistoryRow

/-- A call of the store inside a finalization. -/
def stored {α : Type} (effect : Effect Memory MemoryError α) : Effect Memory FinalizationError α :=
  fun memory =>
    match effect memory with
    | (.ok item, later) => (.ok item, later)
    | (.error error, later) => (.error (.store error), later)

def onTables {α : Type} (effect : Effect Tables MemoryError α) : Effect Memory MemoryError α :=
  within Memory.tables (fun tables memory => { memory with tables }) effect

def closureCall (closure : DecisionClosure) (idempotencyKey : String) : ClosureCall :=
  { tenantId := closure.core.tenantId
    projectId := closure.core.projectId
    closureDigest := closure.digest sha256
    document := closure.json sha256
    idempotencyKey := idempotencyKey ++ ":closure" }

def BuiltFact.key (built : BuiltFact) : Key :=
  ⟨built.fact.scope.tenantId, built.fact.scope.projectId, built.fact.lineageId⟩

def factKey (idempotencyKey : String) (built : BuiltFact) : String :=
  idempotencyKey ++ ":fact:" ++ built.fact.lineageId

def factCall (idempotencyKey : String) (expected : Option String) (built : BuiltFact) : Append :=
  { key := built.key
    record := built.record
    idempotencyKey := factKey idempotencyKey built
    expectedCurrentEventHash := expected }

/-- The loop that appends the facts. -/
def appendFacts (idempotencyKey : String) :
    List (FactRevisionInput × BuiltFact) → Effect Memory MemoryError (List HistoryRow)
  | [] => pure []
  | (item, built) :: rest => do
      let event ← onTables (appendTrustedMemoryRecord sha256
        (factCall idempotencyKey item.expectedCurrentEventHash built))
      let events ← appendFacts idempotencyKey rest
      pure (event :: events)

/-- `finalize`. -/
def finalize (request : FinalizationRequest) (idempotencyKey : String) :
    Effect Memory FinalizationError FinalizationResult := do
  check (raiseIf (idempotencyKey = "")
    (.value "finalization idempotency key must not be empty"))
  let closure ← check (buildDecisionClosure sha256 request.toClosureInputs)
  let facts ← check (buildFacts sha256 request closure)
  transaction do
    let _ ← stored (appendDecisionClosure sha256 (closureCall sha256 closure idempotencyKey))
    let events ← stored (appendFacts sha256 idempotencyKey (request.inputs.zip facts))
    pure ⟨closure, facts, events⟩

end Finalizing

end EgoAgent.TrustedMemory
