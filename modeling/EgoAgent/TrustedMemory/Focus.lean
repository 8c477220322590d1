import EgoAgent.TrustedMemory.Store

/-!
`TrustedMemoryFocusService.fetch`: the eligible facts of a project.

The rows are read back through stricter contracts than those that accepted them:
a fact that does not fit, or a digest that occurs twice, fails the whole query.
-/

namespace EgoAgent.TrustedMemory

open EgoAgent.Api

/-! ### Contracts -/

structure FocusMemoryQuery where
  tenantId : String
  projectId : String
  outcomes : List DecisionOutcome
  origins : List MemoryOrigin
  maxItems : Nat
  scanLimit : Nat
  maxItemsPositive : 1 ≤ maxItems
  scanLimitPositive : 1 ≤ scanLimit
  trustedOrigins : ∀ origin ∈ origins, origin = .localTrusted ∨ origin = .attestedExternal

structure FocusEvidenceCommitment where
  decisionClosureDigest : String
  evidenceIds : List String
  evidenceDigests : List String
  commitmentSha256 : String

structure TrustedFocusFact where
  factSha256 : String
  tenantId : String
  projectId : String
  lineageId : String
  revisionId : String
  revision : Nat
  factKind : String
  statement : String
  component : String
  version : String
  outcome : DecisionOutcome
  origin : MemoryOrigin
  evidenceCommitment : FocusEvidenceCommitment
  provenanceSha256 : String
  projectionEventHash : String

structure TrustedMemoryFocusSource where
  query : FocusMemoryQuery
  facts : List TrustedFocusFact
  scannedCount : Nat
  matchingCount : Nat
  truncatedByScanLimit : Bool
  truncatedByMaxItems : Bool
  memorySnapshotRoot : String
  sourceSha256 : String

inductive FocusError where
  | tenantForbidden
  | projectionInvalid (lineageId : String)
  | value (message : String)

/-! ### Documents -/

def DecisionOutcome.text : DecisionOutcome → String
  | .keep => "KEEP"
  | .drop => "DROP"
  | .inconclusive => "INCONCLUSIVE"

def MemoryOrigin.text : MemoryOrigin → String
  | .localTrusted => "LOCAL_TRUSTED"
  | .attestedExternal => "ATTESTED_EXTERNAL"
  | .originUnverified => "ORIGIN_UNVERIFIED"
  | .synthetic => "SYNTHETIC"
  | .revoked => "REVOKED"

def texts (items : List String) : Json Empty := .list (items.map .str)

def FocusEvidenceCommitment.core (commitment : FocusEvidenceCommitment) :
    List (String × Json Empty) :=
  [("schema_version", .str "egoagentos-focus-evidence-commitment/v1"),
    ("association", .str "UNPAIRED_SETS_BOUND_BY_DECISION_CLOSURE"),
    ("decision_closure_digest", .str commitment.decisionClosureDigest),
    ("evidence_ids", texts commitment.evidenceIds),
    ("evidence_digests", texts commitment.evidenceDigests)]

def FocusMemoryQuery.json (query : FocusMemoryQuery) : Json Empty := .dict
  [("tenant_id", .str query.tenantId), ("project_id", .str query.projectId),
    ("outcomes", texts (query.outcomes.map DecisionOutcome.text)),
    ("origins", texts (query.origins.map MemoryOrigin.text)),
    ("max_items", .int query.maxItems), ("scan_limit", .int query.scanLimit)]

def TrustedFocusFact.json (fact : TrustedFocusFact) : Json Empty := .dict
  [("fact_sha256", .str fact.factSha256), ("tenant_id", .str fact.tenantId),
    ("project_id", .str fact.projectId), ("lineage_id", .str fact.lineageId),
    ("revision_id", .str fact.revisionId), ("revision", .int fact.revision),
    ("fact_kind", .str fact.factKind), ("statement", .str fact.statement),
    ("component", .str fact.component), ("version", .str fact.version),
    ("outcome", .str fact.outcome.text), ("origin", .str fact.origin.text),
    ("evidence_commitment", .dict (fact.evidenceCommitment.core ++
      [("commitment_sha256", .str fact.evidenceCommitment.commitmentSha256)])),
    ("provenance_sha256", .str fact.provenanceSha256),
    ("projection_event_hash", .str fact.projectionEventHash)]

def TrustedMemoryFocusSource.core (source : TrustedMemoryFocusSource) : Json Empty := .dict
  [("schema_version", .str "egoagentos-trusted-memory-focus-source/v1"),
    ("query", source.query.json), ("facts", .list (source.facts.map TrustedFocusFact.json)),
    ("scanned_count", .int source.scannedCount), ("matching_count", .int source.matchingCount),
    ("truncated_by_scan_limit", .bool source.truncatedByScanLimit),
    ("truncated_by_max_items", .bool source.truncatedByMaxItems),
    ("memory_snapshot_root", .str source.memorySnapshotRoot)]

/-! ### Validators -/

section Fetching

variable (sha256 : Bytes → Digest)

def FocusEvidenceCommitment.digest (commitment : FocusEvidenceCommitment) : String :=
  domainSha256 sha256 "trusted-memory-focus-evidence-commitment" (.dict commitment.core)

/-- The validators of `FocusEvidenceCommitment`. -/
abbrev FocusEvidenceCommitment.Valid (commitment : FocusEvidenceCommitment) : Prop :=
  commitment.evidenceIds ≠ [] ∧ commitment.evidenceDigests ≠ [] ∧
    (∀ evidenceId ∈ commitment.evidenceIds, Bounded 200 evidenceId) ∧
    commitment.evidenceIds.Pairwise (· < ·) ∧ commitment.evidenceDigests.Pairwise (· < ·) ∧
    commitment.evidenceIds.length = commitment.evidenceDigests.length ∧
    commitment.commitmentSha256 = commitment.digest sha256

def sortedTexts (items : List String) : List String :=
  items.mergeSort fun left right => decide (left ≤ right)

/-- `build_focus_evidence_commitment`, before it is validated. -/
def buildFocusEvidenceCommitment (provenance : FactProvenance) : FocusEvidenceCommitment :=
  let unsigned : FocusEvidenceCommitment :=
    { decisionClosureDigest := provenance.decisionClosureDigest
      evidenceIds := sortedTexts provenance.evidenceIds
      evidenceDigests := sortedTexts provenance.evidenceDigests
      commitmentSha256 := "" }
  { unsigned with commitmentSha256 := unsigned.digest sha256 }

/-- The validators of `TrustedFocusFact`. -/
abbrev TrustedFocusFact.Valid (fact : TrustedFocusFact) : Prop :=
  Bounded 200 fact.tenantId ∧ Bounded 200 fact.projectId ∧ Bounded 200 fact.lineageId ∧
    Bounded 200 fact.revisionId ∧ 1 ≤ fact.revision ∧ Bounded 160 fact.factKind ∧
    Bounded 4096 fact.statement ∧ Bounded 200 fact.component ∧ Bounded 120 fact.version ∧
    (fact.origin = .localTrusted ∨ fact.origin = .attestedExternal) ∧
    Char.ofNat 0 ∉ fact.statement.toList ∧ fact.evidenceCommitment.Valid sha256

/-- `_focus_fact`, before it is validated. -/
def focusFact (fact : TrustedFact) (projectionEventHash : String) : TrustedFocusFact :=
  { factSha256 := fact.trustedFactDigest
    tenantId := fact.scope.tenantId
    projectId := fact.scope.projectId
    lineageId := fact.lineageId
    revisionId := fact.revisionId
    revision := fact.revision
    factKind := fact.core.factKind
    statement := fact.core.statement
    component := fact.scope.component
    version := fact.scope.version
    outcome := fact.outcome
    origin := fact.origin
    evidenceCommitment := buildFocusEvidenceCommitment sha256 fact.provenance
    provenanceSha256 :=
      domainSha256 sha256 "trusted-memory-fact-provenance" fact.provenance.document
    projectionEventHash }

/-- The sort key of a source: fact digest, then lineage. -/
def TrustedFocusFact.precedes (left right : TrustedFocusFact) : Bool :=
  left.factSha256 < right.factSha256 ∨
    (left.factSha256 = right.factSha256 ∧ left.lineageId ≤ right.lineageId)

/-- Whether a fact is one the query asks for. -/
abbrev FocusMemoryQuery.Asks (query : FocusMemoryQuery) (outcome : DecisionOutcome)
    (origin : MemoryOrigin) : Prop :=
  outcome ∈ query.outcomes ∧ origin ∈ query.origins

/-- The validators of `TrustedMemoryFocusSource`. -/
abbrev TrustedMemoryFocusSource.Valid (source : TrustedMemoryFocusSource) : Prop :=
  source.matchingCount ≤ source.scannedCount ∧ source.facts.length ≤ source.matchingCount ∧
    source.truncatedByMaxItems = decide (source.facts.length < source.matchingCount) ∧
    (source.facts.Pairwise fun left right => left.precedes right = true) ∧
    (source.facts.map TrustedFocusFact.factSha256).Nodup ∧
    (source.facts.map TrustedFocusFact.lineageId).Nodup ∧
    (∀ fact ∈ source.facts, fact.tenantId = source.query.tenantId ∧
      fact.projectId = source.query.projectId ∧ source.query.Asks fact.outcome fact.origin) ∧
    source.sourceSha256 = domainSha256 sha256 "trusted-memory-focus-source" source.core

/-! ### Fetching -/

/-- The eligible rows of a project by lineage. -/
def eligibleRows (tables : Tables) (query : FocusMemoryQuery) : List (Key × CurrentRow) :=
  (tables.current.filter fun entry => entry.1.tenantId = query.tenantId ∧
      entry.1.projectId = query.projectId ∧ entry.2.eligible = true).mergeSort
    fun left right => decide (left.1.lineageId ≤ right.1.lineageId)

/-- `_scan_current`: one row more than the limit. -/
def scanCurrent (tables : Tables) (query : FocusMemoryQuery) : List (Key × CurrentRow) :=
  (eligibleRows tables query).take (query.scanLimit + 1)

/-- `_validate_projection_row`. -/
abbrev ProjectionMatches (key : Key) (row : CurrentRow) (fact : TrustedFact) : Prop :=
  key.tenantId = fact.scope.tenantId ∧ key.projectId = fact.scope.projectId ∧
    key.lineageId = fact.lineageId ∧ row.revisionId = fact.revisionId ∧
    row.revision = fact.revision ∧ row.factDigest = fact.trustedFactDigest ∧
    row.state = .validated ∧ row.eligible = true

-- `readFact` is `TrustedFact.model_validate_json`.
variable (readFact : Bytes → Option TrustedFact)

/-- One row of `fetch`; a fact the query does not ask for is skipped. -/
def readRow (query : FocusMemoryQuery) (entry : Key × CurrentRow) :
    Except FocusError (Option TrustedFocusFact) := do
  let invalid := FocusError.projectionInvalid entry.1.lineageId
  let fact ← expect invalid (readFact entry.2.factBytes)
  raiseIf (¬ ProjectionMatches entry.1 entry.2 fact) invalid
  raiseIf (fact.scope.tenantId ≠ query.tenantId) invalid
  raiseIf (fact.scope.projectId ≠ query.projectId) invalid
  if query.Asks fact.outcome fact.origin then do
    raiseIf (¬ (focusFact sha256 fact entry.2.projectionEventHash).Valid sha256) invalid
    pure (some (focusFact sha256 fact entry.2.projectionEventHash))
  else pure none

def readRows (query : FocusMemoryQuery) :
    List (Key × CurrentRow) → Except FocusError (List TrustedFocusFact)
  | [] => .ok []
  | entry :: rest => do
      let found ← readRow sha256 readFact query entry
      let others ← readRows query rest
      pure (found.toList ++ others)

def snapshotRoot (facts : List TrustedFocusFact) : String :=
  domainSha256 sha256 "trusted-memory-focus-snapshot" <| .list <| facts.map fun fact =>
    .list [.str fact.lineageId, .int fact.revision, .str fact.factSha256,
      .str fact.projectionEventHash]

def outside (query : FocusMemoryQuery) : List TrustedFocusFact → Except FocusError Unit
  | [] => .ok ()
  | fact :: rest => do
      raiseIf (fact.tenantId ≠ query.tenantId ∨ fact.projectId ≠ query.projectId)
        (.value "focus source fact scope does not match query")
      raiseIf (¬ query.Asks fact.outcome fact.origin)
        (.value "focus source fact is outside the query filters")
      outside query rest

/-- The source of a list of facts, sorted, cut and signed. -/
def focusSource (query : FocusMemoryQuery) (facts : List TrustedFocusFact) (scannedCount : Nat)
    (truncatedByScanLimit : Bool) : TrustedMemoryFocusSource :=
  let ordered := facts.mergeSort TrustedFocusFact.precedes
  let unsigned : TrustedMemoryFocusSource :=
    { query
      facts := ordered.take query.maxItems
      scannedCount
      matchingCount := facts.length
      truncatedByScanLimit
      truncatedByMaxItems := decide ((ordered.take query.maxItems).length < facts.length)
      memorySnapshotRoot := snapshotRoot sha256 ordered
      sourceSha256 := "" }
  { unsigned with
    sourceSha256 := domainSha256 sha256 "trusted-memory-focus-source" unsigned.core }

/-- `build_trusted_memory_focus_source` with as many matches as facts. -/
def buildTrustedMemoryFocusSource (query : FocusMemoryQuery) (facts : List TrustedFocusFact)
    (scannedCount : Nat) (truncatedByScanLimit : Bool) :
    Except FocusError TrustedMemoryFocusSource := do
  let ordered := facts.mergeSort TrustedFocusFact.precedes
  raiseIf (¬ (ordered.map TrustedFocusFact.factSha256).Nodup)
    (.value "focus source contains duplicate fact digests")
  raiseIf (¬ (ordered.map TrustedFocusFact.lineageId).Nodup)
    (.value "focus source contains duplicate lineages")
  outside query ordered
  raiseIf (facts.length < ordered.length)
    (.value "matching_count cannot be smaller than supplied facts")
  raiseIf (scannedCount < facts.length)
    (.value "scanned_count cannot be smaller than matching_count")
  let source := focusSource sha256 query facts scannedCount truncatedByScanLimit
  raiseIf (¬ source.Valid sha256) (.value "focus source validation failed")
  pure source

/-- `fetch` of the service of one tenant. -/
def fetch (tenantId : String) (tables : Tables) (query : FocusMemoryQuery) :
    Except FocusError TrustedMemoryFocusSource := do
  raiseIf (query.tenantId ≠ tenantId) .tenantForbidden
  let rows := scanCurrent tables query
  let facts ← readRows sha256 readFact query (rows.take query.scanLimit)
  buildTrustedMemoryFocusSource sha256 query facts (rows.take query.scanLimit).length
    (decide (query.scanLimit < rows.length))

end Fetching

end EgoAgent.TrustedMemory
