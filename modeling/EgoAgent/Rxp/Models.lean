import EgoAgent.Rxp.Text

/-!
Strict RXP/1 protocol document models.

A document is a structure whose field types are the field constraints, and
whose last field, where the source has a model validator, is what the validator
checks.  An invalid document therefore cannot be built.
-/

namespace EgoAgent.Rxp

open Platform

abbrev BoundedText (low high : Nat) :=
  {text : String // low ≤ text.length ∧ text.length ≤ high}

abbrev BoundedInt (low high : Int) := {number : Int // low ≤ number ∧ number ≤ high}

abbrev maxInt64 : Int := 2 ^ 63 - 1

/-- Python's `sorted` on text, which compares code points. -/
def sortedText (texts : List String) : List String := texts.insertionSort (· ≤ ·)

theorem mem_sortedText (texts : List String) (text : String) :
    text ∈ sortedText texts ↔ text ∈ texts :=
  (List.perm_insertionSort _ texts).mem_iff

theorem sortedText_eq_nil (texts : List String) : sortedText texts = [] ↔ texts = [] := by
  constructor
  · intro empty
    have same := (List.perm_insertionSort (· ≤ ·) texts).length_eq
    unfold sortedText at empty
    rw [empty] at same
    exact List.length_eq_zero_iff.mp same.symm
  · rintro rfl; rfl

/-! ### Enumerations -/

/-- Ordered evidence strength; names are stable protocol values. -/
inductive DeterminismLevel where
  | d0Unverified
  | d1InputsBound
  | d2SeededEnvBound
  | d3ByteReplayVerified
deriving DecidableEq

def DeterminismLevel.rank : DeterminismLevel → Nat
  | .d0Unverified => 0
  | .d1InputsBound => 1
  | .d2SeededEnvBound => 2
  | .d3ByteReplayVerified => 3

inductive CellState where
  | intentRecorded
  | granted
  | receiptRecorded
  | evidenceReady
  | decided
deriving DecidableEq

inductive LedgerEventType where
  | matrixFrozen
  | intentRecorded
  | grantRecorded
  | receiptRecorded
  | evidenceRecorded
  | decisionRecorded
deriving DecidableEq

inductive DocumentKind where
  | matrixPlan
  | intent
  | grant
  | receipt
  | evidence
  | decision
deriving DecidableEq

inductive Outcome where
  | succeeded
  | failed
deriving DecidableEq

inductive EvidenceType where
  | code
  | config
  | datasetManifest
  | log
  | metric
  | trace
  | review
deriving DecidableEq

inductive GateStatus where
  | pass
  | fail
deriving DecidableEq

inductive Verdict where
  | keep
  | reject
  | inconclusive
deriving DecidableEq

inductive Completeness where
  | complete
  | incomplete
deriving DecidableEq

def EvidenceType.text : EvidenceType → String
  | .code => "code"
  | .config => "config"
  | .datasetManifest => "dataset_manifest"
  | .log => "log"
  | .metric => "metric"
  | .trace => "trace"
  | .review => "review"

def CellState.text : CellState → String
  | .intentRecorded => "INTENT_RECORDED"
  | .granted => "GRANTED"
  | .receiptRecorded => "RECEIPT_RECORDED"
  | .evidenceReady => "EVIDENCE_READY"
  | .decided => "DECIDED"

/-! ### Coordinates -/

/-- `JsonScalar` -/
inductive Scalar where
  | str (text : String)
  | int (number : Int)
  | bool (flag : Bool)

def Scalar.value : Scalar → Value
  | .str text => .str text
  | .int number => .int number
  | .bool flag => .bool flag

/-- Python's `==` on scalars: a boolean equals the integer 0 or 1. -/
def Scalar.pyEq : Scalar → Scalar → Bool
  | .str left, .str right => left == right
  | .int left, .int right => left == right
  | .bool left, .bool right => left == right
  | .int left, .bool right => left == right.toInt
  | .bool left, .int right => left.toInt == right
  | _, _ => false

abbrev Coordinates := Mapping Scalar

def Coordinates.value (coordinates : Coordinates) : Value :=
  .dict (coordinates.members.map fun entry => (entry.1, entry.2.value))

/-- Python's `==` on dictionaries of scalars. -/
def Coordinates.pyEq (left right : Coordinates) : Bool :=
  left.members.length == right.members.length &&
    left.members.all fun entry =>
      match Dict.get? right.members entry.1 with
      | some other => entry.2.pyEq other
      | none => false

/-! ### Matrix plans -/

variable [Platform]

structure MatrixAxisFields where
  name : Matched axisNamePattern
  values : List Scalar

def MatrixAxisFields.valuesAreUnique (axis : MatrixAxisFields) : Prop :=
  (1 ≤ axis.values.length ∧ axis.values.length ≤ 256) ∧
    (∀ value ∈ axis.values, (canonicalBytes unicode value.value).isSome = true) ∧
    (axis.values.map fun value => canonicalBytes unicode value.value).Nodup

instance : DecidablePred MatrixAxisFields.valuesAreUnique := fun item => by
  unfold MatrixAxisFields.valuesAreUnique; infer_instance

structure MatrixAxis extends MatrixAxisFields where
  valuesUnique : toMatrixAxisFields.valuesAreUnique

structure MatrixCellDefinition where
  cellId : Ident
  coordinates : Coordinates

/-- `itertools.product` -/
def product {α : Type} : List (List α) → List (List α)
  | [] => [[]]
  | choices :: rest => choices.flatMap fun choice => (product rest).map fun later => choice :: later

structure MatrixPlanFields where
  matrixId : Ident
  name : BoundedText 1 160
  frozenBy : Ident
  frozenAt : Utc
  axes : List MatrixAxis
  cells : List MatrixCellDefinition

namespace MatrixPlanFields

def axisNames (plan : MatrixPlanFields) : List String := plan.axes.map fun axis => axis.name.val

def cellIds (plan : MatrixPlanFields) : List String := plan.cells.map fun cell => cell.cellId.val

/-- The canonical bytes of the coordinates of every cell. -/
def actual (plan : MatrixPlanFields) : List (Option Bytes) :=
  plan.cells.map fun cell => canonicalBytes unicode cell.coordinates.value

/-- The canonical bytes of every assignment in the Cartesian product. -/
def expected (plan : MatrixPlanFields) : List (Option Bytes) :=
  (product (plan.axes.map fun axis => axis.values)).map fun choice =>
    canonicalBytes unicode (.dict (plan.axisNames.zip (choice.map Scalar.value)))

def cellsAreTheCompleteCartesianSpace (plan : MatrixPlanFields) : Prop :=
  (1 ≤ plan.axes.length ∧ plan.axes.length ≤ 16) ∧
    (1 ≤ plan.cells.length ∧ plan.cells.length ≤ 10000) ∧
    (sortedText plan.axisNames = plan.axisNames ∧ plan.axisNames.Nodup) ∧
    (sortedText plan.cellIds = plan.cellIds ∧ plan.cellIds.Nodup) ∧
    -- every axis has a value, so the running product is bounded by the final one
    (plan.axes.map fun axis => axis.values.length).prod ≤ 10000 ∧
    (∀ cell ∈ plan.cells,
      (∀ name ∈ cell.coordinates.members.keys, name ∈ plan.axisNames) ∧
        ∀ name ∈ plan.axisNames, name ∈ cell.coordinates.members.keys) ∧
    (∀ encoded ∈ plan.actual, encoded.isSome = true) ∧
    (plan.actual.Nodup ∧ (∀ encoded ∈ plan.actual, encoded ∈ plan.expected) ∧
      ∀ encoded ∈ plan.expected, encoded ∈ plan.actual)

end MatrixPlanFields

instance : DecidablePred MatrixPlanFields.cellsAreTheCompleteCartesianSpace := fun item => by
  unfold MatrixPlanFields.cellsAreTheCompleteCartesianSpace; infer_instance

structure MatrixPlan extends MatrixPlanFields where
  cellsComplete : toMatrixPlanFields.cellsAreTheCompleteCartesianSpace

/-! ### Intents -/

structure RunManifest where
  gitCommit : Matched gitCommitPattern
  configSha256 : Digest
  datasetManifestSha256 : Digest
  environmentLockSha256 : Digest
  baseModelSha256 : Digest
  seed : BoundedInt 0 maxInt64

structure ResourceAmountsFields (minWallTime : Int) where
  gpuCount : BoundedInt 0 1024
  wallTimeSeconds : BoundedInt minWallTime 31536000
  gpuTimeSeconds : BoundedInt 0 32292864000
  artifactBytes : BoundedInt 0 maxInt64

def ResourceAmountsFields.gpuTimeIsPhysicallyBounded {minWallTime : Int}
    (amounts : ResourceAmountsFields minWallTime) : Prop :=
  amounts.gpuTimeSeconds.val ≤ amounts.gpuCount.val * amounts.wallTimeSeconds.val

instance {minWallTime : Int} :
    DecidablePred (@ResourceAmountsFields.gpuTimeIsPhysicallyBounded minWallTime) :=
  fun amounts => by unfold ResourceAmountsFields.gpuTimeIsPhysicallyBounded; infer_instance

/-- Requested and used resources: only the least wall time differs. -/
structure ResourceAmounts (minWallTime : Int) extends ResourceAmountsFields minWallTime where
  gpuTimeBounded : toResourceAmountsFields.gpuTimeIsPhysicallyBounded

abbrev ResourceRequest := ResourceAmounts 1
abbrev ResourceUsage := ResourceAmounts 0

structure ResourceBounds where
  maxGpuCount : BoundedInt 0 1024
  maxWallTimeSeconds : BoundedInt 1 31536000
  maxGpuTimeSeconds : BoundedInt 0 32292864000
  maxArtifactBytes : BoundedInt 0 maxInt64

def ResourceBounds.contains (bounds : ResourceBounds) (request : ResourceRequest) : Prop :=
  request.gpuCount.val ≤ bounds.maxGpuCount.val ∧
    request.wallTimeSeconds.val ≤ bounds.maxWallTimeSeconds.val ∧
    request.gpuTimeSeconds.val ≤ bounds.maxGpuTimeSeconds.val ∧
    request.artifactBytes.val ≤ bounds.maxArtifactBytes.val

instance (bounds : ResourceBounds) (request : ResourceRequest) :
    Decidable (bounds.contains request) := by
  unfold ResourceBounds.contains; infer_instance

structure LegacyApprovalV1Binding where
  jti : Matched noncePattern
  actionDigest : Digest
  configSha256 : Digest
  tokenSha256 : Digest
deriving DecidableEq

structure IntentFields where
  intentId : Ident
  matrixId : Ident
  cellId : Ident
  coordinates : Coordinates
  actorId : Ident
  createdAt : Utc
  action : BoundedText 1 128
  scope : BoundedText 1 512
  actionPayload : JsonObject unicode
  actionPayloadDigest : Digest
  runManifest : RunManifest
  requestedResources : ResourceRequest
  requiredDeterminism : DeterminismLevel
  approvalV1Binding : Option LegacyApprovalV1Binding
  extensions : JsonObject unicode

def IntentFields.payloadDigestMatches (intent : IntentFields) : Prop :=
  (digestDocument intent.actionPayload.value).toOption = some intent.actionPayloadDigest ∧
    (DeterminismLevel.d2SeededEnvBound.rank ≤ intent.requiredDeterminism.rank →
      ¬ intent.runManifest.seed.val < 0)

instance : DecidablePred IntentFields.payloadDigestMatches := fun item => by
  unfold IntentFields.payloadDigestMatches; infer_instance

structure Intent extends IntentFields where
  payloadMatches : toIntentFields.payloadDigestMatches

/-! ### Grants -/

structure GrantClaims where
  grantId : Ident
  issuerId : Ident
  intentId : Ident
  intentDigest : Digest
  matrixId : Ident
  cellId : Ident
  action : BoundedText 1 128
  scope : BoundedText 1 512
  actionPayloadDigest : Digest
  bounds : ResourceBounds
  minimumDeterminism : DeterminismLevel
  issuedAt : Utc
  expiresAt : Utc
  nonce : Matched noncePattern
  legacyApprovalV1 : Option LegacyApprovalV1Binding

structure Grant where
  keyId : Ident
  claims : GrantClaims
  signature : Digest

/-! ### Receipts and evidence -/

structure ArtifactRef where
  uri : BoundedText 1 2048
  mediaType : BoundedText 1 255
  sha256 : Digest
  bytes : BoundedInt 0 maxInt64

structure ReceiptFields where
  receiptId : Ident
  matrixId : Ident
  cellId : Ident
  intentDigest : Digest
  grantDigest : Digest
  grantId : Ident
  executorId : Ident
  startedAt : Utc
  completedAt : Utc
  outcome : Outcome
  output : ArtifactRef
  usage : ResourceUsage
  determinismLevel : DeterminismLevel
  replayCount : BoundedInt 1 1000000
  replayDigest : Option Digest
  metadata : JsonObject unicode

def ReceiptFields.replayClaimIsSupported (receipt : ReceiptFields) : Prop :=
  receipt.determinismLevel = .d3ByteReplayVerified →
    ¬ (receipt.replayCount.val < 2 ∨ receipt.replayDigest ≠ some receipt.output.sha256)

instance : DecidablePred ReceiptFields.replayClaimIsSupported := fun item => by
  unfold ReceiptFields.replayClaimIsSupported; infer_instance

structure Receipt extends ReceiptFields where
  replaySupported : toReceiptFields.replayClaimIsSupported

structure Evidence where
  evidenceId : Ident
  matrixId : Ident
  cellId : Ident
  receiptDigest : Digest
  evidenceType : EvidenceType
  producerId : Ident
  artifact : ArtifactRef
  claims : JsonObject unicode
  observedAt : Utc

/-! ### Decisions -/

structure GateAssessment where
  status : GateStatus
  requiredTypes : List String
  presentTypes : List String
  missingTypes : List String
  evidenceDigests : List Digest
  evidenceRoot : Digest
  independentReviewer : Option String
  reasons : List String
deriving DecidableEq

structure DecisionFields where
  decisionId : Ident
  matrixId : Ident
  cellId : Ident
  intentDigest : Digest
  receiptDigest : Digest
  evidenceDigests : List Digest
  evidenceRoot : Digest
  gate : GateAssessment
  verdict : Verdict
  determinismLevel : DeterminismLevel
  decidedBy : Ident
  decidedAt : Utc
  rationaleCode : Matched rationaleCodePattern

def DecisionFields.evidenceMatchesGate (decision : DecisionFields) : Prop :=
  sortDigests decision.evidenceDigests = decision.evidenceDigests ∧
    decision.evidenceDigests = decision.gate.evidenceDigests ∧
    decision.evidenceRoot = decision.gate.evidenceRoot ∧
    decision.gate.status = .pass

instance : DecidablePred DecisionFields.evidenceMatchesGate := fun item => by
  unfold DecisionFields.evidenceMatchesGate; infer_instance

structure Decision extends DecisionFields where
  matchesGate : toDecisionFields.evidenceMatchesGate

/-! ### Ledgers -/

structure LedgerEntryCore where
  sequence : {number : Int // 1 ≤ number}
  eventType : LedgerEventType
  matrixId : Ident
  cellId : Ident
  documentKind : DocumentKind
  documentDigest : Digest
  document : JsonObject unicode
  causalParents : List Digest
  previousRoot : Digest
  recordedAt : Utc

structure LedgerEntry extends LedgerEntryCore where
  entryDigest : Digest
  root : Digest

structure CellSnapshot where
  cellId : Ident
  state : CellState
  intentDigest : Digest
  grantDigest : Option Digest
  receiptDigest : Option Digest
  evidenceDigests : List String
  decisionDigest : Option Digest
  determinismLevel : DeterminismLevel
deriving DecidableEq

structure MatrixLedgerFields where
  matrixId : Ident
  matrixPlanDigest : Digest
  expectedCellCount : BoundedInt 1 10000
  decidedCellCount : BoundedInt 0 10000
  missingDecisions : List String
  completeness : Completeness
  entryCount : {number : Int // 0 ≤ number}
  root : Digest
  entries : List LedgerEntry
  cells : List CellSnapshot

def MatrixLedgerFields.countMatches (document : MatrixLedgerFields) : Prop :=
  document.entryCount.val = document.entries.length ∧
    sortedText (document.cells.map fun cell => cell.cellId.val) =
      document.cells.map (fun cell => cell.cellId.val) ∧
    document.decidedCellCount.val + document.missingDecisions.length =
      document.expectedCellCount.val ∧
    sortedText document.missingDecisions = document.missingDecisions ∧
    document.completeness =
      (if document.missingDecisions = [] then .complete else .incomplete)

instance : DecidablePred MatrixLedgerFields.countMatches := fun item => by
  unfold MatrixLedgerFields.countMatches; infer_instance

structure MatrixLedgerDocument extends MatrixLedgerFields where
  countsMatch : toMatrixLedgerFields.countMatches

end EgoAgent.Rxp
