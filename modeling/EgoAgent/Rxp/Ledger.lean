import EgoAgent.Rxp.Grants

/-!
Append-only matrix ledger and per-cell RXP state machine: the recorder.

Every `record…` operation is an effect on the ledger (and, for receipts, on the
replay registry): what it has written before it raises stays written.  Each
runs under the ledger's lock, so it is one atomic step.
-/

namespace EgoAgent.Rxp

open Platform

variable [Platform]

/-! ### Documents -/

inductive Document where
  | matrixPlan (plan : MatrixPlan)
  | intent (intent : Intent)
  | grant (grant : Grant)
  | receipt (receipt : Receipt)
  | evidence (evidence : Evidence)
  | decision (decision : Decision)

namespace Document

def kind : Document → DocumentKind
  | .matrixPlan _ => .matrixPlan
  | .intent _ => .intent
  | .grant _ => .grant
  | .receipt _ => .receipt
  | .evidence _ => .evidence
  | .decision _ => .decision

def value : Document → Value
  | .matrixPlan document => MatrixPlan.codec.dump document
  | .intent document => Intent.codec.dump document
  | .grant document => Grant.codec.dump document
  | .receipt document => Receipt.codec.dump document
  | .evidence document => document.value
  | .decision document => Decision.codec.dump document

/-- The cell a plan's entry is filed under. -/
def planCellId : Ident := ⟨"matrix", by decide⟩

/-- `_document_cell_id` -/
def cellId : Document → Ident
  | .matrixPlan _ => planCellId
  | .intent document => document.cellId
  | .grant document => document.claims.cellId
  | .receipt document => document.cellId
  | .evidence document => document.cellId
  | .decision document => document.cellId

def matrixId : Document → Ident
  | .matrixPlan document => document.matrixId
  | .intent document => document.matrixId
  | .grant document => document.claims.matrixId
  | .receipt document => document.matrixId
  | .evidence document => document.matrixId
  | .decision document => document.matrixId

/-- `_parse_model` under `_KIND_MODEL` -/
def parse (kind : DocumentKind) (value : Value) : Except PyError Document :=
  expect (rxpError "document_invalid" ("Invalid " ++ kind.text ++ " document"))
    (match kind with
    | .matrixPlan => (MatrixPlan.codec.parse value).map .matrixPlan
    | .intent => (Intent.codec.parse value).map .intent
    | .grant => (Grant.codec.parse value).map .grant
    | .receipt => (Receipt.codec.parse value).map .receipt
    | .evidence => (Evidence.codec.parse value).map .evidence
    | .decision => (Decision.codec.parse value).map .decision)

end Document

/-! ### Cells -/

/-- `_Cell` -/
structure Cell where
  intent : Intent
  intentDigest : Digest
  state : CellState := .intentRecorded
  grant : Option Grant := none
  grantDigest : Option Digest := none
  receipt : Option Receipt := none
  receiptDigest : Option Digest := none
  evidence : List Evidence := []
  evidenceDigests : List Digest := []
  decision : Option Decision := none
  decisionDigest : Option Digest := none

def Cell.snapshot (cell : Cell) : CellSnapshot where
  cellId := cell.intent.cellId
  state := cell.state
  intentDigest := cell.intentDigest
  grantDigest := cell.grantDigest
  receiptDigest := cell.receiptDigest
  evidenceDigests := (sortDigests cell.evidenceDigests).map (Digest.labelled "sha256:")
  decisionDigest := cell.decisionDigest
  determinismLevel :=
    match cell.receipt with
    | some receipt => receipt.determinismLevel
    | none => .d0Unverified

abbrev Cells := Dict Ident Cell

def Cells.sorted (cells : Cells) : List CellSnapshot :=
  (cells.insertionSort fun left right => left.1.val ≤ right.1.val).map fun entry =>
    entry.2.snapshot

def Cells.decided (cells : Cells) : List Ident :=
  (cells.filter fun entry => entry.2.state = .decided).map Prod.fst

/-- The declared cells without a decision, sorted. -/
def missingDecisions (plan : MatrixPlan) (cells : Cells) : List String :=
  sortedText (plan.cellIds.filter fun cellId => cellId ∉ (Cells.decided cells).map Subtype.val)

/-! ### The ledger -/

structure MatrixLedger where
  matrixPlan : MatrixPlan
  matrixPlanDigest : Digest
  entries : List LedgerEntry
  cells : Cells
  root : Digest
  grantIds : List Ident
  intentIds : List Ident

namespace MatrixLedger

def matrixId (ledger : MatrixLedger) : Ident := ledger.matrixPlan.matrixId

/-- `_expected_cells` -/
def expectedCell (plan : MatrixPlan) (cellId : Ident) : Option MatrixCellDefinition :=
  plan.cells.find? fun cell => cell.cellId = cellId

def requireMatrix (ledger : MatrixLedger) (matrixId : Ident) : Except PyError Unit :=
  raiseIf (matrixId ≠ ledger.matrixId)
    (rxpError "matrix_mismatch" "Document belongs to a different matrix")

def requireCell (ledger : MatrixLedger) (cellId : Ident) : Except PyError Cell :=
  expect (rxpError "cell_unknown" "Matrix cell has no recorded Intent") (ledger.cells.get? cellId)

def requireState (cell : Cell) (expected : CellState) : Except PyError Unit :=
  raiseIf (cell.state ≠ expected)
    (.rxp "cell_state_invalid" "Operation is not valid in the current cell state"
      [("expected", .str expected.text), ("actual", .str cell.state.text)])

/-- `_validate_receipt` -/
def validateReceipt (receipt : Receipt) (grant : Grant) (intent : Intent) :
    Except PyError Unit := do
  let started ← parseUtc receipt.startedAt.val
  let completed ← parseUtc receipt.completedAt.val
  let issued ← parseUtc grant.claims.issuedAt.val
  let expires ← parseUtc grant.claims.expiresAt.val
  raiseIf (completed < started)
    (rxpError "receipt_time_invalid" "Receipt completed before it started")
  raiseIf (started + clockSkewSeconds < issued)
    (rxpError "grant_not_yet_valid" "Execution started before Grant issuance")
  raiseIf (started ≥ expires)
    (rxpError "grant_expired" "Execution started after Grant expiry")
  let usage := receipt.usage
  let bounds := grant.claims.bounds
  let exceeded := mismatches
    [("gpu_count", usage.gpuCount.val ≤ bounds.maxGpuCount.val),
      ("wall_time_seconds", usage.wallTimeSeconds.val ≤ bounds.maxWallTimeSeconds.val),
      ("gpu_time_seconds", usage.gpuTimeSeconds.val ≤ bounds.maxGpuTimeSeconds.val),
      ("artifact_bytes", usage.artifactBytes.val ≤ bounds.maxArtifactBytes.val),
      ("output.bytes", receipt.output.bytes.val = usage.artifactBytes.val)]
  raiseIf (exceeded ≠ [])
    (.rxp "grant_bounds_exceeded" "Receipt usage exceeds the signed Grant"
      [("fields", .list ((sortedText exceeded).map .str))])
  raiseIf (receipt.determinismLevel.rank < grant.claims.minimumDeterminism.rank)
    (rxpError "receipt_determinism_too_weak"
      "Receipt determinism is below the signed Grant minimum")
  raiseIf (receipt.determinismLevel.rank < intent.requiredDeterminism.rank)
    (rxpError "receipt_determinism_too_weak"
      "Receipt determinism is below the frozen Intent requirement")

/-- `_assert_append_time` -/
def assertAppendTime (ledger : MatrixLedger) (recordedAt : String) : Except PyError Unit :=
  match ledger.entries.getLast? with
  | none => .ok ()
  | some last => do
      let instant ← parseUtc recordedAt
      let previous ← parseUtc last.recordedAt.val
      raiseIf (instant < previous)
        (rxpError "ledger_time_regression" "Ledger time cannot move backwards")

/-- `json.loads(canonical_bytes(document))` -/
def documentDict (document : Document) : Except PyError (JsonObject unicode) :=
  expect .encoding (((canonicalBytes unicode document.value).bind readBytes).bind
    (JsonObject.ofValue unicode))

/-- `_append` -/
def append (eventType : LedgerEventType) (document : Document) (causalParents : List Digest)
    (recordedAt : String) : Effect MatrixLedger PyError Unit := do
  let ledger ← Effect.read
  Effect.check (ledger.assertAppendTime recordedAt)
  let object ← Effect.check (documentDict document)
  let documentDigest ← Effect.check (digestDocument document.value)
  let recordedAt ← Effect.check
    (expect (.validation "LedgerEntryCore") (Codec.permit isUtc recordedAt))
  let core : LedgerEntryCore := {
    sequence := ⟨ledger.entries.length + 1, by omega⟩
    eventType
    matrixId := ledger.matrixId
    cellId := document.cellId
    documentKind := document.kind
    documentDigest
    document := object
    causalParents
    previousRoot := ledger.root
    recordedAt }
  let entryDigest ← Effect.check (digestLedgerEntry (LedgerEntryCore.codec.dump core))
  let root := extendLedgerRoot ledger.root entryDigest
  Effect.write fun ledger =>
    { ledger with entries := ledger.entries ++ [{ core with entryDigest, root }], root }

/-- `MatrixLedger(matrix_plan)` -/
def new (plan : MatrixPlan) : Except PyError MatrixLedger := do
  let matrixPlanDigest ← digestDocument (MatrixPlan.codec.dump plan)
  let empty : MatrixLedger := {
    matrixPlan := plan
    matrixPlanDigest
    entries := []
    cells := []
    root := genesisRoot
    grantIds := []
    intentIds := [] }
  match append .matrixFrozen (.matrixPlan plan) [] plan.frozenAt.val empty with
  | (.ok _, ledger) => return ledger
  | (.error error, _) => .error error

def putCell (cellId : Ident) (cell : Cell) (ledger : MatrixLedger) : MatrixLedger :=
  { ledger with cells := ledger.cells.set cellId cell }

/-! ### Operations -/

def recordIntent (intent : Intent) : Effect MatrixLedger PyError Digest := do
  let ledger ← Effect.read
  Effect.check (ledger.requireMatrix intent.matrixId)
  let definition ← Effect.check
    (expect (rxpError "cell_not_declared" "Intent cell is absent from the frozen matrix")
      (expectedCell ledger.matrixPlan intent.cellId))
  Effect.check (raiseIf (¬ intent.coordinates.pyEq definition.coordinates)
    (rxpError "cell_coordinates_mismatch"
      "Intent coordinates do not match the frozen matrix cell"))
  Effect.check (raiseIf (intent.cellId ∈ ledger.cells.keys)
    (rxpError "cell_already_exists" "A matrix cell accepts exactly one Intent"))
  Effect.check (raiseIf (intent.intentId ∈ ledger.intentIds)
    (rxpError "intent_replayed" "intent_id already exists in this matrix"))
  let digest ← Effect.check (digestDocument (Document.intent intent).value)
  append .intentRecorded (.intent intent) [] intent.createdAt.val
  Effect.write (putCell intent.cellId { intent, intentDigest := digest })
  Effect.write fun ledger => { ledger with intentIds := ledger.intentIds ++ [intent.intentId] }
  return digest

def recordGrant (grant : Grant) (verifier : GrantSigner) (acceptedAt : String) :
    Effect MatrixLedger PyError Digest := do
  let ledger ← Effect.read
  let claims := grant.claims
  Effect.check (ledger.requireMatrix claims.matrixId)
  let cell ← Effect.check (ledger.requireCell claims.cellId)
  Effect.check (requireState cell .intentRecorded)
  Effect.check (raiseIf (claims.grantId ∈ ledger.grantIds)
    (rxpError "grant_id_replayed" "grant_id already exists in this matrix"))
  Effect.check (verifier.verify grant cell.intent acceptedAt)
  let digest ← Effect.check (digestDocument (Document.grant grant).value)
  append .grantRecorded (.grant grant) [cell.intentDigest] acceptedAt
  Effect.write (putCell claims.cellId
    { cell with grant := some grant, grantDigest := some digest, state := .granted })
  Effect.write fun ledger => { ledger with grantIds := ledger.grantIds ++ [claims.grantId] }
  return digest

/-- The lineage fields of a receipt compared with its cell. -/
def receiptComparisons (receipt : Receipt) (cell : Cell) (grant : Grant) (grantDigest : Digest) :
    List (String × Bool) :=
  [("intent_digest", receipt.intentDigest = cell.intentDigest),
    ("grant_digest", receipt.grantDigest = grantDigest),
    ("grant_id", receipt.grantId = grant.claims.grantId)]

/-- What a granted cell holds, or that the ledger is corrupt. -/
def grantOf (cell : Cell) : Except PyError (Grant × Digest) :=
  expect (rxpError "ledger_corrupt" "Granted cell is missing its Grant")
    (cell.grant.bind fun grant => cell.grantDigest.map fun digest => (grant, digest))

/-- The key a grant is consumed under. -/
def grantNamespace : String := "rxp-grant"

def recordReceipt (receipt : Receipt) :
    Effect (MatrixLedger × ReplayRegistry) PyError Digest := do
  let (ledger, _) ← Effect.read
  Effect.check (ledger.requireMatrix receipt.matrixId)
  let cell ← Effect.check (ledger.requireCell receipt.cellId)
  Effect.check (requireState cell .granted)
  let (grant, grantDigest) ← Effect.check (grantOf cell)
  let wrong := mismatches (receiptComparisons receipt cell grant grantDigest)
  Effect.check (raiseIf (wrong ≠ [])
    (.rxp "receipt_causality_mismatch" "Receipt does not descend from this exact Intent and Grant"
      (mismatchedFields wrong)))
  Effect.check (validateReceipt receipt grant cell.intent)
  Effect.check (ledger.assertAppendTime receipt.completedAt.val)
  -- fallible canonicalization comes before the irreversible replay write
  let _ ← Effect.check (canonicalBytesOf (Document.receipt receipt).value)
  let fresh ← Effect.within Prod.snd (fun registry world => (world.1, registry))
    (consume grantNamespace grant.claims.grantId.val)
  Effect.check (raiseIf (fresh = false)
    (rxpError "grant_replayed" "Grant has already been consumed"))
  let digest ← Effect.check (digestDocument (Document.receipt receipt).value)
  Effect.within Prod.fst (fun ledger world => (ledger, world.2))
    (append .receiptRecorded (.receipt receipt) [cell.intentDigest, grantDigest]
      receipt.completedAt.val)
  Effect.write fun world => (putCell receipt.cellId
    { cell with receipt := some receipt, receiptDigest := some digest, state := .receiptRecorded }
    world.1, world.2)
  return digest

def recordEvidence (evidence : Evidence) : Effect MatrixLedger PyError Digest := do
  let ledger ← Effect.read
  Effect.check (ledger.requireMatrix evidence.matrixId)
  let cell ← Effect.check (ledger.requireCell evidence.cellId)
  Effect.check (raiseIf (cell.state ≠ .receiptRecorded ∧ cell.state ≠ .evidenceReady)
    (rxpError "cell_state_invalid" "Evidence requires a recorded Receipt"))
  let receiptDigest ← Effect.check
    (expect (rxpError "evidence_causality_mismatch" "Evidence targets a different Receipt")
      cell.receiptDigest)
  Effect.check (raiseIf (evidence.receiptDigest ≠ receiptDigest)
    (rxpError "evidence_causality_mismatch" "Evidence targets a different Receipt"))
  Effect.check (raiseIf (evidence.evidenceId ∈ cell.evidence.map fun item => item.evidenceId)
    (rxpError "evidence_replayed" "evidence_id already exists in this cell"))
  let digest ← Effect.check (digestDocument (Document.evidence evidence).value)
  Effect.check (raiseIf (digest ∈ cell.evidenceDigests)
    (rxpError "evidence_replayed" "Evidence document is already recorded"))
  append .evidenceRecorded (.evidence evidence) [receiptDigest] evidence.observedAt.val
  let grown := { cell with
    evidence := cell.evidence ++ [evidence]
    evidenceDigests := cell.evidenceDigests ++ [digest] }
  Effect.write (putCell evidence.cellId grown)
  let gate ← Effect.check (evidenceGate grown.evidence)
  if gate.status = .pass then
    Effect.write (putCell evidence.cellId { grown with state := .evidenceReady })
  return digest

/-- The lineage fields of a decision compared with its cell. -/
def decisionComparisons (decision : Decision) (cell : Cell) (receipt : Receipt)
    (receiptDigest : Digest) : List (String × Bool) :=
  [("intent_digest", decision.intentDigest = cell.intentDigest),
    ("receipt_digest", decision.receiptDigest = receiptDigest),
    ("evidence_digests", sortDigests cell.evidenceDigests = decision.evidenceDigests),
    ("determinism_level", decision.determinismLevel = receipt.determinismLevel)]

def receiptOf (cell : Cell) (message : String) : Except PyError (Receipt × Digest) :=
  expect (rxpError "ledger_corrupt" message)
    (cell.receipt.bind fun receipt => cell.receiptDigest.map fun digest => (receipt, digest))

def recordDecision (decision : Decision) : Effect MatrixLedger PyError Digest := do
  let ledger ← Effect.read
  Effect.check (ledger.requireMatrix decision.matrixId)
  let cell ← Effect.check (ledger.requireCell decision.cellId)
  Effect.check (requireState cell .evidenceReady)
  let (receipt, receiptDigest) ← Effect.check
    (receiptOf cell "Evidence-ready cell is missing a Receipt")
  Effect.check (raiseIf (receipt.outcome ≠ .succeeded)
    (rxpError "receipt_failed" "A failed execution cannot yield a Decision"))
  let gate ← Effect.check (evidenceGate cell.evidence)
  Effect.check (raiseIf (decision.gate ≠ gate)
    (rxpError "decision_gate_mismatch" "Decision embeds a stale or altered gate"))
  let wrong := mismatches (decisionComparisons decision cell receipt receiptDigest)
  Effect.check (raiseIf (wrong ≠ [])
    (.rxp "decision_causality_mismatch" "Decision is not bound to the complete cell evidence chain"
      (mismatchedFields wrong)))
  Effect.check (raiseIf (decision.determinismLevel.rank < cell.intent.requiredDeterminism.rank)
    (rxpError "decision_determinism_too_weak"
      "Receipt determinism is below the frozen Intent requirement"))
  let digest ← Effect.check (digestDocument (Document.decision decision).value)
  append .decisionRecorded (.decision decision)
    (cell.intentDigest :: receiptDigest :: sortDigests cell.evidenceDigests)
    decision.decidedAt.val
  Effect.write (putCell decision.cellId
    { cell with decision := some decision, decisionDigest := some digest, state := .decided })
  return digest

/-! ### The snapshot -/

def snapshot (ledger : MatrixLedger) : Except PyError MatrixLedgerDocument := do
  let missing := missingDecisions ledger.matrixPlan ledger.cells
  let invalid := PyError.validation "MatrixLedgerDocument"
  let expectedCellCount ← expect invalid
    (Codec.permit (fun number : Int => 1 ≤ number ∧ number ≤ 10000) ledger.matrixPlan.cells.length)
  let decidedCellCount ← expect invalid
    (Codec.permit (fun number : Int => 0 ≤ number ∧ number ≤ 10000)
      (Cells.decided ledger.cells).length)
  let fields : MatrixLedgerFields := {
    matrixId := ledger.matrixId
    matrixPlanDigest := ledger.matrixPlanDigest
    expectedCellCount
    decidedCellCount
    missingDecisions := missing
    completeness := if missing = [] then .complete else .incomplete
    entryCount := ⟨ledger.entries.length, by omega⟩
    root := ledger.root
    entries := ledger.entries
    cells := Cells.sorted ledger.cells }
  let document ← expect invalid (Codec.permit MatrixLedgerFields.countMatches fields)
  return { document.val with countsMatch := document.property }

end MatrixLedger

end EgoAgent.Rxp
