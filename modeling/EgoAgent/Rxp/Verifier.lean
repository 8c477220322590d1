import EgoAgent.Rxp.Ledger

/-!
The offline ledger verifier.

It re-reads every embedded document from its canonical bytes and replays hashes,
causal links, transitions, the evidence gate and the final snapshot.  Signature
trust is a separate pass.
-/

namespace EgoAgent.Rxp

open Platform MatrixLedger

variable [Platform]

def transitionInvalid (message : String) : PyError := rxpError "transition_invalid" message

/-! ### Transitions -/

def verifyIntent (plan : MatrixPlan) (cells : Cells) (entry : LedgerEntry) (intent : Intent) :
    Except PyError Cells := do
  raiseIf (entry.eventType ≠ .intentRecorded ∨ entry.causalParents ≠ [] ∨
      entry.cellId ∈ cells.keys)
    (transitionInvalid "Invalid Intent transition")
  let outside := rxpError "cell_coordinates_mismatch" "Intent is outside the frozen matrix"
  let definition ← expect outside (expectedCell plan entry.cellId)
  raiseIf (¬ intent.coordinates.pyEq definition.coordinates) outside
  return cells.set entry.cellId { intent, intentDigest := entry.documentDigest }

/-- The claims the verifier compares with the cell's intent. -/
def GrantMatches (claims : GrantClaims) (cell : Cell) : Prop :=
  claims.intentDigest = cell.intentDigest ∧
    claims.intentId = cell.intent.intentId ∧
    claims.matrixId = cell.intent.matrixId ∧
    claims.cellId = cell.intent.cellId ∧
    claims.action = cell.intent.action ∧
    claims.scope = cell.intent.scope ∧
    claims.actionPayloadDigest = cell.intent.actionPayloadDigest ∧
    claims.bounds.contains cell.intent.requestedResources

instance (claims : GrantClaims) (cell : Cell) : Decidable (GrantMatches claims cell) := by
  unfold GrantMatches; infer_instance

def verifyGrant (cell : Cell) (entry : LedgerEntry) (grant : Grant) : Except PyError Cell := do
  raiseIf (cell.state ≠ .intentRecorded ∨ entry.eventType ≠ .grantRecorded)
    (transitionInvalid "Invalid Grant transition")
  raiseIf (entry.causalParents ≠ [cell.intentDigest])
    (rxpError "causal_parent_mismatch" "Grant parent is not the cell Intent")
  raiseIf (¬ GrantMatches grant.claims cell)
    (rxpError "grant_scope_mismatch" "Grant does not match the cell Intent")
  return { cell with
    grant := some grant
    grantDigest := some entry.documentDigest
    state := .granted }

def verifyReceipt (cell : Cell) (entry : LedgerEntry) (receipt : Receipt) :
    Except PyError Cell := do
  raiseIf (cell.state ≠ .granted ∨ entry.eventType ≠ .receiptRecorded)
    (transitionInvalid "Invalid Receipt transition")
  let (grant, grantDigest) ← expect (rxpError "ledger_corrupt" "Receipt cell has no Grant")
    (cell.grant.bind fun grant => cell.grantDigest.map fun digest => (grant, digest))
  raiseIf (entry.causalParents ≠ [cell.intentDigest, grantDigest])
    (rxpError "causal_parent_mismatch" "Receipt parents do not match cell")
  raiseIf (receipt.intentDigest ≠ cell.intentDigest ∨ receipt.grantDigest ≠ grantDigest ∨
      receipt.grantId ≠ grant.claims.grantId)
    (rxpError "receipt_causality_mismatch" "Receipt does not match cell")
  validateReceipt receipt grant cell.intent
  return { cell with
    receipt := some receipt
    receiptDigest := some entry.documentDigest
    state := .receiptRecorded }

/-- The event type of the entry is not looked at here. -/
def verifyEvidence (cell : Cell) (entry : LedgerEntry) (evidence : Evidence) :
    Except PyError Cell := do
  raiseIf (cell.state ≠ .receiptRecorded ∧ cell.state ≠ .evidenceReady)
    (transitionInvalid "Invalid Evidence transition")
  let mismatch := rxpError "evidence_causality_mismatch" "Evidence does not match Receipt"
  let receiptDigest ← expect mismatch cell.receiptDigest
  raiseIf (evidence.receiptDigest ≠ receiptDigest ∨ entry.causalParents ≠ [receiptDigest]) mismatch
  raiseIf (evidence.evidenceId ∈ cell.evidence.map fun item => item.evidenceId)
    (rxpError "evidence_replayed" "Duplicate evidence_id in ledger")
  let grown := { cell with
    evidence := cell.evidence ++ [evidence]
    evidenceDigests := cell.evidenceDigests ++ [entry.documentDigest] }
  let gate ← evidenceGate grown.evidence
  return if gate.status = .pass then { grown with state := .evidenceReady } else grown

def verifyDecision (cell : Cell) (entry : LedgerEntry) (decision : Decision) :
    Except PyError Cell := do
  raiseIf (cell.state ≠ .evidenceReady ∨ entry.eventType ≠ .decisionRecorded)
    (transitionInvalid "Invalid Decision transition")
  let (receipt, receiptDigest) ← receiptOf cell "Decision cell has no Receipt"
  let gate ← evidenceGate cell.evidence
  raiseIf (entry.causalParents ≠
        cell.intentDigest :: receiptDigest :: sortDigests cell.evidenceDigests ∨
      decision.gate ≠ gate)
    (rxpError "decision_gate_mismatch" "Decision gate or parents do not match")
  raiseIf (decision.intentDigest ≠ cell.intentDigest ∨ decision.receiptDigest ≠ receiptDigest ∨
      decision.evidenceDigests ≠ sortDigests cell.evidenceDigests ∨
      decision.determinismLevel ≠ receipt.determinismLevel)
    (rxpError "decision_causality_mismatch" "Decision does not match cell")
  raiseIf (receipt.outcome ≠ .succeeded)
    (rxpError "receipt_failed" "A failed execution cannot yield a Decision")
  return { cell with
    decision := some decision
    decisionDigest := some entry.documentDigest
    state := .decided }

/-- Runs a check on the cell an entry names and stores what it returns. -/
def onCell (cells : Cells) (entry : LedgerEntry) (check : Cell → Except PyError Cell) :
    Except PyError Cells := do
  let cell ← expect (transitionInvalid "Cell document precedes its Intent")
    (cells.get? entry.cellId)
  let cell ← check cell
  return cells.set entry.cellId cell

/-- `_verify_transition`, for the documents of a cell. -/
def verifyTransition (plan : MatrixPlan) (cells : Cells) (entry : LedgerEntry) :
    Document → Except PyError Cells
  | .matrixPlan _ => .error (rxpError "document_kind_unknown" "Unsupported document kind")
  | .intent intent => verifyIntent plan cells entry intent
  | .grant grant => onCell cells entry fun cell => verifyGrant cell entry grant
  | .receipt receipt => onCell cells entry fun cell => verifyReceipt cell entry receipt
  | .evidence evidence => onCell cells entry fun cell => verifyEvidence cell entry evidence
  | .decision decision => onCell cells entry fun cell => verifyDecision cell entry decision

def recordedAtMatches (entry : LedgerEntry) (expected : Utc) : Except PyError Unit :=
  raiseIf (entry.recordedAt ≠ expected)
    (rxpError "recorded_at_mismatch" "Entry time differs from document time")

/-- `_verify_recorded_at` -/
def verifyRecordedAt (entry : LedgerEntry) : Document → Except PyError Unit
  | .matrixPlan plan => recordedAtMatches entry plan.frozenAt
  | .intent intent => recordedAtMatches entry intent.createdAt
  | .receipt receipt => recordedAtMatches entry receipt.completedAt
  | .evidence evidence => recordedAtMatches entry evidence.observedAt
  | .decision decision => recordedAtMatches entry decision.decidedAt
  | .grant grant => do
      let recorded ← parseUtc entry.recordedAt.val
      let issued ← parseUtc grant.claims.issuedAt.val
      let expires ← parseUtc grant.claims.expiresAt.val
      raiseIf (recorded + clockSkewSeconds < issued ∨ recorded ≥ expires)
        (rxpError "grant_record_time_invalid" "Grant was recorded outside its window")

/-! ### Entries -/

structure VerifierState where
  expectedSequence : Nat
  root : Digest
  cells : Cells
  matrixPlan : Option MatrixPlan
  seenDigests : List Digest
  seenIntentIds : List Ident
  seenGrantIds : List Ident
  previousTimestamp : Option Nat

def VerifierState.initial : VerifierState where
  expectedSequence := 1
  root := genesisRoot
  cells := []
  matrixPlan := none
  seenDigests := []
  seenIntentIds := []
  seenGrantIds := []
  previousTimestamp := none

/-- The intent and grant identifiers seen, with those of one more document. -/
def noteIdentifiers (state : VerifierState) : Document → Except PyError (List Ident × List Ident)
  | .intent intent => do
      raiseIf (intent.intentId ∈ state.seenIntentIds)
        (rxpError "intent_replayed" "intent_id appears more than once")
      return (state.seenIntentIds ++ [intent.intentId], state.seenGrantIds)
  | .grant grant => do
      raiseIf (grant.claims.grantId ∈ state.seenGrantIds)
        (rxpError "grant_id_replayed" "grant_id appears more than once")
      return (state.seenIntentIds, state.seenGrantIds ++ [grant.claims.grantId])
  | _ => return (state.seenIntentIds, state.seenGrantIds)

/-- The plan and the cells after an entry's document. -/
def applyDocument (matrixId : Ident) (state : VerifierState) (entry : LedgerEntry) :
    Document → Except PyError (Option MatrixPlan × Cells)
  | .matrixPlan plan => do
      raiseIf (state.expectedSequence ≠ 1 ∨ state.matrixPlan.isSome ∨
          entry.eventType ≠ .matrixFrozen ∨ entry.cellId ≠ Document.planCellId ∨
          entry.causalParents ≠ [] ∨ plan.matrixId ≠ matrixId)
        (transitionInvalid "Invalid frozen MatrixPlan transition")
      return (some plan, state.cells)
  | document => do
      let plan ← expect (transitionInvalid "MatrixPlan must be the first entry") state.matrixPlan
      let cells ← verifyTransition plan state.cells entry document
      return (some plan, cells)

def verifyEntry (matrixId : Ident) (state : VerifierState) (entry : LedgerEntry) :
    Except PyError VerifierState := do
  raiseIf (entry.sequence.val ≠ state.expectedSequence)
    (rxpError "ledger_sequence_invalid" "Ledger sequence is not contiguous")
  raiseIf (entry.matrixId ≠ matrixId ∨ entry.previousRoot ≠ state.root)
    (rxpError "ledger_chain_invalid" "Ledger root predecessor does not match")
  let parsed ← Document.parse entry.documentKind entry.document.value
  raiseIf (parsed.cellId ≠ entry.cellId)
    (rxpError "document_cell_mismatch" "Entry cell differs from document cell")
  raiseIf (parsed.matrixId ≠ entry.matrixId)
    (rxpError "document_matrix_mismatch" "Entry matrix differs from document matrix")
  let currentTimestamp ← parseUtc entry.recordedAt.val
  raiseIf (∃ previous ∈ state.previousTimestamp, currentTimestamp < previous)
    (rxpError "ledger_time_regression" "Ledger time moves backwards")
  let documentDigest ← digestDocument parsed.value
  raiseIf (documentDigest ≠ entry.documentDigest)
    (rxpError "document_digest_mismatch" "Embedded document was altered")
  raiseIf (entry.documentDigest ∈ state.seenDigests)
    (rxpError "document_replayed" "Document digest appears more than once")
  let (seenIntentIds, seenGrantIds) ← noteIdentifiers state parsed
  let computedEntry ← digestLedgerEntry (LedgerEntryCore.codec.dump entry.toLedgerEntryCore)
  raiseIf (computedEntry ≠ entry.entryDigest)
    (rxpError "entry_digest_mismatch" "Ledger entry was altered")
  let root := extendLedgerRoot state.root computedEntry
  raiseIf (root ≠ entry.root)
    (rxpError "ledger_root_mismatch" "Ledger root does not match entry chain")
  raiseIf (∃ parent ∈ entry.causalParents, parent ∉ state.seenDigests)
    (rxpError "causal_parent_missing" "Ledger causal parent was not recorded earlier")
  let (matrixPlan, cells) ← applyDocument matrixId state entry parsed
  verifyRecordedAt entry parsed
  return {
    expectedSequence := state.expectedSequence + 1
    root
    cells
    matrixPlan
    seenDigests := state.seenDigests ++ [entry.documentDigest]
    seenIntentIds
    seenGrantIds
    previousTimestamp := some currentTimestamp }

def verifyEntries (matrixId : Ident) : VerifierState → List LedgerEntry →
    Except PyError VerifierState
  | state, [] => .ok state
  | state, entry :: rest => do
      let next ← verifyEntry matrixId state entry
      verifyEntries matrixId next rest

/-! ### Documents -/

/-- The final comparison of the replayed state with the snapshot. -/
def SummaryMatches (document : MatrixLedgerDocument) (plan : MatrixPlan) (planDigest : Digest)
    (state : VerifierState) : Prop :=
  state.root = document.root ∧
    Cells.sorted state.cells = document.cells ∧
    planDigest = document.matrixPlanDigest ∧
    document.expectedCellCount.val = plan.cells.length ∧
    document.decidedCellCount.val = (Cells.decided state.cells).length ∧
    document.missingDecisions = missingDecisions plan state.cells

instance (document : MatrixLedgerDocument) (plan : MatrixPlan) (planDigest : Digest)
    (state : VerifierState) : Decidable (SummaryMatches document plan planDigest state) := by
  unfold SummaryMatches; infer_instance

/-- `verify_ledger_document`, on a document that is already a model. -/
def verifyLedgerDocument (document : MatrixLedgerDocument) : Except PyError Unit := do
  let state ← verifyEntries document.matrixId VerifierState.initial document.entries
  let plan ← expect (rxpError "matrix_plan_missing" "Ledger has no frozen MatrixPlan")
    state.matrixPlan
  let planDigest ← digestDocument (MatrixPlan.codec.dump plan)
  raiseIf (¬ SummaryMatches document plan planDigest state)
    (rxpError "ledger_snapshot_mismatch" "Ledger summary does not match its entries")

/-- The pass over the entries of `verify_grant_signatures`; the dictionary
holds the intent of every cell so far. -/
def verifySignatures (signer : GrantSigner) : Dict Ident Intent → List LedgerEntry →
    Except PyError Unit
  | _, [] => .ok ()
  | intents, entry :: rest =>
      match entry.documentKind with
      | .intent => do
          let intent ← expect (rxpError "document_invalid" "Invalid Intent document")
            (Intent.codec.parse entry.document.value)
          verifySignatures signer (intents.set entry.cellId intent) rest
      | .grant => do
          let grant ← expect (rxpError "document_invalid" "Invalid Grant document")
            (Grant.codec.parse entry.document.value)
          let intent ← expect (rxpError "causal_parent_missing" "Grant has no prior Intent")
            (intents.get? entry.cellId)
          signer.verify grant intent grant.claims.issuedAt.val
          verifySignatures signer intents rest
      | _ => verifySignatures signer intents rest

def verifyGrantSignatures (document : MatrixLedgerDocument) (signer : GrantSigner) :
    Except PyError Unit :=
  verifySignatures signer [] document.entries

end EgoAgent.Rxp
