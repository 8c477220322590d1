import EgoAgent.Rxp.Verifier

/-!
The per-cell state machine on its own.

`CellStep` says what one document may do to its cell, without sequences, hashes
or times.  The verifier accepts a document only along such a step, and so does
the recorder, so a fact about cells is proved once for both.
-/

namespace EgoAgent.Rxp

open Platform MatrixLedger

variable [Platform]

/-- The cell after one more evidence record, gated over all its evidence. -/
def Cell.withEvidence (cell : Cell) (evidence : Evidence) (digest : Digest) (gate : GateAssessment) :
    Cell :=
  let grown := { cell with
    evidence := cell.evidence ++ [evidence]
    evidenceDigests := cell.evidenceDigests ++ [digest] }
  if gate.status = .pass then { grown with state := .evidenceReady } else grown

/-- The receipt names the digests and the identifier it descends from. -/
def ReceiptDescends (receipt : Receipt) (cell : Cell) (grant : Grant) (grantDigest : Digest) :
    Prop :=
  receipt.intentDigest = cell.intentDigest ∧ receipt.grantDigest = grantDigest ∧
    receipt.grantId = grant.claims.grantId

/-- The decision names the whole lineage of its cell. -/
def DecisionDescends (decision : Decision) (cell : Cell) (receipt : Receipt)
    (receiptDigest : Digest) : Prop :=
  decision.intentDigest = cell.intentDigest ∧ decision.receiptDigest = receiptDigest ∧
    decision.evidenceDigests = sortDigests cell.evidenceDigests ∧
    decision.determinismLevel = receipt.determinismLevel

/-- `CellStep plan before document digest parents after`: the document, with its
digest and its causal parents, takes the cell it names from `before` to `after`. -/
inductive CellStep (plan : MatrixPlan) :
    Option Cell → Document → Digest → List Digest → Cell → Prop where
  | intent (intent : Intent) (digest : Digest) (definition : MatrixCellDefinition)
      (declared : expectedCell plan intent.cellId = some definition)
      (located : intent.coordinates.pyEq definition.coordinates = true) :
      CellStep plan none (.intent intent) digest [] { intent, intentDigest := digest }
  | grant (cell : Cell) (grant : Grant) (digest : Digest)
      (state : cell.state = .intentRecorded)
      (scope : GrantMatches grant.claims cell) :
      CellStep plan (some cell) (.grant grant) digest [cell.intentDigest]
        { cell with grant := some grant, grantDigest := some digest, state := .granted }
  | receipt (cell : Cell) (receipt : Receipt) (digest : Digest) (grant : Grant)
      (grantDigest : Digest)
      (state : cell.state = .granted)
      (granted : cell.grant = some grant)
      (grantDigested : cell.grantDigest = some grantDigest)
      (descends : ReceiptDescends receipt cell grant grantDigest)
      (valid : validateReceipt receipt grant cell.intent = .ok ()) :
      CellStep plan (some cell) (.receipt receipt) digest [cell.intentDigest, grantDigest]
        { cell with
          receipt := some receipt
          receiptDigest := some digest
          state := .receiptRecorded }
  | evidence (cell : Cell) (evidence : Evidence) (digest receiptDigest : Digest)
      (gate : GateAssessment)
      (state : cell.state = .receiptRecorded ∨ cell.state = .evidenceReady)
      (received : cell.receiptDigest = some receiptDigest)
      (targets : evidence.receiptDigest = receiptDigest)
      (fresh : evidence.evidenceId ∉ cell.evidence.map fun item => item.evidenceId)
      (gated : evidenceGate (cell.evidence ++ [evidence]) = .ok gate) :
      CellStep plan (some cell) (.evidence evidence) digest [receiptDigest]
        (cell.withEvidence evidence digest gate)
  | decision (cell : Cell) (decision : Decision) (digest : Digest) (receipt : Receipt)
      (receiptDigest : Digest)
      (state : cell.state = .evidenceReady)
      (received : cell.receipt = some receipt)
      (receiptDigested : cell.receiptDigest = some receiptDigest)
      (succeeded : receipt.outcome = .succeeded)
      (gated : evidenceGate cell.evidence = .ok decision.gate)
      (descends : DecisionDescends decision cell receipt receiptDigest) :
      CellStep plan (some cell) (.decision decision) digest
        (cell.intentDigest :: receiptDigest :: sortDigests cell.evidenceDigests)
        { cell with
          decision := some decision
          decisionDigest := some digest
          state := .decided }

/-! ### The verifier takes cell steps -/

section

variable (plan : MatrixPlan)

theorem verifyIntent_eq_ok (cells after : Cells) (entry : LedgerEntry)
    (intent : Intent) (named : intent.cellId = entry.cellId) :
    verifyIntent plan cells entry intent = .ok after ↔
      entry.eventType = .intentRecorded ∧ ∃ cell,
        CellStep plan (cells.get? entry.cellId) (.intent intent) entry.documentDigest
          entry.causalParents cell ∧
        after = cells.set entry.cellId cell := by
  unfold verifyIntent
  simp only [bind_eq_ok, raiseIf_eq_ok, expect_eq_ok, exists_const, not_or, not_not, ne_eq]
  constructor
  · rintro ⟨⟨event, parents, absent⟩, definition, declared, located, ⟨⟩⟩
    rw [(cells.get?_eq_none_iff entry.cellId).mpr absent, parents]
    exact ⟨event, _, .intent intent _ definition (named ▸ declared) located, rfl⟩
  · rintro ⟨event, cell, step, rfl⟩
    generalize beforeEq : cells.get? entry.cellId = before at step
    generalize parentsEq : entry.causalParents = parents at step
    cases step with
    | intent _ _ definition declared located =>
        exact ⟨⟨event, rfl, (cells.get?_eq_none_iff entry.cellId).mp beforeEq⟩, definition,
          named ▸ declared, located, rfl⟩

theorem verifyGrant_eq_ok (cell after : Cell) (entry : LedgerEntry) (grant : Grant) :
    verifyGrant cell entry grant = .ok after ↔
      entry.eventType = .grantRecorded ∧
        CellStep plan (some cell) (.grant grant) entry.documentDigest entry.causalParents after := by
  unfold verifyGrant
  simp only [bind_eq_ok, raiseIf_eq_ok, exists_const, not_or, not_not, ne_eq]
  constructor
  · rintro ⟨⟨state, event⟩, parents, scope, ⟨⟩⟩
    rw [parents]
    exact ⟨event, .grant cell grant _ state scope⟩
  · rintro ⟨event, step⟩
    generalize parentsEq : entry.causalParents = parents at step
    cases step with
    | grant _ _ _ state scope => exact ⟨⟨state, event⟩, rfl, scope, rfl⟩

theorem verifyReceipt_eq_ok (cell after : Cell) (entry : LedgerEntry) (receipt : Receipt) :
    verifyReceipt cell entry receipt = .ok after ↔
      entry.eventType = .receiptRecorded ∧
        CellStep plan (some cell) (.receipt receipt) entry.documentDigest entry.causalParents
          after := by
  unfold verifyReceipt
  simp only [bind_eq_ok, raiseIf_eq_ok, expect_pair_eq_ok, exists_const, not_or, not_not, ne_eq]
  constructor
  · rintro ⟨⟨state, event⟩, ⟨grant, grantDigest⟩, ⟨granted, digested⟩, parents, descends, ⟨⟩,
      valid, ⟨⟩⟩
    rw [parents]
    exact ⟨event, .receipt cell receipt _ grant grantDigest state granted digested descends valid⟩
  · rintro ⟨event, step⟩
    generalize parentsEq : entry.causalParents = parents at step
    cases step with
    | receipt _ _ _ grant grantDigest state granted digested descends valid =>
        exact ⟨⟨state, event⟩, ⟨grant, grantDigest⟩, ⟨granted, digested⟩, rfl, descends, (),
          valid, rfl⟩

theorem verifyEvidence_eq_ok (cell after : Cell) (entry : LedgerEntry) (evidence : Evidence) :
    verifyEvidence cell entry evidence = .ok after ↔
      CellStep plan (some cell) (.evidence evidence) entry.documentDigest entry.causalParents
        after := by
  unfold verifyEvidence
  simp only [bind_eq_ok, raiseIf_eq_ok, expect_eq_ok, exists_const, not_or, not_and_or, not_not,
    ne_eq]
  constructor
  · rintro ⟨state, receiptDigest, received, ⟨targets, parents⟩, fresh, gate, gated, ⟨⟩⟩
    rw [parents]
    exact .evidence cell evidence _ receiptDigest gate state received targets fresh gated
  · intro step
    generalize parentsEq : entry.causalParents = parents at step
    cases step with
    | evidence _ _ _ receiptDigest gate state received targets fresh gated =>
        exact ⟨state, receiptDigest, received, ⟨targets, rfl⟩, fresh, gate, gated, rfl⟩

theorem verifyDecision_eq_ok (cell after : Cell) (entry : LedgerEntry) (decision : Decision) :
    verifyDecision cell entry decision = .ok after ↔
      entry.eventType = .decisionRecorded ∧
        CellStep plan (some cell) (.decision decision) entry.documentDigest entry.causalParents
          after := by
  unfold verifyDecision receiptOf
  simp only [bind_eq_ok, raiseIf_eq_ok, expect_pair_eq_ok, exists_const, not_or, not_not, ne_eq]
  constructor
  · rintro ⟨⟨state, event⟩, ⟨receipt, receiptDigest⟩, ⟨received, digested⟩, gate, gated,
      ⟨parents, rfl⟩, descends, succeeded, ⟨⟩⟩
    rw [parents]
    exact ⟨event, .decision cell decision _ receipt receiptDigest state received digested
      succeeded gated descends⟩
  · rintro ⟨event, step⟩
    generalize parentsEq : entry.causalParents = parents at step
    cases step with
    | decision _ _ _ receipt receiptDigest state received digested succeeded gated descends =>
        exact ⟨⟨state, event⟩, ⟨receipt, receiptDigest⟩, ⟨received, digested⟩, decision.gate,
          gated, ⟨rfl, rfl⟩, descends, succeeded, rfl⟩

theorem onCell_eq_ok (cells after : Cells) (entry : LedgerEntry)
    (check : Cell → Except PyError Cell) :
    onCell cells entry check = .ok after ↔
      ∃ before cell, cells.get? entry.cellId = some before ∧ check before = .ok cell ∧
        after = cells.set entry.cellId cell := by
  unfold onCell
  simp only [bind_eq_ok, expect_eq_ok]
  constructor
  · rintro ⟨before, found, cell, checked, ⟨⟩⟩
    exact ⟨before, cell, found, checked, rfl⟩
  · rintro ⟨before, cell, found, checked, rfl⟩
    exact ⟨before, found, cell, checked, rfl⟩

/-- The event type an entry carries for each kind of cell document.  The
verifier looks at it for every kind but evidence. -/
def EventTypeChecked (entry : LedgerEntry) : Document → Prop
  | .matrixPlan _ => entry.eventType = .matrixFrozen
  | .intent _ => entry.eventType = .intentRecorded
  | .grant _ => entry.eventType = .grantRecorded
  | .receipt _ => entry.eventType = .receiptRecorded
  | .evidence _ => True
  | .decision _ => entry.eventType = .decisionRecorded

/-- A step that needs a cell finds one. -/
theorem CellStep.needs_cell {plan : MatrixPlan} {before : Option Cell} {document : Document}
    {digest : Digest} {parents : List Digest} {after : Cell}
    (step : CellStep plan before document digest parents after)
    (later : document.kind ≠ .intent) : ∃ cell, before = some cell := by
  cases step with
  | intent => exact absurd rfl later
  | grant cell => exact ⟨cell, rfl⟩
  | receipt cell => exact ⟨cell, rfl⟩
  | evidence cell => exact ⟨cell, rfl⟩
  | decision cell => exact ⟨cell, rfl⟩

private theorem onCell_step (cells after : Cells) (entry : LedgerEntry)
    (document : Document) (later : document.kind ≠ .intent) (event : Prop)
    (check : Cell → Except PyError Cell)
    (checks : ∀ before cell, check before = .ok cell ↔
      event ∧ CellStep plan (some before) document entry.documentDigest entry.causalParents cell) :
    onCell cells entry check = .ok after ↔
      event ∧ ∃ cell,
        CellStep plan (cells.get? entry.cellId) document entry.documentDigest entry.causalParents
          cell ∧
        after = cells.set entry.cellId cell := by
  rw [onCell_eq_ok]
  constructor
  · rintro ⟨before, cell, found, checked, rfl⟩
    obtain ⟨holds, step⟩ := (checks before cell).mp checked
    exact ⟨holds, cell, found ▸ step, rfl⟩
  · rintro ⟨holds, cell, step, rfl⟩
    obtain ⟨before, found⟩ := step.needs_cell later
    exact ⟨before, cell, found, (checks before cell).mpr ⟨holds, found ▸ step⟩, rfl⟩

/-- The verifier's transition is a cell step under the entry's event type. -/
theorem verifyTransition_eq_ok (cells after : Cells) (entry : LedgerEntry)
    (document : Document) (named : document.cellId = entry.cellId) :
    verifyTransition plan cells entry document = .ok after ↔
      EventTypeChecked entry document ∧ ∃ cell,
        CellStep plan (cells.get? entry.cellId) document entry.documentDigest entry.causalParents
          cell ∧
        after = cells.set entry.cellId cell := by
  cases document with
  | matrixPlan document =>
      constructor
      · intro impossible; cases impossible
      · rintro ⟨_, cell, step, _⟩
        generalize cells.get? entry.cellId = before at step
        cases step
  | intent document => exact verifyIntent_eq_ok plan cells after entry document named
  | grant document =>
      exact onCell_step plan cells after entry _ (by simp [Document.kind]) _ _
        fun before cell => verifyGrant_eq_ok plan before cell entry document
  | receipt document =>
      exact onCell_step plan cells after entry _ (by simp [Document.kind]) _ _
        fun before cell => verifyReceipt_eq_ok plan before cell entry document
  | evidence document =>
      refine onCell_step plan cells after entry _ (by simp [Document.kind]) _ _
        fun before cell => ?_
      rw [verifyEvidence_eq_ok plan]
      simp [EventTypeChecked]
  | decision document =>
      exact onCell_step plan cells after entry _ (by simp [Document.kind]) _ _
        fun before cell => verifyDecision_eq_ok plan before cell entry document

end

end EgoAgent.Rxp
