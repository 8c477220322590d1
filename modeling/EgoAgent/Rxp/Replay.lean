import EgoAgent.Rxp.Machine

/-!
What an accepted ledger document was replayed from.

`EntryAccepted` says everything the verifier checks about one entry and what it
keeps; `Replayed` collects accepted entries with the documents parsed from
them.  Facts about accepted ledgers are inductions over `Replayed`.
-/

namespace EgoAgent.Rxp

open Platform MatrixLedger

variable [Platform]

/-! ### One entry -/

structure EntryAccepted (matrixId : Ident) (state : VerifierState) (entry : LedgerEntry)
    (parsed : Document) (next : VerifierState) : Prop where
  sequence : entry.sequence.val = state.expectedSequence
  entryMatrix : entry.matrixId = matrixId
  previousRoot : entry.previousRoot = state.root
  parses : Document.parse entry.documentKind entry.document.value = .ok parsed
  cellId : parsed.cellId = entry.cellId
  documentMatrix : parsed.matrixId = entry.matrixId
  timestamp : ∃ timestamp, parseUtc entry.recordedAt.val = .ok timestamp ∧
    (∀ previous ∈ state.previousTimestamp, previous ≤ timestamp) ∧
    next.previousTimestamp = some timestamp
  digest : digestDocument parsed.value = .ok entry.documentDigest
  fresh : entry.documentDigest ∉ state.seenDigests
  noted : noteIdentifiers state parsed = .ok (next.seenIntentIds, next.seenGrantIds)
  entryDigest : digestLedgerEntry (LedgerEntryCore.codec.dump entry.toLedgerEntryCore) =
    .ok entry.entryDigest
  root : entry.root = extendLedgerRoot state.root entry.entryDigest
  parents : ∀ parent ∈ entry.causalParents, parent ∈ state.seenDigests
  applied : applyDocument matrixId state entry parsed = .ok (next.matrixPlan, next.cells)
  recordedAt : verifyRecordedAt entry parsed = .ok ()
  nextSequence : next.expectedSequence = state.expectedSequence + 1
  nextRoot : next.root = entry.root
  nextSeen : next.seenDigests = state.seenDigests ++ [entry.documentDigest]

section

variable (matrixId : Ident)

theorem verifyEntry_eq_ok (state next : VerifierState) (entry : LedgerEntry) :
    verifyEntry matrixId state entry = .ok next ↔
      ∃ parsed, EntryAccepted matrixId state entry parsed next := by
  unfold verifyEntry
  simp only [bind_eq_ok, raiseIf_eq_ok, exists_const, not_or, not_not, ne_eq, not_exists, not_and,
    not_lt]
  constructor
  · rintro ⟨sequence, ⟨entryMatrix, previousRoot⟩, parsed, parses, cellId, documentMatrix,
      timestamp, timestampEq, ordered, _, digested, rfl, fresh, ⟨intentIds, grantIds⟩, noted, _,
      entryDigested, rfl, root, parents, ⟨plan, cells⟩, applied, ⟨⟩, recordedAt, ⟨⟩⟩
    exact ⟨parsed, {
      sequence, entryMatrix, previousRoot, parses, cellId, documentMatrix
      timestamp := ⟨timestamp, timestampEq, ordered, rfl⟩
      digest := digested
      fresh, noted
      entryDigest := entryDigested
      root := root.symm
      parents, applied, recordedAt
      nextSequence := rfl
      nextRoot := root
      nextSeen := rfl }⟩
  · rintro ⟨parsed, accepted⟩
    obtain ⟨timestamp, timestampEq, ordered, nextTimestamp⟩ := accepted.timestamp
    refine ⟨accepted.sequence, ⟨accepted.entryMatrix, accepted.previousRoot⟩, parsed,
      accepted.parses, accepted.cellId, accepted.documentMatrix, timestamp, timestampEq, ordered,
      _, accepted.digest, rfl, accepted.fresh, _, accepted.noted, _, accepted.entryDigest, rfl,
      accepted.root.symm, accepted.parents, _, accepted.applied, (), accepted.recordedAt, ?_⟩
    have nextEq : next = {
        expectedSequence := state.expectedSequence + 1
        root := extendLedgerRoot state.root entry.entryDigest
        cells := next.cells
        matrixPlan := next.matrixPlan
        seenDigests := state.seenDigests ++ [entry.documentDigest]
        seenIntentIds := next.seenIntentIds
        seenGrantIds := next.seenGrantIds
        previousTimestamp := some timestamp } := by
      rw [← accepted.nextSequence, ← accepted.root, ← accepted.nextRoot, ← accepted.nextSeen,
        ← nextTimestamp]
    rw [nextEq]
    rfl

/-- A plan is applied once, to the first entry. -/
theorem applyDocument_plan (state : VerifierState) (entry : LedgerEntry)
    (plan : MatrixPlan) (result : Option MatrixPlan × Cells) :
    applyDocument matrixId state entry (.matrixPlan plan) = .ok result ↔
      state.expectedSequence = 1 ∧ state.matrixPlan = none ∧ entry.eventType = .matrixFrozen ∧
        entry.cellId = Document.planCellId ∧ entry.causalParents = [] ∧
        plan.matrixId = matrixId ∧ result = (some plan, state.cells) := by
  simp only [applyDocument, bind_eq_ok, raiseIf_eq_ok, exists_const, not_or, not_not, ne_eq,
    Option.not_isSome_iff_eq_none]
  constructor
  · rintro ⟨⟨first, absent, event, cellId, parents, same⟩, ⟨⟩⟩
    exact ⟨first, absent, event, cellId, parents, same, rfl⟩
  · rintro ⟨first, absent, event, cellId, parents, same, rfl⟩
    exact ⟨⟨first, absent, event, cellId, parents, same⟩, rfl⟩

/-- Any other document takes one step of the cell its entry names. -/
theorem applyDocument_cell (state : VerifierState) (entry : LedgerEntry)
    (document : Document) (result : Option MatrixPlan × Cells)
    (later : document.kind ≠ .matrixPlan) (named : document.cellId = entry.cellId) :
    applyDocument matrixId state entry document = .ok result ↔
      ∃ plan cell, state.matrixPlan = some plan ∧ EventTypeChecked entry document ∧
        CellStep plan (state.cells.get? entry.cellId) document entry.documentDigest
          entry.causalParents cell ∧
        result = (some plan, state.cells.set entry.cellId cell) := by
  have unfolded : applyDocument matrixId state entry document = (do
      let plan ← expect (transitionInvalid "MatrixPlan must be the first entry") state.matrixPlan
      let cells ← verifyTransition plan state.cells entry document
      return (some plan, cells)) := by
    cases document with
    | matrixPlan => exact absurd rfl later
    | _ => rfl
  rw [unfolded]
  simp only [bind_eq_ok, expect_eq_ok]
  constructor
  · rintro ⟨plan, present, cells, transitioned, ⟨⟩⟩
    obtain ⟨event, cell, step, rfl⟩ :=
      (verifyTransition_eq_ok plan state.cells cells entry document named).mp transitioned
    exact ⟨plan, cell, present, event, step, rfl⟩
  · rintro ⟨plan, cell, present, event, step, rfl⟩
    exact ⟨plan, present, _, (verifyTransition_eq_ok plan state.cells _ entry document named).mpr
      ⟨event, cell, step, rfl⟩, rfl⟩

/-! ### Whole ledgers -/

/-- Accepted entries in order, each with the document parsed from it. -/
abbrev History := List (LedgerEntry × Document)

inductive Replayed (matrixId : Ident) : History → VerifierState → Prop where
  | start : Replayed matrixId [] VerifierState.initial
  | step {history : History} {state next : VerifierState} {entry : LedgerEntry}
      {parsed : Document}
      (earlier : Replayed matrixId history state)
      (accepted : EntryAccepted matrixId state entry parsed next) :
      Replayed matrixId (history ++ [(entry, parsed)]) next

private theorem verifyEntries_append (state : VerifierState)
    (entries : List LedgerEntry) (last : LedgerEntry) :
    verifyEntries matrixId state (entries ++ [last]) =
      verifyEntries matrixId state entries >>= fun next => verifyEntry matrixId next last := by
  induction entries generalizing state with
  | nil =>
      simp only [List.nil_append, verifyEntries]
      change (verifyEntry matrixId state last >>= fun next => .ok next) =
        verifyEntry matrixId state last
      cases verifyEntry matrixId state last <;> rfl
  | cons entry rest ih =>
      simp only [List.cons_append, verifyEntries]
      cases verifyEntry matrixId state entry with
      | error => rfl
      | ok next => exact ih next

theorem verifyEntries_eq_ok (entries : List LedgerEntry) (state : VerifierState) :
    verifyEntries matrixId VerifierState.initial entries = .ok state ↔
      ∃ history, history.map Prod.fst = entries ∧ Replayed matrixId history state := by
  induction entries using List.reverseRecOn generalizing state with
  | nil =>
      constructor
      · rintro ⟨⟩
        exact ⟨[], rfl, .start⟩
      · rintro ⟨history, same, replayed⟩
        cases replayed with
        | start => rfl
        | step => simp at same
  | append_singleton entries last ih =>
      rw [verifyEntries_append, bind_eq_ok]
      constructor
      · rintro ⟨middle, before, accepted⟩
        obtain ⟨history, rfl, replayed⟩ := (ih middle).mp before
        obtain ⟨parsed, accepted⟩ := (verifyEntry_eq_ok matrixId middle state last).mp accepted
        exact ⟨history ++ [(last, parsed)], by simp, .step replayed accepted⟩
      · rintro ⟨history, same, replayed⟩
        cases replayed with
        | start => simp at same
        | @step earlier middle _ entry parsed replayed accepted =>
            rw [List.map_append, List.map_singleton, List.append_singleton_inj] at same
            obtain ⟨sameEntries, rfl⟩ := same
            exact ⟨middle, (ih middle).mpr ⟨earlier, sameEntries, replayed⟩,
              (verifyEntry_eq_ok matrixId middle state _).mpr ⟨parsed, accepted⟩⟩

end

/-- What `verify_ledger_document` establishes. -/
structure Accepted (document : MatrixLedgerDocument) (history : History) (plan : MatrixPlan)
    (state : VerifierState) : Prop where
  entries : history.map Prod.fst = document.entries
  replayed : Replayed document.matrixId history state
  frozen : state.matrixPlan = some plan
  planDigest : digestDocument (MatrixPlan.codec.dump plan) = .ok document.matrixPlanDigest
  root : state.root = document.root
  cells : Cells.sorted state.cells = document.cells
  expectedCount : document.expectedCellCount.val = plan.cells.length
  decidedCount : document.decidedCellCount.val = (Cells.decided state.cells).length
  missing : document.missingDecisions = missingDecisions plan state.cells

theorem verifyLedgerDocument_eq_ok (document : MatrixLedgerDocument) :
    verifyLedgerDocument document = .ok () ↔
      ∃ history plan state, Accepted document history plan state := by
  unfold verifyLedgerDocument
  simp only [bind_eq_ok, raiseIf_eq_ok, expect_eq_ok, not_not, verifyEntries_eq_ok]
  constructor
  · rintro ⟨state, ⟨history, entries, replayed⟩, plan, present, planDigest, digested, root, cells,
      rfl, expectedCount, decidedCount, missing⟩
    exact ⟨history, plan, state, entries, replayed, present, digested, root, cells, expectedCount,
      decidedCount, missing⟩
  · rintro ⟨history, plan, state, accepted⟩
    exact ⟨state, ⟨history, accepted.entries, accepted.replayed⟩, plan, accepted.frozen, _,
      accepted.planDigest, accepted.root, accepted.cells, rfl, accepted.expectedCount,
      accepted.decidedCount, accepted.missing⟩

end EgoAgent.Rxp
