import EgoAgent.Rxp.CellHistory

/-!
The documents of a cell, read back from a ledger document.

`cellDocuments` filters the entries of a cell; in an accepted ledger they are
the history the verifier replayed for it.  `ReceiptWithinGrant` says what a
receipt that passed validation satisfies.
-/

namespace EgoAgent.Rxp

open Platform MatrixLedger

variable [Platform]

/-! ### What a valid receipt says -/

structure ReceiptWithinGrant (receipt : Receipt) (grant : Grant) (intent : Intent) : Prop where
  times : ∃ started completed issued expires,
    parseUtc receipt.startedAt.val = .ok started ∧
    parseUtc receipt.completedAt.val = .ok completed ∧
    parseUtc grant.claims.issuedAt.val = .ok issued ∧
    parseUtc grant.claims.expiresAt.val = .ok expires ∧
    started ≤ completed ∧ issued ≤ started + clockSkewSeconds ∧ started < expires
  gpuCount : receipt.usage.gpuCount.val ≤ grant.claims.bounds.maxGpuCount.val
  wallTime : receipt.usage.wallTimeSeconds.val ≤ grant.claims.bounds.maxWallTimeSeconds.val
  gpuTime : receipt.usage.gpuTimeSeconds.val ≤ grant.claims.bounds.maxGpuTimeSeconds.val
  artifactBytes : receipt.usage.artifactBytes.val ≤ grant.claims.bounds.maxArtifactBytes.val
  outputBytes : receipt.output.bytes.val = receipt.usage.artifactBytes.val
  aboveMinimum : grant.claims.minimumDeterminism.rank ≤ receipt.determinismLevel.rank
  aboveRequired : intent.requiredDeterminism.rank ≤ receipt.determinismLevel.rank

theorem validateReceipt_eq_ok (receipt : Receipt) (grant : Grant) (intent : Intent) :
    validateReceipt receipt grant intent = .ok () ↔ ReceiptWithinGrant receipt grant intent := by
  unfold validateReceipt
  simp only [bind_eq_ok, raiseIf_eq_ok, exists_const, not_not, ne_eq, not_lt, ge_iff_le, not_le,
    mismatches_eq_nil, List.forall_mem_cons, decide_eq_true_eq]
  constructor
  · rintro ⟨started, startedEq, completed, completedEq, issued, issuedEq, expires, expiresEq,
      ordered, issuedFirst, unexpired, ⟨gpuCount, wallTime, gpuTime, artifactBytes, outputBytes,
      _⟩, aboveMinimum, aboveRequired⟩
    exact ⟨⟨started, completed, issued, expires, startedEq, completedEq, issuedEq, expiresEq,
      ordered, issuedFirst, unexpired⟩, gpuCount, wallTime, gpuTime, artifactBytes, outputBytes,
      aboveMinimum, aboveRequired⟩
  · rintro ⟨⟨started, completed, issued, expires, startedEq, completedEq, issuedEq, expiresEq,
      ordered, issuedFirst, unexpired⟩, gpuCount, wallTime, gpuTime, artifactBytes, outputBytes,
      aboveMinimum, aboveRequired⟩
    exact ⟨started, startedEq, completed, completedEq, issued, issuedEq, expires, expiresEq,
      ordered, issuedFirst, unexpired, ⟨gpuCount, wallTime, gpuTime, artifactBytes, outputBytes,
      by simp⟩, aboveMinimum, aboveRequired⟩

/-! ### The documents of a cell -/

/-- The document embedded in an entry of a cell, with its digest. -/
def cellDocument (cellId : Ident) (entry : LedgerEntry) : Option (Document × Digest) :=
  if entry.documentKind ≠ .matrixPlan ∧ entry.cellId = cellId then
    (Document.parse entry.documentKind entry.document.value).toOption.map fun parsed =>
      (parsed, entry.documentDigest)
  else none

/-- The documents a ledger holds for a cell, in the order of its entries. -/
def cellDocuments (document : MatrixLedgerDocument) (cellId : Ident) : CellHistory :=
  document.entries.filterMap (cellDocument cellId)

theorem Document.kind_of_parse {kind : DocumentKind} {value : Value} {parsed : Document}
    (parses : Document.parse kind value = .ok parsed) : parsed.kind = kind := by
  unfold Document.parse at parses
  rw [expect_eq_ok] at parses
  cases kind <;>
    · simp only [Option.map_eq_some_iff] at parses
      obtain ⟨_, _, rfl⟩ := parses
      rfl

private theorem filterMap_ofCell (history : History) (cellId : Ident)
    (parsed : ∀ item ∈ history,
      Document.parse item.1.documentKind item.1.document.value = .ok item.2) :
    (history.map Prod.fst).filterMap (cellDocument cellId) = history.ofCell cellId := by
  induction history with
  | nil => rfl
  | cons item rest ih =>
      obtain ⟨entry, document⟩ := item
      have parses := parsed (entry, document) List.mem_cons_self
      have sameKind := Document.kind_of_parse parses
      have later := ih fun other present => parsed other (List.mem_cons_of_mem _ present)
      simp only at parses sameKind
      unfold History.ofCell at later ⊢
      rw [List.map_cons, List.filterMap_cons, List.filter_cons, later]
      simp only [cellDocument, parses, sameKind, Except.toOption, Option.map_some]
      by_cases here : entry.documentKind ≠ .matrixPlan ∧ entry.cellId = cellId
      · simp [here]
      · simp only [if_neg here, decide_eq_false here, Bool.false_eq_true, if_false]

theorem Accepted.cellDocuments_eq {document : MatrixLedgerDocument} {history : History}
    {plan : MatrixPlan} {state : VerifierState} (accepted : Accepted document history plan state)
    (cellId : Ident) : cellDocuments document cellId = history.ofCell cellId := by
  unfold cellDocuments
  rw [← accepted.entries]
  exact filterMap_ofCell history cellId fun item present =>
    (accepted.replayed.entries_parsed item present).1

/-- A snapshot the document reports is that of a cell of the replayed state. -/
theorem Accepted.cell_of_snapshot {document : MatrixLedgerDocument} {history : History}
    {plan : MatrixPlan} {state : VerifierState} (accepted : Accepted document history plan state)
    {snapshot : CellSnapshot} (reported : snapshot ∈ document.cells) :
    ∃ cell, state.cells.get? snapshot.cellId = some cell ∧ snapshot = cell.snapshot := by
  rw [← accepted.cells] at reported
  unfold Cells.sorted at reported
  obtain ⟨⟨cellId, cell⟩, present, rfl⟩ := List.mem_map.mp reported
  have inCells := (List.perm_insertionSort _ state.cells).mem_iff.mp present
  obtain ⟨distinct, keyed⟩ := accepted.replayed.cells_keyed
  have found := Dict.get?_of_mem state.cells distinct inCells
  have named := keyed cellId cell found
  refine ⟨cell, ?_, rfl⟩
  change state.cells.get? cell.intent.cellId = some cell
  rw [named]
  exact found

end EgoAgent.Rxp
