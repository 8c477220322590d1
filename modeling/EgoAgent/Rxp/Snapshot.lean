import EgoAgent.Lib.KeySort
import EgoAgent.Rxp.DecisionSupport

/-!
The snapshot of a ledger whose cells are filed under declared identifiers.

Decided and missing cells are complementary, so the counts of the snapshot add
up and the document can be built.
-/

namespace EgoAgent.Rxp

open Platform MatrixLedger

private theorem sortedText_pairwise (texts : List String) :
    (sortedText texts).Pairwise (· ≤ ·) :=
  List.pairwise_insertionSort (· ≤ ·) texts

/-- Sorting sorted text changes nothing. -/
theorem sortedText_of_pairwise {texts : List String} (sorted : texts.Pairwise (· ≤ ·)) :
    sortedText texts = texts :=
  List.Pairwise.insertionSort_eq sorted

theorem sortedText_idem (texts : List String) : sortedText (sortedText texts) = sortedText texts :=
  sortedText_of_pairwise (sortedText_pairwise texts)

variable [Platform]

/-- Cells under distinct identifiers, each under its intent's, all declared. -/
structure CellsFiled (plan : MatrixPlan) (cells : Cells) : Prop where
  distinct : cells.keys.Nodup
  keyed : ∀ cellId cell, cells.get? cellId = some cell → cell.intent.cellId = cellId
  declared : ∀ cellId cell, cells.get? cellId = some cell →
    ∃ definition, expectedCell plan cellId = some definition

/-- The document is what `snapshot` reports of the ledger. -/
structure SnapshotOf (ledger : MatrixLedger) (document : MatrixLedgerDocument) : Prop where
  matrixId : document.matrixId = ledger.matrixId
  planDigest : document.matrixPlanDigest = ledger.matrixPlanDigest
  expectedCount : document.expectedCellCount.val = ledger.matrixPlan.cells.length
  decidedCount : document.decidedCellCount.val = (Cells.decided ledger.cells).length
  missing : document.missingDecisions = missingDecisions ledger.matrixPlan ledger.cells
  completeness : document.completeness =
    if missingDecisions ledger.matrixPlan ledger.cells = [] then .complete else .incomplete
  root : document.root = ledger.root
  entries : document.entries = ledger.entries
  cells : document.cells = Cells.sorted ledger.cells

namespace CellsFiled

variable {plan : MatrixPlan} {cells : Cells} (filed : CellsFiled plan cells)

include filed

/-- A cell of the list is the one found under its key. -/
theorem get?_of_mem {entry : Ident × Cell} (present : entry ∈ cells) :
    cells.get? entry.1 = some entry.2 :=
  Dict.get?_of_mem cells filed.distinct present

theorem decided_nodup : ((Cells.decided cells).map Subtype.val).Nodup := by
  refine List.Nodup.map Subtype.val_injective ?_
  unfold Cells.decided
  exact filed.distinct.sublist (List.filter_sublist.map Prod.fst)

theorem decided_declared : ∀ cellId ∈ (Cells.decided cells).map Subtype.val,
    cellId ∈ plan.cellIds := by
  intro cellId present
  obtain ⟨ident, inDecided, rfl⟩ := List.mem_map.mp present
  obtain ⟨entry, inCells, rfl⟩ := List.mem_map.mp inDecided
  obtain ⟨definition, declared⟩ := filed.declared entry.1 entry.2
    (filed.get?_of_mem (List.mem_of_mem_filter inCells))
  have named := List.find?_some declared
  have inPlan := List.mem_of_find?_eq_some declared
  simp only [decide_eq_true_eq] at named
  rw [← named]
  exact List.mem_map_of_mem (f := fun cell : MatrixCellDefinition => cell.cellId.val) inPlan

/-- Every declared cell is decided or missing, and none is both. -/
theorem counts : (Cells.decided cells).length + (missingDecisions plan cells).length =
    plan.cells.length := by
  have planDistinct : plan.cellIds.Nodup := plan.cellsComplete.2.2.2.1.2
  have decidedPerm : (plan.cellIds.filter fun cellId =>
      cellId ∈ (Cells.decided cells).map Subtype.val).Perm
        ((Cells.decided cells).map Subtype.val) := by
    rw [List.perm_ext_iff_of_nodup (planDistinct.filter _) filed.decided_nodup]
    intro cellId
    rw [List.mem_filter, decide_eq_true_eq]
    exact ⟨And.right, fun present => ⟨filed.decided_declared cellId present, present⟩⟩
  have missingLength : (missingDecisions plan cells).length = (plan.cellIds.filter fun cellId =>
      !decide (cellId ∈ (Cells.decided cells).map Subtype.val)).length := by
    unfold missingDecisions sortedText
    rw [List.length_insertionSort]
    simp only [decide_not]
  have decidedLength := decidedPerm.length_eq
  rw [List.length_map] at decidedLength
  have total := List.length_eq_length_filter_add (l := plan.cellIds)
    (fun cellId => decide (cellId ∈ (Cells.decided cells).map Subtype.val))
  have planLength : plan.cellIds.length = plan.cells.length := List.length_map ..
  omega

theorem sorted_ids : (Cells.sorted cells).map (fun cell => cell.cellId.val) =
    (cells.insertionSort fun left right => left.1.val ≤ right.1.val).map fun entry =>
      entry.1.val := by
  unfold Cells.sorted
  rw [List.map_map]
  refine List.map_congr_left fun entry present => ?_
  have inCells := (List.perm_insertionSort _ cells).mem_iff.mp present
  exact congrArg Subtype.val (filed.keyed entry.1 entry.2 (filed.get?_of_mem inCells))

theorem sorted_sorted : sortedText ((Cells.sorted cells).map fun cell => cell.cellId.val) =
    (Cells.sorted cells).map fun cell => cell.cellId.val := by
  rw [filed.sorted_ids]
  refine sortedText_of_pairwise ?_
  rw [List.pairwise_map]
  exact sortedByKey_ascending (fun cell : Ident × Cell => cell.1.val) cells

end CellsFiled

/-- A cell step files its cell under its own, declared, identifier. -/
theorem CellsFiled.step {plan : MatrixPlan} {cells : Cells} (filed : CellsFiled plan cells)
    {document : Document} {digest : Digest} {parents : List Digest} {after : Cell}
    (taken : CellStep plan (cells.get? document.cellId) document digest parents after) :
    CellsFiled plan (cells.set document.cellId after) := by
  have here : after.intent.cellId = document.cellId ∧
      ∃ definition, expectedCell plan document.cellId = some definition := by
    generalize foundEq : cells.get? document.cellId = before at taken
    by_cases isIntent : document.kind = .intent
    · cases taken with
      | intent intent _ definition declared => exact ⟨rfl, definition, declared⟩
      | _ => cases isIntent
    · obtain ⟨cell, rfl⟩ := taken.needs_cell isIntent
      rw [taken.keeps_intent]
      exact ⟨filed.keyed _ cell foundEq, filed.declared _ cell foundEq⟩
  refine ⟨Dict.keys_set_nodup _ _ _ filed.distinct, ?_, ?_⟩
  · intro cellId cell found
    rw [Dict.get?_set] at found
    split at found
    · rename_i same
      rw [← Option.some.inj found, same]
      exact here.1
    · exact filed.keyed cellId cell found
  · intro cellId cell found
    rw [Dict.get?_set] at found
    split at found
    · rename_i same
      rw [same]
      exact here.2
    · exact filed.declared cellId cell found

theorem Replayed.filed {matrixId : Ident} {history : History} {state : VerifierState}
    (replayed : Replayed matrixId history state) {plan : MatrixPlan}
    (frozen : state.matrixPlan = some plan) : CellsFiled plan state.cells := by
  obtain ⟨distinct, keyed⟩ := replayed.cells_keyed
  refine ⟨distinct, keyed, fun cellId cell found => ?_⟩
  obtain ⟨definition, declared, _⟩ := (replayed.cellRun plan frozen cellId).located cell found
  rw [keyed cellId cell found] at declared
  exact ⟨definition, declared⟩

/-- The snapshot of a ledger with filed cells can be taken. -/
theorem snapshot_returns (ledger : MatrixLedger)
    (filed : CellsFiled ledger.matrixPlan ledger.cells) :
    ∃ document, ledger.snapshot = .ok document ∧ SnapshotOf ledger document := by
  have counts := filed.counts
  have bounds := ledger.matrixPlan.cellsComplete.2.1
  let fields : MatrixLedgerFields := {
    matrixId := ledger.matrixId
    matrixPlanDigest := ledger.matrixPlanDigest
    expectedCellCount := ⟨ledger.matrixPlan.cells.length, by omega⟩
    decidedCellCount := ⟨(Cells.decided ledger.cells).length, by omega⟩
    missingDecisions := missingDecisions ledger.matrixPlan ledger.cells
    completeness :=
      if missingDecisions ledger.matrixPlan ledger.cells = [] then .complete else .incomplete
    entryCount := ⟨ledger.entries.length, by omega⟩
    root := ledger.root
    entries := ledger.entries
    cells := Cells.sorted ledger.cells }
  have legal : fields.countMatches := by
    refine ⟨rfl, filed.sorted_sorted, ?_, sortedText_idem _, rfl⟩
    change ((Cells.decided ledger.cells).length : Int) +
      (missingDecisions ledger.matrixPlan ledger.cells).length = ledger.matrixPlan.cells.length
    exact_mod_cast counts
  refine ⟨{ fields with countsMatch := legal }, ?_, ⟨rfl, rfl, rfl, rfl, rfl, rfl, rfl, rfl, rfl⟩⟩
  unfold snapshot
  rw [bind_eq_ok]
  refine ⟨fields.expectedCellCount,
    (expect_eq_ok _ _ _).mpr ((Codec.permit_eq_some _ _ _).mpr rfl), ?_⟩
  rw [bind_eq_ok]
  refine ⟨fields.decidedCellCount,
    (expect_eq_ok _ _ _).mpr ((Codec.permit_eq_some _ _ _).mpr rfl), ?_⟩
  rw [bind_eq_ok]
  exact ⟨⟨fields, legal⟩, (expect_eq_ok _ _ _).mpr ((Codec.permit_eq_some _ _ _).mpr rfl), rfl⟩

end EgoAgent.Rxp
