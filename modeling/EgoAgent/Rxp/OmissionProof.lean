import EgoAgent.Rxp.Sample

/-!
How exact the omission proof is.

In a complete ledger every declared cell is decided.  Its intents state the
coordinates of the product exactly when they state them in the JSON types of
the plan, no two of them the same: the comparison with the plan takes the
boolean true for the integer 1.
-/

namespace EgoAgent.Rxp

open Platform MatrixLedger

section General

variable [Platform]

/-- The intent a document is, if it is one. -/
def Document.asIntent : Document → Option Intent
  | .intent document => some document
  | _ => none

namespace MatrixLedgerDocument

/-- The recorded intents, in the order of their entries. -/
def intents (document : MatrixLedgerDocument) : List Intent :=
  document.entries.filterMap fun entry =>
    (Document.parse entry.documentKind entry.document.value).toOption.bind Document.asIntent

/-- The canonical bytes of the coordinates the recorded intent of a cell states. -/
def coordinatesOf (document : MatrixLedgerDocument) (cellId : Ident) : Option Bytes :=
  (document.intents.find? fun intent => intent.cellId = cellId).bind fun intent =>
    canonicalBytes unicode intent.coordinates.value

/-- The coordinate assignments of the product of the frozen plan's axes. -/
def assignments (document : MatrixLedgerDocument) : List (Option Bytes) :=
  document.plan.elim [] fun plan => plan.expected

/-- The coordinates of the cells the frozen plan declares. -/
def declared (document : MatrixLedgerDocument) : List (Option Bytes) :=
  document.plan.elim [] fun plan => plan.actual

end MatrixLedgerDocument

/-- Every assignment of the product has exactly one decided cell, and no decided
cell lies outside the product. -/
structure OmissionExact (document : MatrixLedgerDocument) : Prop where
  exactlyOne : ∀ assignment ∈ document.assignments, ∃! snapshot, snapshot ∈ document.cells ∧
    snapshot.state = .decided ∧ document.coordinatesOf snapshot.cellId = assignment
  inside : ∀ snapshot ∈ document.cells, snapshot.state = .decided →
    document.coordinatesOf snapshot.cellId ∈ document.assignments

/-- Every intent states, byte for byte, the coordinates of a declared cell, and
no two intents state the same. -/
def IntentsTyped (document : MatrixLedgerDocument) : Prop :=
  (∀ intent ∈ document.intents,
    canonicalBytes unicode intent.coordinates.value ∈ document.declared) ∧
  (document.intents.map fun intent => canonicalBytes unicode intent.coordinates.value).Nodup

/-! ### The intents of an accepted ledger -/

theorem cells_set_intents (cells : Cells) (here : Ident) (after : Cell) :
    (∀ before, cells.get? here = some before → after.intent = before.intent →
      (cells.set here after).map (fun entry => entry.2.intent) =
        cells.map fun entry => entry.2.intent) ∧
    (cells.get? here = none → (cells.set here after).map (fun entry => entry.2.intent) =
      cells.map (fun entry => entry.2.intent) ++ [after.intent]) := by
  induction cells with
  | nil => exact ⟨fun _ impossible => (by cases impossible), fun _ => rfl⟩
  | cons entry rest ih =>
      obtain ⟨key, cell⟩ := entry
      by_cases same : key = here
      · refine ⟨fun before found kept => ?_, fun impossible => ?_⟩
        · simp only [Dict.get?, if_pos same, Option.some.injEq] at found
          simp only [Dict.set, if_pos same, List.map_cons, kept, found]
        · simp [Dict.get?, same] at impossible
      · simp only [Dict.get?, Dict.set, if_neg same, List.map_cons, List.cons_append]
        exact ⟨fun before found kept => by rw [ih.1 before found kept],
          fun absent => by rw [ih.2 absent]⟩

/-- The verifier's cells are the recorded intents, in their order. -/
theorem Replayed.cell_intents {matrixId : Ident} {history : History} {state : VerifierState}
    (replayed : Replayed matrixId history state) :
    (history.filterMap fun item => item.2.asIntent) =
      state.cells.map fun entry => entry.2.intent := by
  induction replayed with
  | start => rfl
  | @step history state next entry parsed earlier accepted ih =>
      rw [List.filterMap_append, ih]
      by_cases isPlan : parsed.kind = .matrixPlan
      · cases parsed with
        | matrixPlan plan =>
            obtain ⟨_, _, _, _, _, _, same⟩ :=
              (applyDocument_plan matrixId state entry plan _).mp accepted.applied
            rw [(Prod.mk.inj same).2]
            exact List.append_nil _
        | _ => cases isPlan
      · obtain ⟨plan, cell, _, _, taken, same⟩ :=
          (applyDocument_cell matrixId state entry parsed _ isPlan accepted.cellId).mp
            accepted.applied
        rw [(Prod.mk.inj same).2]
        by_cases isIntent : parsed.kind = .intent
        · cases parsed with
          | intent intent =>
              generalize foundEq : state.cells.get? entry.cellId = before at taken
              generalize entry.causalParents = parents at taken
              cases taken with
              | intent =>
                  rw [(cells_set_intents state.cells entry.cellId _).2 foundEq]
                  rfl
          | _ => cases isIntent
        · obtain ⟨before, found⟩ := taken.needs_cell isIntent
          rw [found] at taken
          rw [(cells_set_intents state.cells entry.cellId cell).1 before found taken.keeps_intent]
          cases parsed with
          | intent => exact absurd rfl isIntent
          | _ => exact List.append_nil _

/-- The plan the verifier froze is the document of the first entry. -/
theorem Replayed.plan_first {matrixId : Ident} {history : History} {state : VerifierState}
    (replayed : Replayed matrixId history state) {plan : MatrixPlan}
    (frozen : state.matrixPlan = some plan) :
    ∃ entry rest, history = (entry, .matrixPlan plan) :: rest := by
  induction replayed with
  | start => cases frozen
  | @step history state next entry parsed earlier accepted ih =>
      by_cases isPlan : parsed.kind = .matrixPlan
      · cases parsed with
        | matrixPlan document =>
            obtain ⟨_, absent, _, _, _, _, same⟩ :=
              (applyDocument_plan matrixId state entry document _).mp accepted.applied
            obtain ⟨rfl, _⟩ := earlier.empty_of_no_plan absent
            rw [(Prod.mk.inj same).1] at frozen
            obtain rfl := Option.some.inj frozen
            exact ⟨entry, [], rfl⟩
        | _ => cases isPlan
      · obtain ⟨earlierPlan, cell, present, _, _, same⟩ :=
          (applyDocument_cell matrixId state entry parsed _ isPlan accepted.cellId).mp
            accepted.applied
        rw [(Prod.mk.inj same).1] at frozen
        obtain rfl := Option.some.inj frozen
        obtain ⟨first, rest, rfl⟩ := ih present
        exact ⟨first, rest ++ [(entry, parsed)], rfl⟩

/-- The intent of a cell is the only one recorded under the cell's identifier. -/
private theorem find_intent (cells : Cells) (wanted : Ident)
    (keyed : ∀ entry ∈ cells, entry.2.intent.cellId = entry.1) :
    (cells.map fun entry => entry.2.intent).find? (fun intent => intent.cellId = wanted) =
      (cells.get? wanted).map fun cell => cell.intent := by
  induction cells with
  | nil => rfl
  | cons entry rest ih =>
      have later := ih fun other present => keyed other (List.mem_cons_of_mem _ present)
      have named := keyed entry List.mem_cons_self
      obtain ⟨key, cell⟩ := entry
      simp only at named
      by_cases here : key = wanted
      · simp [Dict.get?, named, here]
      · simp [Dict.get?, named, here, later]

section Accepted

variable {document : MatrixLedgerDocument} {history : History} {plan : MatrixPlan}
  {state : VerifierState} (accepted : Accepted document history plan state)

include accepted

theorem Accepted.intents_eq :
    document.intents = state.cells.map fun entry => entry.2.intent := by
  rw [← accepted.replayed.cell_intents, MatrixLedgerDocument.intents, ← accepted.entries,
    List.filterMap_map]
  refine List.filterMap_congr fun item present => ?_
  simp only [Function.comp_apply, (accepted.replayed.entries_parsed item present).1,
    Except.toOption, Option.bind_some]

theorem Accepted.plan_eq : document.plan = some plan := by
  obtain ⟨entry, rest, historyEq⟩ := accepted.replayed.plan_first accepted.frozen
  have parsed := accepted.replayed.entries_parsed (entry, .matrixPlan plan)
    (by rw [historyEq]; exact List.mem_cons_self)
  rw [MatrixLedgerDocument.plan, ← accepted.entries, historyEq]
  simp only [List.map_cons, List.head?_cons, Option.bind_some, parsed.1]

/-- The coordinates of a cell are those of its recorded intent. -/
theorem Accepted.coordinatesOf_eq {cellId : Ident} {cell : Cell}
    (found : state.cells.get? cellId = some cell) :
    document.coordinatesOf cellId = canonicalBytes unicode cell.intent.coordinates.value := by
  have filed := accepted.replayed.filed accepted.frozen
  rw [MatrixLedgerDocument.coordinatesOf, accepted.intents_eq, find_intent state.cells cellId
    fun entry present => filed.keyed _ _ (filed.get?_of_mem present), found]
  rfl

/-- In a complete ledger there is a cell for every declared one, and all are decided. -/
theorem Accepted.all_decided (complete : document.completeness = .complete) :
    state.cells.length = plan.cells.length ∧ ∀ entry ∈ state.cells, entry.2.state = .decided := by
  have filed := accepted.replayed.filed accepted.frozen
  have noneMissing : missingDecisions plan state.cells = [] := by
    have stated := document.countsMatch.2.2.2.2
    rw [complete, accepted.missing] at stated
    by_contra some
    rw [if_neg some] at stated
    cases stated
  have counts := filed.counts
  rw [noneMissing, List.length_nil, Nat.add_zero] at counts
  have fewer : state.cells.length ≤ plan.cells.length := by
    have distinct : (state.cells.keys.map Subtype.val).Nodup :=
      filed.distinct.map Subtype.val_injective
    have within : state.cells.keys.map Subtype.val ⊆ plan.cellIds := by
      intro cellId present
      obtain ⟨_, inKeys, rfl⟩ := List.mem_map.mp present
      obtain ⟨entry, inCells, rfl⟩ := List.mem_map.mp inKeys
      obtain ⟨definition, declared⟩ := filed.declared _ _ (filed.get?_of_mem inCells)
      have named := List.find?_some declared
      simp only [decide_eq_true_eq] at named
      rw [← named]
      exact List.mem_map_of_mem (f := fun cell : MatrixCellDefinition => cell.cellId.val)
        (List.mem_of_find?_eq_some declared)
    have lengths := (List.subperm_of_subset distinct within).length_le
    simpa [Dict.keys, MatrixPlanFields.cellIds] using lengths
  have decidedLength : (state.cells.filter fun entry => entry.2.state = .decided).length =
      (Cells.decided state.cells).length := (List.length_map ..).symm
  have enough := List.length_filter_le (fun entry : Ident × Cell =>
    decide (entry.2.state = .decided)) state.cells
  refine ⟨by omega, fun entry present => ?_⟩
  have all := List.length_filter_eq_length_iff.mp
    (show (state.cells.filter fun entry => entry.2.state = .decided).length = state.cells.length
      by omega) entry present
  simpa using all

/-- A reported cell is one of the verifier's, under its own coordinates. -/
theorem Accepted.reported {snapshot : CellSnapshot} :
    snapshot ∈ document.cells ↔ ∃ entry ∈ state.cells, snapshot = entry.2.snapshot ∧
      snapshot.cellId = entry.1 ∧ document.coordinatesOf snapshot.cellId =
        canonicalBytes unicode entry.2.intent.coordinates.value := by
  have filed := accepted.replayed.filed accepted.frozen
  rw [← accepted.cells, Cells.sorted, List.mem_map]
  have within : ∀ entry : Ident × Cell, entry ∈ state.cells.insertionSort
      (fun left right => left.1.val ≤ right.1.val) ↔ entry ∈ state.cells :=
    fun entry => (List.perm_insertionSort _ state.cells).mem_iff
  constructor
  · rintro ⟨entry, present, rfl⟩
    have inCells := (within entry).mp present
    have found := filed.get?_of_mem inCells
    have named : entry.2.snapshot.cellId = entry.1 := filed.keyed _ _ found
    exact ⟨entry, inCells, rfl, named, by rw [named]; exact accepted.coordinatesOf_eq found⟩
  · rintro ⟨entry, inCells, rfl, _, _⟩
    exact ⟨entry, (within entry).mpr inCells, rfl⟩

end Accepted

/-- The omission proof of a complete ledger is exact if and only if its intents
state their coordinates in the plan's types, no two the same. -/
theorem omission_exact_iff (document : MatrixLedgerDocument)
    (verified : verifyLedgerDocument document = .ok ())
    (complete : document.completeness = .complete) :
    OmissionExact document ↔ IntentsTyped document := by
  obtain ⟨history, plan, state, accepted⟩ := (verifyLedgerDocument_eq_ok document).mp verified
  have filed := accepted.replayed.filed accepted.frozen
  obtain ⟨lengths, decided⟩ := accepted.all_decided complete
  obtain ⟨actualDistinct, actualExpected, expectedActual⟩ := plan.cellsComplete.2.2.2.2.2.2.2
  have assignmentsEq : document.assignments = plan.expected := by
    rw [MatrixLedgerDocument.assignments, accepted.plan_eq]
    rfl
  have declaredEq : document.declared = plan.actual := by
    rw [MatrixLedgerDocument.declared, accepted.plan_eq]
    rfl
  let stated := fun entry : Ident × Cell =>
    canonicalBytes unicode entry.2.intent.coordinates.value
  have statedEq : (document.intents.map fun intent =>
      canonicalBytes unicode intent.coordinates.value) = state.cells.map stated := by
    rw [accepted.intents_eq, List.map_map]
    rfl
  constructor
  · rintro ⟨exactlyOne, inside⟩
    have report : ∀ entry ∈ state.cells, entry.2.snapshot ∈ document.cells ∧
        entry.2.snapshot.state = .decided ∧
        document.coordinatesOf entry.2.snapshot.cellId = stated entry := by
      intro entry present
      have named : entry.2.snapshot.cellId = entry.1 :=
        filed.keyed _ _ (filed.get?_of_mem present)
      have coordinates := accepted.coordinatesOf_eq (filed.get?_of_mem present)
      rw [← named] at coordinates
      exact ⟨accepted.reported.mpr ⟨entry, present, rfl, named, coordinates⟩,
        decided entry present, coordinates⟩
    have stays : ∀ entry ∈ state.cells, stated entry ∈ plan.expected := by
      intro entry present
      obtain ⟨reported, isDecided, coordinates⟩ := report entry present
      have within := inside _ reported isDecided
      rwa [coordinates, assignmentsEq] at within
    constructor
    · intro intent present
      rw [accepted.intents_eq] at present
      obtain ⟨entry, inCells, rfl⟩ := List.mem_map.mp present
      rw [declaredEq]
      exact expectedActual _ (stays entry inCells)
    · rw [statedEq]
      refine List.Nodup.map_on ?_ (List.Nodup.of_map _ filed.distinct)
      intro left inLeft right inRight same
      obtain ⟨leftReported, leftDecided, leftCoordinates⟩ := report left inLeft
      obtain ⟨rightReported, rightDecided, rightCoordinates⟩ := report right inRight
      obtain ⟨_, _, only⟩ := exactlyOne (stated left) (by rw [assignmentsEq]; exact stays left inLeft)
      have snapshots := (only _ ⟨leftReported, leftDecided, leftCoordinates⟩).trans
        (only _ ⟨rightReported, rightDecided, by rw [rightCoordinates, ← same]⟩).symm
      have ids : left.1 = right.1 := by
        rw [← filed.keyed _ _ (filed.get?_of_mem inLeft),
          ← filed.keyed _ _ (filed.get?_of_mem inRight)]
        exact congrArg CellSnapshot.cellId snapshots
      refine Prod.ext ids ?_
      have leftFound := filed.get?_of_mem inLeft
      rw [ids, filed.get?_of_mem inRight] at leftFound
      exact (Option.some.inj leftFound).symm
  · rintro ⟨typed, distinct⟩
    rw [statedEq] at distinct
    have within : state.cells.map stated ⊆ plan.actual := by
      intro assignment present
      obtain ⟨entry, inCells, rfl⟩ := List.mem_map.mp present
      have listed := typed entry.2.intent (by
        rw [accepted.intents_eq]
        exact List.mem_map_of_mem (f := fun entry : Ident × Cell => entry.2.intent) inCells)
      rwa [declaredEq] at listed
    -- as many distinct assignments as declared cells, all of them declared
    have perm : (state.cells.map stated).Perm plan.actual := by
      refine (List.subperm_of_subset distinct within).perm_of_length_le ?_
      rw [List.length_map, lengths]
      exact le_of_eq (List.length_map ..)
    constructor
    · intro assignment present
      rw [assignmentsEq] at present
      obtain ⟨entry, inCells, rfl⟩ :=
        List.mem_map.mp (perm.mem_iff.mpr (expectedActual assignment present))
      have named : entry.2.snapshot.cellId = entry.1 :=
        filed.keyed _ _ (filed.get?_of_mem inCells)
      have coordinates := accepted.coordinatesOf_eq (filed.get?_of_mem inCells)
      rw [← named] at coordinates
      refine ⟨entry.2.snapshot, ⟨accepted.reported.mpr ⟨entry, inCells, rfl, named, coordinates⟩,
        decided entry inCells, coordinates⟩, ?_⟩
      rintro other ⟨reported, _, otherStated⟩
      obtain ⟨otherEntry, inOther, rfl, _, otherCoordinates⟩ := accepted.reported.mp reported
      rw [otherStated] at otherCoordinates
      have same := List.inj_on_of_nodup_map distinct inCells inOther otherCoordinates
      rw [same]
    · intro snapshot reported _
      obtain ⟨entry, inCells, _, _, coordinates⟩ := accepted.reported.mp reported
      rw [coordinates, assignmentsEq]
      exact actualExpected _ (within (List.mem_map_of_mem inCells))

/-- The coordinates of a ledger whose only intent is its second document. -/
theorem intents_of_embeds {entries : List LedgerEntry} {plan : MatrixPlan} {intent : Intent}
    {later : List Document}
    (embedded : List.Forall₂ Embeds entries (.matrixPlan plan :: .intent intent :: later))
    (normal : (Document.intent intent).norm = some (.intent intent))
    (others : ∀ document ∈ later, document.kind ≠ .intent) :
    (entries.filterMap fun entry =>
      (Document.parse entry.documentKind entry.document.value).toOption.bind
        Document.asIntent) = [intent] := by
  have none_of : ∀ entry : LedgerEntry, entry.documentKind ≠ .intent →
      (Document.parse entry.documentKind entry.document.value).toOption.bind
        Document.asIntent = none := by
    intro entry other
    cases parses : Document.parse entry.documentKind entry.document.value with
    | error => rfl
    | ok document =>
        have kind := Document.kind_of_parse parses
        cases document with
        | intent => exact absurd kind.symm other
        | _ => rfl
  cases embedded with
  | cons planEmbeds embedded =>
      cases embedded with
      | @cons _ _ rest _ intentEmbeds embedded =>
          rw [List.filterMap_cons, none_of _ (by rw [planEmbeds.kind]; simp [Document.kind]),
            List.filterMap_cons, intentEmbeds.parses normal]
          have skipped : (rest.filterMap fun entry =>
              (Document.parse entry.documentKind entry.document.value).toOption.bind
                Document.asIntent) = [] := by
            rw [List.filterMap_eq_nil_iff]
            intro entry present
            obtain ⟨document, listed, embeds⟩ := Related.partner_of_left embedded entry present
            exact none_of entry (by rw [embeds.kind]; exact others document listed)
          rw [skipped]
          rfl

end General

/-! ### Samples -/

namespace Sample

/-- The complete ledger of the sample, with what it declares and what its intent states. -/
private theorem complete_sample (flag : Bool) : ∃ document,
    verifyLedgerDocument document = .ok () ∧ document.completeness = .complete ∧
      document.intents = [intent flag] ∧ document.plan = some (plan true) := by
  obtain ⟨ledger, cell, run, found, isDecided⟩ := decided flag
  obtain ⟨document, _, verified, snapshot⟩ := verifies run List.prefix_rfl
  have shaped : List.Forall₂ Embeds document.entries
      (.matrixPlan (plan true) :: .intent (intent flag) :: .grant grant :: .receipt receipt ::
        (evidence.map (fun item => Document.evidence item.1) ++ [.decision decision])) := by
    rw [snapshot.entries]
    exact run.embeds.2
  refine ⟨document, verified, ?_, ?_, ?_⟩
  · have missing : missingDecisions ledger.matrixPlan ledger.cells = [] := by
      rw [run.embeds.1, missingDecisions, sortedText_eq_nil, List.filter_eq_nil_iff]
      intro declared listed
      have only : declared = cellId.val := List.mem_singleton.mp listed
      have present : cellId ∈ Cells.decided ledger.cells :=
        List.mem_map.mpr ⟨(cellId, cell),
          List.mem_filter.mpr ⟨Dict.mem_of_get? _ found, by simpa using isDecided⟩, rfl⟩
      rw [only, decide_eq_true_eq, not_not]
      exact List.mem_map_of_mem present
    rw [snapshot.completeness, if_pos missing]
  · refine intents_of_embeds shaped (intent_normal flag) fun document listed => ?_
    simp only [List.mem_cons, List.mem_append, List.mem_map, List.not_mem_nil, or_false] at listed
    rcases listed with rfl | rfl | ⟨item, _, rfl⟩ | rfl <;> simp [Document.kind]
  · unfold MatrixLedgerDocument.plan
    generalize document.entries = entries at shaped
    cases shaped with
    | cons planEmbeds _ =>
        simp only [List.head?_cons, Option.bind_some, planEmbeds.parses (plan_normal true)]

theorem omission_exact_sample : ∃ document, verifyLedgerDocument document = .ok () ∧
    document.completeness = .complete ∧ (OmissionExact document ↔ IntentsTyped document) := by
  obtain ⟨document, verified, complete, _⟩ := complete_sample false
  exact ⟨document, verified, complete, omission_exact_iff document verified complete⟩

/-- A complete ledger whose intent states the boolean true where the plan
declares the integer one. -/
theorem boolean_coordinate_inexact : ¬ ∀ document : MatrixLedgerDocument,
    verifyLedgerDocument document = .ok () → document.completeness = .complete →
      OmissionExact document := by
  intro claim
  obtain ⟨document, verified, complete, intents, frozen⟩ := complete_sample true
  have declared : canonicalBytes unicode (.dict [("a", .int 1)]) ∈ document.assignments := by
    rw [MatrixLedgerDocument.assignments, frozen]
    exact List.mem_cons_self
  obtain ⟨snapshot, ⟨_, _, stated⟩, _⟩ := (claim document verified complete).exactlyOne _ declared
  rw [MatrixLedgerDocument.coordinatesOf, intents] at stated
  by_cases here : (intent true).cellId = snapshot.cellId
  · simp only [List.find?_cons, here, decide_true, Option.bind_some] at stated
    have differ : canonicalBytes unicode (intent true).coordinates.value ≠
        canonicalBytes unicode (.dict [("a", .int 1)]) := by
      decide +kernel
    exact differ stated
  · simp only [List.find?_cons, here, decide_false, List.find?_nil, Option.bind_none] at stated
    have present : canonicalBytes unicode (.dict [("a", .int 1)]) ≠ none := by
      decide +kernel
    exact present stated.symm

end Sample

end EgoAgent.Rxp
