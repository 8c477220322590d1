import EgoAgent.Rxp.SupportedDecisions

/-!
When EVIDENCE_READY says what the gate says.

The recorder moves a cell to EVIDENCE_READY on a passing gate and never back.  A later record can
make the gate fail: its producer may be one that no review covers, or the reviewer.
-/

namespace EgoAgent.Rxp

open Platform MatrixLedger

section General

variable [Platform]

/-! ### One more record under the gate -/

/-- A passing review by someone else covers the producer of the record, or the record is itself a
review. -/
def Covers (records : List Evidence) (evidence : Evidence) : Prop :=
  evidence.evidenceType = .review ∨ ∃ review ∈ records, review.evidenceType = .review ∧
    isIndependentReview records review = true ∧
      evidence.producerId.val ≠ review.producerId.val ∧
      review.reviewedProducers.contains evidence.producerId.val = true

theorem producers_append (records : List Evidence) (evidence : Evidence) :
    producers (records ++ [evidence]) = producers records ++
      if evidence.evidenceType = .review then [] else [evidence.producerId.val] := by
  unfold producers
  rw [List.filter_append, List.map_append]
  by_cases isReview : evidence.evidenceType = .review <;> simp [isReview]

variable {records : List Evidence}

theorem isIndependentReview_append {review evidence : Evidence} :
    isIndependentReview (records ++ [evidence]) review = true ↔
      isIndependentReview records review = true ∧
        (evidence.evidenceType = .review ∨
          evidence.producerId.val ≠ review.producerId.val ∧
            review.reviewedProducers.contains evidence.producerId.val = true) := by
  unfold isIndependentReview
  rw [producers_append]
  by_cases isReview : evidence.evidenceType = .review
  · simp [isReview]
  · rw [if_neg isReview, List.all_append]
    simp only [Bool.and_eq_true, decide_eq_true_eq, List.mem_append, List.mem_singleton, not_or,
      List.all_cons, List.all_nil, Bool.and_true, isReview, false_or]
    constructor
    · rintro ⟨⟨⟨passed, unproduced, other⟩, some⟩, all, covered⟩
      exact ⟨⟨⟨⟨passed, unproduced⟩, some⟩, all⟩, fun same => other same.symm, covered⟩
    · rintro ⟨⟨⟨⟨passed, unproduced⟩, some⟩, all⟩, other, covered⟩
      exact ⟨⟨⟨passed, unproduced, fun same => other same.symm⟩, some⟩, all, covered⟩

theorem oneReceipt_of_targets {receiptDigest : Digest}
    (targets : ∀ item ∈ records, item.receiptDigest = receiptDigest) :
    (records.map fun record => record.receiptDigest).dedup.length ≤ 1 := by
  have only : (records.map fun record => record.receiptDigest).dedup ⊆ [receiptDigest] := by
    intro digest present
    obtain ⟨item, isItem, rfl⟩ := List.mem_map.mp (List.mem_dedup.mp present)
    exact List.mem_singleton.mpr (targets item isItem)
  exact (List.subperm_of_subset (List.nodup_dedup _) only).length_le

/-- A passing gate goes on passing exactly under a record that is covered. -/
theorem gatePasses_append {evidence : Evidence} (passes : GatePasses records)
    (targets : ∀ item ∈ records, item.receiptDigest = evidence.receiptDigest)
    (fresh : evidence.evidenceId ∉ records.map fun item => item.evidenceId) :
    GatePasses (records ++ [evidence]) ↔ Covers records evidence := by
  constructor
  · rintro ⟨_, _, _, _, review, present, isReview, independent⟩
    by_cases itself : evidence.evidenceType = .review
    · exact .inl itself
    · rcases List.mem_append.mp present with earlier | last
      · obtain ⟨before, covered⟩ := isIndependentReview_append.mp independent
        exact .inr ⟨review, earlier, isReview, before, covered.resolve_left itself⟩
      · rw [List.mem_singleton.mp last] at isReview
        exact absurd isReview itself
  · intro covers
    have review : ∃ review ∈ records, review.evidenceType = .review ∧
        isIndependentReview (records ++ [evidence]) review = true := by
      rcases covers with itself | ⟨review, present, isReview, independent, covered⟩
      · obtain ⟨review, present, isReview, independent⟩ := passes.review
        exact ⟨review, present, isReview,
          isIndependentReview_append.mpr ⟨independent, .inl itself⟩⟩
      · exact ⟨review, present, isReview,
          isIndependentReview_append.mpr ⟨independent, .inr covered⟩⟩
    obtain ⟨review, present, isReview, independent⟩ := review
    obtain ⟨metric, isMetric, rest⟩ := passes.metric
    have oneReceipt : ∀ item ∈ records ++ [evidence],
        item.receiptDigest = evidence.receiptDigest := by
      intro item isItem
      rcases List.mem_append.mp isItem with earlier | last
      · exact targets item earlier
      · rw [List.mem_singleton.mp last]
    refine ⟨fun evidenceType => ?_, oneReceipt_of_targets oneReceipt, ?_,
      ⟨metric, List.mem_append_left _ isMetric, rest⟩,
      ⟨review, List.mem_append_left _ present, isReview, independent⟩⟩
    · obtain ⟨record, inRecords, same⟩ := passes.covered evidenceType
      exact ⟨record, List.mem_append_left _ inRecords, same⟩
    · rw [List.map_append, List.map_singleton]
      exact List.nodup_append.mpr ⟨passes.distinctIds, List.nodup_singleton _, by
        rintro earlier isEarlier _ last rfl
        rw [List.mem_singleton.mp last] at isEarlier
        exact fresh isEarlier⟩

def evidenceTypes : List EvidenceType :=
  [.code, .config, .datasetManifest, .log, .metric, .trace, .review]

theorem GatePasses.length_le (passes : GatePasses records) :
    7 ≤ records.length := by
  have subset : evidenceTypes ⊆ records.map fun record => record.evidenceType := by
    intro evidenceType _
    obtain ⟨record, present, same⟩ := passes.covered evidenceType
    exact List.mem_map.mpr ⟨record, present, same⟩
  have distinct : evidenceTypes.Nodup := by decide
  have length := (List.subperm_of_subset distinct subset).length_le
  rwa [List.length_map] at length

/-! ### Cells -/

/-- What a cell holds by its state. -/
structure Cell.Staged (cell : Cell) : Prop where
  early : cell.state = .intentRecorded ∨ cell.state = .granted →
    cell.receipt = none ∧ cell.evidence = []
  undecided : cell.state ≠ .decided → cell.decision = none
  closed : cell.state = .decided → cell.decision ≠ none
  targets : ∀ item ∈ cell.evidence, cell.receiptDigest = some item.receiptDigest

variable {plan : MatrixPlan}

variable {document : Document} {parents : List Digest} {before : Option Cell}

variable {digest : Digest} {after : Cell}

theorem CellStep.staged (taken : CellStep plan before document digest parents after)
    (earlier : ∀ cell, before = some cell → cell.Staged) : after.Staged := by
  cases taken with
  | intent =>
      exact ⟨fun _ => ⟨rfl, rfl⟩, fun _ => rfl, fun impossible => (by cases impossible),
        fun _ absent => (by cases absent)⟩
  | grant cell grant digest state =>
      have holds := earlier cell rfl
      exact ⟨fun _ => holds.early (.inl state),
        fun _ => holds.undecided (by rw [state]; decide), fun impossible => (by cases impossible),
        holds.targets⟩
  | receipt cell receipt digest grant grantDigest state =>
      have holds := earlier cell rfl
      have none := (holds.early (.inr state)).2
      refine ⟨fun impossible => ?_, fun _ => holds.undecided (by rw [state]; decide),
        fun impossible => (by cases impossible), fun item present => ?_⟩
      · rcases impossible with impossible | impossible <;> cases impossible
      · change item ∈ cell.evidence at present
        rw [none] at present
        cases present
  | evidence cell evidence digest receiptDigest gate state received targets =>
      have holds := earlier cell rfl
      obtain ⟨_, _, _, _, _, receiptEq, evidenceEq, _, stateEq⟩ :=
        withEvidence_fields cell evidence digest gate
      have decisionEq : (cell.withEvidence evidence digest gate).decision = cell.decision := by
        unfold Cell.withEvidence
        split <;> rfl
      have later : (cell.withEvidence evidence digest gate).state = .receiptRecorded ∨
          (cell.withEvidence evidence digest gate).state = .evidenceReady := by
        rcases stateEq with ready | same
        · exact .inr ready
        · rw [same]
          exact state
      refine ⟨fun impossible => ?_, fun _ => ?_, fun impossible => ?_, fun item present => ?_⟩
      · rcases later with is | is <;> rw [is] at impossible <;>
          rcases impossible with impossible | impossible <;> cases impossible
      · rw [decisionEq]
        exact holds.undecided (by rcases state with is | is <;> rw [is] <;> decide)
      · rcases later with is | is <;> rw [is] at impossible <;> cases impossible
      · rw [evidenceEq] at present
        rw [receiptEq]
        rcases List.mem_append.mp present with isEarlier | last
        · exact holds.targets item isEarlier
        · rw [List.mem_singleton.mp last, targets, received]
  | decision cell decision digest receipt receiptDigest state =>
      have holds := earlier cell rfl
      refine ⟨fun impossible => ?_, fun other => absurd rfl other, fun _ same => (by cases same),
        holds.targets⟩
      rcases impossible with impossible | impossible <;> cases impossible

/-- While it gathers evidence, a cell is ready exactly when the gate passes. -/
def Cell.Truthful (cell : Cell) : Prop :=
  cell.state = .receiptRecorded ∨ cell.state = .evidenceReady →
    (cell.state = .evidenceReady ↔ GatePasses cell.evidence)

theorem not_gatePasses_nil : ¬ GatePasses [] :=
  fun passes => absurd passes.length_le (Nat.not_succ_le_zero 6)

/-- A ready cell that says the truth goes on saying it exactly under covered evidence. -/
theorem truthful_withEvidence {cell : Cell} {evidence : Evidence} {digest receiptDigest : Digest}
    {gate : GateAssessment} (staged : cell.Staged) (truthful : cell.Truthful)
    (state : cell.state = .receiptRecorded ∨ cell.state = .evidenceReady)
    (received : cell.receiptDigest = some receiptDigest)
    (targets : evidence.receiptDigest = receiptDigest)
    (fresh : evidence.evidenceId ∉ cell.evidence.map fun item => item.evidenceId)
    (gated : evidenceGate (cell.evidence ++ [evidence]) = .ok gate) :
    (cell.withEvidence evidence digest gate).Truthful ↔
      (cell.state = .evidenceReady → Covers cell.evidence evidence) := by
  have passes := evidenceGate_pass _ _ gated
  have stateEq : (cell.withEvidence evidence digest gate).state =
      if gate.status = .pass then .evidenceReady else cell.state := by
    unfold Cell.withEvidence
    split <;> rfl
  have evidenceEq : (cell.withEvidence evidence digest gate).evidence =
      cell.evidence ++ [evidence] := (withEvidence_fields cell evidence digest gate).2.2.2.2.2.2.1
  have sameReceipt : ∀ item ∈ cell.evidence, item.receiptDigest = evidence.receiptDigest := by
    intro item present
    have named := staged.targets item present
    rw [received] at named
    rw [targets]
    exact (Option.some.inj named).symm
  unfold Cell.Truthful
  rw [stateEq, evidenceEq, ← passes]
  by_cases passing : gate.status = .pass
  · rw [if_pos passing]
    refine ⟨fun _ ready => ?_, fun _ _ => ⟨fun _ => passing, fun _ => rfl⟩⟩
    exact (gatePasses_append ((truthful state).mp ready) sameReceipt fresh).mp (passes.mp passing)
  · rw [if_neg passing]
    constructor
    · intro truth ready
      exact absurd ((truth state).mp ready) passing
    · intro covered _
      refine ⟨fun ready => ?_, fun impossible => absurd impossible passing⟩
      exact passes.mpr ((gatePasses_append ((truthful state).mp ready) sameReceipt fresh).mpr
        (covered ready))

/-- The step lemma. -/
theorem CellStep.truthful (taken : CellStep plan before document digest parents after)
    (staged : ∀ cell, before = some cell → cell.Staged)
    (earlier : ∀ cell, before = some cell → cell.Truthful)
    (covered : ∀ cell evidence, before = some cell → document = .evidence evidence →
      cell.state = .evidenceReady → Covers cell.evidence evidence) : after.Truthful := by
  cases taken with
  | intent => rintro (impossible | impossible) <;> cases impossible
  | grant => rintro (impossible | impossible) <;> cases impossible
  | receipt cell receipt digest grant grantDigest state =>
      intro _
      have none : cell.evidence = [] := ((staged cell rfl).early (.inr state)).2
      change CellState.receiptRecorded = .evidenceReady ↔ GatePasses cell.evidence
      rw [none]
      exact ⟨fun impossible => (by cases impossible), fun passes => absurd passes not_gatePasses_nil⟩
  | evidence cell evidence digest receiptDigest gate state received targets fresh gated =>
      exact (truthful_withEvidence (staged cell rfl) (earlier cell rfl) state received targets
        fresh gated).mpr (covered cell evidence rfl rfl)
  | decision => rintro (impossible | impossible) <;> cases impossible

/-! ### Runs -/

/-- The condition on a step: a record that arrives at a ready cell is covered. -/
def Operation.Covered (ledger : MatrixLedger) : Operation → Prop
  | .evidence document => ∀ cell, ledger.cells.get? document.cellId = some cell →
      cell.state = .evidenceReady → Covers cell.evidence document
  | _ => True

/-- A run whose evidence is covered. -/
inductive CoveredRun (plan : MatrixPlan) : List Document → MatrixLedger → Prop where
  | opened (ledger : MatrixLedger) (created : MatrixLedger.new plan = .ok ledger) :
      CoveredRun plan [] ledger
  | returned {documents : List Document} {ledger : MatrixLedger}
      (earlier : CoveredRun plan documents ledger) (operation : Operation)
      (registry : ReplayRegistry) {digest : Digest} {final : MatrixLedger}
      {later : ReplayRegistry} (covered : operation.Covered ledger)
      (ran : operation.run (ledger, registry) = (.ok digest, (final, later))) :
      CoveredRun plan (documents ++ [operation.document]) final
  | raised {documents : List Document} {ledger : MatrixLedger}
      (earlier : CoveredRun plan documents ledger) (operation : Operation)
      (registry : ReplayRegistry) {error : PyError} {final : MatrixLedger}
      {later : ReplayRegistry}
      (ran : operation.run (ledger, registry) = (.error error, (final, later))) :
      CoveredRun plan documents final

variable {ledger : MatrixLedger} {documents : List Document}

theorem CoveredRun.live
    (run : CoveredRun plan documents ledger) : LiveRun plan documents ledger := by
  induction run with
  | opened ledger created => exact .opened ledger created
  | returned _ operation registry _ ran ih => exact ih.returned operation registry ran
  | raised _ operation registry ran ih => exact ih.raised operation registry ran

/-- What every cell of a ledger satisfies, if every cell step keeps it. -/
theorem cells_of_recorded {holds : Cell → Prop} {cell : Cell} {entry : LedgerEntry}
    (earlier : ∀ cellId cell, ledger.cells.get? cellId = some cell → holds cell)
    (now : holds cell) : ∀ cellId found,
      (ledger.recorded document cell entry).cells.get? cellId = some found → holds found := by
  intro cellId found isFound
  simp only [MatrixLedger.recorded, Dict.get?_set] at isFound
  split at isFound
  · cases isFound
    exact now
  · exact earlier cellId found isFound

theorem LiveRun.staged (run : LiveRun plan documents ledger) :
    ∀ cellId cell, ledger.cells.get? cellId = some cell → cell.Staged := by
  induction run with
  | opened ledger created =>
      obtain ⟨_, _, _, _, rfl⟩ := (MatrixLedger.new_eq_ok plan ledger).mp created
      exact fun _ _ impossible => by cases impossible
  | returned earlier operation registry ran ih =>
      obtain ⟨cell, entry, taken, _, _, rfl, _⟩ :=
        (operation.run_eq_ok _ _ registry _ _ earlier.sound.intentsDigested).mp ran
      exact cells_of_recorded ih (taken.taken.staged fun before found => ih _ before found)
  | raised earlier operation registry ran ih =>
      rw [(operation.run_keeps _ _ registry _ _ earlier.sound ran).1]
      exact ih

/-- The run lemma. -/
theorem CoveredRun.truthful (run : CoveredRun plan documents ledger) :
    ∀ cellId cell, ledger.cells.get? cellId = some cell → cell.Truthful := by
  induction run with
  | opened ledger created =>
      obtain ⟨_, _, _, _, rfl⟩ := (MatrixLedger.new_eq_ok plan ledger).mp created
      exact fun _ _ impossible => by cases impossible
  | returned earlier operation registry covered ran ih =>
      have live := earlier.live
      obtain ⟨cell, entry, taken, _, _, rfl, _⟩ :=
        (operation.run_eq_ok _ _ registry _ _ live.sound.intentsDigested).mp ran
      refine cells_of_recorded ih (taken.taken.truthful
        (fun before found => live.staged _ before found) (fun before found => ih _ before found)
        fun before evidence found isEvidence ready => ?_)
      cases operation with
      | evidence document =>
          cases isEvidence
          exact covered before found ready
      | _ => cases isEvidence
  | raised earlier operation registry ran ih =>
      rw [(operation.run_keeps _ _ registry _ _ earlier.live.sound ran).1]
      exact ih

/-- Every cell with a receipt and no decision is ready exactly when the gate over its evidence
passes. -/
def MatrixLedger.TellsTruth (ledger : MatrixLedger) : Prop :=
  ∀ cellId cell, ledger.cells.get? cellId = some cell → cell.receipt ≠ none →
    cell.decision = none →
      (cell.state = .evidenceReady ↔
        ∃ gate, evidenceGate cell.evidence = .ok gate ∧ gate.status = .pass)

/-- In every run whose records are covered when they arrive at a ready cell, EVIDENCE_READY says
what the gate says. -/
theorem evidence_ready_tells_truth {plan : MatrixPlan} {documents : List Document}
    {ledger : MatrixLedger} (run : CoveredRun plan documents ledger) : ledger.TellsTruth := by
  intro cellId cell found hasReceipt noDecision
  have staged := run.live.staged cellId cell found
  have state : cell.state = .receiptRecorded ∨ cell.state = .evidenceReady := by
    cases isState : cell.state with
    | intentRecorded => exact absurd (staged.early (.inl isState)).1 hasReceipt
    | granted => exact absurd (staged.early (.inr isState)).1 hasReceipt
    | receiptRecorded => exact .inl rfl
    | evidenceReady => exact .inr rfl
    | decided => exact absurd noDecision (staged.closed isState)
  rw [run.truthful cellId cell found state]
  have digested := run.live.sound cellId cell found
  obtain ⟨gate, gated⟩ := evidenceGate_returns digested.evidence digested.distinct
  constructor
  · intro passes
    exact ⟨gate, gated, (evidenceGate_pass _ _ gated).mpr passes⟩
  · rintro ⟨other, otherGated, passes⟩
    exact (evidenceGate_pass _ _ otherGated).mp passes

/-! ### Short runs -/

def evidenceCount (documents : List Document) : Nat :=
  (documents.filter fun document => document.kind = .evidence).length

theorem evidenceCount_append (documents : List Document) (document : Document) :
    evidenceCount (documents ++ [document]) =
      evidenceCount documents + if document.kind = .evidence then 1 else 0 := by
  unfold evidenceCount
  rw [List.filter_append, List.length_append]
  by_cases isEvidence : document.kind = .evidence <;> simp [isEvidence]

theorem CellStep.evidence_length
    (taken : CellStep plan before document digest parents after) {bound : Nat}
    (earlier : ∀ cell, before = some cell → cell.evidence.length ≤ bound) :
    after.evidence.length ≤ bound + if document.kind = .evidence then 1 else 0 := by
  cases taken with
  | intent => exact Nat.zero_le _
  | grant cell => exact Nat.le_add_right_of_le (earlier cell rfl)
  | receipt cell => exact Nat.le_add_right_of_le (earlier cell rfl)
  | evidence cell evidence digest receiptDigest gate =>
      rw [(withEvidence_fields cell evidence digest gate).2.2.2.2.2.2.1, List.length_append]
      exact Nat.add_le_add (earlier cell rfl) (Nat.le_refl 1)
  | decision cell => exact Nat.le_add_right_of_le (earlier cell rfl)

theorem LiveRun.evidence_le (run : LiveRun plan documents ledger) :
    ∀ cellId cell, ledger.cells.get? cellId = some cell →
      cell.evidence.length ≤ evidenceCount documents := by
  induction run with
  | opened ledger created =>
      obtain ⟨_, _, _, _, rfl⟩ := (MatrixLedger.new_eq_ok plan ledger).mp created
      exact fun _ _ impossible => by cases impossible
  | returned earlier operation registry ran ih =>
      obtain ⟨cell, entry, taken, _, _, rfl, _⟩ :=
        (operation.run_eq_ok _ _ registry _ _ earlier.sound.intentsDigested).mp ran
      rw [evidenceCount_append]
      exact cells_of_recorded
        (fun cellId cell found => Nat.le_add_right_of_le (ih cellId cell found))
        (taken.taken.evidence_length fun before found => ih _ before found)
  | raised earlier operation registry ran ih =>
      rw [(operation.run_keeps _ _ registry _ _ earlier.sound ran).1]
      exact ih

/-- No run with at most seven records has one that arrives at a ready cell. -/
theorem LiveRun.covered
    (run : LiveRun plan documents ledger) (short : evidenceCount documents ≤ 7) :
    CoveredRun plan documents ledger := by
  induction run with
  | opened ledger created => exact .opened ledger created
  | returned earlier operation registry ran ih =>
      rw [evidenceCount_append] at short
      have covered := ih (by omega)
      refine covered.returned operation registry ?_ ran
      cases operation with
      | evidence document =>
          intro cell found ready
          have passes := (covered.truthful _ cell found (.inr ready)).mp ready
          have long := passes.length_le
          have bound := earlier.evidence_le _ cell found
          rw [Operation.document, Document.kind, if_pos rfl] at short
          omega
      | _ => trivial
  | raised earlier operation registry ran ih =>
      exact (ih short).raised operation registry ran

end General

namespace Sample

theorem evidence_ready_tells_truth_sample : ∃ documents ledger, documents.length = 10 ∧
    LiveRun (plan true) documents ledger ∧ ledger.TellsTruth := by
  obtain ⟨ledger, run⟩ := gathered false
  exact ⟨undecided false, ledger, rfl, run,
    evidence_ready_tells_truth (run.covered (by decide))⟩

theorem uncovered_named : idPattern.accepts "e8" = true := by decide

theorem uncovered_sized : (0 : Int) ≤ 8 ∧ 8 ≤ maxInt64 := by decide

/-- A log by someone whom the review does not name. -/
def uncoveredLog : Evidence :=
  record ⟨"e8", uncovered_named⟩ ⟨8, uncovered_sized⟩ .log operator emptyObject

def uncoveredDigest : Digest := 0x16279746573223a38

theorem uncoveredLog_digest : digestDocument (Document.evidence uncoveredLog).value =
    .ok uncoveredDigest := rfl

/-- The sample with one more log is ready, and its gate fails. -/
theorem ready_without_gate : ∃ documents ledger cell gate,
    LiveRun (plan true) documents ledger ∧ ledger.cells.get? cellId = some cell ∧
      cell.receipt ≠ none ∧ cell.decision = none ∧ cell.state = .evidenceReady ∧
      evidenceGate cell.evidence = .ok gate ∧ gate.status = .fail := by
  obtain ⟨opened, created, cells, intents, grants, count, last⟩ := plan_opens true
  obtain ⟨gathered, cell, now, run, found, gathering, length, last, times⟩ :=
    CellFile.gathers (file_coherent true false)
      (.opened opened created) (last noonSeconds noon_parses) (file_ordered false)
      (by rw [cells]; rfl) (by rw [intents]; exact List.not_mem_nil)
      (by rw [grants]; exact List.not_mem_nil) (by rw [count]; change inInt64 11; decide)
  have records : cell.evidence = evidence.map Prod.fst := gathering.evidence
  have digests : cell.evidenceDigests = evidence.map Prod.snd := gathering.evidenceDigests
  have sound := run.sound _ cell found
  obtain ⟨passing, passed⟩ := evidenceGate_returns sound.evidence sound.distinct
  have ready : cell.state = .evidenceReady := gathering.ready passing (by decide) passed
    ((evidenceGate_pass _ _ passed).mpr (by rw [records]; exact evidence_passes))
  have fresh : uncoveredDigest ∉ cell.evidenceDigests := by
    rw [digests]
    decide
  obtain ⟨gate, gated⟩ := evidenceGate_returns
    (List.rel_append sound.evidence (.cons uncoveredLog_digest .nil))
    (List.nodup_append.mpr ⟨sound.distinct, List.nodup_singleton _, by
      rintro earlier present _ last rfl
      rw [List.mem_singleton.mp last] at present
      exact fresh present⟩)
  have uncovered : ¬ GatePasses (evidence.map Prod.fst ++ [uncoveredLog]) := by
    rw [gatePasses_append evidence_passes (by simp [evidence, record, uncoveredLog]) (by decide)]
    rintro (isReview | ⟨review, present, isReview, _, _, named⟩)
    · cases isReview
    · revert isReview named
      simp only [evidence, List.map_cons, List.map_nil, List.mem_cons, List.not_mem_nil,
        or_false] at present
      rcases present with rfl | rfl | rfl | rfl | rfl | rfl | rfl <;> decide +kernel
  have failing : gate.status ≠ .pass := fun passes => uncovered (by
    rw [← records]
    exact (evidenceGate_pass _ _ gated).mp passes)
  have taken : CellStep (plan true)
      (gathered.cells.get? (Operation.evidence uncoveredLog).document.cellId)
      (Operation.evidence uncoveredLog).document uncoveredDigest [receiptDigest]
      (cell.withEvidence uncoveredLog uncoveredDigest gate) := by
    change CellStep (plan true) (gathered.cells.get? cellId) _ _ _ _
    rw [show gathered.cells.get? cellId = some cell from found]
    exact .evidence cell uncoveredLog uncoveredDigest receiptDigest gate (.inr ready)
      gathering.receiptDigest rfl (by rw [records]; decide) gated
  obtain ⟨instant, parsed, ordered, _⟩ := times
  obtain ⟨entry, extended, _⟩ := run.extend (.evidence uncoveredLog) noon last rfl parsed ordered
    rfl uncoveredLog_digest (by rw [length, count]; change inInt64 12; decide) taken (by
      intro entry same before present
      change gathered.cells.get? cellId = some before at present
      rw [show gathered.cells.get? cellId = some cell from found] at present
      rw [same, ← Option.some.inj present]
      exact fresh)
  have foundAfter : (gathered.recorded (Operation.evidence uncoveredLog).document
      (cell.withEvidence uncoveredLog uncoveredDigest gate) entry).cells.get? cellId =
        some (cell.withEvidence uncoveredLog uncoveredDigest gate) :=
    Dict.get?_set_self _ _ _
  have after : cell.withEvidence uncoveredLog uncoveredDigest gate =
      { cell with
        evidence := cell.evidence ++ [uncoveredLog]
        evidenceDigests := cell.evidenceDigests ++ [uncoveredDigest] } := by
    unfold Cell.withEvidence
    exact if_neg failing
  refine ⟨_, _, _, gate, extended, foundAfter, ?_, ?_, ?_, ?_, ?_⟩
  · rw [after]
    change cell.receipt ≠ none
    rw [gathering.receipt]
    exact Option.some_ne_none _
  · rw [after]
    exact (run.staged _ cell found).undecided (by rw [ready]; decide)
  · rw [after]
    exact ready
  · rw [after]
    exact gated
  · cases isStatus : gate.status with
    | pass => exact absurd isStatus failing
    | fail => rfl

end Sample

end EgoAgent.Rxp
