import EgoAgent.Rxp.Replay

/-!
The documents of one cell.

`CellRun` strings cell steps together.  `CellSound` says what a cell holds in
each state and that its fields are exactly its history; it is kept by every
step, so it holds of every cell the verifier or the recorder can build.
-/

namespace EgoAgent.Rxp

open Platform MatrixLedger

variable [Platform]

/-- The documents of a cell with their digests, oldest first. -/
abbrev CellHistory := List (Document × Digest)

inductive CellRun (plan : MatrixPlan) : CellHistory → Option Cell → Prop where
  | start : CellRun plan [] none
  | step {history : CellHistory} {before : Option Cell} {document : Document} {digest : Digest}
      {parents : List Digest} {after : Cell}
      (earlier : CellRun plan history before)
      (taken : CellStep plan before document digest parents after) :
      CellRun plan (history ++ [(document, digest)]) (some after)

/-! ### What a cell holds -/

def Cell.evidenceHistory (cell : Cell) : CellHistory :=
  (cell.evidence.zip cell.evidenceDigests).map fun item => (.evidence item.1, item.2)

structure CellGranted (cell : Cell) (grant : Grant) (grantDigest : Digest) : Prop where
  granted : cell.grant = some grant
  digest : cell.grantDigest = some grantDigest
  scope : GrantMatches grant.claims cell

structure CellReceived (cell : Cell) (grant : Grant) (grantDigest : Digest) (receipt : Receipt)
    (receiptDigest : Digest) : Prop extends CellGranted cell grant grantDigest where
  received : cell.receipt = some receipt
  receiptDigested : cell.receiptDigest = some receiptDigest
  descends : ReceiptDescends receipt cell grant grantDigest
  valid : validateReceipt receipt grant cell.intent = .ok ()
  targets : ∀ evidence ∈ cell.evidence, evidence.receiptDigest = receiptDigest
  paired : cell.evidence.length = cell.evidenceDigests.length

structure CellDecided (cell : Cell) (receipt : Receipt) (receiptDigest : Digest)
    (decision : Decision) (decisionDigest : Digest) : Prop where
  closed : cell.decision = some decision
  digest : cell.decisionDigest = some decisionDigest
  succeeded : receipt.outcome = .succeeded
  gated : evidenceGate cell.evidence = .ok decision.gate
  descends : DecisionDescends decision cell receipt receiptDigest

/-- A cell together with the history it stands for, by its state. -/
inductive CellSound (cell : Cell) : CellHistory → Prop where
  | intentRecorded (state : cell.state = .intentRecorded)
      (noGrant : cell.grant = none)
      (noEvidence : cell.evidence = [] ∧ cell.evidenceDigests = []) :
      CellSound cell [(.intent cell.intent, cell.intentDigest)]
  | granted (grant : Grant) (grantDigest : Digest) (state : cell.state = .granted)
      (holds : CellGranted cell grant grantDigest)
      (noEvidence : cell.evidence = [] ∧ cell.evidenceDigests = []) :
      CellSound cell [(.intent cell.intent, cell.intentDigest), (.grant grant, grantDigest)]
  | received (grant : Grant) (grantDigest : Digest) (receipt : Receipt) (receiptDigest : Digest)
      (state : cell.state = .receiptRecorded ∨ cell.state = .evidenceReady)
      (holds : CellReceived cell grant grantDigest receipt receiptDigest) :
      CellSound cell ([(.intent cell.intent, cell.intentDigest), (.grant grant, grantDigest),
        (.receipt receipt, receiptDigest)] ++ cell.evidenceHistory)
  | decided (grant : Grant) (grantDigest : Digest) (receipt : Receipt) (receiptDigest : Digest)
      (decision : Decision) (decisionDigest : Digest) (state : cell.state = .decided)
      (holds : CellReceived cell grant grantDigest receipt receiptDigest)
      (closed : CellDecided cell receipt receiptDigest decision decisionDigest) :
      CellSound cell ([(.intent cell.intent, cell.intentDigest), (.grant grant, grantDigest),
        (.receipt receipt, receiptDigest)] ++ cell.evidenceHistory ++
          [(.decision decision, decisionDigest)])

theorem withEvidence_fields (cell : Cell) (evidence : Evidence) (digest : Digest)
    (gate : GateAssessment) :
    (cell.withEvidence evidence digest gate).intent = cell.intent ∧
      (cell.withEvidence evidence digest gate).intentDigest = cell.intentDigest ∧
      (cell.withEvidence evidence digest gate).grant = cell.grant ∧
      (cell.withEvidence evidence digest gate).grantDigest = cell.grantDigest ∧
      (cell.withEvidence evidence digest gate).receipt = cell.receipt ∧
      (cell.withEvidence evidence digest gate).receiptDigest = cell.receiptDigest ∧
      (cell.withEvidence evidence digest gate).evidence = cell.evidence ++ [evidence] ∧
      (cell.withEvidence evidence digest gate).evidenceDigests =
        cell.evidenceDigests ++ [digest] ∧
      ((cell.withEvidence evidence digest gate).state = .evidenceReady ∨
        (cell.withEvidence evidence digest gate).state = cell.state) := by
  unfold Cell.withEvidence
  split
  · exact ⟨rfl, rfl, rfl, rfl, rfl, rfl, rfl, rfl, .inl rfl⟩
  · exact ⟨rfl, rfl, rfl, rfl, rfl, rfl, rfl, rfl, .inr rfl⟩

private theorem grantMatches_of_intent {claims : GrantClaims} {before after : Cell}
    (sameIntent : after.intent = before.intent)
    (sameDigest : after.intentDigest = before.intentDigest)
    (scope : GrantMatches claims before) : GrantMatches claims after := by
  unfold GrantMatches at scope ⊢
  rw [sameIntent, sameDigest]
  exact scope

private theorem received_after_evidence {cell : Cell} {grant : Grant} {grantDigest : Digest}
    {receipt : Receipt} {receiptDigest : Digest} (evidence : Evidence) (digest : Digest)
    (gate : GateAssessment) (holds : CellReceived cell grant grantDigest receipt receiptDigest)
    (target : evidence.receiptDigest = receiptDigest) :
    CellReceived (cell.withEvidence evidence digest gate) grant grantDigest receipt
      receiptDigest := by
  obtain ⟨intentEq, intentDigestEq, grantEq, grantDigestEq, receiptEq, receiptDigestEq,
    evidenceEq, digestsEq, _⟩ := withEvidence_fields cell evidence digest gate
  refine ⟨⟨grantEq.trans holds.granted, grantDigestEq.trans holds.digest,
    grantMatches_of_intent intentEq intentDigestEq holds.scope⟩,
    receiptEq.trans holds.received, receiptDigestEq.trans holds.receiptDigested, ?_, ?_, ?_, ?_⟩
  · unfold ReceiptDescends
    rw [intentDigestEq]
    exact holds.descends
  · rw [intentEq]
    exact holds.valid
  · intro item present
    rw [evidenceEq] at present
    rcases List.mem_append.mp present with earlier | last
    · exact holds.targets item earlier
    · rw [List.mem_singleton.mp last]
      exact target
  · rw [evidenceEq, digestsEq, List.length_append, List.length_append, holds.paired]
    rfl

private theorem evidenceHistory_withEvidence (cell : Cell) (evidence : Evidence) (digest : Digest)
    (gate : GateAssessment) (paired : cell.evidence.length = cell.evidenceDigests.length) :
    (cell.withEvidence evidence digest gate).evidenceHistory =
      cell.evidenceHistory ++ [(.evidence evidence, digest)] := by
  obtain ⟨_, _, _, _, _, _, evidenceEq, digestsEq, _⟩ :=
    withEvidence_fields cell evidence digest gate
  unfold Cell.evidenceHistory
  rw [evidenceEq, digestsEq, List.zip_append paired, List.map_append]
  rfl

section

variable {history : CellHistory}

variable {cell : Cell}

/-- A cell in one of the two evidence states has been received. -/
theorem CellSound.received_of_state (sound : CellSound cell history)
    (state : cell.state = .receiptRecorded ∨ cell.state = .evidenceReady) :
    ∃ grant grantDigest receipt receiptDigest,
      CellReceived cell grant grantDigest receipt receiptDigest ∧
      history = [(.intent cell.intent, cell.intentDigest), (.grant grant, grantDigest),
        (.receipt receipt, receiptDigest)] ++ cell.evidenceHistory := by
  cases sound with
  | intentRecorded early => rw [early] at state; rcases state with h | h <;> cases h
  | granted _ _ early => rw [early] at state; rcases state with h | h <;> cases h
  | received grant grantDigest receipt receiptDigest _ holds =>
      exact ⟨grant, grantDigest, receipt, receiptDigest, holds, rfl⟩
  | decided _ _ _ _ _ _ late => rw [late] at state; rcases state with h | h <;> cases h

/-- The step lemma: every cell step keeps the cell sound for the longer history. -/
theorem CellSound.step {plan : MatrixPlan} {cell after : Cell} {history : CellHistory}
    {document : Document} {digest : Digest} {parents : List Digest}
    (sound : CellSound cell history)
    (taken : CellStep plan (some cell) document digest parents after) :
    CellSound after (history ++ [(document, digest)]) := by
  cases taken with
  | grant _ grant _ state scope =>
      cases sound with
      | intentRecorded _ _ noEvidence =>
          exact .granted grant digest rfl ⟨rfl, rfl, scope⟩ noEvidence
      | granted _ _ other => rw [state] at other; cases other
      | received _ _ _ _ other => rw [state] at other; rcases other with h | h <;> cases h
      | decided _ _ _ _ _ _ other => rw [state] at other; cases other
  | receipt _ receipt _ grant grantDigest state granted digested descends valid =>
      cases sound with
      | intentRecorded other => rw [state] at other; cases other
      | granted _ _ _ holds noEvidence =>
          have sameGrant := Option.some.inj (holds.granted.symm.trans granted)
          have sameDigest := Option.some.inj (holds.digest.symm.trans digested)
          subst sameGrant sameDigest
          let after : Cell := { cell with
            receipt := some receipt
            receiptDigest := some digest
            state := .receiptRecorded }
          have result : CellSound after _ := .received _ _ receipt digest (.inl rfl)
            ⟨⟨holds.granted, holds.digest, holds.scope⟩, rfl, rfl, descends, valid,
              by simp [after, noEvidence.1], by simp [after, noEvidence.1, noEvidence.2]⟩
          simpa [after, Cell.evidenceHistory, noEvidence.1] using result
      | received _ _ _ _ other => rw [state] at other; rcases other with h | h <;> cases h
      | decided _ _ _ _ _ _ other => rw [state] at other; cases other
  | evidence _ evidence _ receiptDigest gate state received target fresh gated =>
      obtain ⟨grant, grantDigest, receipt, soundDigest, holds, rfl⟩ :=
        sound.received_of_state state
      have sameDigest := Option.some.inj (holds.receiptDigested.symm.trans received)
      subst sameDigest
      obtain ⟨intentEq, intentDigestEq, _, _, _, _, _, _, stateEq⟩ :=
        withEvidence_fields cell evidence digest gate
      have result := CellSound.received grant grantDigest receipt _
        (by
          rcases stateEq with ready | same
          · exact .inr ready
          · rw [same]; exact state)
        (received_after_evidence evidence digest gate holds target)
      rw [evidenceHistory_withEvidence cell evidence digest gate holds.paired, intentEq,
        intentDigestEq] at result
      rw [List.append_assoc]
      exact result
  | decision _ decision _ receipt receiptDigest state received digested succeeded gated descends =>
      obtain ⟨grant, grantDigest, soundReceipt, soundDigest, holds, rfl⟩ :=
        sound.received_of_state (.inr state)
      have sameReceipt := Option.some.inj (holds.received.symm.trans received)
      have sameDigest := Option.some.inj (holds.receiptDigested.symm.trans digested)
      subst sameReceipt sameDigest
      let after : Cell := { cell with
        decision := some decision
        decisionDigest := some digest
        state := .decided }
      have result : CellSound after _ := .decided grant grantDigest soundReceipt soundDigest
        decision digest rfl
        ⟨⟨holds.granted, holds.digest, holds.scope⟩, holds.received, holds.receiptDigested,
          holds.descends, holds.valid, holds.targets, holds.paired⟩
        ⟨rfl, rfl, succeeded, gated, descends⟩
      exact result

variable {plan : MatrixPlan}

/-- The run lemma: a cell is sound for its own history. -/
theorem CellRun.sound {reached : Option Cell} (run : CellRun plan history reached) :
    (reached = none ∧ history = []) ∨ ∃ cell, reached = some cell ∧ CellSound cell history := by
  induction run with
  | start => exact .inl ⟨rfl, rfl⟩
  | step earlier taken ih =>
      right
      rename_i before document digest parents after
      refine ⟨after, rfl, ?_⟩
      rcases ih with ⟨rfl, rfl⟩ | ⟨cell, rfl, sound⟩
      · cases taken with
        | intent intent => exact .intentRecorded rfl rfl ⟨rfl, rfl⟩
      · exact sound.step taken

theorem CellRun.sound_of_some
    (run : CellRun plan history (some cell)) : CellSound cell history := by
  rcases run.sound with ⟨impossible, _⟩ | ⟨_, same, sound⟩
  · cases impossible
  · cases same
    exact sound

/-- The evidence digests of a sound cell are digests of its history. -/
theorem CellSound.evidence_recorded (sound : CellSound cell history) :
    ∀ digest ∈ cell.evidenceDigests, ∃ document, (document, digest) ∈ history := by
  have paired : cell.evidence.length = cell.evidenceDigests.length →
      ∀ digest ∈ cell.evidenceDigests, ∃ document, (document, digest) ∈ cell.evidenceHistory := by
    intro lengths digest present
    rw [← List.map_snd_zip (le_of_eq lengths.symm)] at present
    obtain ⟨item, inZip, rfl⟩ := List.mem_map.mp present
    exact ⟨_, List.mem_map_of_mem inZip⟩
  intro digest present
  cases sound with
  | intentRecorded _ _ noEvidence => rw [noEvidence.2] at present; cases present
  | granted _ _ _ _ noEvidence => rw [noEvidence.2] at present; cases present
  | received _ _ _ _ _ holds =>
      obtain ⟨document, inHistory⟩ := paired holds.paired digest present
      exact ⟨document, List.mem_append_right _ inHistory⟩
  | decided _ _ _ _ _ _ _ holds =>
      obtain ⟨document, inHistory⟩ := paired holds.paired digest present
      exact ⟨document, List.mem_append_left _ (List.mem_append_right _ inHistory)⟩

variable {document : Document} {parents : List Digest}

variable {digest : Digest}

/-- The causal parents of a step are digests of the cell's history. -/
theorem CellSound.parents_recorded {cell after : Cell} (sound : CellSound cell history)
    (taken : CellStep plan (some cell) document digest parents after) :
    ∀ parent ∈ parents, ∃ source, (source, parent) ∈ history := by
  have intentFirst : ∃ source, (source, cell.intentDigest) ∈ history := by
    cases sound <;> exact ⟨.intent cell.intent, List.mem_cons_self⟩
  intro parent present
  cases taken with
  | grant => rw [List.mem_singleton.mp present]; exact intentFirst
  | receipt _ _ _ grant grantDigest state _ digested =>
      cases sound with
      | granted _ _ _ holds =>
          have same := Option.some.inj (holds.digest.symm.trans digested)
          subst same
          rcases List.mem_cons.mp present with rfl | later
          · exact intentFirst
          · rw [List.mem_singleton.mp later]
            exact ⟨_, List.mem_cons_of_mem _ List.mem_cons_self⟩
      | intentRecorded other => rw [state] at other; cases other
      | received _ _ _ _ other => rw [state] at other; rcases other with h | h <;> cases h
      | decided _ _ _ _ _ _ other => rw [state] at other; cases other
  | evidence _ _ _ receiptDigest _ state received =>
      obtain ⟨grant, grantDigest, receipt, soundDigest, holds, rfl⟩ := sound.received_of_state state
      rw [List.mem_singleton.mp present,
        ← Option.some.inj (holds.receiptDigested.symm.trans received)]
      exact ⟨.receipt receipt, by simp⟩
  | decision _ _ _ _ receiptDigest state _ digested =>
      have recorded := sound.evidence_recorded
      obtain ⟨grant, grantDigest, receipt, soundDigest, holds, rfl⟩ :=
        sound.received_of_state (.inr state)
      have same := Option.some.inj (holds.receiptDigested.symm.trans digested)
      rcases List.mem_cons.mp present with rfl | later
      · exact intentFirst
      · rcases List.mem_cons.mp later with rfl | inEvidence
        · rw [← same]
          exact ⟨.receipt receipt, by simp⟩
        · exact recorded parent ((sortDigests_perm cell.evidenceDigests).mem_iff.mp inEvidence)

private theorem mem_evidenceHistory (present : (document, digest) ∈ cell.evidenceHistory) :
    ∃ evidence ∈ cell.evidence, document = .evidence evidence := by
  obtain ⟨item, inZip, same⟩ := List.mem_map.mp present
  exact ⟨item.1, (List.of_mem_zip inZip).1, (Prod.mk.inj same).1.symm⟩

/-- No document is recorded twice in a cell. -/
theorem CellSound.not_repeated {cell after : Cell} {digest earlier : Digest}
    (sound : CellSound cell history)
    (taken : CellStep plan (some cell) document digest parents after) :
    (document, earlier) ∉ history := by
  intro present
  cases taken with
  | grant _ _ _ state =>
      cases sound with
      | intentRecorded => simp at present
      | granted _ _ other => rw [state] at other; cases other
      | received _ _ _ _ other => rw [state] at other; rcases other with h | h <;> cases h
      | decided _ _ _ _ _ _ other => rw [state] at other; cases other
  | receipt _ _ _ _ _ state =>
      cases sound with
      | granted => simp at present
      | intentRecorded other => rw [state] at other; cases other
      | received _ _ _ _ other => rw [state] at other; rcases other with h | h <;> cases h
      | decided _ _ _ _ _ _ other => rw [state] at other; cases other
  | evidence _ evidence _ _ _ state _ _ fresh =>
      obtain ⟨_, _, _, _, _, rfl⟩ := sound.received_of_state state
      rcases List.mem_append.mp present with first | later
      · simp at first
      · obtain ⟨other, inCell, same⟩ := mem_evidenceHistory later
        cases same
        exact fresh (List.mem_map_of_mem (f := fun item : Evidence => item.evidenceId) inCell)
  | decision _ _ _ _ _ state =>
      obtain ⟨_, _, _, _, _, rfl⟩ := sound.received_of_state (.inr state)
      rcases List.mem_append.mp present with first | later
      · simp at first
      · obtain ⟨other, _, same⟩ := mem_evidenceHistory later
        cases same

/-- The cell an intent opened lies where the plan declares it. -/
theorem CellRun.located {reached : Option Cell} (run : CellRun plan history reached) :
    ∀ cell, reached = some cell → ∃ definition,
      expectedCell plan cell.intent.cellId = some definition ∧
      cell.intent.coordinates.pyEq definition.coordinates = true := by
  induction run with
  | start => intro cell impossible; cases impossible
  | step earlier taken ih =>
      rintro _ ⟨⟩
      cases taken with
      | intent intent _ definition declared located => exact ⟨definition, declared, located⟩
      | grant before => exact ih before rfl
      | receipt before => exact ih before rfl
      | evidence before evidence _ _ gate =>
          rw [(withEvidence_fields before evidence _ gate).1]
          exact ih before rfl
      | decision before => exact ih before rfl

/-- No later document changes the intent of a cell. -/
theorem CellStep.keeps_intent {before after : Cell}
    (taken : CellStep plan (some before) document digest parents after) :
    after.intent = before.intent := by
  cases taken with
  | evidence _ evidence _ _ gate => exact (withEvidence_fields before evidence digest gate).1
  | _ => rfl

end

/-! ### The cells of a replayed ledger -/

/-- The documents of a cell in a history; the plan's entry belongs to none. -/
def History.ofCell (history : History) (cellId : Ident) : CellHistory :=
  (history.filter fun item => item.2.kind ≠ .matrixPlan ∧ item.1.cellId = cellId).map fun item =>
    (item.2, item.1.documentDigest)

theorem History.ofCell_append (history : History) (entry : LedgerEntry) (parsed : Document)
    (cellId : Ident) :
    History.ofCell (history ++ [(entry, parsed)]) cellId =
      History.ofCell history cellId ++
        if parsed.kind ≠ .matrixPlan ∧ entry.cellId = cellId then
          [(parsed, entry.documentDigest)] else [] := by
  unfold History.ofCell
  rw [List.filter_append, List.map_append]
  congr 1
  by_cases here : parsed.kind ≠ .matrixPlan ∧ entry.cellId = cellId <;> simp [here]

namespace Replayed

variable {matrixId : Ident} {history : History} {state : VerifierState}

/-- Every accepted entry leaves a frozen plan behind. -/
theorem plan_of_applied {entry : LedgerEntry} {parsed : Document}
    {result : Option MatrixPlan × Cells} (named : parsed.cellId = entry.cellId)
    (applied : applyDocument matrixId state entry parsed = .ok result) :
    ∃ plan, result.1 = some plan := by
  by_cases isPlan : parsed.kind = .matrixPlan
  · cases parsed with
    | matrixPlan plan =>
        obtain ⟨_, _, _, _, _, _, rfl⟩ := (applyDocument_plan matrixId state entry plan result).mp
          applied
        exact ⟨plan, rfl⟩
    | _ => cases isPlan
  · obtain ⟨plan, _, _, _, _, rfl⟩ :=
      (applyDocument_cell matrixId state entry parsed result isPlan named).mp applied
    exact ⟨plan, rfl⟩

theorem empty_of_no_plan (replayed : Replayed matrixId history state)
    (absent : state.matrixPlan = none) : history = [] ∧ state = VerifierState.initial := by
  cases replayed with
  | start => exact ⟨rfl, rfl⟩
  | step earlier accepted =>
      obtain ⟨plan, present⟩ := plan_of_applied accepted.cellId accepted.applied
      simp only at present
      rw [absent] at present
      cases present

/-- Every cell of a replayed ledger is the result of a run of its own documents. -/
theorem cellRun (replayed : Replayed matrixId history state) :
    ∀ plan, state.matrixPlan = some plan →
      ∀ cellId, CellRun plan (history.ofCell cellId) (state.cells.get? cellId) := by
  induction replayed with
  | start => intro plan impossible; cases impossible
  | step earlier accepted ih =>
      rename_i history before next entry parsed
      intro plan frozen cellId
      rw [History.ofCell_append]
      by_cases isPlan : parsed.kind = .matrixPlan
      · cases parsed with
        | matrixPlan document =>
            obtain ⟨_, absent, _, _, _, _, same⟩ :=
              (applyDocument_plan matrixId before entry document _).mp accepted.applied
            simp only [Prod.mk.injEq] at same
            obtain ⟨rfl, rfl⟩ := earlier.empty_of_no_plan absent
            rw [same.2]
            simp only [isPlan, ne_eq, not_true_eq_false, false_and, if_false]
            exact .start
        | _ => cases isPlan
      · obtain ⟨beforePlan, cell, present, _, taken, same⟩ :=
          (applyDocument_cell matrixId before entry parsed _ isPlan accepted.cellId).mp
            accepted.applied
        simp only [Prod.mk.injEq] at same
        have samePlan : beforePlan = plan := by
          rw [frozen] at same
          exact (Option.some.inj same.1).symm
        subst samePlan
        rw [same.2, Dict.get?_set]
        by_cases here : cellId = entry.cellId
        · subst here
          rw [if_pos rfl, if_pos ⟨isPlan, rfl⟩]
          exact .step (ih beforePlan present entry.cellId) taken
        · rw [if_neg here, if_neg (fun both => here both.2.symm), List.append_nil]
          exact ih beforePlan present cellId

/-- Cells are filed under distinct identifiers, each under its intent's. -/
theorem cells_keyed (replayed : Replayed matrixId history state) :
    state.cells.keys.Nodup ∧
      ∀ cellId cell, state.cells.get? cellId = some cell → cell.intent.cellId = cellId := by
  induction replayed with
  | start => exact ⟨List.nodup_nil, fun _ _ impossible => by cases impossible⟩
  | step earlier accepted ih =>
      rename_i history before next entry parsed
      obtain ⟨distinct, keyed⟩ := ih
      by_cases isPlan : parsed.kind = .matrixPlan
      · cases parsed with
        | matrixPlan document =>
            obtain ⟨_, _, _, _, _, _, same⟩ :=
              (applyDocument_plan matrixId before entry document _).mp accepted.applied
            simp only [Prod.mk.injEq] at same
            rw [same.2]
            exact ⟨distinct, keyed⟩
        | _ => cases isPlan
      · obtain ⟨plan, cell, present, _, taken, same⟩ :=
          (applyDocument_cell matrixId before entry parsed _ isPlan accepted.cellId).mp
            accepted.applied
        simp only [Prod.mk.injEq] at same
        rw [same.2]
        refine ⟨Dict.keys_set_nodup _ _ _ distinct, ?_⟩
        intro cellId other found
        rw [Dict.get?_set] at found
        split at found
        · rename_i here
          cases found
          rw [here]
          generalize beforeEq : before.cells.get? entry.cellId = slot at taken
          generalize entry.causalParents = parents at taken
          cases taken with
          | intent => exact accepted.cellId
          | grant earlierCell => exact keyed _ earlierCell beforeEq
          | receipt earlierCell => exact keyed _ earlierCell beforeEq
          | evidence earlierCell evidence _ _ gate =>
              rw [(withEvidence_fields earlierCell evidence _ gate).1]
              exact keyed _ earlierCell beforeEq
          | decision earlierCell => exact keyed _ earlierCell beforeEq
        · exact keyed cellId other found

/-- Every entry of a replayed ledger carries the digest and the cell of the
document parsed from it. -/
theorem entries_parsed (replayed : Replayed matrixId history state) :
    ∀ item ∈ history, Document.parse item.1.documentKind item.1.document.value = .ok item.2 ∧
      digestDocument item.2.value = .ok item.1.documentDigest ∧ item.2.cellId = item.1.cellId := by
  induction replayed with
  | start => intro item impossible; cases impossible
  | step earlier accepted ih =>
      intro item present
      rcases List.mem_append.mp present with before | last
      · exact ih item before
      · rw [List.mem_singleton.mp last]
        exact ⟨accepted.parses, accepted.digest, accepted.cellId⟩

theorem seen (replayed : Replayed matrixId history state) :
    state.seenDigests = history.map fun item => item.1.documentDigest := by
  induction replayed with
  | start => rfl
  | step earlier accepted ih => rw [accepted.nextSeen, ih, List.map_append, List.map_singleton]

/-- The verifier has seen the digest of every evidence record of its cells. -/
theorem evidence_seen (replayed : Replayed matrixId history state) {plan : MatrixPlan}
    (frozen : state.matrixPlan = some plan) {cellId : Ident} {cell : Cell}
    (found : state.cells.get? cellId = some cell) :
    ∀ digest ∈ cell.evidenceDigests, digest ∈ state.seenDigests := by
  intro digest present
  have run := replayed.cellRun plan frozen cellId
  rw [found] at run
  obtain ⟨document, recorded⟩ := run.sound_of_some.evidence_recorded digest present
  obtain ⟨item, inHistory, same⟩ := List.mem_map.mp recorded
  rw [replayed.seen]
  have digestEq : item.1.documentDigest = digest := (Prod.mk.inj same).2
  rw [← digestEq]
  exact List.mem_map_of_mem (f := fun item : LedgerEntry × Document => item.1.documentDigest)
    (List.mem_of_mem_filter inHistory)

end Replayed

end EgoAgent.Rxp
