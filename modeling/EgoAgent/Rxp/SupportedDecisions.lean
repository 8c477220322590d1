import EgoAgent.Rxp.Sample

/-!
A decision is never unsupported.

For every decided cell of an accepted ledger the documents are one intent, one
grant, one receipt, the evidence and one decision, in that order, with
everything the guards of the five transitions checked.
-/

namespace EgoAgent.Rxp

open Platform MatrixLedger

section General

variable [Platform]

/-- Everything a decision rests on. -/
structure DecisionSupported (intent : Intent) (intentDigest : Digest) (grant : Grant)
    (grantDigest : Digest) (receipt : Receipt) (receiptDigest : Digest)
    (evidence : List (Evidence × Digest)) (decision : Decision) : Prop where
  outcome : receipt.outcome = .succeeded
  withinGrant : ReceiptWithinGrant receipt grant intent
  boundsContainRequest : grant.claims.bounds.contains intent.requestedResources
  grantNamesIntent : grant.claims.intentDigest = intentDigest
  receiptNamesLineage : receipt.intentDigest = intentDigest ∧ receipt.grantDigest = grantDigest ∧
    receipt.grantId = grant.claims.grantId
  determinism : decision.determinismLevel = receipt.determinismLevel
  evidenceTargetsReceipt : ∀ item ∈ evidence, item.1.receiptDigest = receiptDigest
  evidenceDigested : ∀ item ∈ evidence, digestDocument item.1.value = .ok item.2
  gate : GatePasses (evidence.map Prod.fst)
  decisionNamesLineage : decision.intentDigest = intentDigest ∧
    decision.receiptDigest = receiptDigest
  decisionNamesEvidence : decision.evidenceDigests = sortDigests (evidence.map Prod.snd)

/-- Every decided cell of an accepted ledger has exactly an intent, a grant, a
receipt, its evidence and a decision, in that order, and the decision is
supported by them. -/
theorem decided_cell_supported (document : MatrixLedgerDocument)
    (accepted : verifyLedgerDocument document = .ok ()) (snapshot : CellSnapshot)
    (reported : snapshot ∈ document.cells) (decided : snapshot.state = .decided) :
    ∃ intent intentDigest grant grantDigest receipt receiptDigest evidence decision
      decisionDigest,
      cellDocuments document snapshot.cellId =
        [(.intent intent, intentDigest), (.grant grant, grantDigest),
          (.receipt receipt, receiptDigest)] ++
        evidence.map (fun item => (.evidence item.1, item.2)) ++
        [(.decision decision, decisionDigest)] ∧
      DecisionSupported intent intentDigest grant grantDigest receipt receiptDigest evidence
        decision := by
  obtain ⟨history, plan, state, accepted⟩ := (verifyLedgerDocument_eq_ok document).mp accepted
  obtain ⟨cell, found, rfl⟩ := accepted.cell_of_snapshot reported
  have run := accepted.replayed.cellRun plan accepted.frozen cell.snapshot.cellId
  rw [found] at run
  have documents := accepted.cellDocuments_eq cell.snapshot.cellId
  have parsed := accepted.replayed.entries_parsed
  change cell.state = .decided at decided
  have sound := run.sound_of_some
  rw [← documents] at sound
  generalize cellDocuments document cell.snapshot.cellId = recorded at sound documents
  cases sound with
  | intentRecorded other => rw [decided] at other; cases other
  | granted _ _ other => rw [decided] at other; cases other
  | received _ _ _ _ other => rw [decided] at other; rcases other with h | h <;> cases h
  | decided grant grantDigest receipt receiptDigest decision decisionDigest _ holds closed =>
      refine ⟨cell.intent, cell.intentDigest, grant, grantDigest, receipt, receiptDigest,
        cell.evidence.zip cell.evidenceDigests, decision, decisionDigest, rfl, ?_⟩
      have firsts : (cell.evidence.zip cell.evidenceDigests).map Prod.fst = cell.evidence :=
        List.map_fst_zip (le_of_eq holds.paired)
      have seconds : (cell.evidence.zip cell.evidenceDigests).map Prod.snd =
          cell.evidenceDigests :=
        List.map_snd_zip (le_of_eq holds.paired.symm)
      exact {
        outcome := closed.succeeded
        withinGrant := (validateReceipt_eq_ok _ _ _).mp holds.valid
        boundsContainRequest := holds.scope.2.2.2.2.2.2.2
        grantNamesIntent := holds.scope.1
        receiptNamesLineage := holds.descends
        determinism := closed.descends.2.2.2
        evidenceTargetsReceipt := fun item present => holds.targets item.1
          (List.of_mem_zip present).1
        evidenceDigested := by
          intro item present
          have inRecorded : ((.evidence item.1, item.2) : Document × Digest) ∈
              history.ofCell cell.snapshot.cellId := by
            rw [← documents]
            apply List.mem_append_left
            apply List.mem_append_right
            exact List.mem_map_of_mem (f := fun item : Evidence × Digest =>
              ((.evidence item.1, item.2) : Document × Digest)) present
          obtain ⟨source, inHistory, same⟩ := List.mem_map.mp inRecorded
          have digested := (parsed source (List.mem_of_mem_filter inHistory)).2.1
          simp only [Prod.mk.injEq] at same
          rw [same.1, same.2] at digested
          exact digested
        gate := by
          rw [firsts]
          exact (evidenceGate_pass cell.evidence decision.gate closed.gated).mp
            decision.matchesGate.2.2.2
        decisionNamesLineage := ⟨closed.descends.1, closed.descends.2.1⟩
        decisionNamesEvidence := by
          rw [seconds]
          exact closed.descends.2.2.1 }

end General

theorem Sample.decided_cell_supported_sample : ∃ document snapshot,
    verifyLedgerDocument document = .ok () ∧ snapshot ∈ document.cells ∧
    snapshot.state = .decided ∧
    ∃ intent intentDigest grant grantDigest receipt receiptDigest evidence decision
      decisionDigest,
      cellDocuments document snapshot.cellId =
        [(.intent intent, intentDigest), (.grant grant, grantDigest),
          (.receipt receipt, receiptDigest)] ++
        evidence.map (fun item => (.evidence item.1, item.2)) ++
        [(.decision decision, decisionDigest)] ∧
      DecisionSupported intent intentDigest grant grantDigest receipt receiptDigest evidence
        decision := by
  obtain ⟨ledger, cell, run, found, isDecided⟩ := decided false
  obtain ⟨document, _, verified, snapshot⟩ := verifies run List.prefix_rfl
  have reported : cell.snapshot ∈ document.cells := by
    rw [snapshot.cells, Cells.sorted, List.mem_map]
    exact ⟨(cellId, cell), (List.perm_insertionSort _ _).mem_iff.mpr
      (Dict.mem_of_get? _ found), rfl⟩
  exact ⟨document, cell.snapshot, verified, reported, isDecided,
    decided_cell_supported document verified cell.snapshot reported isDecided⟩

section Descent

variable [Platform]

/-- What an entry descends from: earlier entries of its own cell, and from none of them only if it
opens the ledger or the cell. -/
structure Descends (before : List LedgerEntry) (entry : LedgerEntry) : Prop where
  parents : ∀ parent ∈ entry.causalParents, ∃ source ∈ before,
    source.documentDigest = parent ∧ source.cellId = entry.cellId
  rooted : entry.causalParents = [] →
    entry.documentKind = .matrixPlan ∨ entry.documentKind = .intent
  fresh : ∀ source ∈ before, source.documentDigest ≠ entry.documentDigest

theorem Replayed.descends {matrixId : Ident} {history : History} {state next : VerifierState}
    {entry : LedgerEntry} {parsed : Document} (replayed : Replayed matrixId history state)
    (accepted : EntryAccepted matrixId state entry parsed next) :
    Descends (history.map Prod.fst) entry := by
  have kind := Document.kind_of_parse accepted.parses
  have fresh : ∀ source ∈ history.map Prod.fst, source.documentDigest ≠ entry.documentDigest := by
    intro source listed same
    obtain ⟨item, member, rfl⟩ := List.mem_map.mp listed
    apply accepted.fresh
    rw [replayed.seen, ← same]
    exact List.mem_map.mpr ⟨item, member, rfl⟩
  by_cases isPlan : parsed.kind = .matrixPlan
  · cases parsed with
    | matrixPlan plan =>
        obtain ⟨_, _, _, _, noParents, _, _⟩ :=
          (applyDocument_plan matrixId state entry plan _).mp accepted.applied
        refine ⟨fun parent listed => ?_, fun _ => .inl kind.symm, fresh⟩
        rw [noParents] at listed
        cases listed
    | _ => cases isPlan
  · obtain ⟨plan, cell, frozen, _, taken, _⟩ :=
      (applyDocument_cell matrixId state entry parsed _ isPlan accepted.cellId).mp accepted.applied
    have run := replayed.cellRun plan frozen entry.cellId
    refine ⟨fun parent listed => ?_, fun noParents => ?_, fresh⟩
    · generalize state.cells.get? entry.cellId = reached at taken run
      cases reached with
      | none =>
          generalize entry.causalParents = parents at taken listed
          cases taken
          cases listed
      | some cell =>
          obtain ⟨source, inCell⟩ := run.sound_of_some.parents_recorded taken parent listed
          obtain ⟨item, member, same⟩ := List.mem_map.mp inCell
          obtain ⟨inHistory, here⟩ := List.mem_filter.mp member
          exact ⟨item.1, List.mem_map.mpr ⟨item, inHistory, rfl⟩, congrArg Prod.snd same,
            (of_decide_eq_true here).2⟩
    · rw [← kind]
      rw [noParents] at taken
      generalize state.cells.get? entry.cellId = reached at taken
      cases taken
      exact .inr rfl

/-- Every entry of an accepted ledger descends from earlier entries of its own cell. -/
theorem accepted_entries_descend (document : MatrixLedgerDocument)
    (accepted : verifyLedgerDocument document = .ok ()) (before after : List LedgerEntry)
    (entry : LedgerEntry) (split : document.entries = before ++ entry :: after) :
    Descends before entry := by
  obtain ⟨history, plan, state, accepted⟩ := (verifyLedgerDocument_eq_ok document).mp accepted
  have entries := accepted.entries.trans split
  have replayed := accepted.replayed
  clear accepted split
  induction replayed generalizing after with
  | start => cases before <;> cases entries
  | step earlier taken ih =>
      rename_i history state next last parsed
      rw [List.map_append, List.map_singleton] at entries
      rcases List.eq_nil_or_concat' after with rfl | ⟨init, final, rfl⟩
      · obtain ⟨sameHistory, rfl⟩ := List.append_singleton_inj.mp entries
        rw [← sameHistory]
        exact earlier.descends taken
      · rw [← List.cons_append, ← List.append_assoc] at entries
        exact ih init (List.append_singleton_inj.mp entries).1

end Descent

theorem Sample.accepted_entries_descend_sample : ∃ document before entry after,
    verifyLedgerDocument document = .ok () ∧ document.entries = before ++ entry :: after ∧
      before ≠ [] ∧ Descends before entry := by
  obtain ⟨ledger, cell, run, _, _⟩ := decided false
  obtain ⟨document, _, verified, snapshot⟩ := verifies run List.prefix_rfl
  have embeds := run.embeds.2
  rw [← snapshot.entries] at embeds
  obtain ⟨first, second, rest, entries⟩ : ∃ first second rest,
      document.entries = [first] ++ second :: rest := by
    generalize document.entries = entries at embeds
    rcases embeds with _ | ⟨_, _ | ⟨_, _⟩⟩
    exact ⟨_, _, _, rfl⟩
  exact ⟨document, [first], second, rest, verified, entries, List.cons_ne_nil _ _,
    accepted_entries_descend document verified [first] rest second entries⟩

end EgoAgent.Rxp
