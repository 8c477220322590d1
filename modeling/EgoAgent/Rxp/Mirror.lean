import EgoAgent.Rxp.Operations
import EgoAgent.Rxp.Snapshot

/-!
Cells of the recorder and the cells the verifier re-reads from them.

A cell and its mirror agree on states and digests and hold documents and their
re-readings.  Every step of a cell is a step of its mirror.
-/

namespace EgoAgent.Rxp

open Platform MatrixLedger

variable [Platform]

/-- The document's free text and claims survive normalisation.  A grant repeats
the text of its intent, and a decision has none. -/
def Document.ReadsBack : Document → Prop
  | .matrixPlan document => Rxp.ReadsBack document.name
  | .intent document => Rxp.ReadsBack document.action ∧ Rxp.ReadsBack document.scope
  | .grant _ => True
  | .receipt document => document.output.ReadsBack
  | .evidence document => document.artifact.ReadsBack ∧ document.GateStable
  | .decision _ => True

inductive OptionMirror {α : Type} (codec : Codec unicode α) : Option α → Option α → Prop where
  | none : OptionMirror codec none none
  | some {source reread : α} (normal : codec.norm source = .some reread) :
      OptionMirror codec (.some source) (.some reread)

structure CellMirror (cell mirror : Cell) : Prop where
  intent : Intent.codec.norm cell.intent = some mirror.intent
  intentDigest : mirror.intentDigest = cell.intentDigest
  state : mirror.state = cell.state
  grant : OptionMirror Grant.codec cell.grant mirror.grant
  grantDigest : mirror.grantDigest = cell.grantDigest
  receipt : OptionMirror Receipt.codec cell.receipt mirror.receipt
  receiptDigest : mirror.receiptDigest = cell.receiptDigest
  evidence : List.Forall₂ EvidenceReread cell.evidence mirror.evidence
  evidenceDigests : mirror.evidenceDigests = cell.evidenceDigests
  decisionDigest : mirror.decisionDigest = cell.decisionDigest

theorem OptionMirror.of_some {α : Type} {codec : Codec unicode α} {left right : Option α}
    {source : α} (mirror : OptionMirror codec left right) (present : left = .some source) :
    ∃ reread, right = .some reread ∧ codec.norm source = .some reread := by
  cases mirror with
  | none => cases present
  | some normal => cases present; exact ⟨_, rfl, normal⟩

/-- A cell and its mirror look the same from outside. -/
theorem CellMirror.snapshot {cell mirror : Cell} (mirrors : CellMirror cell mirror) :
    mirror.snapshot = cell.snapshot := by
  have level : mirror.snapshot.determinismLevel = cell.snapshot.determinismLevel := by
    have receipts := mirrors.receipt
    unfold Cell.snapshot
    generalize cell.receipt = left at receipts
    generalize mirror.receipt = right at receipts
    cases receipts with
    | none => rfl
    | some normal => exact (Receipt.norm_some normal).determinismLevel
  have evidence : mirror.snapshot.evidenceDigests = cell.snapshot.evidenceDigests := by
    unfold Cell.snapshot
    rw [mirrors.evidenceDigests]
  unfold Cell.snapshot at level evidence ⊢
  rw [CellSnapshot.mk.injEq]
  exact ⟨(Intent.norm_some mirrors.intent).cellId, mirrors.state, mirrors.intentDigest,
    mirrors.grantDigest, mirrors.receiptDigest, evidence, mirrors.decisionDigest, level⟩

/-! ### Documents that can be re-read -/

private theorem readsBack_of_norm {low high : Nat} {text normal : BoundedText low high}
    (computed : (boundedTextCodec low high).norm text = some normal) : ReadsBack text := by
  have same : unicode.nfc text.val = normal.val :=
    Option.some.inj ((Codec.refine_norm _ _ _ _).mp computed)
  unfold ReadsBack
  rw [same]
  exact normal.property

/-- A document that takes a cell step can be re-read. -/
theorem Document.norm_of_step {plan : MatrixPlan} {before : Option Cell} {document : Document}
    {digest : Digest} {parents : List Digest} {after : Cell}
    (taken : CellStep plan before document digest parents after) (reads : document.ReadsBack)
    (digested : digestDocument document.value = .ok digest)
    (mirrored : ∀ cell, before = some cell → ∃ mirror, CellMirror cell mirror) :
    ∃ reread, document.norm = some reread := by
  cases taken with
  | intent intent =>
      obtain ⟨reread, normal⟩ := Intent.norm_returns intent reads.1 reads.2
        (canon_of_digestDocument digested)
      exact ⟨.intent reread, by rw [Document.norm, normal]; rfl⟩
  | grant cell grant _ _ scope =>
      obtain ⟨mirror, mirrors⟩ := mirrored cell rfl
      have intent := Intent.norm_some mirrors.intent
      have action : Rxp.ReadsBack grant.claims.action := by
        rw [scope.2.2.2.2.1]
        exact readsBack_of_norm intent.action
      have readScope : Rxp.ReadsBack grant.claims.scope := by
        rw [scope.2.2.2.2.2.1]
        exact readsBack_of_norm intent.scope
      obtain ⟨reread, normal⟩ := Grant.norm_returns grant action readScope
      exact ⟨.grant reread, by rw [Document.norm, normal]; rfl⟩
  | receipt _ receipt =>
      obtain ⟨reread, normal⟩ := Receipt.norm_returns receipt reads
      exact ⟨.receipt reread, by rw [Document.norm, normal]; rfl⟩
  | evidence _ evidence =>
      obtain ⟨reread, normal⟩ := Evidence.norm_returns evidence reads.1
      exact ⟨.evidence reread, by rw [Document.norm, normal]; rfl⟩
  | decision _ decision =>
      obtain ⟨reread, normal⟩ := Decision.norm_returns decision
      exact ⟨.decision reread, by rw [Document.norm, normal]; rfl⟩

/-! ### Steps of mirrors -/

private theorem grantMatches_mirror {grant reread : Grant} {cell mirror : Cell}
    (normal : Grant.codec.norm grant = some reread) (mirrors : CellMirror cell mirror)
    (scope : GrantMatches grant.claims cell) : GrantMatches reread.claims mirror := by
  have claims := Grant.norm_some normal
  have intent := Intent.norm_some mirrors.intent
  obtain ⟨intentDigest, intentId, matrixId, cellId, action, scopeEq, payload, bounds⟩ := scope
  have actionEq := claims.action
  have scopeNorm := claims.scope
  rw [action, intent.action, Option.some.injEq] at actionEq
  rw [scopeEq, intent.scope, Option.some.injEq] at scopeNorm
  refine ⟨?_, ?_, ?_, ?_, actionEq.symm, scopeNorm.symm, ?_, ?_⟩
  · rw [claims.intentDigest, intentDigest, mirrors.intentDigest]
  · rw [claims.intentId, intentId, intent.intentId]
  · rw [claims.matrixId, matrixId, intent.matrixId]
  · rw [claims.cellId, cellId, intent.cellId]
  · rw [claims.actionPayloadDigest, payload, intent.actionPayloadDigest]
  · rw [claims.bounds, intent.requestedResources]
    exact bounds

private theorem receiptWithin_mirror {receipt reread : Receipt} {grant grant' : Grant}
    {intent intent' : Intent} (receipts : ReceiptNormal receipt reread)
    (grants : GrantNormal grant grant') (intents : IntentNormal intent intent')
    (within : ReceiptWithinGrant receipt grant intent) :
    ReceiptWithinGrant reread grant' intent' := by
  obtain ⟨times, gpuCount, wallTime, gpuTime, artifactBytes, outputBytes, minimum, required⟩ :=
    within
  refine ⟨?_, ?_, ?_, ?_, ?_, ?_, ?_, ?_⟩
  · rw [receipts.startedAt, receipts.completedAt, grants.issuedAt, grants.expiresAt]
    exact times
  · rw [receipts.usage, grants.bounds]; exact gpuCount
  · rw [receipts.usage, grants.bounds]; exact wallTime
  · rw [receipts.usage, grants.bounds]; exact gpuTime
  · rw [receipts.usage, grants.bounds]; exact artifactBytes
  · rw [receipts.usage, receipts.outputBytes]; exact outputBytes
  · rw [receipts.determinismLevel, grants.minimumDeterminism]; exact minimum
  · rw [receipts.determinismLevel, intents.requiredDeterminism]; exact required

/-- The mirror of an optional cell. -/
inductive SlotMirror : Option Cell → Option Cell → Prop where
  | none : SlotMirror none none
  | some {cell mirror : Cell} (mirrors : CellMirror cell mirror) :
      SlotMirror (.some cell) (.some mirror)

theorem SlotMirror.of_some {left right : Option Cell} {cell : Cell}
    (slots : SlotMirror left right) (present : left = .some cell) :
    ∃ mirror, right = .some mirror ∧ CellMirror cell mirror := by
  cases slots with
  | none => cases present
  | some mirrors => cases present; exact ⟨_, rfl, mirrors⟩

private theorem withEvidence_mirror {cell mirror : Cell} (mirrors : CellMirror cell mirror)
    {evidence reread : Evidence} (related : EvidenceReread evidence reread) (digest : Digest)
    (gate : GateAssessment) :
    CellMirror (cell.withEvidence evidence digest gate) (mirror.withEvidence reread digest gate) := by
  have grown := List.rel_append mirrors.evidence (.cons related .nil)
  have digests : mirror.evidenceDigests ++ [digest] = cell.evidenceDigests ++ [digest] := by
    rw [mirrors.evidenceDigests]
  unfold Cell.withEvidence
  split
  · exact { mirrors with state := rfl, evidence := grown, evidenceDigests := digests }
  · exact { mirrors with evidence := grown, evidenceDigests := digests }

/-- The step lemma: what the recorder does to a cell, the verifier does to its mirror. -/
theorem CellStep.mirror {plan plan' : MatrixPlan} {before before' : Option Cell}
    {document reread : Document} {digest : Digest} {parents : List Digest} {after : Cell}
    (taken : CellStep plan before document digest parents after)
    (plans : MatrixPlanNormal plan plan') (slots : SlotMirror before before')
    (normal : document.norm = some reread) (reads : document.ReadsBack) :
    ∃ after', CellStep plan' before' reread digest parents after' ∧ CellMirror after after' := by
  cases taken with
  | intent intent _ definition declared located =>
      cases slots
      obtain ⟨intent', intentNormal, rfl⟩ := Option.map_eq_some_iff.mp normal
      obtain ⟨definition', declared', _, coordinates⟩ := expectedCell_reread plans declared
      have fields := Intent.norm_some intentNormal
      refine ⟨_, .intent intent' digest definition' (by rw [fields.cellId]; exact declared')
        (Coordinates.pyEq_norm fields.coordinates coordinates located), ?_⟩
      exact ⟨intentNormal, rfl, rfl, .none, rfl, .none, rfl, .nil, rfl, rfl⟩
  | grant cell grant _ state scope =>
      obtain _ | @⟨_, mirror, mirrors⟩ := slots
      obtain ⟨grant', grantNormal, rfl⟩ := Option.map_eq_some_iff.mp normal
      refine ⟨{ mirror with
        grant := some grant'
        grantDigest := some digest
        state := .granted }, ?_, { mirrors with
        state := rfl
        grant := .some grantNormal
        grantDigest := rfl }⟩
      rw [← mirrors.intentDigest]
      exact .grant mirror grant' digest (mirrors.state.trans state)
        (grantMatches_mirror grantNormal mirrors scope)
  | receipt cell receipt _ grant grantDigest state granted grantDigested descends valid =>
      obtain _ | @⟨_, mirror, mirrors⟩ := slots
      obtain ⟨receipt', receiptNormal, rfl⟩ := Option.map_eq_some_iff.mp normal
      obtain ⟨grant', granted', grantNormal⟩ := mirrors.grant.of_some granted
      have receipts := Receipt.norm_some receiptNormal
      have grants := Grant.norm_some grantNormal
      have within := receiptWithin_mirror receipts grants (Intent.norm_some mirrors.intent)
        ((validateReceipt_eq_ok _ _ _).mp valid)
      refine ⟨{ mirror with
        receipt := some receipt'
        receiptDigest := some digest
        state := .receiptRecorded }, ?_, { mirrors with
        state := rfl
        receipt := .some receiptNormal
        receiptDigest := rfl }⟩
      rw [← mirrors.intentDigest]
      exact .receipt mirror receipt' digest grant' grantDigest
        (mirrors.state.trans state) granted' (mirrors.grantDigest.trans grantDigested)
        ⟨by rw [receipts.intentDigest, descends.1, mirrors.intentDigest],
          by rw [receipts.grantDigest, descends.2.1],
          by rw [receipts.grantId, descends.2.2, grants.grantId]⟩
        ((validateReceipt_eq_ok _ _ _).mpr within)
  | evidence cell evidence _ receiptDigest gate state received targets fresh gated =>
      obtain _ | @⟨_, mirror, mirrors⟩ := slots
      obtain ⟨evidence', evidenceNormal, rfl⟩ := Option.map_eq_some_iff.mp normal
      have fields := Evidence.norm_some evidenceNormal
      have related : EvidenceReread evidence evidence' := ⟨evidenceNormal, reads.2⟩
      have ids : (mirror.evidence.map fun item => item.evidenceId) =
          cell.evidence.map fun item => item.evidenceId :=
        Related.map_eq mirrors.evidence _ _ fun _ _ pair => (Evidence.norm_some pair.norm).evidenceId
      have gated' : evidenceGate (mirror.evidence ++ [evidence']) = .ok gate := by
        rw [evidenceGate_reread (List.rel_append mirrors.evidence (.cons related .nil))]
        exact gated
      refine ⟨_, .evidence mirror evidence' digest receiptDigest gate
        (by rw [mirrors.state]; exact state) (mirrors.receiptDigest.trans received)
        (fields.receiptDigest.trans targets) (by rw [fields.evidenceId, ids]; exact fresh) gated',
        withEvidence_mirror mirrors related digest gate⟩
  | decision cell decision _ receipt receiptDigest state received digested succeeded gated
      descends =>
      obtain _ | @⟨_, mirror, mirrors⟩ := slots
      obtain ⟨decision', decisionNormal, rfl⟩ := Option.map_eq_some_iff.mp normal
      obtain ⟨receipt', received', receiptNormal⟩ := mirrors.receipt.of_some received
      have receipts := Receipt.norm_some receiptNormal
      have fields := Decision.norm_some decisionNormal
      have gateEq : decision'.gate = decision.gate := by
        have fixed := fields.gate
        rw [gate_norm_fixed gated, Option.some.injEq] at fixed
        exact fixed.symm
      have gated' : evidenceGate mirror.evidence = .ok decision'.gate := by
        rw [evidenceGate_reread mirrors.evidence, gateEq]
        exact gated
      refine ⟨{ mirror with
        decision := some decision'
        decisionDigest := some digest
        state := .decided }, ?_, { mirrors with
        state := rfl
        decisionDigest := rfl }⟩
      rw [← mirrors.intentDigest, ← mirrors.evidenceDigests]
      exact .decision mirror decision' digest receipt' receiptDigest
        (mirrors.state.trans state) received' (mirrors.receiptDigest.trans digested)
        (receipts.outcome.trans succeeded) gated'
        ⟨by rw [fields.intentDigest, descends.1, mirrors.intentDigest],
          by rw [fields.receiptDigest, descends.2.1],
          by rw [fields.evidenceDigests, descends.2.2.1, mirrors.evidenceDigests],
          by rw [fields.determinismLevel, descends.2.2.2, receipts.determinismLevel]⟩

end EgoAgent.Rxp
