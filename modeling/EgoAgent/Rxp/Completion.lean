import EgoAgent.Rxp.LiveVerifiable

/-!
A cell whose documents descend from one another can be decided.

`LiveRun.extend` says that an operation returns as soon as its cell step is
possible.  A `CellFile` collects the documents of one cell; when they are
coherent, a run that has not touched the cell can be continued with all of
them, and ends with the cell decided.
-/

namespace EgoAgent.Rxp

open Platform MatrixLedger

variable [Platform]

/-! ### The entries of a run -/

/-- An entry embeds a document. -/
structure Embeds (entry : LedgerEntry) (document : Document) : Prop where
  eventType : entry.eventType = document.eventType
  kind : entry.documentKind = document.kind
  cellId : entry.cellId = document.cellId
  digest : digestDocument document.value = .ok entry.documentDigest
  canon : document.value.canon unicode = some entry.document.value

section

variable {ledger : MatrixLedger}

variable {document : Document} {entry : LedgerEntry}

theorem NextEntry.embeds {parents : List Digest} {recordedAt : String}
    (next : NextEntry ledger document.eventType document parents recordedAt entry) :
    Embeds entry document :=
  ⟨next.eventType, next.documentKind, next.cellId, next.documentDigest, next.document⟩

variable {plan : MatrixPlan}

/-- A run records its plan and the documents of the calls that returned, in order. -/
theorem LiveRun.embeds {documents : List Document} (run : LiveRun plan documents ledger) :
    ledger.matrixPlan = plan ∧
      List.Forall₂ Embeds ledger.entries (.matrixPlan plan :: documents) := by
  induction run with
  | opened ledger created =>
      obtain ⟨planDigest, entry, _, next, rfl⟩ := (MatrixLedger.new_eq_ok plan ledger).mp created
      have first : Embeds entry (.matrixPlan plan) := NextEntry.embeds next
      exact ⟨rfl, .cons first .nil⟩
  | returned earlier operation registry ran ih =>
      obtain ⟨cell, entry, taken, _, _, rfl, _⟩ :=
        (operation.run_eq_ok _ _ registry _ _ earlier.sound.intentsDigested).mp ran
      exact ⟨ih.1, List.rel_append ih.2 (.cons taken.next.embeds .nil)⟩
  | raised earlier operation registry ran ih =>
      rw [(operation.run_keeps _ _ registry _ _ earlier.sound ran).1]
      exact ih

/-- The document of an entry is read back when normalisation leaves it alone. -/
theorem Embeds.parses (embeds : Embeds entry document) (normal : document.norm = some document) :
    Document.parse entry.documentKind entry.document.value = .ok document := by
  rw [embeds.kind]
  exact Document.parse_canon normal embeds.canon

/-! ### One more call -/

/-- The time of the last entry of a ledger. -/
def MatrixLedger.LastTime (ledger : MatrixLedger) (instant : Nat) : Prop :=
  ∃ last, ledger.entries.getLast? = some last ∧ parseUtc last.recordedAt.val = .ok instant

/-- An operation whose cell step is possible returns. -/
theorem LiveRun.extend {documents : List Document}
    (run : LiveRun plan documents ledger) (operation : Operation) {previous instant : Nat}
    {digest : Digest} {parents : List Digest} {after : Cell} (recordedAt : Utc)
    (last : ledger.LastTime previous)
    (named : operation.recordedAt = recordedAt.val)
    (parsed : parseUtc recordedAt.val = .ok instant) (ordered : previous ≤ instant)
    (matrixId : operation.document.matrixId = plan.matrixId)
    (digested : digestDocument operation.document.value = .ok digest)
    (fits : inInt64 (ledger.entries.length + 1))
    (taken : CellStep plan (ledger.cells.get? operation.document.cellId) operation.document
      digest parents after)
    (guard : ∀ entry : LedgerEntry, entry.documentDigest = digest →
      operation.Guard ledger [] after entry) :
    ∃ entry, LiveRun plan (documents ++ [operation.document])
        (ledger.recorded operation.document after entry) ∧
      (ledger.recorded operation.document after entry).LastTime instant := by
  obtain ⟨lastEntry, lastEq, previousEq⟩ := last
  obtain ⟨normal, encoded⟩ := canon_of_digestDocument digested
  obtain ⟨planEq, _⟩ := run.embeds
  obtain ⟨entry, next⟩ := NextEntry.returns ledger operation.document.eventType parents recordedAt
    ((assertAppendTime_eq_ok lastEq previousEq _ _).mpr ⟨instant, parsed, ordered⟩) encoded fits
  have digestEq : entry.documentDigest = digest :=
    Except.ok.inj (next.documentDigest.symm.trans digested)
  have recorded : Recorded ledger operation.document operation.recordedAt after entry := by
    rw [named]
    refine recorded_of_parents ?_ next ?_
    · rw [matrixId, MatrixLedger.matrixId, planEq]
    · rw [planEq, digestEq]
      exact taken
  have ran := (operation.run_eq_ok ledger _ [] _ entry.documentDigest
    run.sound.intentsDigested).mpr
    ⟨after, entry, recorded, guard entry digestEq, rfl, rfl, rfl⟩
  refine ⟨entry, .returned run operation [] ran, entry, ?_, ?_⟩
  · simp [MatrixLedger.recorded]
  · rw [next.recordedAt]
    exact parsed

/-! ### The file of a cell -/

/-- The documents that take one cell from its intent to its decision, with the
digests they name one another by. -/
structure CellFile where
  intent : Intent
  intentDigest : Digest
  grant : Grant
  grantDigest : Digest
  signer : GrantSigner
  acceptedAt : Utc
  receipt : Receipt
  receiptDigest : Digest
  evidence : List (Evidence × Digest)
  decision : Decision

namespace CellFile

def documents (file : CellFile) : List Document :=
  [.intent file.intent, .grant file.grant, .receipt file.receipt] ++
    file.evidence.map (fun item => .evidence item.1) ++ [.decision file.decision]

/-- The times of the calls, oldest first. -/
def times (file : CellFile) : List Utc :=
  [file.intent.createdAt, file.acceptedAt, file.receipt.completedAt] ++
    file.evidence.map (fun item => item.1.observedAt) ++ [file.decision.decidedAt]

end CellFile

/-- Each time is an instant, and none is before its predecessor. -/
def TimesOrdered : Nat → List Utc → Prop
  | _, [] => True
  | previous, time :: rest =>
      ∃ instant, parseUtc time.val = .ok instant ∧ previous ≤ instant ∧ TimesOrdered instant rest

/-- Every document of the file fits the ones it descends from. -/
structure CellFile.Coherent (plan : MatrixPlan) (file : CellFile) : Prop where
  matrixIds : ∀ document ∈ file.documents, document.matrixId = plan.matrixId
  cellIds : ∀ document ∈ file.documents, document.cellId = file.intent.cellId
  located : ∃ definition, expectedCell plan file.intent.cellId = some definition ∧
    file.intent.coordinates.pyEq definition.coordinates = true
  intentDigested : digestDocument (Document.intent file.intent).value = .ok file.intentDigest
  grantDigested : digestDocument (Document.grant file.grant).value = .ok file.grantDigest
  receiptDigested : digestDocument (Document.receipt file.receipt).value = .ok file.receiptDigest
  evidenceDigested : ∀ item ∈ file.evidence, digestDocument item.1.value = .ok item.2
  decisionDigested : ∃ digest, digestDocument (Document.decision file.decision).value = .ok digest
  authorised : file.signer.Authorises file.grant file.intent
  window : GrantSigner.InWindow file.grant file.acceptedAt.val
  receiptDescends : file.receipt.intentDigest = file.intentDigest ∧
    file.receipt.grantDigest = file.grantDigest ∧ file.receipt.grantId = file.grant.claims.grantId
  withinGrant : ReceiptWithinGrant file.receipt file.grant file.intent
  succeeded : file.receipt.outcome = .succeeded
  targets : ∀ item ∈ file.evidence, item.1.receiptDigest = file.receiptDigest
  distinctIds : (file.evidence.map fun item => item.1.evidenceId).Nodup
  distinctDigests : (file.evidence.map Prod.snd).Nodup
  gated : evidenceGate (file.evidence.map Prod.fst) = .ok file.decision.gate
  decisionDescends : file.decision.intentDigest = file.intentDigest ∧
    file.decision.receiptDigest = file.receiptDigest ∧
    file.decision.evidenceDigests = sortDigests (file.evidence.map Prod.snd) ∧
    file.decision.determinismLevel = file.receipt.determinismLevel

/-- What a cell keeps while evidence arrives. -/
structure Gathering (cell later : Cell) (more : List (Evidence × Digest)) : Prop where
  intent : later.intent = cell.intent
  intentDigest : later.intentDigest = cell.intentDigest
  receipt : later.receipt = cell.receipt
  receiptDigest : later.receiptDigest = cell.receiptDigest
  evidence : later.evidence = cell.evidence ++ more.map Prod.fst
  evidenceDigests : later.evidenceDigests = cell.evidenceDigests ++ more.map Prod.snd
  state : later.state = .receiptRecorded ∨ later.state = .evidenceReady
  kept : more = [] → later.state = cell.state
  ready : ∀ gate, more ≠ [] → evidenceGate later.evidence = .ok gate → gate.status = .pass →
    later.state = .evidenceReady

/-- Evidence can be filed one record after the other. -/
theorem LiveRun.gather (cellId : Ident) (receiptDigest : Digest)
    (more : List (Evidence × Digest)) {documents : List Document}
    {cell : Cell} {previous : Nat} (run : LiveRun plan documents ledger)
    (last : ledger.LastTime previous) (found : ledger.cells.get? cellId = some cell)
    (state : cell.state = .receiptRecorded ∨ cell.state = .evidenceReady)
    (received : cell.receiptDigest = some receiptDigest)
    (fits : inInt64 (ledger.entries.length + more.length))
    (later : List Utc)
    (times : TimesOrdered previous (more.map (fun item => item.1.observedAt) ++ later))
    (matrixIds : ∀ item ∈ more, item.1.matrixId = plan.matrixId)
    (cellIds : ∀ item ∈ more, item.1.cellId = cellId)
    (digested : ∀ item ∈ more, digestDocument item.1.value = .ok item.2)
    (targets : ∀ item ∈ more, item.1.receiptDigest = receiptDigest)
    (distinctIds : ((cell.evidence.map fun item => item.evidenceId) ++
      more.map fun item => item.1.evidenceId).Nodup)
    (distinctDigests : (cell.evidenceDigests ++ more.map Prod.snd).Nodup) :
    ∃ final after now, LiveRun plan
        (documents ++ more.map fun item => Document.evidence item.1) final ∧
      final.cells.get? cellId = some after ∧ Gathering cell after more ∧
      final.entries.length = ledger.entries.length + more.length ∧
      final.LastTime now ∧ TimesOrdered now later := by
  induction more generalizing documents ledger cell previous with
  | nil =>
      refine ⟨ledger, cell, previous, by simpa using run, found, ⟨rfl, rfl, rfl, rfl, by simp,
        by simp, state, fun _ => rfl, fun _ impossible => absurd rfl impossible⟩, rfl, last, times⟩
  | cons item rest ih =>
      obtain ⟨evidence, digest⟩ := item
      obtain ⟨instant, parsed, ordered, timesRest⟩ := times
      have sound := run.sound
      have cellSound := sound cellId cell found
      have named : evidence.cellId = cellId := cellIds _ List.mem_cons_self
      have digestEq := digested _ List.mem_cons_self
      have idsNow := List.nodup_append.mp distinctIds
      have digestsNow := List.nodup_append.mp distinctDigests
      have freshId : evidence.evidenceId ∉ cell.evidence.map fun item => item.evidenceId :=
        fun present => idsNow.2.2 _ present _ List.mem_cons_self rfl
      have freshDigest : digest ∉ cell.evidenceDigests :=
        fun present => digestsNow.2.2 _ present _ List.mem_cons_self rfl
      obtain ⟨gate, gated⟩ := evidenceGate_returns
        (List.rel_append cellSound.evidence (.cons digestEq .nil))
        (List.nodup_append.mpr ⟨cellSound.distinct, List.nodup_singleton _, by
          rintro earlier present _ here rfl
          rw [List.mem_singleton.mp here] at present
          exact freshDigest present⟩)
      have foundHere : ledger.cells.get? evidence.cellId = some cell := by rw [named]; exact found
      have taken : CellStep plan
          (ledger.cells.get? (Operation.evidence evidence).document.cellId)
          (Operation.evidence evidence).document digest [receiptDigest]
          (cell.withEvidence evidence digest gate) := by
        change CellStep plan (ledger.cells.get? evidence.cellId) _ _ _ _
        rw [foundHere]
        exact .evidence cell evidence digest receiptDigest gate state received
          (targets _ List.mem_cons_self) freshId gated
      rw [List.length_cons] at fits
      obtain ⟨entry, extended, now⟩ := run.extend (.evidence evidence) evidence.observedAt last rfl
        parsed ordered (matrixIds _ List.mem_cons_self) digestEq
        (by unfold inInt64 at fits ⊢; omega) taken (by
          intro entry same before present
          change ledger.cells.get? evidence.cellId = some before at present
          rw [foundHere] at present
          obtain rfl := Option.some.inj present
          rw [same]
          exact freshDigest)
      obtain ⟨intentEq, intentDigestEq, _, _, receiptEq, receiptDigestEq, evidenceEq, digestsEq,
        stateEq⟩ := withEvidence_fields cell evidence digest gate
      have foundAfter : (ledger.recorded (Operation.evidence evidence).document
          (cell.withEvidence evidence digest gate) entry).cells.get? cellId =
          some (cell.withEvidence evidence digest gate) := by
        change (ledger.cells.set evidence.cellId _).get? cellId = _
        rw [named, Dict.get?_set, if_pos rfl]
      have lengthAfter : (ledger.recorded (Operation.evidence evidence).document
          (cell.withEvidence evidence digest gate) entry).entries.length =
          ledger.entries.length + 1 := by
        simp [MatrixLedger.recorded]
      obtain ⟨final, after, instantAfter, finished, finalFound, gathering, lengthEq, lastAfter,
        timesAfter⟩ := ih extended now foundAfter
          (stateEq.elim .inr fun same => by rw [same]; exact state)
          (receiptDigestEq.trans received)
          (by rw [lengthAfter]; unfold inInt64 at fits ⊢; push_cast; omega) timesRest
          (fun item present => matrixIds item (List.mem_cons_of_mem _ present))
          (fun item present => cellIds item (List.mem_cons_of_mem _ present))
          (fun item present => digested item (List.mem_cons_of_mem _ present))
          (fun item present => targets item (List.mem_cons_of_mem _ present))
          (by rw [evidenceEq, List.map_append, List.append_assoc]; exact distinctIds)
          (by rw [digestsEq, List.append_assoc]; exact distinctDigests)
      refine ⟨final, after, instantAfter, ?_, finalFound, ?_, ?_, lastAfter, timesAfter⟩
      · rw [List.map_cons]
        rw [List.append_assoc] at finished
        exact finished
      · refine ⟨gathering.intent.trans intentEq, gathering.intentDigest.trans intentDigestEq,
          gathering.receipt.trans receiptEq, gathering.receiptDigest.trans receiptDigestEq, ?_, ?_,
          gathering.state, fun impossible => (by cases impossible), ?_⟩
        · rw [gathering.evidence, evidenceEq, List.append_assoc]
          rfl
        · rw [gathering.evidenceDigests, digestsEq, List.append_assoc]
          rfl
        · intro finalGate _ finalGated passes
          cases rest with
          | nil =>
              -- the last record: its own gate is the final one
              have sameEvidence := gathering.evidence
              rw [List.map_nil, List.append_nil, evidenceEq] at sameEvidence
              rw [sameEvidence, gated, Except.ok.injEq] at finalGated
              subst finalGated
              rw [gathering.kept rfl, Cell.withEvidence, if_pos passes]
          | cons => exact gathering.ready finalGate (by simp) finalGated passes
      · rw [lengthEq, lengthAfter, List.length_cons]
        omega

private theorem recorded_cell {cell : Cell} {cellId : Ident} (named : document.cellId = cellId) :
    (ledger.recorded document cell entry).cells.get? cellId = some cell := by
  change (ledger.cells.set document.cellId cell).get? cellId = _
  rw [named, Dict.get?_set, if_pos rfl]

end

private theorem recorded_length (ledger : MatrixLedger) (document : Document) (cell : Cell)
    (entry : LedgerEntry) :
    (ledger.recorded document cell entry).entries.length = ledger.entries.length + 1 := by
  simp [MatrixLedger.recorded]

section Stages

variable {plan : MatrixPlan} {file : CellFile} (coherent : file.Coherent plan)
  {documents : List Document} {ledger : MatrixLedger} {previous : Nat}

include coherent

private theorem mem_documents (document : Document) (listed : document = .intent file.intent ∨
    document = .grant file.grant ∨ document = .receipt file.receipt ∨
    (∃ item ∈ file.evidence, document = .evidence item.1) ∨
    document = .decision file.decision) :
    document.matrixId = plan.matrixId ∧ document.cellId = file.intent.cellId := by
  have inFile : document ∈ file.documents := by
    simp only [CellFile.documents, List.mem_append, List.mem_cons, List.mem_map, List.not_mem_nil,
      or_false]
    rcases listed with rfl | rfl | rfl | ⟨item, present, rfl⟩ | rfl
    · exact .inl (.inl (.inl rfl))
    · exact .inl (.inl (.inr (.inl rfl)))
    · exact .inl (.inl (.inr (.inr rfl)))
    · exact .inl (.inr ⟨item, present, rfl⟩)
    · exact .inr rfl
  exact ⟨coherent.matrixIds document inFile, coherent.cellIds document inFile⟩

/-- The intent, the grant and the receipt. -/
theorem CellFile.receives (run : LiveRun plan documents ledger) (last : ledger.LastTime previous)
    (later : List Utc)
    (times : TimesOrdered previous
      (file.intent.createdAt :: file.acceptedAt :: file.receipt.completedAt :: later))
    (untouched : ledger.cells.get? file.intent.cellId = none)
    (newIntent : file.intent.intentId ∉ ledger.intentIds)
    (newGrant : file.grant.claims.grantId ∉ ledger.grantIds)
    (fits : inInt64 (ledger.entries.length + 3)) :
    ∃ received now, LiveRun plan
        (documents ++ [.intent file.intent, .grant file.grant, .receipt file.receipt]) received ∧
      received.cells.get? file.intent.cellId = some {
        intent := file.intent
        intentDigest := file.intentDigest
        grant := some file.grant
        grantDigest := some file.grantDigest
        receipt := some file.receipt
        receiptDigest := some file.receiptDigest
        state := .receiptRecorded } ∧
      received.entries.length = ledger.entries.length + 3 ∧ received.LastTime now ∧
      TimesOrdered now later := by
  obtain ⟨definition, declared, located⟩ := coherent.located
  have intentIds := mem_documents coherent (.intent file.intent) (.inl rfl)
  obtain ⟨grantMatrix, grantCell⟩ := mem_documents coherent (.grant file.grant) (.inr (.inl rfl))
  obtain ⟨receiptMatrix, receiptCell⟩ :=
    mem_documents coherent (.receipt file.receipt) (.inr (.inr (.inl rfl)))
  obtain ⟨intentTime, intentParsed, intentOrdered, grantTime, grantParsed, grantOrdered,
    receiptTime, receiptParsed, receiptOrdered, times⟩ := times
  unfold inInt64 at fits
  obtain ⟨intentEntry, run, last⟩ := run.extend (.intent file.intent) file.intent.createdAt last rfl
    intentParsed intentOrdered intentIds.1 coherent.intentDigested (by unfold inInt64; omega)
    (by
      change CellStep plan (ledger.cells.get? file.intent.cellId) _ _ _ _
      rw [untouched]
      exact .intent file.intent file.intentDigest definition declared located)
    (fun _ _ => newIntent)
  set opened := ledger.recorded (Operation.intent file.intent).document _ intentEntry
  have openedLength : opened.entries.length = ledger.entries.length + 1 := recorded_length ..
  have openedCell : opened.cells.get? file.intent.cellId =
      some { intent := file.intent, intentDigest := file.intentDigest } := recorded_cell rfl
  have openedGrants : opened.grantIds = ledger.grantIds := List.append_nil _
  have scope : GrantMatches file.grant.claims
      { intent := file.intent, intentDigest := file.intentDigest } :=
    ⟨Except.ok.inj (coherent.authorised.intentDigest.symm.trans coherent.intentDigested),
      coherent.authorised.intentId, coherent.authorised.matrixId, coherent.authorised.cellId,
      coherent.authorised.action, coherent.authorised.scope,
      coherent.authorised.actionPayloadDigest, coherent.authorised.bounds⟩
  obtain ⟨grantEntry, run, last⟩ := run.extend
    (.grant file.grant file.signer file.acceptedAt.val) file.acceptedAt last rfl
    grantParsed grantOrdered grantMatrix coherent.grantDigested
    (by rw [openedLength]; unfold inInt64; push_cast; omega)
    (by
      change CellStep plan (opened.cells.get? (Document.grant file.grant).cellId) _ _ _ _
      rw [grantCell, openedCell]
      exact .grant _ file.grant file.grantDigest rfl scope)
    (fun _ _ => ⟨by rw [openedGrants]; exact newGrant, coherent.authorised, coherent.window⟩)
  set granted := opened.recorded
    (Operation.grant file.grant file.signer file.acceptedAt.val).document _ grantEntry
  have grantedLength : granted.entries.length = opened.entries.length + 1 := recorded_length ..
  have grantedCell : granted.cells.get? file.intent.cellId = some {
      intent := file.intent
      intentDigest := file.intentDigest
      grant := some file.grant
      grantDigest := some file.grantDigest
      state := .granted } := recorded_cell grantCell
  obtain ⟨receiptEntry, run, last⟩ := run.extend (.receipt file.receipt) file.receipt.completedAt
    last rfl receiptParsed receiptOrdered receiptMatrix coherent.receiptDigested
    (by rw [grantedLength, openedLength]; unfold inInt64; push_cast; omega)
    (by
      change CellStep plan (granted.cells.get? (Document.receipt file.receipt).cellId) _ _ _ _
      rw [receiptCell, grantedCell]
      exact .receipt _ file.receipt file.receiptDigest file.grant file.grantDigest rfl rfl rfl
        coherent.receiptDescends ((validateReceipt_eq_ok _ _ _).mpr coherent.withinGrant))
    (fun _ _ => List.not_mem_nil)
  refine ⟨_, receiptTime, ?_, recorded_cell receiptCell, ?_, last, times⟩
  · simpa [Operation.document] using run
  · rw [recorded_length, grantedLength, openedLength]

/-- The evidence, after the receipt. -/
theorem CellFile.gathers (run : LiveRun plan documents ledger) (last : ledger.LastTime previous)
    (times : TimesOrdered previous file.times)
    (untouched : ledger.cells.get? file.intent.cellId = none)
    (newIntent : file.intent.intentId ∉ ledger.intentIds)
    (newGrant : file.grant.claims.grantId ∉ ledger.grantIds)
    (fits : inInt64 (ledger.entries.length + (file.evidence.length + 3))) :
    ∃ gathered cell now, LiveRun plan
        (documents ++ [.intent file.intent, .grant file.grant, .receipt file.receipt] ++
          file.evidence.map fun item => Document.evidence item.1) gathered ∧
      gathered.cells.get? file.intent.cellId = some cell ∧
      Gathering {
        intent := file.intent
        intentDigest := file.intentDigest
        grant := some file.grant
        grantDigest := some file.grantDigest
        receipt := some file.receipt
        receiptDigest := some file.receiptDigest
        state := .receiptRecorded } cell file.evidence ∧
      gathered.entries.length = ledger.entries.length + (file.evidence.length + 3) ∧
      gathered.LastTime now ∧ TimesOrdered now [file.decision.decidedAt] := by
  unfold inInt64 at fits
  obtain ⟨received, now, run, receivedCell, receivedLength, last, times⟩ :=
    CellFile.receives coherent run last _ times untouched newIntent newGrant
      (by unfold inInt64; omega)
  obtain ⟨gathered, cell, now, run, gatheredCell, gathering, gatheredLength, last, times⟩ :=
    run.gather file.intent.cellId file.receiptDigest file.evidence last receivedCell (.inl rfl) rfl
      (by rw [receivedLength]; unfold inInt64; push_cast; omega)
      [file.decision.decidedAt] times
      (fun item present => (mem_documents coherent (.evidence item.1)
        (.inr (.inr (.inr (.inl ⟨item, present, rfl⟩))))).1)
      (fun item present => (mem_documents coherent (.evidence item.1)
        (.inr (.inr (.inr (.inl ⟨item, present, rfl⟩))))).2)
      coherent.evidenceDigested coherent.targets coherent.distinctIds coherent.distinctDigests
  exact ⟨gathered, cell, now, run, gatheredCell, gathering, by omega, last, times⟩

/-- A run that has not touched the cell can be continued with the whole file,
and ends with the cell decided. -/
theorem CellFile.completes (run : LiveRun plan documents ledger) (last : ledger.LastTime previous)
    (times : TimesOrdered previous file.times)
    (untouched : ledger.cells.get? file.intent.cellId = none)
    (newIntent : file.intent.intentId ∉ ledger.intentIds)
    (newGrant : file.grant.claims.grantId ∉ ledger.grantIds)
    (fits : inInt64 (ledger.entries.length + (file.evidence.length + 4))) :
    ∃ final cell, LiveRun plan (documents ++ file.documents) final ∧
      final.cells.get? file.intent.cellId = some cell ∧ cell.state = .decided := by
  unfold inInt64 at fits
  obtain ⟨gathered, cell, now, run, gatheredCell, gathering, gatheredLength, last, decisionTime,
    decisionParsed, decisionOrdered, _⟩ :=
    CellFile.gathers coherent run last times untouched newIntent newGrant
      (by unfold inInt64; omega)
  obtain ⟨decisionDigest, decisionDigested⟩ := coherent.decisionDigested
  obtain ⟨decisionMatrix, decisionCell⟩ :=
    mem_documents coherent (.decision file.decision) (.inr (.inr (.inr (.inr rfl))))
  have gatedAll : evidenceGate cell.evidence = .ok file.decision.gate := by
    rw [gathering.evidence]
    exact coherent.gated
  have passes : file.decision.gate.status = .pass := file.decision.matchesGate.2.2.2
  have someEvidence : file.evidence ≠ [] := by
    intro empty
    have covered := ((evidenceGate_pass _ _ coherent.gated).mp passes).covered .code
    rw [empty] at covered
    obtain ⟨_, impossible, _⟩ := covered
    cases impossible
  have strong : cell.intent.requiredDeterminism.rank ≤ file.decision.determinismLevel.rank := by
    rw [gathering.intent, coherent.decisionDescends.2.2.2]
    exact coherent.withinGrant.aboveRequired
  have taken : CellStep plan (gathered.cells.get? (Document.decision file.decision).cellId)
      (.decision file.decision) decisionDigest
      (cell.intentDigest :: file.receiptDigest :: sortDigests cell.evidenceDigests)
      { cell with
        decision := some file.decision
        decisionDigest := some decisionDigest
        state := .decided } := by
    rw [decisionCell, gatheredCell]
    refine .decision cell file.decision decisionDigest file.receipt file.receiptDigest
      (gathering.ready _ someEvidence gatedAll passes) gathering.receipt gathering.receiptDigest
      coherent.succeeded gatedAll ?_
    rw [DecisionDescends, gathering.intentDigest, gathering.evidenceDigests]
    exact coherent.decisionDescends
  obtain ⟨decisionEntry, run, _⟩ := run.extend (.decision file.decision) file.decision.decidedAt
    last rfl decisionParsed decisionOrdered decisionMatrix decisionDigested
    (by
      rw [gatheredLength]
      unfold inInt64
      push_cast
      omega) taken (fun _ _ => strong)
  have finished : LiveRun plan (documents ++ file.documents)
      (gathered.recorded (.decision file.decision) { cell with
        decision := some file.decision
        decisionDigest := some decisionDigest
        state := .decided } decisionEntry) := by
    simpa [CellFile.documents, Operation.document] using run
  exact ⟨_, _, finished, recorded_cell decisionCell, rfl⟩

end Stages

end EgoAgent.Rxp
