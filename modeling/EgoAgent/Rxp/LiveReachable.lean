import EgoAgent.Rxp.LiveReplay
import EgoAgent.Rxp.Snapshot

/-!
Verified ledgers are live-reachable, up to the event type of evidence.

`Tracks` relates the state of the verifier after some entries to a recorder
fed with them.  Every accepted entry can be fed and keeps the relation.
-/

namespace EgoAgent.Rxp

open Platform MatrixLedger

variable [Platform]

/-- The entry the recorder produced for an accepted one. -/
structure EntryFed (entry produced : LedgerEntry) : Prop where
  documentKind : produced.documentKind = entry.documentKind
  documentDigest : produced.documentDigest = entry.documentDigest
  causalParents : produced.causalParents = entry.causalParents
  recordedAt : produced.recordedAt = entry.recordedAt
  eventType : produced.eventType = entry.documentKind.eventType
  checked : entry.documentKind ≠ .evidence → entry.eventType = entry.documentKind.eventType

structure Tracks (matrixId : Ident) (history : History) (state : VerifierState)
    (ledger : MatrixLedger) (registry : ReplayRegistry) : Prop where
  plan : state.matrixPlan = some ledger.matrixPlan
  planMatrix : ledger.matrixPlan.matrixId = matrixId
  planDigest : digestDocument (MatrixPlan.codec.dump ledger.matrixPlan) =
    .ok ledger.matrixPlanDigest
  cells : ledger.cells = state.cells
  intentIds : ledger.intentIds = state.seenIntentIds
  grantIds : ledger.grantIds = state.seenGrantIds
  entries : List.Forall₂ EntryFed (history.map Prod.fst) ledger.entries
  count : state.expectedSequence = ledger.entries.length + 1
  time : ∃ last instant, ledger.entries.getLast? = some last ∧
    parseUtc last.recordedAt.val = .ok instant ∧ state.previousTimestamp = some instant
  sound : ledger.Sound
  spent : GrantsSpent ledger.cells registry ledger.grantIds

/-! ### One entry -/

theorem assertAppendTime_eq_ok {ledger : MatrixLedger} {last : LedgerEntry} {previous : Nat}
    (lastEq : ledger.entries.getLast? = some last)
    (previousEq : parseUtc last.recordedAt.val = .ok previous) (recordedAt : String) (done : Unit) :
    ledger.assertAppendTime recordedAt = .ok done ↔
      ∃ instant, parseUtc recordedAt = .ok instant ∧ previous ≤ instant := by
  unfold assertAppendTime
  rw [lastEq]
  simp only [bind_eq_ok, raiseIf_eq_ok, previousEq, not_lt]
  constructor
  · rintro ⟨instant, parsed, _, ⟨⟩, ordered⟩
    exact ⟨instant, parsed, ordered⟩
  · rintro ⟨instant, parsed, ordered⟩
    exact ⟨instant, parsed, previous, rfl, ordered⟩

/-- The identifiers the verifier notes are those the recorder files. -/
theorem noteIdentifiers_eq_ok (state : VerifierState) (document : Document)
    (noted : List Ident × List Ident) :
    noteIdentifiers state document = .ok noted ↔
      (∀ intentId ∈ document.intentIds, intentId ∉ state.seenIntentIds) ∧
      (∀ grantId ∈ document.grantIds, grantId ∉ state.seenGrantIds) ∧
      noted = (state.seenIntentIds ++ document.intentIds,
        state.seenGrantIds ++ document.grantIds) := by
  cases document with
  | intent intent =>
      simp only [noteIdentifiers, raiseIf_bind_eq_ok, Document.intentIds, Document.grantIds]
      constructor
      · rintro ⟨fresh, ⟨⟩⟩
        exact ⟨by simpa using fresh, by simp, by simp⟩
      · rintro ⟨fresh, _, rfl⟩
        exact ⟨by simpa using fresh, by simp; rfl⟩
  | grant grant =>
      simp only [noteIdentifiers, raiseIf_bind_eq_ok, Document.intentIds, Document.grantIds]
      constructor
      · rintro ⟨fresh, ⟨⟩⟩
        exact ⟨by simp, by simpa using fresh, by simp⟩
      · rintro ⟨_, fresh, rfl⟩
        exact ⟨by simpa using fresh, by simp; rfl⟩
  | _ =>
      simp only [noteIdentifiers, Document.intentIds, Document.grantIds, List.append_nil]
      constructor
      · rintro ⟨⟩
        exact ⟨by simp, by simp, rfl⟩
      · rintro ⟨_, _, rfl⟩
        rfl

theorem operationOf_document (signer : GrantSigner) {entry : LedgerEntry} {parsed : Document}
    (later : parsed.kind ≠ .matrixPlan) (timed : verifyRecordedAt entry parsed = .ok ()) :
    ∃ operation, operationOf signer entry parsed = some operation ∧
      operation.document = parsed ∧ operation.recordedAt = entry.recordedAt.val := by
  have sameTime : ∀ {expected : Utc}, recordedAtMatches entry expected = .ok () →
      expected.val = entry.recordedAt.val := by
    intro expected matched
    rw [recordedAtMatches, raiseIf_eq_ok, not_ne_iff] at matched
    rw [matched]
  cases parsed with
  | matrixPlan => exact absurd rfl later
  | intent document => exact ⟨_, rfl, rfl, sameTime timed⟩
  | grant document => exact ⟨_, rfl, rfl, rfl⟩
  | receipt document => exact ⟨_, rfl, rfl, sameTime timed⟩
  | evidence document => exact ⟨_, rfl, rfl, sameTime timed⟩
  | decision document => exact ⟨_, rfl, rfl, sameTime timed⟩

/-- The grants of an entry are signed for the intent of its cell. -/
def SignedFor (signer : GrantSigner) (state : VerifierState) (entry : LedgerEntry)
    (parsed : Document) : Prop :=
  ∀ grant, parsed = .grant grant → ∃ cell, state.cells.get? entry.cellId = some cell ∧
    signer.verify grant cell.intent grant.claims.issuedAt.val = .ok ()

section Step

variable {matrixId : Ident} {history : History} {state next : VerifierState}
  {ledger : MatrixLedger} {registry : ReplayRegistry} {entry : LedgerEntry} {parsed : Document}

/-- Every guard of the recorder is implied by one of the verifier or of the
signature pass. -/
private theorem guard_of_accepted {signer : GrantSigner} (operation : Operation) {cell : Cell}
    {produced : LedgerEntry} (tracks : Tracks matrixId history state ledger registry)
    (replayed : Replayed matrixId history state)
    (accepted : EntryAccepted matrixId state entry parsed next)
    (fed : operationOf signer entry parsed = some operation)
    (signed : SignedFor signer state entry parsed)
    (taken : CellStep ledger.matrixPlan (state.cells.get? entry.cellId) parsed
      entry.documentDigest entry.causalParents cell)
    (digestEq : produced.documentDigest = entry.documentDigest) :
    operation.Guard ledger registry cell produced := by
  obtain ⟨newIntents, newGrants, _⟩ := (noteIdentifiers_eq_ok _ _ _).mp accepted.noted
  have here : ledger.cells.get? parsed.cellId = state.cells.get? entry.cellId := by
    rw [tracks.cells, accepted.cellId]
  generalize beforeEq : state.cells.get? entry.cellId = before at taken
  generalize entry.causalParents = parents at taken
  cases taken with
  | intent intent =>
      cases fed
      change intent.intentId ∉ ledger.intentIds
      rw [tracks.intentIds]
      exact newIntents _ List.mem_cons_self
  | grant before grant =>
      cases fed
      obtain ⟨signedCell, found, verified⟩ := signed grant rfl
      rw [beforeEq] at found
      obtain rfl := Option.some.inj found
      obtain ⟨authorised, _⟩ := (GrantSigner.verify_eq_ok _ _ _ _).mp verified
      refine ⟨?_, authorised, ?_⟩
      · rw [tracks.grantIds]
        exact newGrants _ List.mem_cons_self
      · have timed := accepted.recordedAt
        simp only [verifyRecordedAt, bind_eq_ok, raiseIf_eq_ok, not_or, not_lt, ge_iff_le,
          not_le] at timed
        obtain ⟨recorded, recordedEq, issued, issuedEq, expires, expiresEq, started, unexpired⟩ :=
          timed
        exact ⟨recorded, issued, expires, recordedEq, issuedEq, expiresEq, started, unexpired⟩
  | receipt before receipt _ grant _ granted grantEq _ descends =>
      cases fed
      change (grantNamespace, receipt.grantId.val) ∉ registry
      rw [descends.2.2]
      exact tracks.spent.fresh _ before grant (here.trans beforeEq) grantEq granted
  | evidence before evidence =>
      cases fed
      intro other found
      rw [show ledger.cells.get? evidence.cellId = some before from here.trans beforeEq,
        Option.some.injEq] at found
      subst found
      intro present
      rw [digestEq] at present
      exact accepted.fresh (replayed.evidence_seen tracks.plan beforeEq _ present)
  | decision before decision _ receipt _ ready received _ _ _ descends =>
      cases fed
      change before.intent.requiredDeterminism.rank ≤ decision.determinismLevel.rank
      have run := replayed.cellRun _ tracks.plan entry.cellId
      rw [beforeEq] at run
      obtain ⟨_, _, other, _, holds, _⟩ := run.sound_of_some.received_of_state (.inr ready)
      obtain rfl := Option.some.inj (holds.received.symm.trans received)
      rw [descends.2.2.2]
      exact ((validateReceipt_eq_ok _ _ _).mp holds.valid).aboveRequired

/-- The next entry of the recorder, from the accepted one. -/
private theorem next_of_accepted (tracks : Tracks matrixId history state ledger registry)
    (accepted : EntryAccepted matrixId state entry parsed next) :
    ∃ produced, NextEntry ledger parsed.eventType parsed entry.causalParents entry.recordedAt.val
      produced := by
  obtain ⟨last, previous, lastEq, previousEq, stateTime⟩ := tracks.time
  obtain ⟨timestamp, timestampEq, ordered, _⟩ := accepted.timestamp
  obtain ⟨normal, encoded⟩ := canon_of_digestDocument accepted.digest
  have fits := LedgerEntryCore.fits_of_digest accepted.entryDigest
  rw [accepted.sequence, tracks.count] at fits
  refine NextEntry.returns ledger parsed.eventType entry.causalParents entry.recordedAt
    ((assertAppendTime_eq_ok lastEq previousEq _ _).mpr
      ⟨timestamp, timestampEq, ordered previous stateTime⟩) encoded ?_
  exact_mod_cast fits

private theorem fed_of_next {produced : LedgerEntry}
    (accepted : EntryAccepted matrixId state entry parsed next)
    (produces : NextEntry ledger parsed.eventType parsed entry.causalParents entry.recordedAt.val
      produced) (event : EventTypeChecked entry parsed) : EntryFed entry produced := by
  have kind := Document.kind_of_parse accepted.parses
  refine ⟨produces.documentKind.trans kind,
    Except.ok.inj (produces.documentDigest.symm.trans accepted.digest), produces.causalParents,
    Subtype.ext produces.recordedAt, ?_, fun notEvidence => ?_⟩
  · rw [produces.eventType, Document.eventType, kind]
  · rw [← kind] at notEvidence ⊢
    cases parsed with
    | evidence => exact absurd rfl notEvidence
    | _ => exact event

/-- The step lemma: an accepted entry can be fed, and the recorder still tracks. -/
theorem Tracks.step {signer : GrantSigner} (tracks : Tracks matrixId history state ledger registry)
    (replayed : Replayed matrixId history state)
    (accepted : EntryAccepted matrixId state entry parsed next)
    (signed : SignedFor signer state entry parsed) :
    ∃ ledger' registry', feedEntry signer entry (ledger, registry) = (.ok (), (ledger', registry')) ∧
      Tracks matrixId (history ++ [(entry, parsed)]) next ledger' registry' := by
  have later : parsed.kind ≠ .matrixPlan := by
    intro isPlan
    cases parsed with
    | matrixPlan plan =>
        obtain ⟨_, absent, _⟩ :=
          (applyDocument_plan matrixId state entry plan _).mp accepted.applied
        rw [tracks.plan] at absent
        cases absent
    | _ => cases isPlan
  obtain ⟨plan, cell, present, event, taken, same⟩ :=
    (applyDocument_cell matrixId state entry parsed _ later accepted.cellId).mp accepted.applied
  simp only [Prod.mk.injEq] at same
  obtain rfl := Option.some.inj (tracks.plan.symm.trans present)
  obtain ⟨operation, fed, documentEq, timeEq⟩ :=
    operationOf_document signer later accepted.recordedAt
  obtain ⟨produced, produces⟩ := next_of_accepted tracks accepted
  have entryFed := fed_of_next accepted produces event
  have guard := guard_of_accepted operation tracks replayed accepted fed signed taken
    entryFed.documentDigest
  have recorded : Recorded ledger operation.document operation.recordedAt cell produced := by
    rw [documentEq, timeEq]
    refine recorded_of_parents ?_ produces ?_
    · rw [accepted.documentMatrix, accepted.entryMatrix]
      exact tracks.planMatrix.symm
    · rw [tracks.cells, accepted.cellId, entryFed.documentDigest]
      exact taken
  have ran := (operation.run_eq_ok ledger _ registry _ produced.documentDigest
    tracks.sound.intentsDigested).mpr ⟨cell, produced, recorded, guard, rfl, rfl, rfl⟩
  obtain ⟨newIntents, newGrants, noted⟩ := (noteIdentifiers_eq_ok _ _ _).mp accepted.noted
  simp only [Prod.mk.injEq] at noted
  refine ⟨ledger.recorded operation.document cell produced, registry ++ operation.keys, ?_, ?_⟩
  · unfold feedEntry
    rw [Effect.check_bind_eq_ok]
    refine ⟨parsed, accepted.parses, ?_⟩
    rw [Effect.check_bind_eq_ok]
    refine ⟨operation, (expect_eq_ok _ _ _).mpr fed, ?_⟩
    rw [Effect.bind_eq_ok]
    exact ⟨_, _, ran, rfl⟩
  · have soundAfter := tracks.sound.recorded recorded guard
    rw [documentEq] at soundAfter ⊢
    obtain ⟨timestamp, timestampEq, _, nextTime⟩ := accepted.timestamp
    exact {
      plan := same.1
      planMatrix := tracks.planMatrix
      planDigest := tracks.planDigest
      cells := by
        change ledger.cells.set parsed.cellId cell = next.cells
        rw [same.2, tracks.cells, accepted.cellId]
      intentIds := by
        change ledger.intentIds ++ parsed.intentIds = next.seenIntentIds
        rw [noted.1, tracks.intentIds]
      grantIds := by
        change ledger.grantIds ++ parsed.grantIds = next.seenGrantIds
        rw [noted.2, tracks.grantIds]
      entries := by
        rw [List.map_append, List.map_singleton]
        exact List.rel_append tracks.entries (.cons entryFed .nil)
      count := by
        rw [accepted.nextSequence, tracks.count]
        simp [MatrixLedger.recorded]
      time := ⟨produced, timestamp, by simp [MatrixLedger.recorded],
        by rw [entryFed.recordedAt]; exact timestampEq, nextTime⟩
      sound := soundAfter
      spent := by
        have step : CellStep ledger.matrixPlan (ledger.cells.get? parsed.cellId) parsed
            entry.documentDigest entry.causalParents cell := by
          rw [tracks.cells, accepted.cellId]
          exact taken
        refine tracks.spent.step step ?_ ?_
        · intro grantId listed
          rw [tracks.grantIds]
          exact newGrants grantId listed
        · intro key used
          cases operation with
          | receipt document =>
              exact ⟨document, documentEq.symm, List.mem_singleton.mp used⟩
          | _ => cases used }

end Step

/-! ### Whole ledgers -/

/-- The first accepted entry is that of the plan, and a ledger of it tracks. -/
private theorem Tracks.start {matrixId : Ident} {next : VerifierState} {entry : LedgerEntry}
    {parsed : Document}
    (accepted : EntryAccepted matrixId VerifierState.initial entry parsed next) :
    ∃ plan ledger, parsed = .matrixPlan plan ∧ MatrixLedger.new plan = .ok ledger ∧
      Tracks matrixId [(entry, parsed)] next ledger [] := by
  have isPlan : parsed.kind = .matrixPlan := by
    by_contra later
    obtain ⟨plan, _, impossible, _⟩ :=
      (applyDocument_cell matrixId _ entry parsed _ later accepted.cellId).mp accepted.applied
    cases impossible
  cases parsed with
  | matrixPlan plan =>
      obtain ⟨_, _, event, _, parents, sameMatrix, same⟩ :=
        (applyDocument_plan matrixId _ entry plan _).mp accepted.applied
      simp only [Prod.mk.injEq] at same
      have digested : digestDocument (MatrixPlan.codec.dump plan) = .ok entry.documentDigest :=
        accepted.digest
      obtain ⟨normal, encoded⟩ := canon_of_digestDocument accepted.digest
      have timed : plan.frozenAt = entry.recordedAt := by
        have matched : recordedAtMatches entry plan.frozenAt = .ok () := accepted.recordedAt
        rw [recordedAtMatches, raiseIf_eq_ok, not_ne_iff] at matched
        exact matched.symm
      obtain ⟨produced, produces⟩ := NextEntry.returns
        (MatrixLedger.empty plan entry.documentDigest)
        .matrixFrozen [] plan.frozenAt rfl encoded (by change inInt64 1; decide)
      refine ⟨plan, (MatrixLedger.empty plan entry.documentDigest).withEntry produced, rfl,
        (MatrixLedger.new_eq_ok _ _).mpr ⟨_, produced, digested, produces, rfl⟩, ?_⟩
      have entryFed : EntryFed entry produced := by
        have timedNext : NextEntry (MatrixLedger.empty plan entry.documentDigest)
            (Document.matrixPlan plan).eventType (.matrixPlan plan) entry.causalParents
            entry.recordedAt.val produced := by
          rw [parents, ← timed]
          exact produces
        exact fed_of_next accepted timedNext event
      obtain ⟨_, _, noted⟩ := (noteIdentifiers_eq_ok _ _ _).mp accepted.noted
      simp only [Prod.mk.injEq] at noted
      obtain ⟨timestamp, timestampEq, _, nextTime⟩ := accepted.timestamp
      exact {
        plan := same.1
        planMatrix := sameMatrix
        planDigest := digested
        cells := same.2.symm
        intentIds := noted.1.symm
        grantIds := noted.2.symm
        entries := .cons entryFed .nil
        count := accepted.nextSequence
        time := ⟨produced, timestamp, rfl, by rw [entryFed.recordedAt]; exact timestampEq,
          nextTime⟩
        sound := fun _ _ impossible => (by cases impossible)
        spent := ⟨fun _ _ _ impossible => (by cases impossible),
          fun _ _ _ _ _ _ impossible => (by cases impossible),
          fun _ _ _ impossible => (by cases impossible), fun _ impossible => (by cases impossible)⟩ }
  | _ => cases isPlan

/-- The run lemma: accepted and signed entries can be fed one after the other. -/
private theorem fed_of_replayed {signer : GrantSigner} {matrixId : Ident} {history : History}
    {state : VerifierState} (replayed : Replayed matrixId history state)
    (later : List LedgerEntry)
    (signed : verifySignatures signer [] (history.map Prod.fst ++ later) = .ok ()) :
    history = [] ∨ ∃ entry plan rest opened ledger registry,
      history = (entry, .matrixPlan plan) :: rest ∧ MatrixLedger.new plan = .ok opened ∧
      feed signer (rest.map Prod.fst) (opened, []) = (.ok (), (ledger, registry)) ∧
      Tracks matrixId history state ledger registry := by
  induction replayed generalizing later with
  | start => exact .inl rfl
  | @step history state next entry parsed earlier accepted ih =>
      right
      rw [List.map_append, List.map_singleton, List.append_assoc, List.singleton_append] at signed
      rcases ih (entry :: later) signed with rfl | ⟨first, plan, rest, opened, ledger, registry,
        historyEq, created, fed, tracks⟩
      · obtain rfl : state = VerifierState.initial := by
          generalize historyEq : ([] : History) = history at earlier
          cases earlier with
          | start => rfl
          | step => simp at historyEq
        obtain ⟨plan, ledger, rfl, created, tracks⟩ := Tracks.start accepted
        exact ⟨entry, plan, [], ledger, ledger, [], rfl, created, rfl, tracks⟩
      · have signedFor : SignedFor signer state entry parsed := by
          rintro grant rfl
          obtain ⟨intent, found, verified⟩ :=
            verifySignatures_grant signer [] _ entry later signed grant accepted.parses
          rw [earlier.intents, Option.map_eq_some_iff] at found
          obtain ⟨cell, present, rfl⟩ := found
          exact ⟨cell, present, verified⟩
        obtain ⟨ledger', registry', fedEntry, tracks'⟩ := tracks.step earlier accepted signedFor
        refine ⟨first, plan, rest ++ [(entry, parsed)], opened, ledger', registry',
          by rw [historyEq, List.cons_append], created, ?_, tracks'⟩
        rw [List.map_append, List.map_singleton]
        exact feed_append signer _ entry _ _ _ fed fedEntry

/-- The documents agree entry by entry and in their summaries. -/
structure SameLedger (document produced : MatrixLedgerDocument) : Prop where
  entries : List.Forall₂ (fun entry other : LedgerEntry =>
    other.eventType = entry.eventType ∧ other.documentKind = entry.documentKind ∧
      other.documentDigest = entry.documentDigest ∧ other.causalParents = entry.causalParents ∧
      other.recordedAt = entry.recordedAt) document.entries produced.entries
  cells : produced.cells = document.cells
  expectedCount : produced.expectedCellCount = document.expectedCellCount
  decidedCount : produced.decidedCellCount = document.decidedCellCount
  missing : produced.missingDecisions = document.missingDecisions
  completeness : produced.completeness = document.completeness

/-- A verified and signed ledger is recorded again; everything about it but the
event type of evidence is as it was. -/
theorem rerecord_returns (document : MatrixLedgerDocument) (signer : GrantSigner)
    (accepted : verifyLedgerDocument document = .ok ())
    (signed : verifyGrantSignatures document signer = .ok ()) :
    ∃ produced, rerecord signer document = .ok produced ∧
      List.Forall₂ EntryFed document.entries produced.entries ∧
      produced.cells = document.cells ∧
      produced.expectedCellCount = document.expectedCellCount ∧
      produced.decidedCellCount = document.decidedCellCount ∧
      produced.missingDecisions = document.missingDecisions ∧
      produced.completeness = document.completeness := by
  obtain ⟨history, plan, state, accepted⟩ := (verifyLedgerDocument_eq_ok document).mp accepted
  have entriesEq := accepted.entries
  have signedAll : verifySignatures signer [] (history.map Prod.fst ++ []) = .ok () := by
    rw [entriesEq, List.append_nil]
    exact signed
  rcases fed_of_replayed accepted.replayed [] signedAll with rfl | ⟨entry, first, rest, opened,
    ledger, registry, historyEq, created, fed, tracks⟩
  · exfalso
    have frozen := accepted.frozen
    have replayed := accepted.replayed
    generalize historyEq : ([] : History) = history at replayed
    cases replayed with
    | start => cases frozen
    | step => simp at historyEq
  · have filed : CellsFiled ledger.matrixPlan ledger.cells := by
      rw [tracks.cells]
      exact accepted.replayed.filed tracks.plan
    obtain ⟨produced, taken, snapshot⟩ := snapshot_returns ledger filed
    obtain rfl : ledger.matrixPlan = plan :=
      Option.some.inj (tracks.plan.symm.trans accepted.frozen)
    have parsed := accepted.replayed.entries_parsed (entry, .matrixPlan first)
      (by rw [historyEq]; exact List.mem_cons_self)
    refine ⟨produced, ?_, ?_, ?_, ?_, ?_, ?_, ?_⟩
    · unfold rerecord
      rw [bind_eq_ok]
      refine ⟨first, ?_, ?_⟩
      · rw [expect_eq_ok, MatrixLedgerDocument.plan, ← entriesEq, historyEq]
        simp only [List.map_cons, List.head?_cons, Option.bind_some, parsed.1]
      · rw [bind_eq_ok]
        refine ⟨opened, created, ?_⟩
        rw [← entriesEq, historyEq, List.map_cons, List.tail_cons, fed]
        exact taken
    · rw [snapshot.entries, ← entriesEq]
      exact tracks.entries
    · rw [snapshot.cells, tracks.cells, accepted.cells]
    · exact Subtype.ext (snapshot.expectedCount.trans accepted.expectedCount.symm)
    · refine Subtype.ext (snapshot.decidedCount.trans ?_)
      rw [tracks.cells]
      exact accepted.decidedCount.symm
    · rw [snapshot.missing, tracks.cells, accepted.missing]
    · rw [snapshot.completeness, document.countsMatch.2.2.2.2, tracks.cells, accepted.missing]

end EgoAgent.Rxp
