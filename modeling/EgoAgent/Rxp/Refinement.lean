import EgoAgent.Rxp.Sample

/-!
The recorder and the verifier against one another.

What the recorder records verifies, when the plan was frozen at a real instant
and the documents survive normalisation.  What verifies and is signed can be
recorded again, up to the event type of evidence, which the verifier does not
look at.
-/

namespace EgoAgent.Rxp

open Platform MatrixLedger

section General

variable [Platform]

/-! ### From the recorder to the verifier -/

/-- Every run over a plan frozen at a real instant, whose recorded documents
survive normalisation and do not collide, ends in a ledger that verifies. -/
theorem live_ledger_verifies (plan : MatrixPlan) (documents : List Document)
    (ledger : MatrixLedger) (run : LiveRun plan documents ledger) (name : ReadsBack plan.name)
    (frozenAt : ∃ instant, parseUtc plan.frozenAt.val = .ok instant)
    (reads : ∀ document ∈ documents, document.ReadsBack)
    (collisionFree : Set.InjOn sha256 (hashedDocuments ledger.entries)) :
    ∃ document, ledger.snapshot = .ok document ∧ verifyLedgerDocument document = .ok () := by
  obtain ⟨history, state, mirrored⟩ := run.mirrored name frozenAt reads collisionFree
  exact mirrored.verifies

/-- Every entry of an accepted ledger is recorded at an instant that exists. -/
theorem Replayed.timed {matrixId : Ident} {history : History} {state : VerifierState}
    (replayed : Replayed matrixId history state) :
    ∀ item ∈ history, ∃ instant, parseUtc item.1.recordedAt.val = .ok instant := by
  induction replayed with
  | start => intro _ impossible; cases impossible
  | step earlier accepted ih =>
      intro item present
      rcases List.mem_append.mp present with before | last
      · exact ih item before
      · rw [List.mem_singleton.mp last]
        obtain ⟨instant, parsed, _⟩ := accepted.timestamp
        exact ⟨instant, parsed⟩

/-! ### From the verifier to the recorder -/

/-- The recorder reproduces a verified and signed ledger exactly when its
evidence entries carry the event type of evidence. -/
theorem rerecord_same_iff (document : MatrixLedgerDocument) (signer : GrantSigner)
    (accepted : verifyLedgerDocument document = .ok ())
    (signed : verifyGrantSignatures document signer = .ok ()) :
    (∃ produced, rerecord signer document = .ok produced ∧ SameLedger document produced) ↔
      ∀ entry ∈ document.entries, entry.documentKind = .evidence →
        entry.eventType = .evidenceRecorded := by
  obtain ⟨produced, recorded, entries, cells, expected, decided, missing, completeness⟩ :=
    rerecord_returns document signer accepted signed
  constructor
  · rintro ⟨other, otherRecorded, same⟩ entry present isEvidence
    obtain rfl := Except.ok.inj (recorded.symm.trans otherRecorded)
    obtain ⟨partner, _, ⟨sameEvent, _⟩, fed⟩ :=
      Related.partner_of_left (Related.both same.entries entries) entry present
    rw [← sameEvent, fed.eventType, isEvidence]
    rfl
  · intro typed
    refine ⟨produced, recorded, ?_, cells, expected, decided, missing, completeness⟩
    refine Related.imp_of_mem entries fun entry present other _ fed => ⟨?_, fed.documentKind,
      fed.documentDigest, fed.causalParents, fed.recordedAt⟩
    by_cases isEvidence : entry.documentKind = .evidence
    · rw [fed.eventType, typed entry present isEvidence, isEvidence]
      rfl
    · rw [fed.eventType, fed.checked isEvidence]

/-- The last entry of an accepted ledger can be given any event type when it is
evidence: the verifier accepts the entry with its digest and root computed anew. -/
theorem retyped_accepted {document : MatrixLedgerDocument}
    (accepted : verifyLedgerDocument document = .ok ()) {front : List LedgerEntry}
    {entry : LedgerEntry} (entriesEq : document.entries = front ++ [entry])
    (isEvidence : entry.documentKind = .evidence) (eventType : LedgerEventType) :
    ∃ forged : MatrixLedgerDocument, verifyLedgerDocument forged = .ok () ∧
      ∃ other, forged.entries = front ++ [other] ∧ other.eventType = eventType ∧
        other.documentKind = .evidence := by
  obtain ⟨history, plan, state, accepted⟩ := (verifyLedgerDocument_eq_ok document).mp accepted
  obtain ⟨matched, replayed, frozen, planDigest, root, cells, expectedCount, decidedCount,
    missing⟩ := accepted
  rw [entriesEq] at matched
  cases replayed with
  | start => simp at matched
  | @step earlier before _ last parsed replayed taken =>
      rw [List.map_append, List.map_singleton, List.append_singleton_inj] at matched
      obtain ⟨frontEq, rfl⟩ := matched
      have kind : parsed.kind = .evidence :=
        (Document.kind_of_parse taken.parses).trans isEvidence
      have fits : inInt64 last.sequence.val := LedgerEntryCore.fits_of_digest taken.entryDigest
      let core : LedgerEntryCore := { last.toLedgerEntryCore with eventType }
      obtain ⟨entryDigest, digested⟩ := core.digest_returns fits
      let other : LedgerEntry :=
        { core with entryDigest, root := extendLedgerRoot before.root entryDigest }
      let next : VerifierState := { state with root := other.root }
      have applied : applyDocument document.matrixId before other parsed =
          .ok (next.matrixPlan, next.cells) := by
        have later : parsed.kind ≠ .matrixPlan := by
          rw [kind]
          decide
        obtain ⟨found, cell, present, _, step, same⟩ :=
          (applyDocument_cell _ _ last parsed _ later taken.cellId).mp taken.applied
        refine (applyDocument_cell _ _ other parsed _ later taken.cellId).mpr
          ⟨found, cell, present, ?_, step, same⟩
        cases parsed with
        | evidence => trivial
        | _ => cases kind
      have timed : verifyRecordedAt other parsed = .ok () := by
        cases parsed with
        | evidence => exact taken.recordedAt
        | _ => cases kind
      have step : EntryAccepted document.matrixId before other parsed next := {
        sequence := taken.sequence
        entryMatrix := taken.entryMatrix
        previousRoot := taken.previousRoot
        parses := taken.parses
        cellId := taken.cellId
        documentMatrix := taken.documentMatrix
        timestamp := taken.timestamp
        digest := taken.digest
        fresh := taken.fresh
        noted := taken.noted
        entryDigest := digested
        root := rfl
        parents := taken.parents
        applied
        recordedAt := timed
        nextSequence := taken.nextSequence
        nextRoot := rfl
        nextSeen := taken.nextSeen }
      have counts := document.countsMatch
      let forged : MatrixLedgerDocument := {
        document with
        entries := front ++ [other]
        root := other.root
        countsMatch := by
          unfold MatrixLedgerFields.countMatches at counts ⊢
          rw [entriesEq] at counts
          simpa using counts }
      refine ⟨forged, (verifyLedgerDocument_eq_ok forged).mpr
        ⟨earlier ++ [(other, parsed)], plan, next, {
          entries := by rw [List.map_append, frontEq]; rfl
          replayed := .step replayed step
          frozen
          planDigest
          root := rfl
          cells
          expectedCount
          decidedCount
          missing }⟩, other, rfl, rfl, isEvidence⟩

/-- The signature pass skips a last entry that is evidence. -/
theorem verifySignatures_evidence (signer : GrantSigner) (intents : Dict Ident Intent)
    (front : List LedgerEntry) (entry : LedgerEntry) (isEvidence : entry.documentKind = .evidence) :
    verifySignatures signer intents (front ++ [entry]) = verifySignatures signer intents front := by
  induction front generalizing intents with
  | nil => simp only [List.nil_append, verifySignatures, isEvidence]
  | cons first rest ih =>
      rw [List.cons_append]
      unfold verifySignatures
      simp only [ih]

end General

/-! ### Samples -/

namespace Sample

theorem live_ledger_verifies_sample :
    ∃ ledger, LiveRun (plan true) (file false).documents ledger ∧
      ∃ document, ledger.snapshot = .ok document ∧ verifyLedgerDocument document = .ok () := by
  obtain ⟨ledger, _, run, _⟩ := decided false
  exact ⟨ledger, run, live_ledger_verifies (plan true) (file false).documents ledger run
    (plan true).name.property ⟨noonSeconds, noon_parses⟩ (documents_readBack false)
    (collisionFree run (List.prefix_rfl))⟩

/-- A plan frozen on the thirtieth of February is recorded and does not verify. -/
theorem unreal_plan_unverified :
    ¬ ∀ (plan : MatrixPlan) (documents : List Document) (ledger : MatrixLedger),
      LiveRun plan documents ledger →
        ∃ document, ledger.snapshot = .ok document ∧ verifyLedgerDocument document = .ok () := by
  intro claim
  obtain ⟨opened, created, _⟩ := plan_opens false
  obtain ⟨document, taken, verified⟩ := claim (plan false) [] opened (.opened opened created)
  obtain ⟨planDigest, entry, _, next, rfl⟩ := (MatrixLedger.new_eq_ok _ _).mp created
  obtain ⟨other, otherTaken, snapshot⟩ := snapshot_returns
    ((MatrixLedger.empty (plan false) planDigest).withEntry entry)
    ⟨List.nodup_nil, fun _ _ impossible => (by cases impossible),
      fun _ _ impossible => (by cases impossible)⟩
  rw [taken, Except.ok.injEq] at otherTaken
  subst otherTaken
  obtain ⟨history, _, _, accepted⟩ := (verifyLedgerDocument_eq_ok document).mp verified
  have recorded : entry ∈ history.map Prod.fst := by
    rw [accepted.entries, snapshot.entries]
    exact List.mem_cons_self
  obtain ⟨item, present, rfl⟩ := List.mem_map.mp recorded
  obtain ⟨instant, parsed⟩ := accepted.replayed.timed item present
  rw [next.recordedAt] at parsed
  cases parsed

/-- The signature pass accepts the sample, however far it has come. -/
private theorem signatures {flag : Bool} {documents : List Document} {ledger : MatrixLedger}
    (run : LiveRun (plan true) (.intent (intent flag) :: .grant grant :: documents) ledger)
    (others : ∀ document ∈ documents, document.kind ≠ .intent ∧ document.kind ≠ .grant) :
    verifySignatures signer [] ledger.entries = .ok () :=
  CellFile.signed (file_coherent true flag) (intent_normal flag) grant_normal run.embeds.2 others

private theorem later_kinds (document : Document)
    (listed : document ∈ Document.receipt receipt ::
      (evidence.map (fun item => Document.evidence item.1) ++ [.decision decision])) :
    document.kind ≠ .intent ∧ document.kind ≠ .grant := by
  rw [List.mem_cons, List.mem_append] at listed
  rcases listed with rfl | record | last
  · exact ⟨by decide, by decide⟩
  · obtain ⟨item, _, rfl⟩ := List.mem_map.mp record
    exact ⟨by simp [Document.kind], by simp [Document.kind]⟩
  · rw [List.mem_singleton.mp last]
    exact ⟨by decide, by decide⟩

theorem rerecord_same_sample : ∃ document, verifyLedgerDocument document = .ok () ∧
    verifyGrantSignatures document signer = .ok () ∧
      ((∃ produced, rerecord signer document = .ok produced ∧ SameLedger document produced) ↔
        ∀ entry ∈ document.entries, entry.documentKind = .evidence →
          entry.eventType = .evidenceRecorded) := by
  obtain ⟨ledger, _, run, _⟩ := decided false
  obtain ⟨document, _, verified, snapshot⟩ := verifies run List.prefix_rfl
  have signed : verifyGrantSignatures document signer = .ok () := by
    rw [verifyGrantSignatures, snapshot.entries]
    have shaped : LiveRun (plan true) (.intent (intent false) :: .grant grant ::
        .receipt receipt :: (evidence.map (fun item => Document.evidence item.1) ++
          [.decision decision])) ledger := run
    exact signatures shaped later_kinds
  exact ⟨document, verified, signed, rerecord_same_iff document signer verified signed⟩

/-- An accepted and signed ledger whose last evidence entry is typed as a frozen
matrix is not recorded again as it was. -/
theorem retyped_not_rerecorded :
    ¬ ∀ (document : MatrixLedgerDocument) (signer : GrantSigner),
      verifyLedgerDocument document = .ok () → verifyGrantSignatures document signer = .ok () →
        ∃ produced, rerecord signer document = .ok produced ∧ SameLedger document produced := by
  intro claim
  obtain ⟨ledger, run⟩ := gathered false
  have early : undecided false <+: (file false).documents := List.prefix_append _ _
  obtain ⟨document, _, verified, snapshot⟩ := verifies run early
  have reversed := List.forall₂_reverse_iff.mpr run.embeds.2
  have shape : (Document.matrixPlan (plan true) :: undecided false).reverse =
      .evidence (record ⟨"e7", by decide⟩ ⟨7, by decide⟩ .review reviewer reviewClaims) ::
        (Document.matrixPlan (plan true) :: (undecided false).dropLast).reverse := rfl
  rw [shape] at reversed
  generalize tailEq : ledger.entries.reverse = tail at reversed
  cases reversed with
  | @cons last _ rest _ embeds _ =>
      have entriesEq : document.entries = rest.reverse ++ [last] := by
        rw [snapshot.entries, ← List.reverse_reverse ledger.entries, tailEq, List.reverse_cons]
      obtain ⟨forged, forgedVerified, other, forgedEntries, typed, isEvidence⟩ :=
        retyped_accepted verified entriesEq embeds.kind .matrixFrozen
      have passed : verifyGrantSignatures forged signer = .ok () := by
        have shaped : LiveRun (plan true) (.intent (intent false) :: .grant grant ::
            .receipt receipt :: evidence.map fun item => Document.evidence item.1) ledger := run
        have signed := signatures shaped fun document listed =>
          later_kinds document (by
            rw [← List.cons_append]
            exact List.mem_append_left _ listed)
        rw [← snapshot.entries, entriesEq, verifySignatures_evidence _ _ _ _ embeds.kind] at signed
        rw [verifyGrantSignatures, forgedEntries, verifySignatures_evidence _ _ _ _ isEvidence]
        exact signed
      obtain ⟨produced, recorded, same⟩ := claim forged signer forgedVerified passed
      obtain ⟨again, againRecorded, fed, _⟩ := rerecord_returns forged signer forgedVerified passed
      rw [recorded, Except.ok.injEq] at againRecorded
      subst againRecorded
      obtain ⟨partner, _, ⟨sameType, _⟩, fedType⟩ := Related.partner_of_left
        (Related.both same.entries fed) other (by rw [forgedEntries]; simp)
      rw [fedType.eventType, isEvidence, typed] at sameType
      cases sameType

end Sample

end EgoAgent.Rxp
