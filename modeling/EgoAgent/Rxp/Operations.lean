import EgoAgent.Rxp.Recorder

/-!
The five recorder operations as one.

`Operation.run_eq_ok` says what any operation that returns has done, and
`Operation.run_keeps` that one that raises has done nothing, given the
invariant `MatrixLedger.Sound` that every operation keeps.
-/

namespace EgoAgent.Rxp

open Platform MatrixLedger

variable [Platform]

inductive Operation where
  | intent (intent : Intent)
  | grant (grant : Grant) (verifier : GrantSigner) (acceptedAt : String)
  | receipt (receipt : Receipt)
  | evidence (evidence : Evidence)
  | decision (decision : Decision)

/-- An operation that does not touch the replay registry. -/
def onLedger {α : Type} (effect : Effect MatrixLedger PyError α) :
    Effect (MatrixLedger × ReplayRegistry) PyError α :=
  Effect.within Prod.fst (fun ledger world => (ledger, world.2)) effect

namespace Operation

def run : Operation → Effect (MatrixLedger × ReplayRegistry) PyError Digest
  | .intent document => onLedger (recordIntent document)
  | .grant document verifier acceptedAt => onLedger (recordGrant document verifier acceptedAt)
  | .receipt document => recordReceipt document
  | .evidence document => onLedger (recordEvidence document)
  | .decision document => onLedger (recordDecision document)

def document : Operation → Document
  | .intent document => .intent document
  | .grant document _ _ => .grant document
  | .receipt document => .receipt document
  | .evidence document => .evidence document
  | .decision document => .decision document

def recordedAt : Operation → String
  | .intent document => document.createdAt.val
  | .grant _ _ acceptedAt => acceptedAt
  | .receipt document => document.completedAt.val
  | .evidence document => document.observedAt.val
  | .decision document => document.decidedAt.val

/-- The registry keys an operation consumes. -/
def keys : Operation → List (String × String)
  | .receipt document => [(grantNamespace, document.grantId.val)]
  | _ => []

/-- What the recorder asks for beyond the step of the cell. -/
def Guard (ledger : MatrixLedger) (registry : ReplayRegistry) (cell : Cell)
    (entry : LedgerEntry) : Operation → Prop
  | .intent document => document.intentId ∉ ledger.intentIds
  | .grant document verifier acceptedAt =>
      document.claims.grantId ∉ ledger.grantIds ∧ verifier.Authorises document cell.intent ∧
        GrantSigner.InWindow document acceptedAt
  | .receipt document => (grantNamespace, document.grantId.val) ∉ registry
  | .evidence document => ∀ before, ledger.cells.get? document.cellId = some before →
      entry.documentDigest ∉ before.evidenceDigests
  | .decision document =>
      cell.intent.requiredDeterminism.rank ≤ document.determinismLevel.rank

end Operation

private theorem onLedger_eq_ok {α : Type} (effect : Effect MatrixLedger PyError α)
    (ledger final : MatrixLedger) (registry later : ReplayRegistry) (result : α) :
    onLedger effect (ledger, registry) = (.ok result, (final, later)) ↔
      effect ledger = (.ok result, final) ∧ later = registry := by
  unfold onLedger Effect.within
  simp only [Prod.mk.injEq]
  constructor
  · rintro ⟨returned, rfl, rfl⟩
    exact ⟨by rw [← returned], rfl⟩
  · rintro ⟨computed, rfl⟩
    rw [computed]
    exact ⟨rfl, rfl, rfl⟩

/-- An operation that returns has taken one cell step under the next entry and
consumed its keys. -/
theorem Operation.run_eq_ok (operation : Operation) (ledger final : MatrixLedger)
    (registry later : ReplayRegistry) (digest : Digest) (digested : ledger.IntentsDigested) :
    operation.run (ledger, registry) = (.ok digest, (final, later)) ↔
      ∃ cell entry, Recorded ledger operation.document operation.recordedAt cell entry ∧
        operation.Guard ledger registry cell entry ∧ digest = entry.documentDigest ∧
        final = ledger.recorded operation.document cell entry ∧
        later = registry ++ operation.keys := by
  cases operation with
  | intent document =>
      simp only [run, onLedger_eq_ok, recordIntent_eq_ok, keys, List.append_nil]
      constructor
      · rintro ⟨⟨cell, entry, recorded, fresh, same, finalEq⟩, laterEq⟩
        exact ⟨cell, entry, recorded, fresh, same, finalEq, laterEq⟩
      · rintro ⟨cell, entry, recorded, fresh, same, finalEq, laterEq⟩
        exact ⟨⟨cell, entry, recorded, fresh, same, finalEq⟩, laterEq⟩
  | grant document verifier acceptedAt =>
      simp only [run, onLedger_eq_ok, recordGrant_eq_ok _ _ _ _ _ _ digested, keys,
        List.append_nil]
      constructor
      · rintro ⟨⟨cell, entry, recorded, fresh, authorised, window, same, finalEq⟩, laterEq⟩
        exact ⟨cell, entry, recorded, ⟨fresh, authorised, window⟩, same, finalEq, laterEq⟩
      · rintro ⟨cell, entry, recorded, ⟨fresh, authorised, window⟩, same, finalEq, laterEq⟩
        exact ⟨⟨cell, entry, recorded, fresh, authorised, window, same, finalEq⟩, laterEq⟩
  | receipt document =>
      simp only [run, recordReceipt_eq_ok, keys]
      constructor
      · rintro ⟨cell, entry, recorded, unused, laterEq, same, finalEq⟩
        exact ⟨cell, entry, recorded, unused, same, finalEq, laterEq⟩
      · rintro ⟨cell, entry, recorded, unused, same, finalEq, laterEq⟩
        exact ⟨cell, entry, recorded, unused, laterEq, same, finalEq⟩
  | evidence document =>
      simp only [run, onLedger_eq_ok, recordEvidence_eq_ok, keys, List.append_nil]
      constructor
      · rintro ⟨⟨cell, entry, recorded, fresh, same, finalEq⟩, laterEq⟩
        exact ⟨cell, entry, recorded, fresh, same, finalEq, laterEq⟩
      · rintro ⟨cell, entry, recorded, fresh, same, finalEq, laterEq⟩
        exact ⟨⟨cell, entry, recorded, fresh, same, finalEq⟩, laterEq⟩
  | decision document =>
      simp only [run, onLedger_eq_ok, recordDecision_eq_ok, keys, List.append_nil]
      constructor
      · rintro ⟨⟨cell, entry, recorded, strong, same, finalEq⟩, laterEq⟩
        exact ⟨cell, entry, recorded, strong, same, finalEq, laterEq⟩
      · rintro ⟨cell, entry, recorded, strong, same, finalEq, laterEq⟩
        exact ⟨⟨cell, entry, recorded, strong, same, finalEq⟩, laterEq⟩

/-! ### The invariant of a recorder -/

/-- A cell files the digests of the documents it holds. -/
structure Cell.Digested (cell : Cell) : Prop where
  intent : digestDocument (Intent.codec.dump cell.intent) = .ok cell.intentDigest
  evidence : List.Forall₂ (fun (item : Evidence) digest => digestDocument item.value = .ok digest)
    cell.evidence cell.evidenceDigests
  distinct : cell.evidenceDigests.Nodup

def MatrixLedger.Sound (ledger : MatrixLedger) : Prop :=
  ∀ cellId cell, ledger.cells.get? cellId = some cell → cell.Digested

theorem MatrixLedger.Sound.intentsDigested {ledger : MatrixLedger} (sound : ledger.Sound) :
    ledger.IntentsDigested :=
  fun cellId cell found => (sound cellId cell found).intent

/-- A cell step files the digest of its document. -/
theorem CellStep.digested {plan : MatrixPlan} {before : Option Cell} {document : Document}
    {digest : Digest} {parents : List Digest} {after : Cell}
    (taken : CellStep plan before document digest parents after)
    (earlier : ∀ cell, before = some cell → cell.Digested)
    (digested : digestDocument document.value = .ok digest)
    (fresh : document.kind = .evidence → ∀ cell, before = some cell →
      digest ∉ cell.evidenceDigests) : after.Digested := by
  cases taken with
  | intent => exact ⟨digested, .nil, List.nodup_nil⟩
  | grant cell =>
      have holds := earlier cell rfl
      exact ⟨holds.intent, holds.evidence, holds.distinct⟩
  | receipt cell =>
      have holds := earlier cell rfl
      exact ⟨holds.intent, holds.evidence, holds.distinct⟩
  | evidence cell evidence _ _ gate =>
      have holds := earlier cell rfl
      have grown : List.Forall₂
          (fun (item : Evidence) digest => digestDocument item.value = .ok digest)
          (cell.evidence ++ [evidence]) (cell.evidenceDigests ++ [digest]) :=
        List.rel_append holds.evidence (.cons digested .nil)
      have distinct : (cell.evidenceDigests ++ [digest]).Nodup :=
        List.nodup_append.mpr ⟨holds.distinct, List.nodup_singleton _, by
          rintro earlierDigest present _ last rfl
          rw [List.mem_singleton.mp last] at present
          exact fresh rfl cell rfl present⟩
      unfold Cell.withEvidence
      split
      · exact ⟨holds.intent, grown, distinct⟩
      · exact ⟨holds.intent, grown, distinct⟩
  | decision cell =>
      have holds := earlier cell rfl
      exact ⟨holds.intent, holds.evidence, holds.distinct⟩

theorem MatrixLedger.Sound.recorded {ledger : MatrixLedger} (sound : ledger.Sound)
    {operation : Operation} {registry : ReplayRegistry} {cell : Cell} {entry : LedgerEntry}
    (taken : Recorded ledger operation.document operation.recordedAt cell entry)
    (guard : operation.Guard ledger registry cell entry) :
    (ledger.recorded operation.document cell entry).Sound := by
  intro cellId other found
  simp only [MatrixLedger.recorded, Dict.get?_set] at found
  split at found
  · obtain rfl := Option.some.inj found
    refine taken.taken.digested (fun before present => sound _ before present)
      taken.next.documentDigest fun isEvidence before present => ?_
    cases operation with
    | evidence => exact guard before present
    | _ => cases isEvidence
  · exact sound cellId other found

/-! ### Operations that raise -/

/-- Every check of an append comes before its one write. -/
theorem append_atomic (eventType : LedgerEventType) (document : Document)
    (causalParents : List Digest) (recordedAt : String) (ledger : MatrixLedger) :
    Effect.Atomic (append eventType document causalParents recordedAt) ledger := by
  intro error final computed
  unfold append at computed
  rw [Effect.read_bind] at computed
  iterate 5
    rw [Effect.check_bind_eq_error] at computed
    obtain ⟨_, rfl⟩ | ⟨_, _, computed⟩ := computed
    · rfl
  cases computed

theorem recordIntent_atomic (intent : Intent) (ledger : MatrixLedger) :
    Effect.Atomic (recordIntent intent) ledger := by
  unfold recordIntent
  refine Effect.keeps_read_bind _ ?_
  iterate 6 refine Effect.keeps_check_bind _ _ fun _ _ => ?_
  exact Effect.keeps_bind_of_returns (append_atomic _ _ _ _ _) fun _ _ _ => ⟨_, _, rfl⟩

theorem recordGrant_atomic (grant : Grant) (verifier : GrantSigner) (acceptedAt : String)
    (ledger : MatrixLedger) : Effect.Atomic (recordGrant grant verifier acceptedAt) ledger := by
  unfold recordGrant
  refine Effect.keeps_read_bind _ ?_
  iterate 6 refine Effect.keeps_check_bind _ _ fun _ _ => ?_
  exact Effect.keeps_bind_of_returns (append_atomic _ _ _ _ _) fun _ _ _ => ⟨_, _, rfl⟩

theorem recordDecision_atomic (decision : Decision) (ledger : MatrixLedger) :
    Effect.Atomic (recordDecision decision) ledger := by
  unfold recordDecision
  refine Effect.keeps_read_bind _ ?_
  iterate 3 refine Effect.keeps_check_bind _ _ fun _ _ => ?_
  refine Effect.keeps_check_bind _ _ ?_
  rintro ⟨receipt, receiptDigest⟩ _
  iterate 6 refine Effect.keeps_check_bind _ _ fun _ _ => ?_
  exact Effect.keeps_bind_of_returns (append_atomic _ _ _ _ _) fun _ _ _ => ⟨_, _, rfl⟩

/-- The gate runs after the append; over digested evidence it cannot fail. -/
theorem recordEvidence_atomic (evidence : Evidence) (ledger : MatrixLedger)
    (sound : ledger.Sound) : Effect.Atomic (recordEvidence evidence) ledger := by
  unfold recordEvidence
  refine Effect.keeps_read_bind _ ?_
  refine Effect.keeps_check_bind _ _ fun _ _ => ?_
  refine Effect.keeps_check_bind _ _ fun cell found => ?_
  iterate 4 refine Effect.keeps_check_bind _ _ fun _ _ => ?_
  refine Effect.keeps_check_bind _ _ fun digest digested => ?_
  refine Effect.keeps_check_bind _ _ fun _ absent => ?_
  refine Effect.keeps_bind_of_returns (append_atomic _ _ _ _ _) fun _ middle _ => ?_
  have holds := sound _ cell ((requireCell_eq_ok _ _ _).mp found)
  rw [raiseIf_eq_ok] at absent
  obtain ⟨gate, gated⟩ := evidenceGate_returns
    (List.rel_append holds.evidence (.cons digested .nil))
    (List.nodup_append.mpr ⟨holds.distinct, List.nodup_singleton _, by
      rintro earlier present _ last rfl
      rw [List.mem_singleton.mp last] at present
      exact absent present⟩)
  exact ⟨digest, _, (fileEvidence_eq_ok _ _ _ _ _ _ _ rfl).mpr ⟨gate, gated, rfl, rfl⟩⟩

/-- The steps of `recordReceipt` from the replay write on. -/
private theorem receipt_tail (receipt : Receipt) (identifier : String) (parents : List Digest)
    (filed : Digest → MatrixLedger → MatrixLedger) (ledger final : MatrixLedger)
    (registry later : ReplayRegistry) (error : PyError)
    (time : ledger.assertAppendTime receipt.completedAt.val = .ok ())
    (encodes : ∃ normal, (Document.receipt receipt).value.canon unicode = some normal)
    (computed : (do
      let fresh ← Effect.within Prod.snd (fun registry world => (world.1, registry))
        (consume grantNamespace identifier)
      Effect.check (raiseIf (fresh = false)
        (rxpError "grant_replayed" "Grant has already been consumed"))
      let digest ← Effect.check (digestDocument (Document.receipt receipt).value)
      Effect.within Prod.fst (fun ledger world => (ledger, world.2))
        (append .receiptRecorded (.receipt receipt) parents receipt.completedAt.val)
      Effect.write fun world => (filed digest world.1, world.2)
      return digest : Effect (MatrixLedger × ReplayRegistry) PyError Digest) (ledger, registry) =
        (.error error, (final, later))) :
    final = ledger ∧ (inInt64 (ledger.entries.length + 1) → later = registry) := by
  obtain ⟨normal, encoded⟩ := encodes
  obtain ⟨digest, digested⟩ := digestDocument_returns encoded
  rw [Effect.bind_eq_error] at computed
  obtain impossible | ⟨fresh, middle, consumed, computed⟩ := computed
  · simp only [Effect.within, consume_apply] at impossible
    split at impossible <;> cases impossible
  · rw [Effect.check_bind_eq_error, raiseIf] at computed
    simp only [Effect.within, consume_apply] at consumed
    split at consumed
    · -- the grant was consumed before: nothing has been written
      cases consumed
      obtain ⟨_, same⟩ | ⟨_, impossible, _⟩ := computed
      · cases same
        exact ⟨rfl, fun _ => rfl⟩
      · cases impossible
    · cases consumed
      obtain ⟨impossible, _⟩ | ⟨_, _, computed⟩ := computed
      · cases impossible
      · rw [digested, Effect.check_ok_bind, Effect.bind_eq_error] at computed
        obtain failed | ⟨_, _, _, impossible⟩ := computed
        · simp only [Effect.within, Prod.mk.injEq] at failed
          obtain ⟨raised, finalEq, rfl⟩ := failed
          refine ⟨?_, fun fits => ?_⟩
          · rw [← finalEq]
            exact append_atomic _ _ _ _ _ error _ (by rw [← raised])
          · obtain ⟨entry, next⟩ := NextEntry.returns ledger .receiptRecorded parents
              receipt.completedAt time encoded fits
            rw [(append_eq_ok _ _ _ _ _ _ ()).mpr ⟨entry, next, rfl⟩] at raised
            cases raised
        · cases impossible

/-- A receipt that raises leaves the ledger alone, and the registry too while
the next sequence number fits 64 bits. -/
theorem recordReceipt_keeps (receipt : Receipt) (ledger final : MatrixLedger)
    (registry later : ReplayRegistry) (error : PyError)
    (computed : recordReceipt receipt (ledger, registry) = (.error error, (final, later))) :
    final = ledger ∧ (inInt64 (ledger.entries.length + 1) → later = registry) := by
  unfold recordReceipt at computed
  rw [Effect.read_bind] at computed
  iterate 3
    rw [Effect.check_bind_eq_error] at computed
    obtain ⟨_, ⟨⟩⟩ | ⟨_, _, computed⟩ := computed
    · exact ⟨rfl, fun _ => rfl⟩
  rw [Effect.check_bind_eq_error] at computed
  obtain ⟨_, ⟨⟩⟩ | ⟨⟨grant, grantDigest⟩, _, computed⟩ := computed
  · exact ⟨rfl, fun _ => rfl⟩
  iterate 2
    rw [Effect.check_bind_eq_error] at computed
    obtain ⟨_, ⟨⟩⟩ | ⟨_, _, computed⟩ := computed
    · exact ⟨rfl, fun _ => rfl⟩
  rw [Effect.check_bind_eq_error] at computed
  obtain ⟨_, ⟨⟩⟩ | ⟨_, time, computed⟩ := computed
  · exact ⟨rfl, fun _ => rfl⟩
  rw [Effect.check_bind_eq_error] at computed
  obtain ⟨_, ⟨⟩⟩ | ⟨payload, encoded, computed⟩ := computed
  · exact ⟨rfl, fun _ => rfl⟩
  obtain ⟨normal, canonEq, _⟩ :=
    (canonicalBytes_eq_some_iff _ _ _).mp ((canonicalBytesOf_eq_ok _ _).mp encoded)
  exact receipt_tail receipt _ _ _ ledger final registry later error time ⟨normal, canonEq⟩ computed

/-- An operation that raises has done nothing. -/
theorem Operation.run_keeps (operation : Operation) (ledger final : MatrixLedger)
    (registry later : ReplayRegistry) (error : PyError) (sound : ledger.Sound)
    (computed : operation.run (ledger, registry) = (.error error, (final, later))) :
    final = ledger ∧ (inInt64 (ledger.entries.length + 1) → later = registry) := by
  have alone : ∀ {effect : Effect MatrixLedger PyError Digest}, Effect.Atomic effect ledger →
      onLedger effect (ledger, registry) = (.error error, (final, later)) →
      final = ledger ∧ (inInt64 (ledger.entries.length + 1) → later = registry) := by
    intro effect atomic ran
    simp only [onLedger, Effect.within, Prod.mk.injEq] at ran
    obtain ⟨raised, rfl, rfl⟩ := ran
    exact ⟨atomic error _ (by rw [← raised]), fun _ => rfl⟩
  cases operation with
  | intent document => exact alone (recordIntent_atomic document ledger) computed
  | grant document verifier acceptedAt =>
      exact alone (recordGrant_atomic document verifier acceptedAt ledger) computed
  | receipt document => exact recordReceipt_keeps document ledger final registry later error computed
  | evidence document => exact alone (recordEvidence_atomic document ledger sound) computed
  | decision document => exact alone (recordDecision_atomic document ledger) computed

end EgoAgent.Rxp
