import EgoAgent.Rxp.PlanNormal

/-!
What each recorder operation does when it returns.

`NextEntry` describes the one entry an append adds.  Every `record…` operation
that returns takes the cell step of its document, appends that entry and files
the new cell; the lemmas say so in both directions.
-/

namespace EgoAgent.Rxp

open Platform MatrixLedger

variable [Platform]

/-! ### Entries -/

private theorem sequence_norm (item : {number : Int // 1 ≤ number}) :
    (Codec.integer.refine fun number => 1 ≤ number).norm (u := unicode) item =
      if inInt64 item.val then some item else none := by
  simp only [Codec.refine, Codec.integer]
  split
  · rw [Option.bind_some]
    exact (Codec.permit_eq_some _ _ item).mpr rfl
  · rfl

/-- An entry re-reads, and so has a digest, when its sequence fits 64 bits. -/
theorem LedgerEntryCore.norm_returns (core : LedgerEntryCore)
    (fits : inInt64 core.sequence.val) :
    ∃ document, JsonObject.codec.norm core.document = some document ∧
      LedgerEntryCore.codec.norm core = some { core with document } := by
  obtain ⟨document, documentEq, _⟩ := core.document.norm_isSome
  refine ⟨document, documentEq, Codec.iso_norm_of _ _ _ _ rfl ?_⟩
  simp only [Record.object_norm, Record.field_norm]
  exact ⟨(sequence_norm core.sequence).trans (if_pos fits), rfl, rfl, rfl, rfl, rfl, documentEq,
    Codec.traverse_of_fixed _ _ fun _ _ => rfl, rfl, rfl, rfl⟩

theorem LedgerEntryCore.digest_returns (core : LedgerEntryCore)
    (fits : inInt64 core.sequence.val) :
    ∃ digest, digestLedgerEntry (LedgerEntryCore.codec.dump core) = .ok digest := by
  obtain ⟨_, _, normEq⟩ := core.norm_returns fits
  rw [← Codec.load_canon, Option.bind_eq_some_iff] at normEq
  obtain ⟨normal, canonEq, _⟩ := normEq
  refine ⟨domainDigest ledgerEntryDomain (utf8Encode normal.text), ?_⟩
  rw [digestLedgerEntry_eq_ok]
  exact ⟨_, (canonicalBytes_eq_some_iff _ _ _).mpr ⟨normal, canonEq, rfl⟩, rfl⟩

/-- An entry with a digest has a sequence that fits 64 bits. -/
theorem LedgerEntryCore.fits_of_digest {core : LedgerEntryCore} {digest : Digest}
    (digested : digestLedgerEntry (LedgerEntryCore.codec.dump core) = .ok digest) :
    inInt64 core.sequence.val := by
  obtain ⟨payload, encoded, _⟩ := (digestLedgerEntry_eq_ok _ _).mp digested
  obtain ⟨normal, canonEq, _⟩ := (canonicalBytes_eq_some_iff _ _ _).mp encoded
  obtain ⟨value, sequenceEq⟩ := Value.canon_member canonEq
    (show ("sequence", Value.int core.sequence.val) ∈ _ from .head _)
  simp only [Value.canon] at sequenceEq
  split at sequenceEq
  · assumption
  · cases sequenceEq

/-- The entry an append adds to a ledger. -/
structure NextEntry (ledger : MatrixLedger) (eventType : LedgerEventType) (document : Document)
    (causalParents : List Digest) (recordedAt : String) (entry : LedgerEntry) : Prop where
  time : ledger.assertAppendTime recordedAt = .ok ()
  sequence : entry.sequence.val = ledger.entries.length + 1
  eventType : entry.eventType = eventType
  matrixId : entry.matrixId = ledger.matrixId
  cellId : entry.cellId = document.cellId
  documentKind : entry.documentKind = document.kind
  documentDigest : digestDocument document.value = .ok entry.documentDigest
  document : document.value.canon unicode = some entry.document.value
  causalParents : entry.causalParents = causalParents
  previousRoot : entry.previousRoot = ledger.root
  recordedAt : entry.recordedAt.val = recordedAt
  entryDigest : digestLedgerEntry (LedgerEntryCore.codec.dump entry.toLedgerEntryCore) =
    .ok entry.entryDigest
  root : entry.root = extendLedgerRoot ledger.root entry.entryDigest

/-- The ledger with one more entry. -/
def MatrixLedger.withEntry (ledger : MatrixLedger) (entry : LedgerEntry) : MatrixLedger :=
  { ledger with entries := ledger.entries ++ [entry], root := entry.root }

theorem documentDict_eq_ok (document : Document) (object : JsonObject unicode) :
    documentDict document = .ok object ↔ document.value.canon unicode = some object.value := by
  unfold documentDict
  rw [expect_eq_ok, readBytes_canonicalBytes, Option.bind_eq_some_iff]
  constructor
  · rintro ⟨normal, canonEq, loaded⟩
    rw [JsonObject.ofValue_eq_some] at loaded
    rw [canonEq, loaded]
  · intro canonEq
    exact ⟨object.value, canonEq, (JsonObject.ofValue_eq_some _ _ _).mpr rfl⟩

section

variable {document : Document}

private theorem NextEntry.core_eq {ledger : MatrixLedger} {eventType : LedgerEventType}
    {causalParents : List Digest} {recordedAt : String}
    {entry : LedgerEntry}
    (next : NextEntry ledger eventType document causalParents recordedAt entry)
    (positive : 1 ≤ (ledger.entries.length : Int) + 1) :
    entry.toLedgerEntryCore = {
      sequence := ⟨ledger.entries.length + 1, positive⟩
      eventType
      matrixId := ledger.matrixId
      cellId := document.cellId
      documentKind := document.kind
      documentDigest := entry.documentDigest
      document := entry.document
      causalParents
      previousRoot := ledger.root
      recordedAt := entry.recordedAt } := by
  have sequenceEq : entry.sequence = ⟨ledger.entries.length + 1, positive⟩ :=
    Subtype.ext next.sequence
  rw [← sequenceEq, ← next.eventType, ← next.matrixId, ← next.cellId, ← next.documentKind,
    ← next.causalParents, ← next.previousRoot]

theorem append_eq_ok (eventType : LedgerEventType) (document : Document)
    (causalParents : List Digest) (recordedAt : String) (ledger final : MatrixLedger)
    (done : Unit) :
    append eventType document causalParents recordedAt ledger = (.ok done, final) ↔
      ∃ entry, NextEntry ledger eventType document causalParents recordedAt entry ∧
        final = ledger.withEntry entry := by
  unfold append
  rw [Effect.read_bind, Effect.check_bind_eq_ok]
  constructor
  · rintro ⟨⟨⟩, time, appended⟩
    rw [Effect.check_bind_eq_ok] at appended
    obtain ⟨object, objectEq, appended⟩ := appended
    rw [Effect.check_bind_eq_ok] at appended
    obtain ⟨documentDigest, digested, appended⟩ := appended
    rw [Effect.check_bind_eq_ok] at appended
    obtain ⟨instant, admitted, appended⟩ := appended
    rw [expect_eq_ok, Codec.permit_eq_some] at admitted
    subst admitted
    rw [Effect.check_bind_eq_ok] at appended
    obtain ⟨entryDigest, entryDigested, ⟨⟩⟩ := appended
    let entry : LedgerEntry := {
      sequence := ⟨ledger.entries.length + 1, by omega⟩
      eventType
      matrixId := ledger.matrixId
      cellId := document.cellId
      documentKind := document.kind
      documentDigest
      document := object
      causalParents
      previousRoot := ledger.root
      recordedAt := instant
      entryDigest
      root := extendLedgerRoot ledger.root entryDigest }
    exact ⟨entry, ⟨time, rfl, rfl, rfl, rfl, rfl, digested, (documentDict_eq_ok _ _).mp objectEq,
      rfl, rfl, rfl, entryDigested, rfl⟩, rfl⟩
  · rintro ⟨entry, next, rfl⟩
    refine ⟨(), next.time, ?_⟩
    rw [Effect.check_bind_eq_ok]
    refine ⟨entry.document, (documentDict_eq_ok _ _).mpr next.document, ?_⟩
    rw [Effect.check_bind_eq_ok]
    refine ⟨entry.documentDigest, next.documentDigest, ?_⟩
    rw [Effect.check_bind_eq_ok]
    refine ⟨entry.recordedAt, (expect_eq_ok _ _ _).mpr
      ((Codec.permit_eq_some isUtc recordedAt entry.recordedAt).mpr next.recordedAt.symm), ?_⟩
    rw [← next.core_eq, Effect.check_bind_eq_ok]
    refine ⟨entry.entryDigest, next.entryDigest, ?_⟩
    rw [← next.root]
    rfl

theorem append_bind_eq_ok {α : Type} (eventType : LedgerEventType) (document : Document)
    (causalParents : List Digest) (recordedAt : String) (ledger final : MatrixLedger)
    (rest : Unit → Effect MatrixLedger PyError α) (result : α) :
    (append eventType document causalParents recordedAt >>= rest) ledger = (.ok result, final) ↔
      ∃ entry, NextEntry ledger eventType document causalParents recordedAt entry ∧
        rest () (ledger.withEntry entry) = (.ok result, final) := by
  rw [Effect.bind_eq_ok]
  constructor
  · rintro ⟨done, middle, appended, computed⟩
    obtain ⟨entry, next, rfl⟩ := (append_eq_ok _ _ _ _ _ _ _).mp appended
    exact ⟨entry, next, computed⟩
  · rintro ⟨entry, next, computed⟩
    exact ⟨(), _, (append_eq_ok _ _ _ _ _ _ _).mpr ⟨entry, next, rfl⟩, computed⟩

/-! ### When an append returns -/

theorem Document.value_dict (document : Document) : ∃ members, document.value = .dict members := by
  cases document <;> exact ⟨_, rfl⟩

/-- A document with a canonical form embeds as an object. -/
theorem documentDict_returns {normal : Value}
    (encoded : document.value.canon unicode = some normal) :
    ∃ object : JsonObject unicode, document.value.canon unicode = some object.value := by
  obtain ⟨members, valueEq⟩ := document.value_dict
  rw [valueEq] at encoded ⊢
  obtain ⟨object, _, objectEq⟩ := JsonObject.norm_isSome ⟨members, by rw [encoded]; rfl⟩
  exact ⟨object, objectEq⟩

/-- An append needs an ordered time, a document with a canonical form and a
sequence number that fits 64 bits. -/
theorem NextEntry.returns (ledger : MatrixLedger) (eventType : LedgerEventType)
    {normal : Value} (causalParents : List Digest) (recordedAt : Utc)
    (time : ledger.assertAppendTime recordedAt.val = .ok ())
    (encoded : document.value.canon unicode = some normal)
    (fits : inInt64 (ledger.entries.length + 1)) :
    ∃ entry, NextEntry ledger eventType document causalParents recordedAt.val entry := by
  obtain ⟨object, objectEq⟩ := documentDict_returns encoded
  obtain ⟨documentDigest, digested⟩ := digestDocument_returns encoded
  let core : LedgerEntryCore := {
    sequence := ⟨ledger.entries.length + 1, by omega⟩
    eventType
    matrixId := ledger.matrixId
    cellId := document.cellId
    documentKind := document.kind
    documentDigest
    document := object
    causalParents
    previousRoot := ledger.root
    recordedAt }
  obtain ⟨entryDigest, entryDigested⟩ := core.digest_returns fits
  exact ⟨{ core with entryDigest, root := extendLedgerRoot ledger.root entryDigest },
    ⟨time, rfl, rfl, rfl, rfl, rfl, digested, objectEq, rfl, rfl, rfl, entryDigested, rfl⟩⟩

/-- The ledger of a plan before its first entry. -/
def MatrixLedger.empty (plan : MatrixPlan) (planDigest : Digest) : MatrixLedger where
  matrixPlan := plan
  matrixPlanDigest := planDigest
  entries := []
  cells := []
  root := genesisRoot
  grantIds := []
  intentIds := []

/-- A new ledger holds the entry of its plan. -/
theorem MatrixLedger.new_eq_ok (plan : MatrixPlan) (ledger : MatrixLedger) :
    MatrixLedger.new plan = .ok ledger ↔
      ∃ planDigest entry, digestDocument (MatrixPlan.codec.dump plan) = .ok planDigest ∧
        NextEntry (.empty plan planDigest) .matrixFrozen (.matrixPlan plan) [] plan.frozenAt.val
          entry ∧
        ledger = (MatrixLedger.empty plan planDigest).withEntry entry := by
  unfold MatrixLedger.new
  rw [bind_eq_ok]
  refine exists_congr fun planDigest => ?_
  rcases appended : append .matrixFrozen (.matrixPlan plan) [] plan.frozenAt.val
    (MatrixLedger.empty plan planDigest) with ⟨_ | done, later⟩
  · have fails := appended
    unfold MatrixLedger.empty at fails
    simp only [fails]
    constructor
    · rintro ⟨_, impossible⟩; cases impossible
    · rintro ⟨entry, _, next, _⟩
      rw [(append_eq_ok _ _ _ _ _ _ ()).mpr ⟨entry, next, rfl⟩] at appended
      cases appended
  · have opens := appended
    unfold MatrixLedger.empty at opens
    simp only [opens]
    constructor
    · rintro ⟨digested, ⟨⟩⟩
      obtain ⟨entry, next, rfl⟩ := (append_eq_ok _ _ _ _ _ _ _).mp appended
      exact ⟨entry, digested, next, rfl⟩
    · rintro ⟨entry, digested, next, rfl⟩
      rw [(append_eq_ok _ _ _ _ _ _ ()).mpr ⟨entry, next, rfl⟩] at appended
      cases appended
      exact ⟨digested, rfl⟩

/-! ### What an operation records -/

/-- The event type the recorder gives a kind of document. -/
def DocumentKind.eventType : DocumentKind → LedgerEventType
  | .matrixPlan => .matrixFrozen
  | .intent => .intentRecorded
  | .grant => .grantRecorded
  | .receipt => .receiptRecorded
  | .evidence => .evidenceRecorded
  | .decision => .decisionRecorded

def Document.eventType (document : Document) : LedgerEventType := document.kind.eventType

def Document.intentIds : Document → List Ident
  | .intent document => [document.intentId]
  | _ => []

def Document.grantIds : Document → List Ident
  | .grant document => [document.claims.grantId]
  | _ => []

/-- The ledger after a document took its cell to `cell` under `entry`. -/
def MatrixLedger.recorded (ledger : MatrixLedger) (document : Document) (cell : Cell)
    (entry : LedgerEntry) : MatrixLedger :=
  { ledger with
    entries := ledger.entries ++ [entry]
    root := entry.root
    cells := ledger.cells.set document.cellId cell
    intentIds := ledger.intentIds ++ document.intentIds
    grantIds := ledger.grantIds ++ document.grantIds }

/-- A document of the ledger's matrix takes one step of its cell, under the next entry. -/
structure Recorded (ledger : MatrixLedger) (document : Document) (recordedAt : String)
    (cell : Cell) (entry : LedgerEntry) : Prop where
  matrixId : document.matrixId = ledger.matrixId
  next : NextEntry ledger document.eventType document entry.causalParents recordedAt entry
  taken : CellStep ledger.matrixPlan (ledger.cells.get? document.cellId) document
    entry.documentDigest entry.causalParents cell

theorem requireMatrix_eq_ok (ledger : MatrixLedger) (matrixId : Ident) (done : Unit) :
    ledger.requireMatrix matrixId = .ok done ↔ matrixId = ledger.matrixId := by
  rw [requireMatrix, raiseIf_eq_ok, not_ne_iff]

theorem requireState_eq_ok (cell : Cell) (expected : CellState) (done : Unit) :
    requireState cell expected = .ok done ↔ cell.state = expected := by
  rw [requireState, raiseIf_eq_ok, not_ne_iff]

/-- The two sides of `Recorded` from the entry's own parents. -/
theorem recorded_of_parents {ledger : MatrixLedger}
    {recordedAt : String} {parents : List Digest} {cell : Cell} {entry : LedgerEntry}
    (matrixId : document.matrixId = ledger.matrixId)
    (next : NextEntry ledger document.eventType document parents recordedAt entry)
    (taken : CellStep ledger.matrixPlan (ledger.cells.get? document.cellId) document
      entry.documentDigest parents cell) :
    Recorded ledger document recordedAt cell entry := by
  obtain rfl := next.causalParents
  exact ⟨matrixId, next, taken⟩

end

theorem recordIntent_eq_ok (intent : Intent) (ledger final : MatrixLedger) (digest : Digest) :
    recordIntent intent ledger = (.ok digest, final) ↔
      ∃ cell entry, Recorded ledger (.intent intent) intent.createdAt.val cell entry ∧
        intent.intentId ∉ ledger.intentIds ∧ digest = entry.documentDigest ∧
        final = ledger.recorded (.intent intent) cell entry := by
  unfold recordIntent
  simp only [Effect.read_bind, Effect.check_bind_eq_ok, append_bind_eq_ok, requireMatrix_eq_ok,
    raiseIf_eq_ok, expect_eq_ok, exists_const, not_not]
  constructor
  · rintro ⟨matrixId, definition, declared, located, absent, fresh, _, digested, entry, next, ⟨⟩⟩
    obtain rfl := Except.ok.inj (digested.symm.trans next.documentDigest)
    refine ⟨{ intent, intentDigest := entry.documentDigest }, entry,
      recorded_of_parents matrixId next ?_, fresh, rfl, ?_⟩
    · change CellStep _ (ledger.cells.get? intent.cellId) _ _ _ _
      rw [(ledger.cells.get?_eq_none_iff _).mpr absent]
      exact .intent intent _ definition declared located
    · simp only [MatrixLedger.recorded, Document.grantIds, List.append_nil]
      rfl
  · rintro ⟨cell, entry, ⟨matrixId, next, taken⟩, fresh, rfl, rfl⟩
    generalize beforeEq : ledger.cells.get? _ = before at taken
    generalize entry.causalParents = parents at next taken
    cases taken with
    | intent _ _ definition declared located =>
        refine ⟨matrixId, definition, declared, located,
          (ledger.cells.get?_eq_none_iff _).mp beforeEq, fresh, _, next.documentDigest, entry,
          next, ?_⟩
        simp only [MatrixLedger.recorded, Document.grantIds, List.append_nil]
        rfl

theorem requireCell_eq_ok (ledger : MatrixLedger) (cellId : Ident) (cell : Cell) :
    ledger.requireCell cellId = .ok cell ↔ ledger.cells.get? cellId = some cell :=
  expect_eq_ok _ _ _

/-- Every cell files the digest of its own intent. -/
def MatrixLedger.IntentsDigested (ledger : MatrixLedger) : Prop :=
  ∀ cellId cell, ledger.cells.get? cellId = some cell →
    digestDocument (Intent.codec.dump cell.intent) = .ok cell.intentDigest

private theorem grantMatches_of_authorises {verifier : GrantSigner} {grant : Grant} {cell : Cell}
    (authorised : verifier.Authorises grant cell.intent)
    (digested : digestDocument (Intent.codec.dump cell.intent) = .ok cell.intentDigest) :
    GrantMatches grant.claims cell :=
  ⟨Except.ok.inj (authorised.intentDigest.symm.trans digested), authorised.intentId,
    authorised.matrixId, authorised.cellId, authorised.action, authorised.scope,
    authorised.actionPayloadDigest, authorised.bounds⟩

theorem recordGrant_eq_ok (grant : Grant) (verifier : GrantSigner) (acceptedAt : String)
    (ledger final : MatrixLedger) (digest : Digest) (digested : ledger.IntentsDigested) :
    recordGrant grant verifier acceptedAt ledger = (.ok digest, final) ↔
      ∃ cell entry, Recorded ledger (.grant grant) acceptedAt cell entry ∧
        grant.claims.grantId ∉ ledger.grantIds ∧ verifier.Authorises grant cell.intent ∧
        GrantSigner.InWindow grant acceptedAt ∧ digest = entry.documentDigest ∧
        final = ledger.recorded (.grant grant) cell entry := by
  unfold recordGrant
  simp only [Effect.read_bind, Effect.check_bind_eq_ok, append_bind_eq_ok, requireMatrix_eq_ok,
    requireCell_eq_ok, requireState_eq_ok, raiseIf_eq_ok, exists_const]
  constructor
  · rintro ⟨matrixId, before, found, state, fresh, ⟨⟩, verified, _, documentDigested, entry, next,
      ⟨⟩⟩
    obtain rfl := Except.ok.inj (documentDigested.symm.trans next.documentDigest)
    obtain ⟨authorised, window⟩ := (GrantSigner.verify_eq_ok _ _ _ _).mp verified
    refine ⟨{ before with
        grant := some grant
        grantDigest := some entry.documentDigest
        state := .granted }, entry, recorded_of_parents matrixId next ?_, fresh, authorised,
      window, rfl, ?_⟩
    · change CellStep _ (ledger.cells.get? grant.claims.cellId) _ _ _ _
      rw [found]
      exact .grant before grant _ state
        (grantMatches_of_authorises authorised (digested _ _ found))
    · simp only [MatrixLedger.recorded, Document.intentIds, List.append_nil]
      rfl
  · rintro ⟨cell, entry, ⟨matrixId, next, taken⟩, fresh, authorised, window, rfl, rfl⟩
    generalize beforeEq : ledger.cells.get? _ = slot at taken
    generalize entry.causalParents = parents at next taken
    cases taken with
    | grant before _ _ state scope =>
        refine ⟨matrixId, before, beforeEq, state, fresh, (),
          (GrantSigner.verify_eq_ok _ _ _ _).mpr ⟨authorised, window⟩, _, next.documentDigest,
          entry, next, ?_⟩
        simp only [MatrixLedger.recorded, Document.intentIds, List.append_nil]
        rfl

theorem receiptComparisons_match (receipt : Receipt) (cell : Cell) (grant : Grant)
    (grantDigest : Digest) :
    mismatches (receiptComparisons receipt cell grant grantDigest) = [] ↔
      ReceiptDescends receipt cell grant grantDigest := by
  rw [mismatches_eq_nil]
  simp [receiptComparisons, ReceiptDescends]

/-- A receipt consumes its grant's key and is recorded under it. -/
theorem recordReceipt_eq_ok (receipt : Receipt) (ledger final : MatrixLedger)
    (registry later : ReplayRegistry) (digest : Digest) :
    recordReceipt receipt (ledger, registry) = (.ok digest, (final, later)) ↔
      ∃ cell entry, Recorded ledger (.receipt receipt) receipt.completedAt.val cell entry ∧
        (grantNamespace, receipt.grantId.val) ∉ registry ∧
        later = registry ++ [(grantNamespace, receipt.grantId.val)] ∧
        digest = entry.documentDigest ∧
        final = ledger.recorded (.receipt receipt) cell entry := by
  unfold recordReceipt
  simp only [Effect.read_bind, Effect.check_bind_eq_ok, Effect.within_bind_eq_ok,
    Effect.write_bind, requireMatrix_eq_ok, requireCell_eq_ok, requireState_eq_ok, raiseIf_eq_ok,
    exists_const, grantOf, expect_pair_eq_ok, not_not, ne_eq, receiptComparisons_match,
    Bool.not_eq_false]
  constructor
  · rintro ⟨matrixId, before, found, state, ⟨grant, grantDigest⟩, ⟨granted, grantDigested⟩,
      descends, ⟨⟩, valid, ⟨⟩, time, _, encoded, _, registry', consumed, rfl, _, documentDigested,
      ⟨⟩, _, appended, ⟨⟩⟩
    obtain ⟨entry, next, rfl⟩ := (append_eq_ok _ _ _ _ _ _ _).mp appended
    obtain ⟨unused, rfl⟩ := (consume_eq_ok _ _ _ _).mp consumed
    obtain rfl := Except.ok.inj (documentDigested.symm.trans next.documentDigest)
    have sameId : grant.claims.grantId = receipt.grantId := descends.2.2.symm
    simp only at granted grantDigested descends sameId valid next
    rw [sameId] at unused ⊢
    refine ⟨{ before with
        receipt := some receipt
        receiptDigest := some entry.documentDigest
        state := .receiptRecorded }, entry,
      recorded_of_parents matrixId next ?_, unused, rfl, rfl, ?_⟩
    · change CellStep _ (ledger.cells.get? receipt.cellId) _ _ _ _
      rw [found]
      exact .receipt before receipt _ grant grantDigest state granted grantDigested descends valid
    · simp only [MatrixLedger.recorded, Document.intentIds, Document.grantIds, List.append_nil]
      rfl
  · rintro ⟨cell, entry, ⟨matrixId, next, taken⟩, unused, rfl, rfl, rfl⟩
    generalize beforeEq : ledger.cells.get? _ = slot at taken
    have time := next.time
    obtain ⟨payload, encoded, _⟩ := (digestDocument_eq_ok _ _).mp next.documentDigest
    generalize entry.causalParents = parents at next taken
    cases taken with
    | receipt before _ _ grant grantDigest state granted grantDigested descends valid =>
        have sameId : grant.claims.grantId = receipt.grantId := descends.2.2.symm
        refine ⟨matrixId, before, beforeEq, state, (grant, grantDigest),
          ⟨granted, grantDigested⟩, descends, (), valid, (), time, payload,
          (canonicalBytesOf_eq_ok _ _).mpr encoded, true, _,
          (consume_eq_ok _ _ _ _).mpr ⟨by rw [sameId]; exact unused, rfl⟩, rfl, _,
          next.documentDigest, (), _, (append_eq_ok _ _ _ _ _ _ _).mpr ⟨entry, next, rfl⟩, ?_⟩
        rw [sameId]
        simp only [MatrixLedger.recorded, Document.intentIds, Document.grantIds, List.append_nil]
        rfl

private theorem putCell_putCell (cellId : Ident) (first second : Cell) (ledger : MatrixLedger) :
    putCell cellId second (putCell cellId first ledger) = putCell cellId second ledger := by
  simp only [putCell, Dict.set_set]

/-- What is left of `recordEvidence` once the entry is appended. -/
theorem fileEvidence_eq_ok (evidence : Evidence) (cell : Cell) (digest returned : Digest)
    (ledger final : MatrixLedger) (grown : Cell)
    (grownEq : grown = { cell with
      evidence := cell.evidence ++ [evidence]
      evidenceDigests := cell.evidenceDigests ++ [digest] }) :
    (do
      Effect.write (putCell evidence.cellId grown)
      let gate ← Effect.check (evidenceGate grown.evidence)
      if gate.status = .pass then
        Effect.write (putCell evidence.cellId { grown with state := .evidenceReady })
      return digest : Effect MatrixLedger PyError Digest) ledger = (.ok returned, final) ↔
      ∃ gate, evidenceGate (cell.evidence ++ [evidence]) = .ok gate ∧ returned = digest ∧
        final = putCell evidence.cellId (cell.withEvidence evidence digest gate) ledger := by
  rw [Effect.write_bind, Effect.check_bind_eq_ok]
  subst grownEq
  refine exists_congr fun gate => and_congr_right fun _ => ?_
  unfold Cell.withEvidence
  by_cases passes : gate.status = .pass
  · rw [if_pos passes]
    simp only [passes, if_true]
    constructor
    · rintro ⟨⟩
      exact ⟨rfl, putCell_putCell _ _ _ _⟩
    · rintro ⟨rfl, rfl⟩
      exact congrArg (Prod.mk _) (putCell_putCell _ _ _ _)
  · rw [if_neg passes]
    simp only [passes, if_false]
    constructor
    · rintro ⟨⟩
      exact ⟨rfl, rfl⟩
    · rintro ⟨rfl, rfl⟩
      rfl

theorem recordEvidence_eq_ok (evidence : Evidence) (ledger final : MatrixLedger)
    (digest : Digest) :
    recordEvidence evidence ledger = (.ok digest, final) ↔
      ∃ cell entry, Recorded ledger (.evidence evidence) evidence.observedAt.val cell entry ∧
        (∀ before, ledger.cells.get? evidence.cellId = some before →
          entry.documentDigest ∉ before.evidenceDigests) ∧
        digest = entry.documentDigest ∧
        final = ledger.recorded (.evidence evidence) cell entry := by
  unfold recordEvidence
  simp only [Effect.read_bind, Effect.check_bind_eq_ok, append_bind_eq_ok, requireMatrix_eq_ok,
    requireCell_eq_ok, expect_eq_ok, raiseIf_eq_ok, exists_const, not_and_or, not_not, ne_eq]
  constructor
  · rintro ⟨matrixId, before, found, state, receiptDigest, received, targets, unused, _, digested,
      absent, entry, next, filed⟩
    obtain rfl := Except.ok.inj (digested.symm.trans next.documentDigest)
    obtain ⟨gate, gated, rfl, rfl⟩ := (fileEvidence_eq_ok _ _ _ _ _ _ _ rfl).mp filed
    refine ⟨before.withEvidence evidence entry.documentDigest gate, entry,
      recorded_of_parents matrixId next ?_, ?_, rfl, ?_⟩
    · change CellStep _ (ledger.cells.get? evidence.cellId) _ _ _ _
      rw [found]
      exact .evidence before evidence _ receiptDigest gate state received targets unused gated
    · rintro other otherFound
      rw [found, Option.some.injEq] at otherFound
      rw [← otherFound]
      exact absent
    · simp only [MatrixLedger.recorded, Document.intentIds, Document.grantIds, List.append_nil]
      rfl
  · rintro ⟨cell, entry, ⟨matrixId, next, taken⟩, absent, rfl, rfl⟩
    generalize beforeEq : ledger.cells.get? _ = slot at taken
    generalize entry.causalParents = parents at next taken
    cases taken with
    | evidence before _ _ receiptDigest gate state received targets unused gated =>
        refine ⟨matrixId, before, beforeEq, state, receiptDigest, received, targets, unused, _,
          next.documentDigest, absent before beforeEq, entry, next,
          (fileEvidence_eq_ok _ _ _ _ _ _ _ rfl).mpr ⟨gate, gated, rfl, ?_⟩⟩
        simp only [MatrixLedger.recorded, Document.intentIds, Document.grantIds, List.append_nil]
        rfl

private theorem decisionComparisons_match (decision : Decision) (cell : Cell) (receipt : Receipt)
    (receiptDigest : Digest) :
    mismatches (decisionComparisons decision cell receipt receiptDigest) = [] ↔
      DecisionDescends decision cell receipt receiptDigest := by
  rw [mismatches_eq_nil]
  simp only [decisionComparisons, DecisionDescends, List.forall_mem_cons, decide_eq_true_eq]
  constructor
  · rintro ⟨intent, receiptEq, evidence, determinism, _⟩
    exact ⟨intent, receiptEq, evidence.symm, determinism⟩
  · rintro ⟨intent, receiptEq, evidence, determinism⟩
    exact ⟨intent, receiptEq, evidence.symm, determinism, by simp⟩

theorem receiptOf_eq_ok (cell : Cell) (message : String) (pair : Receipt × Digest) :
    receiptOf cell message = .ok pair ↔
      cell.receipt = some pair.1 ∧ cell.receiptDigest = some pair.2 :=
  expect_pair_eq_ok _ _ _ _

theorem recordDecision_eq_ok (decision : Decision) (ledger final : MatrixLedger)
    (digest : Digest) :
    recordDecision decision ledger = (.ok digest, final) ↔
      ∃ cell entry, Recorded ledger (.decision decision) decision.decidedAt.val cell entry ∧
        cell.intent.requiredDeterminism.rank ≤ decision.determinismLevel.rank ∧
        digest = entry.documentDigest ∧
        final = ledger.recorded (.decision decision) cell entry := by
  unfold recordDecision
  rw [Effect.read_bind, Effect.check_bind_eq_ok]
  constructor
  · rintro ⟨⟨⟩, matrixId, computed⟩
    rw [Effect.check_bind_eq_ok] at computed
    obtain ⟨before, found, computed⟩ := computed
    rw [Effect.check_bind_eq_ok] at computed
    obtain ⟨⟨⟩, state, computed⟩ := computed
    rw [Effect.check_bind_eq_ok] at computed
    obtain ⟨⟨receipt, receiptDigest⟩, stored, computed⟩ := computed
    obtain ⟨received, digested⟩ := (receiptOf_eq_ok _ _ _).mp stored
    rw [Effect.raiseIf_bind_eq_ok] at computed
    obtain ⟨succeeded, computed⟩ := computed
    rw [Effect.check_bind_eq_ok] at computed
    obtain ⟨gate, gated, computed⟩ := computed
    rw [Effect.raiseIf_bind_eq_ok, not_ne_iff] at computed
    obtain ⟨rfl, computed⟩ := computed
    rw [Effect.raiseIf_bind_eq_ok, not_ne_iff, decisionComparisons_match] at computed
    obtain ⟨descends, computed⟩ := computed
    rw [Effect.raiseIf_bind_eq_ok, not_lt] at computed
    obtain ⟨strong, computed⟩ := computed
    rw [Effect.check_bind_eq_ok] at computed
    obtain ⟨_, documentDigested, computed⟩ := computed
    obtain ⟨entry, next, ⟨⟩⟩ := (append_bind_eq_ok _ _ _ _ _ _ _ _).mp computed
    obtain rfl := Except.ok.inj (documentDigested.symm.trans next.documentDigest)
    rw [requireMatrix_eq_ok] at matrixId
    rw [requireCell_eq_ok] at found
    rw [requireState_eq_ok] at state
    refine ⟨{ before with
        decision := some decision
        decisionDigest := some entry.documentDigest
        state := .decided }, entry, recorded_of_parents matrixId next ?_, strong, rfl, ?_⟩
    · change CellStep _ (ledger.cells.get? decision.cellId) _ _ _ _
      rw [found]
      exact .decision before decision _ receipt receiptDigest state received digested
        (not_not.mp succeeded) gated descends
    · simp only [MatrixLedger.recorded, Document.intentIds, Document.grantIds, List.append_nil]
      rfl
  · rintro ⟨cell, entry, ⟨matrixId, next, taken⟩, strong, rfl, rfl⟩
    generalize beforeEq : ledger.cells.get? _ = slot at taken
    generalize entry.causalParents = parents at next taken
    cases taken with
    | decision before _ _ receipt receiptDigest state received digested succeeded gated descends =>
        refine ⟨(), (requireMatrix_eq_ok _ _ _).mpr matrixId, ?_⟩
        rw [Effect.check_bind_eq_ok]
        refine ⟨before, (requireCell_eq_ok _ _ _).mpr beforeEq, ?_⟩
        rw [Effect.check_bind_eq_ok]
        refine ⟨(), (requireState_eq_ok _ _ _).mpr state, ?_⟩
        rw [Effect.check_bind_eq_ok]
        refine ⟨(receipt, receiptDigest), (receiptOf_eq_ok _ _ _).mpr ⟨received, digested⟩, ?_⟩
        rw [Effect.raiseIf_bind_eq_ok]
        refine ⟨not_not_intro succeeded, ?_⟩
        rw [Effect.check_bind_eq_ok]
        refine ⟨decision.gate, gated, ?_⟩
        rw [Effect.raiseIf_bind_eq_ok]
        refine ⟨not_not_intro rfl, ?_⟩
        rw [Effect.raiseIf_bind_eq_ok, not_ne_iff, decisionComparisons_match]
        refine ⟨descends, ?_⟩
        rw [Effect.raiseIf_bind_eq_ok]
        refine ⟨not_lt.mpr strong, ?_⟩
        rw [Effect.check_bind_eq_ok]
        refine ⟨_, next.documentDigest, (append_bind_eq_ok _ _ _ _ _ _ _ _).mpr
          ⟨entry, next, ?_⟩⟩
        simp only [MatrixLedger.recorded, Document.intentIds, Document.grantIds, List.append_nil]
        rfl

end EgoAgent.Rxp
