import EgoAgent.Rxp.LiveReachable
import EgoAgent.Rxp.Mirror

/-!
Live ledgers are verifiable when their documents can be re-read.

`Mirrored` relates a recorder to the state of the verifier after its entries.
Every recorded document that survives normalisation keeps the relation, so the
snapshot verifies, if the plan was frozen at a real instant and no two
documents collide.
-/

namespace EgoAgent.Rxp

open Platform MatrixLedger

variable [Platform]

/-! ### Runs -/

/-- The ledgers reached from a plan by calls in any order, and the documents of
the calls that returned.  The registry may change between two calls. -/
inductive LiveRun (plan : MatrixPlan) : List Document → MatrixLedger → Prop where
  | opened (ledger : MatrixLedger) (created : MatrixLedger.new plan = .ok ledger) :
      LiveRun plan [] ledger
  | returned {documents : List Document} {ledger : MatrixLedger}
      (earlier : LiveRun plan documents ledger) (operation : Operation)
      (registry : ReplayRegistry) {digest : Digest} {final : MatrixLedger}
      {later : ReplayRegistry}
      (ran : operation.run (ledger, registry) = (.ok digest, (final, later))) :
      LiveRun plan (documents ++ [operation.document]) final
  | raised {documents : List Document} {ledger : MatrixLedger}
      (earlier : LiveRun plan documents ledger) (operation : Operation)
      (registry : ReplayRegistry) {error : PyError} {final : MatrixLedger}
      {later : ReplayRegistry}
      (ran : operation.run (ledger, registry) = (.error error, (final, later))) :
      LiveRun plan documents final

/-- The byte strings hashed for the documents of some entries. -/
def hashedDocuments (entries : List LedgerEntry) : Set Bytes :=
  {bytes | ∃ entry ∈ entries, ∃ payload,
    canonicalBytes unicode entry.document.value = some payload ∧
    bytes = documentDomain ++ payload}

/-! ### Embedded documents -/

/-- The embedded document is canonical, has the entry's digest and tells its kind. -/
structure Embedded (entry : LedgerEntry) : Prop where
  digest : digestDocument entry.document.value = .ok entry.documentDigest
  canonical : entry.document.value.IsCanon unicode
  kind : Dict.get? entry.document.members "kind" = some (.str entry.documentKind.text)

private theorem kind_embedded {document : Document} {canonical : Members Value}
    (encoded : document.value.canon unicode = some (.dict canonical)) :
    Dict.get? canonical "kind" = some (.str document.kind.text) := by
  have member : ∃ members, document.value = .dict members ∧
      ("kind", Value.str document.kind.text) ∈ members := by
    cases document <;> exact ⟨_, rfl, .tail _ (.head _)⟩
  obtain ⟨members, valueEq, present⟩ := member
  rw [valueEq] at encoded
  obtain ⟨normal, normalEq, found⟩ := Value.canon_get? encoded "kind" _ present
    (unicode.nfc_ascii (by decide))
  have plain : unicode.nfc document.kind.text = document.kind.text :=
    unicode.nfc_ascii (by cases document.kind <;> decide)
  simp only [Value.canon, plain, Option.some.injEq] at normalEq
  rw [found, ← normalEq]

section

variable {ledger : MatrixLedger}

theorem NextEntry.embedded {eventType : LedgerEventType}
    {document : Document} {parents : List Digest} {recordedAt : String} {entry : LedgerEntry}
    (next : NextEntry ledger eventType document parents recordedAt entry) : Embedded entry := by
  have canonical : entry.document.value.IsCanon unicode :=
    Value.canon_isCanon unicode _ _ next.document
  refine ⟨?_, canonical, ?_⟩
  · rw [← next.documentDigest]
    exact digestDocument_congr (canonical.trans next.document.symm)
  · rw [next.documentKind]
    exact kind_embedded next.document

/-- Without collisions, embedded documents with one digest are one document. -/
theorem Embedded.eq_of_digest {left right : LedgerEntry} {entries : List LedgerEntry}
    (collisionFree : Set.InjOn sha256 (hashedDocuments entries))
    (inLeft : left ∈ entries) (inRight : right ∈ entries) (leftEmbedded : Embedded left)
    (rightEmbedded : Embedded right) (same : left.documentDigest = right.documentDigest) :
    left.documentKind = right.documentKind ∧ left.document.value = right.document.value := by
  obtain ⟨leftPayload, leftEncoded, leftEq⟩ := (digestDocument_eq_ok _ _).mp leftEmbedded.digest
  obtain ⟨rightPayload, rightEncoded, rightEq⟩ :=
    (digestDocument_eq_ok _ _).mp rightEmbedded.digest
  rw [leftEq, rightEq] at same
  have payloads := List.append_cancel_left (collisionFree
    ⟨left, inLeft, leftPayload, leftEncoded, rfl⟩
    ⟨right, inRight, rightPayload, rightEncoded, rfl⟩ same)
  have canons := canon_eq_of_canonicalBytes_eq unicode _ _
    (leftEncoded.trans ((congrArg some payloads).trans rightEncoded.symm))
  rw [leftEmbedded.canonical, rightEmbedded.canonical, Option.some.injEq] at canons
  have members : left.document.members = right.document.members := Value.dict.inj canons
  refine ⟨?_, canons⟩
  have kinds := leftEmbedded.kind
  rw [members, rightEmbedded.kind, Option.some.injEq, Value.str.injEq] at kinds
  revert kinds
  cases left.documentKind <;> cases right.documentKind <;> decide

/-! ### The verifier beside the recorder -/

structure Mirrored (ledger : MatrixLedger) (history : History) (state : VerifierState) :
    Prop where
  replayed : Replayed ledger.matrixId history state
  entries : history.map Prod.fst = ledger.entries
  plan : ∃ mirror, state.matrixPlan = some mirror ∧
    MatrixPlan.codec.norm ledger.matrixPlan = some mirror
  planDigest : digestDocument (MatrixPlan.codec.dump ledger.matrixPlan) =
    .ok ledger.matrixPlanDigest
  cells : List.Forall₂ (fun (entry other : Ident × Cell) =>
    other.1 = entry.1 ∧ CellMirror entry.2 other.2) ledger.cells state.cells
  intentIds : state.seenIntentIds = ledger.intentIds
  grantIds : state.seenGrantIds = ledger.grantIds
  root : state.root = ledger.root
  count : state.expectedSequence = ledger.entries.length + 1
  time : ∃ last instant, ledger.entries.getLast? = some last ∧
    parseUtc last.recordedAt.val = .ok instant ∧ state.previousTimestamp = some instant
  embedded : ∀ entry ∈ ledger.entries, Embedded entry
  filed : CellsFiled ledger.matrixPlan ledger.cells
  sound : ledger.Sound

theorem Mirrored.slot {history : History} {state : VerifierState}
    (mirrored : Mirrored ledger history state) (cellId : Ident) :
    SlotMirror (ledger.cells.get? cellId) (state.cells.get? cellId) := by
  rcases Dict.get?_related mirrored.cells cellId with ⟨left, right⟩ | ⟨cell, mirror, left, right,
    mirrors⟩
  · rw [left, right]
    exact .none
  · rw [left, right]
    exact .some mirrors

/-- Re-reading keeps the identifiers a document is noted under. -/
theorem Document.ids_norm {source reread : Document} (computed : source.norm = some reread) :
    reread.intentIds = source.intentIds ∧ reread.grantIds = source.grantIds := by
  cases source <;>
    · simp only [Document.norm, Option.map_eq_some_iff] at computed
      obtain ⟨normal, normalEq, rfl⟩ := computed
      first
        | exact ⟨rfl, rfl⟩
        | exact ⟨by rw [intentIds, intentIds, (Intent.norm_some normalEq).intentId], rfl⟩
        | exact ⟨rfl, by rw [grantIds, grantIds, (Grant.norm_some normalEq).grantId]⟩

/-- The verifier accepts the time the recorder gave an operation's entry. -/
theorem recordedAt_verified {operation : Operation}
    {registry : ReplayRegistry} {cell : Cell} {entry : LedgerEntry} {reread : Document}
    (computed : operation.document.norm = some reread)
    (guard : operation.Guard ledger registry cell entry)
    (time : entry.recordedAt.val = operation.recordedAt) :
    verifyRecordedAt entry reread = .ok () := by
  have matches_of : ∀ {expected source : Utc}, expected = source →
      entry.recordedAt.val = source.val → recordedAtMatches entry expected = .ok () := by
    intro expected source same equal
    rw [recordedAtMatches, raiseIf_eq_ok, not_ne_iff, same]
    exact Subtype.ext equal
  cases operation with
  | intent document =>
      obtain ⟨normal, normalEq, rfl⟩ := Option.map_eq_some_iff.mp computed
      exact matches_of (Intent.norm_some normalEq).createdAt time
  | grant document verifier acceptedAt =>
      obtain ⟨normal, normalEq, rfl⟩ := Option.map_eq_some_iff.mp computed
      have fields := Grant.norm_some normalEq
      obtain ⟨_, _, checked, issued, expires, checkedEq, issuedEq, expiresEq, started, unexpired⟩ :=
        guard
      simp only [verifyRecordedAt, bind_eq_ok, raiseIf_eq_ok, not_or, not_lt, ge_iff_le, not_le]
      rw [fields.issuedAt, fields.expiresAt, time]
      exact ⟨checked, checkedEq, issued, issuedEq, expires, expiresEq, started, unexpired⟩
  | receipt document =>
      obtain ⟨normal, normalEq, rfl⟩ := Option.map_eq_some_iff.mp computed
      exact matches_of (Receipt.norm_some normalEq).completedAt time
  | evidence document =>
      obtain ⟨normal, normalEq, rfl⟩ := Option.map_eq_some_iff.mp computed
      exact matches_of (Evidence.norm_some normalEq).observedAt time
  | decision document =>
      obtain ⟨normal, normalEq, rfl⟩ := Option.map_eq_some_iff.mp computed
      exact matches_of (Decision.norm_some normalEq).decidedAt time

section Step

variable {ledger : MatrixLedger} {history : History} {state : VerifierState}
  {registry : ReplayRegistry} {operation : Operation} {cell : Cell} {entry : LedgerEntry}

/-- A recorded document is not one the verifier has seen: it would have been
recorded in the same cell already. -/
private theorem document_fresh {reread : Document} {mirrorPlan : MatrixPlan} {after : Cell}
    (mirrored : Mirrored ledger history state)
    (frozen : state.matrixPlan = some mirrorPlan)
    (collisionFree : Set.InjOn sha256 (hashedDocuments (ledger.entries ++ [entry])))
    (embedded : Embedded entry)
    (parses : Document.parse entry.documentKind entry.document.value = .ok reread)
    (named : reread.cellId = entry.cellId) (later : reread.kind ≠ .matrixPlan)
    (taken : CellStep mirrorPlan (state.cells.get? entry.cellId) reread entry.documentDigest
      entry.causalParents after) :
    entry.documentDigest ∉ state.seenDigests := by
  rw [mirrored.replayed.seen]
  intro seen
  obtain ⟨item, inHistory, sameDigest⟩ := List.mem_map.mp seen
  have inLedger : item.1 ∈ ledger.entries := by
    rw [← mirrored.entries]
    exact List.mem_map_of_mem inHistory
  obtain ⟨sameKind, sameValue⟩ := Embedded.eq_of_digest collisionFree
    (List.mem_append_left _ inLedger) (List.mem_append_right _ List.mem_cons_self)
    (mirrored.embedded item.1 inLedger) embedded sameDigest
  obtain ⟨itemParses, _, itemNamed⟩ := mirrored.replayed.entries_parsed item inHistory
  rw [sameKind, sameValue, parses] at itemParses
  obtain rfl := Except.ok.inj itemParses
  have recorded : (item.2, item.1.documentDigest) ∈ history.ofCell entry.cellId :=
    List.mem_map_of_mem (f := fun item : LedgerEntry × Document =>
      (item.2, item.1.documentDigest))
      (List.mem_filter.mpr ⟨inHistory, by simp [later, ← named, itemNamed]⟩)
  have run := mirrored.replayed.cellRun mirrorPlan frozen entry.cellId
  rcases run.sound with ⟨_, empty⟩ | ⟨before, found, sound⟩
  · rw [empty] at recorded
    cases recorded
  · rw [found] at taken
    exact sound.not_repeated taken recorded

/-- The causal parents of a step were seen by the verifier. -/
private theorem parents_seen {reread : Document} {mirrorPlan : MatrixPlan} {after : Cell}
    (mirrored : Mirrored ledger history state)
    (frozen : state.matrixPlan = some mirrorPlan)
    (taken : CellStep mirrorPlan (state.cells.get? entry.cellId) reread entry.documentDigest
      entry.causalParents after) :
    ∀ parent ∈ entry.causalParents, parent ∈ state.seenDigests := by
  intro parent present
  have run := mirrored.replayed.cellRun mirrorPlan frozen entry.cellId
  rcases run.sound with ⟨absent, _⟩ | ⟨before, found, sound⟩
  · rw [absent] at taken
    generalize entry.causalParents = parents at taken present
    cases taken with
    | intent => cases present
  · rw [found] at taken
    obtain ⟨source, recorded⟩ := sound.parents_recorded taken parent present
    obtain ⟨item, inHistory, same⟩ := List.mem_map.mp recorded
    rw [mirrored.replayed.seen, ← (Prod.mk.inj same).2]
    exact List.mem_map_of_mem (f := fun item : LedgerEntry × Document => item.1.documentDigest)
      (List.mem_of_mem_filter inHistory)

/-- The step lemma: the verifier accepts what the recorder recorded. -/
theorem Mirrored.step (mirrored : Mirrored ledger history state)
    (taken : Recorded ledger operation.document operation.recordedAt cell entry)
    (guard : operation.Guard ledger registry cell entry)
    (reads : operation.document.ReadsBack)
    (collisionFree : Set.InjOn sha256 (hashedDocuments (ledger.entries ++ [entry]))) :
    ∃ reread next, Mirrored (ledger.recorded operation.document cell entry)
      (history ++ [(entry, reread)]) next := by
  obtain ⟨mirrorPlan, frozen, planNorm⟩ := mirrored.plan
  have slot := mirrored.slot operation.document.cellId
  have step := taken.taken
  obtain ⟨reread, normal⟩ := Document.norm_of_step step reads taken.next.documentDigest (by
    intro before found
    obtain ⟨mirror, _, mirrors⟩ := slot.of_some found
    exact ⟨mirror, mirrors⟩)
  obtain ⟨after, stepMirror, mirrors⟩ := step.mirror (MatrixPlan.norm_some planNorm) slot normal
    reads
  have fields := Document.norm_some normal
  obtain ⟨intentIdsEq, grantIdsEq⟩ := Document.ids_norm normal
  have named : operation.document.cellId = entry.cellId := taken.next.cellId.symm
  rw [named] at stepMirror
  obtain ⟨last, previous, lastEq, previousEq, stateTime⟩ := mirrored.time
  obtain ⟨instant, instantEq, ordered⟩ :=
    (assertAppendTime_eq_ok lastEq previousEq _ _).mp taken.next.time
  rw [← taken.next.recordedAt] at instantEq
  have embedded := taken.next.embedded
  have parses : Document.parse entry.documentKind entry.document.value = .ok reread := by
    rw [taken.next.documentKind]
    exact Document.parse_canon normal taken.next.document
  have later : reread.kind ≠ .matrixPlan := by
    rw [fields.kind]
    cases operation <;> intro impossible <;> cases impossible
  let next : VerifierState := {
    expectedSequence := state.expectedSequence + 1
    root := entry.root
    cells := state.cells.set entry.cellId after
    matrixPlan := some mirrorPlan
    seenDigests := state.seenDigests ++ [entry.documentDigest]
    seenIntentIds := state.seenIntentIds ++ reread.intentIds
    seenGrantIds := state.seenGrantIds ++ reread.grantIds
    previousTimestamp := some instant }
  have accepted : EntryAccepted ledger.matrixId state entry reread next := {
    sequence := by rw [taken.next.sequence, mirrored.count]; rfl
    entryMatrix := taken.next.matrixId
    previousRoot := by rw [taken.next.previousRoot, mirrored.root]
    parses
    cellId := fields.cellId.trans named
    documentMatrix := by rw [fields.matrixId, taken.matrixId, taken.next.matrixId]
    timestamp := ⟨instant, instantEq, by
      intro earlier present
      rw [stateTime] at present
      cases present
      exact ordered, rfl⟩
    digest := by rw [digestDocument_congr fields.canon]; exact taken.next.documentDigest
    fresh := document_fresh mirrored frozen collisionFree embedded parses
      (fields.cellId.trans named) later stepMirror
    noted := by
      rw [noteIdentifiers_eq_ok]
      refine ⟨?_, ?_, rfl⟩
      · rw [intentIdsEq, mirrored.intentIds]
        cases operation with
        | intent document =>
            intro intentId listed
            rw [List.mem_singleton.mp listed]
            exact guard
        | _ => intro _ impossible; cases impossible
      · rw [grantIdsEq, mirrored.grantIds]
        cases operation with
        | grant document =>
            intro grantId listed
            rw [List.mem_singleton.mp listed]
            exact guard.1
        | _ => intro _ impossible; cases impossible
    entryDigest := taken.next.entryDigest
    root := by rw [taken.next.root, mirrored.root]
    parents := parents_seen mirrored frozen stepMirror
    applied := (applyDocument_cell _ state entry reread _ later (fields.cellId.trans named)).mpr
      ⟨mirrorPlan, after, frozen, by
        have event := taken.next.eventType
        rw [Document.eventType, ← fields.kind] at event
        cases reread with
        | evidence => trivial
        | _ => exact event, stepMirror, rfl⟩
    recordedAt := recordedAt_verified normal guard taken.next.recordedAt
    nextSequence := rfl
    nextRoot := rfl
    nextSeen := rfl }
  refine ⟨reread, next, {
    replayed := .step mirrored.replayed accepted
    entries := by rw [List.map_append, mirrored.entries]; rfl
    plan := ⟨mirrorPlan, rfl, planNorm⟩
    planDigest := mirrored.planDigest
    cells := by
      change List.Forall₂ _ (ledger.cells.set operation.document.cellId cell)
        (state.cells.set entry.cellId after)
      rw [named]
      exact Dict.set_related mirrored.cells _ mirrors
    intentIds := by
      change state.seenIntentIds ++ reread.intentIds = ledger.intentIds ++ _
      rw [mirrored.intentIds, intentIdsEq]
    grantIds := by
      change state.seenGrantIds ++ reread.grantIds = ledger.grantIds ++ _
      rw [mirrored.grantIds, grantIdsEq]
    root := rfl
    count := by
      change state.expectedSequence + 1 = (ledger.entries ++ [entry]).length + 1
      rw [mirrored.count, List.length_append, List.length_singleton]
    time := ⟨entry, instant, by simp [MatrixLedger.recorded], instantEq, rfl⟩
    embedded := by
      intro other present
      rcases List.mem_append.mp present with earlier | here
      · exact mirrored.embedded other earlier
      · rw [List.mem_singleton.mp here]
        exact embedded
    filed := mirrored.filed.step step
    sound := mirrored.sound.recorded taken guard }⟩

end Step

/-! ### Whole runs -/

variable {plan : MatrixPlan}

theorem Mirrored.start (created : MatrixLedger.new plan = .ok ledger) (name : ReadsBack plan.name)
    (frozenAt : ∃ instant, parseUtc plan.frozenAt.val = .ok instant) :
    ledger.matrixPlan = plan ∧ ∃ history state, Mirrored ledger history state := by
  obtain ⟨planDigest, entry, digested, produces, rfl⟩ := (MatrixLedger.new_eq_ok plan ledger).mp
    created
  obtain ⟨instant, instantEq⟩ := frozenAt
  obtain ⟨reread, planNorm⟩ := plan.norm_returns name
  have normal : (Document.matrixPlan plan).norm = some (.matrixPlan reread) := by
    rw [Document.norm, planNorm]
    rfl
  have fields := Document.norm_some normal
  have plans := MatrixPlan.norm_some planNorm
  have recordedAt : entry.recordedAt = plan.frozenAt := Subtype.ext produces.recordedAt
  let next : VerifierState := {
    expectedSequence := 2
    root := entry.root
    cells := []
    matrixPlan := some reread
    seenDigests := [entry.documentDigest]
    seenIntentIds := []
    seenGrantIds := []
    previousTimestamp := some instant }
  have parses : Document.parse entry.documentKind entry.document.value =
      .ok (.matrixPlan reread) := by
    rw [produces.documentKind]
    exact Document.parse_canon normal produces.document
  have accepted : EntryAccepted plan.matrixId .initial entry (.matrixPlan reread) next := {
    sequence := produces.sequence
    entryMatrix := produces.matrixId
    previousRoot := produces.previousRoot
    parses
    cellId := produces.cellId.symm
    documentMatrix := by
      rw [produces.matrixId]
      exact plans.matrixId
    timestamp := ⟨instant, by rw [recordedAt]; exact instantEq,
      fun _ impossible => (by cases impossible), rfl⟩
    digest := by rw [digestDocument_congr fields.canon]; exact produces.documentDigest
    fresh := List.not_mem_nil
    noted := rfl
    entryDigest := produces.entryDigest
    root := produces.root
    parents := by
      rw [produces.causalParents]
      exact fun _ impossible => (by cases impossible)
    applied := (applyDocument_plan _ _ entry reread _).mpr
      ⟨rfl, rfl, produces.eventType, produces.cellId, produces.causalParents, plans.matrixId, rfl⟩
    recordedAt := by
      change recordedAtMatches entry reread.frozenAt = .ok ()
      rw [recordedAtMatches, raiseIf_eq_ok, not_ne_iff, plans.frozenAt]
      exact recordedAt
    nextSequence := rfl
    nextRoot := rfl
    nextSeen := rfl }
  refine ⟨rfl, [(entry, .matrixPlan reread)], next, {
    replayed := .step .start accepted
    entries := rfl
    plan := ⟨reread, rfl, planNorm⟩
    planDigest := digested
    cells := .nil
    intentIds := rfl
    grantIds := rfl
    root := rfl
    count := rfl
    time := ⟨entry, instant, rfl, by rw [recordedAt]; exact instantEq, rfl⟩
    embedded := by
      intro other present
      rw [List.mem_singleton.mp present]
      exact produces.embedded
    filed := ⟨List.nodup_nil, fun _ _ impossible => (by cases impossible),
      fun _ _ impossible => (by cases impossible)⟩
    sound := fun _ _ impossible => (by cases impossible) }⟩

theorem hashedDocuments_mono {some more : List LedgerEntry} (subset : some ⊆ more) :
    hashedDocuments some ⊆ hashedDocuments more :=
  fun _ ⟨entry, present, rest⟩ => ⟨entry, subset present, rest⟩

/-- Every run keeps the recorder's own invariant. -/
theorem LiveRun.sound {documents : List Document}
    (run : LiveRun plan documents ledger) : ledger.Sound := by
  induction run with
  | opened ledger created =>
      obtain ⟨_, _, _, _, rfl⟩ := (MatrixLedger.new_eq_ok plan ledger).mp created
      exact fun _ _ impossible => by cases impossible
  | returned earlier operation registry ran ih =>
      obtain ⟨cell, entry, taken, guard, _, rfl, _⟩ :=
        (operation.run_eq_ok _ _ registry _ _ ih.intentsDigested).mp ran
      exact ih.recorded taken guard
  | raised earlier operation registry ran ih =>
      rw [(operation.run_keeps _ _ registry _ _ ih ran).1]
      exact ih

/-- The run lemma: a run whose documents survive normalisation stays mirrored. -/
theorem LiveRun.mirrored {documents : List Document}
    (run : LiveRun plan documents ledger) (name : ReadsBack plan.name)
    (frozenAt : ∃ instant, parseUtc plan.frozenAt.val = .ok instant)
    (reads : ∀ document ∈ documents, document.ReadsBack)
    (collisionFree : Set.InjOn sha256 (hashedDocuments ledger.entries)) :
    ∃ history state, Mirrored ledger history state := by
  induction run with
  | opened ledger created => exact (Mirrored.start created name frozenAt).2
  | returned earlier operation registry ran ih =>
      obtain ⟨cell, entry, taken, guard, _, rfl, _⟩ :=
        (operation.run_eq_ok _ _ registry _ _ earlier.sound.intentsDigested).mp ran
      obtain ⟨history, state, mirrored⟩ := ih
        (fun document listed => reads document (List.mem_append_left _ listed))
        (collisionFree.mono (hashedDocuments_mono (List.subset_append_left _ _)))
      obtain ⟨reread, next, after⟩ := mirrored.step taken guard
        (reads _ (List.mem_append_right _ List.mem_cons_self)) collisionFree
      exact ⟨_, next, after⟩
  | raised earlier operation registry ran ih =>
      obtain ⟨rfl, _⟩ := operation.run_keeps _ _ registry _ _ earlier.sound ran
      exact ih reads collisionFree

/-! ### The snapshot of a mirrored ledger -/

private theorem sorted_mirror {cells mirrors : Cells}
    (related : List.Forall₂ (fun (entry other : Ident × Cell) =>
      other.1 = entry.1 ∧ CellMirror entry.2 other.2) cells mirrors) :
    Cells.sorted mirrors = Cells.sorted cells ∧ Cells.decided mirrors = Cells.decided cells := by
  constructor
  · have views : mirrors.map (fun entry => (entry.1, entry.2.snapshot)) =
        cells.map fun entry => (entry.1, entry.2.snapshot) :=
      Related.map_eq related _ _ fun _ _ pair => by rw [pair.1, pair.2.snapshot]
    have through : ∀ some : Cells, Cells.sorted some =
        ((some.map fun entry => (entry.1, entry.2.snapshot)).insertionSort
          fun left right => left.1.val ≤ right.1.val).map Prod.snd := by
      intro some
      have commuted := List.map_insertionSort
        (r := fun left right : Ident × Cell => left.1.val ≤ right.1.val)
        (s := fun left right : Ident × CellSnapshot => left.1.val ≤ right.1.val)
        (fun entry => (entry.1, entry.2.snapshot)) some fun _ _ _ _ => Iff.rfl
      rw [← commuted, List.map_map]
      rfl
    rw [through, through, views]
  · unfold Cells.decided
    have kept := Related.filter related (fun entry => decide (entry.2.state = .decided))
      (fun entry => decide (entry.2.state = .decided)) fun _ _ pair => by rw [pair.2.state]
    exact Related.map_eq kept _ _ fun _ _ pair => pair.1

theorem Mirrored.verifies {history : History} {state : VerifierState}
    (mirrored : Mirrored ledger history state) :
    ∃ document, ledger.snapshot = .ok document ∧ verifyLedgerDocument document = .ok () := by
  obtain ⟨document, taken, snapshot⟩ := snapshot_returns ledger mirrored.filed
  obtain ⟨mirror, frozen, planNorm⟩ := mirrored.plan
  have plans := MatrixPlan.norm_some planNorm
  have cellIds : mirror.cellIds = ledger.matrixPlan.cellIds :=
    Related.map_eq plans.cells _ _ fun _ _ related => by rw [related.1]
  obtain ⟨sortedEq, decidedEq⟩ := sorted_mirror mirrored.cells
  refine ⟨document, taken, (verifyLedgerDocument_eq_ok document).mpr ⟨history, mirror, state, {
    entries := by rw [mirrored.entries, snapshot.entries]
    replayed := by rw [snapshot.matrixId]; exact mirrored.replayed
    frozen
    planDigest := by
      rw [snapshot.planDigest, digestDocument_congr (MatrixPlan.codec.dump_norm _ _ planNorm)]
      exact mirrored.planDigest
    root := by rw [mirrored.root, snapshot.root]
    cells := by rw [sortedEq, snapshot.cells]
    expectedCount := by rw [snapshot.expectedCount, plans.cells.length_eq]
    decidedCount := by rw [snapshot.decidedCount, decidedEq]
    missing := by rw [snapshot.missing, missingDecisions, missingDecisions, cellIds, decidedEq] }⟩⟩

end

end EgoAgent.Rxp
