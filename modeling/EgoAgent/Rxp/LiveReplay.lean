import EgoAgent.Rxp.Operations

/-!
An accepted ledger fed to a fresh recorder.

`feed` gives the entries of a ledger document to a recorder, one operation
each.  A document that the verifier and the signature pass accept is recorded
again without a failure, and differs from the original in one place only: the
event type of its evidence entries, which the verifier does not look at.
-/

namespace EgoAgent.Rxp

open Platform MatrixLedger

variable [Platform]

/-! ### Feeding entries -/

/-- The operation an entry stands for; its grant is checked by `signer` at the
time it was recorded. -/
def operationOf (signer : GrantSigner) (entry : LedgerEntry) : Document → Option Operation
  | .matrixPlan _ => none
  | .intent document => some (.intent document)
  | .grant document => some (.grant document signer entry.recordedAt.val)
  | .receipt document => some (.receipt document)
  | .evidence document => some (.evidence document)
  | .decision document => some (.decision document)

def feedEntry (signer : GrantSigner) (entry : LedgerEntry) :
    Effect (MatrixLedger × ReplayRegistry) PyError Unit := do
  let parsed ← Effect.check (Document.parse entry.documentKind entry.document.value)
  let operation ← Effect.check
    (expect (transitionInvalid "Invalid frozen MatrixPlan transition")
      (operationOf signer entry parsed))
  let _ ← operation.run
  return ()

def feed (signer : GrantSigner) :
    List LedgerEntry → Effect (MatrixLedger × ReplayRegistry) PyError Unit
  | [] => pure ()
  | entry :: rest => do
      feedEntry signer entry
      feed signer rest

/-- The plan of a ledger document: the document of its first entry. -/
def MatrixLedgerDocument.plan (document : MatrixLedgerDocument) : Option MatrixPlan :=
  document.entries.head?.bind fun entry =>
    match Document.parse entry.documentKind entry.document.value with
    | .ok (.matrixPlan plan) => some plan
    | _ => none

/-- The snapshot of a fresh ledger of the document's plan, fed with its other
entries and an empty replay registry. -/
def rerecord (signer : GrantSigner) (document : MatrixLedgerDocument) :
    Except PyError MatrixLedgerDocument := do
  let plan ← expect (rxpError "matrix_plan_missing" "Ledger has no frozen MatrixPlan") document.plan
  let ledger ← MatrixLedger.new plan
  match feed signer document.entries.tail (ledger, []) with
  | (.ok _, (ledger, _)) => ledger.snapshot
  | (.error error, _) => .error error

theorem feed_append (signer : GrantSigner) (entries : List LedgerEntry) (last : LedgerEntry)
    (world middle final : MatrixLedger × ReplayRegistry)
    (earlier : feed signer entries world = (.ok (), middle))
    (later : feedEntry signer last middle = (.ok (), final)) :
    feed signer (entries ++ [last]) world = (.ok (), final) := by
  induction entries generalizing world with
  | nil =>
      cases earlier
      exact (Effect.bind_eq_ok _ _ _ _ _).mpr ⟨(), final, later, rfl⟩
  | cons entry rest ih =>
      obtain ⟨⟨⟩, next, first, others⟩ := (Effect.bind_eq_ok _ _ _ _ _).mp earlier
      exact (Effect.bind_eq_ok _ _ _ _ _).mpr ⟨(), next, first, ih next others⟩

/-! ### The signature pass -/

/-- The intents the signature pass has seen after some entries. -/
def intentsAfter : Dict Ident Intent → List LedgerEntry → Dict Ident Intent
  | intents, [] => intents
  | intents, entry :: rest =>
      match entry.documentKind, Intent.codec.parse entry.document.value with
      | .intent, some intent => intentsAfter (intents.set entry.cellId intent) rest
      | _, _ => intentsAfter intents rest

theorem parse_grant {entry : LedgerEntry} {grant : Grant}
    (parses : Document.parse entry.documentKind entry.document.value = .ok (.grant grant)) :
    entry.documentKind = .grant ∧ Grant.codec.parse entry.document.value = some grant := by
  have kind : entry.documentKind = .grant := (Document.kind_of_parse parses).symm
  rw [kind] at parses
  simp only [Document.parse, expect_eq_ok, Option.map_eq_some_iff] at parses
  obtain ⟨_, loaded, ⟨⟩⟩ := parses
  exact ⟨kind, loaded⟩

theorem parse_intent {entry : LedgerEntry} {intent : Intent}
    (parses : Document.parse entry.documentKind entry.document.value = .ok (.intent intent)) :
    entry.documentKind = .intent ∧ Intent.codec.parse entry.document.value = some intent := by
  have kind : entry.documentKind = .intent := (Document.kind_of_parse parses).symm
  rw [kind] at parses
  simp only [Document.parse, expect_eq_ok, Option.map_eq_some_iff] at parses
  obtain ⟨_, loaded, ⟨⟩⟩ := parses
  exact ⟨kind, loaded⟩

/-- Every grant of a signed ledger is verified against the intent of its cell. -/
theorem verifySignatures_grant (signer : GrantSigner) (intents : Dict Ident Intent)
    (earlier : List LedgerEntry) (entry : LedgerEntry) (later : List LedgerEntry)
    (verified : verifySignatures signer intents (earlier ++ entry :: later) = .ok ())
    (grant : Grant)
    (parses : Document.parse entry.documentKind entry.document.value = .ok (.grant grant)) :
    ∃ intent, (intentsAfter intents earlier).get? entry.cellId = some intent ∧
      signer.verify grant intent grant.claims.issuedAt.val = .ok () := by
  induction earlier generalizing intents with
  | nil =>
      obtain ⟨kind, loaded⟩ := parse_grant parses
      simp only [List.nil_append, verifySignatures, kind, loaded, bind_eq_ok, expect_eq_ok] at verified
      obtain ⟨_, ⟨⟩, intent, found, ⟨⟩, signed, _⟩ := verified
      exact ⟨intent, found, signed⟩
  | cons first rest ih =>
      simp only [List.cons_append, verifySignatures] at verified
      unfold intentsAfter
      cases kind : first.documentKind with
      | intent =>
          simp only [kind, bind_eq_ok, expect_eq_ok] at verified
          obtain ⟨intent, loaded, verified⟩ := verified
          simp only [loaded]
          exact ih _ verified
      | grant =>
          simp only [kind, bind_eq_ok, expect_eq_ok] at verified
          obtain ⟨_, _, _, _, _, _, verified⟩ := verified
          exact ih _ verified
      | matrixPlan | receipt | evidence | decision =>
          simp only [kind] at verified
          exact ih _ verified

theorem intentsAfter_append (intents : Dict Ident Intent) (entries : List LedgerEntry)
    (last : LedgerEntry) :
    intentsAfter intents (entries ++ [last]) = intentsAfter (intentsAfter intents entries) [last] := by
  induction entries generalizing intents with
  | nil => rfl
  | cons entry rest ih =>
      simp only [List.cons_append, intentsAfter]
      split <;> exact ih _

/-- The signature pass knows the intent of every cell the verifier holds. -/
theorem Replayed.intents {matrixId : Ident} {history : History} {state : VerifierState}
    (replayed : Replayed matrixId history state) :
    ∀ cellId, (intentsAfter [] (history.map Prod.fst)).get? cellId =
      (state.cells.get? cellId).map fun cell => cell.intent := by
  induction replayed with
  | start => intro cellId; rfl
  | @step history state next entry parsed earlier accepted ih =>
      intro cellId
      rw [List.map_append, List.map_singleton, intentsAfter_append]
      have kind := Document.kind_of_parse accepted.parses
      have parses := accepted.parses
      by_cases isPlan : parsed.kind = .matrixPlan
      · cases parsed with
        | matrixPlan plan =>
            obtain ⟨_, _, _, _, _, _, same⟩ :=
              (applyDocument_plan matrixId state entry plan _).mp accepted.applied
            simp only [Prod.mk.injEq] at same
            rw [same.2, ← ih cellId]
            simp only [Document.kind] at kind
            simp only [intentsAfter, ← kind]
        | _ => cases isPlan
      · obtain ⟨plan, cell, _, _, taken, same⟩ :=
          (applyDocument_cell matrixId state entry parsed _ isPlan accepted.cellId).mp
            accepted.applied
        simp only [Prod.mk.injEq] at same
        rw [same.2, Dict.get?_set]
        by_cases isIntent : parsed.kind = .intent
        · cases parsed with
          | intent intent =>
              rw [← kind] at parses
              simp only [Document.parse, Document.kind, expect_eq_ok, Option.map_eq_some_iff]
                at parses
              obtain ⟨_, loaded, ⟨⟩⟩ := parses
              simp only [Document.kind] at kind
              simp only [intentsAfter, ← kind, loaded, Dict.get?_set, ih cellId]
              generalize state.cells.get? entry.cellId = before at taken
              generalize entry.causalParents = parents at taken
              cases taken with
              | intent => split <;> rfl
          | _ => cases isIntent
        · obtain ⟨before, found⟩ := taken.needs_cell isIntent
          rw [found] at taken
          have unseen : intentsAfter (intentsAfter [] (history.map Prod.fst)) [entry] =
              intentsAfter [] (history.map Prod.fst) := by
            simp only [intentsAfter]
            split
            · rename_i intentKind _
              exact absurd (kind.trans intentKind) isIntent
            · rfl
          rw [unseen, ih cellId]
          by_cases here : cellId = entry.cellId
          · rw [if_pos here, here, found, Option.map_some, Option.map_some, taken.keeps_intent]
          · rw [if_neg here]

/-! ### Spent grants -/

/-- Grants of different cells have different identifiers, and none that still
waits for its receipt is consumed. -/
structure GrantsSpent (cells : Cells) (registry : ReplayRegistry) (seen : List Ident) : Prop where
  known : ∀ cellId cell grant, cells.get? cellId = some cell → cell.grant = some grant →
    grant.claims.grantId ∈ seen
  apart : ∀ left right cell other grant another, cells.get? left = some cell →
    cells.get? right = some other → cell.grant = some grant → other.grant = some another →
    grant.claims.grantId = another.claims.grantId → left = right
  fresh : ∀ cellId cell grant, cells.get? cellId = some cell → cell.grant = some grant →
    cell.state = .granted → (grantNamespace, grant.claims.grantId.val) ∉ registry
  keys : ∀ grantId : Ident, (grantNamespace, grantId.val) ∈ registry → grantId ∈ seen

/-- A cell without a grant changes nothing. -/
private theorem GrantsSpent.opened {cells : Cells} {registry : ReplayRegistry} {seen : List Ident}
    (spent : GrantsSpent cells registry seen) (here : Ident) {after : Cell}
    (noGrant : after.grant = none) : GrantsSpent (cells.set here after) registry seen := by
  have elsewhere : ∀ cellId cell grant, (cells.set here after).get? cellId = some cell →
      cell.grant = some grant → cells.get? cellId = some cell := by
    intro cellId cell grant found granted
    rw [Dict.get?_set] at found
    split at found
    · rw [← Option.some.inj found, noGrant] at granted
      cases granted
    · exact found
  refine ⟨?_, ?_, ?_, spent.keys⟩
  · intro cellId cell grant found granted
    exact spent.known cellId cell grant (elsewhere _ _ _ found granted) granted
  · intro left right cell other grant another foundLeft foundRight granted alsoGranted
    exact spent.apart left right cell other grant another (elsewhere _ _ _ foundLeft granted)
      (elsewhere _ _ _ foundRight alsoGranted) granted alsoGranted
  · intro cellId cell grant found granted
    exact spent.fresh cellId cell grant (elsewhere _ _ _ found granted) granted

/-- A cell that gets a grant of a new identifier. -/
private theorem GrantsSpent.granted {cells : Cells} {registry : ReplayRegistry} {seen : List Ident}
    (spent : GrantsSpent cells registry seen) (here : Ident) {after : Cell} {grant : Grant}
    (granted : after.grant = some grant) (new : grant.claims.grantId ∉ seen) :
    GrantsSpent (cells.set here after) registry (seen ++ [grant.claims.grantId]) := by
  have split : ∀ cellId cell other, (cells.set here after).get? cellId = some cell →
      cell.grant = some other →
      (cellId = here ∧ other = grant) ∨ (cells.get? cellId = some cell ∧
        other.claims.grantId ≠ grant.claims.grantId) := by
    intro cellId cell other found otherGranted
    rw [Dict.get?_set] at found
    split at found
    · rename_i same
      rw [← Option.some.inj found, granted] at otherGranted
      exact .inl ⟨same, (Option.some.inj otherGranted).symm⟩
    · refine .inr ⟨found, fun same => new ?_⟩
      rw [← same]
      exact spent.known cellId cell other found otherGranted
  refine ⟨?_, ?_, ?_, fun grantId present => List.mem_append_left _ (spent.keys grantId present)⟩
  · intro cellId cell other found otherGranted
    rcases split cellId cell other found otherGranted with ⟨_, rfl⟩ | ⟨earlier, _⟩
    · exact List.mem_append_right _ List.mem_cons_self
    · exact List.mem_append_left _ (spent.known cellId cell other earlier otherGranted)
  · intro left right cell other first second foundLeft foundRight firstGranted secondGranted same
    rcases split left cell first foundLeft firstGranted with ⟨rfl, rfl⟩ | ⟨leftEarlier, leftNew⟩ <;>
      rcases split right other second foundRight secondGranted with
        ⟨rfl, rfl⟩ | ⟨rightEarlier, rightNew⟩
    · rfl
    · exact absurd same.symm rightNew
    · exact absurd same leftNew
    · exact spent.apart left right cell other first second leftEarlier rightEarlier firstGranted
        secondGranted same
  · intro cellId cell other found otherGranted state
    rcases split cellId cell other found otherGranted with ⟨_, rfl⟩ | ⟨earlier, _⟩
    · exact fun present => new (spent.keys _ present)
    · exact spent.fresh cellId cell other earlier otherGranted state

/-- A cell that keeps its grant and is past waiting for a receipt may consume it. -/
private theorem GrantsSpent.moved {cells : Cells} {registry : ReplayRegistry} {seen : List Ident}
    (spent : GrantsSpent cells registry seen) {here : Ident} {before after : Cell}
    (found : cells.get? here = some before) (sameGrant : after.grant = before.grant)
    (past : after.state ≠ .granted) (consumed : ReplayRegistry)
    (own : ∀ key ∈ consumed, ∃ grant, before.grant = some grant ∧
      key = (grantNamespace, grant.claims.grantId.val)) :
    GrantsSpent (cells.set here after) (registry ++ consumed) seen := by
  have back : ∀ cellId cell grant, (cells.set here after).get? cellId = some cell →
      cell.grant = some grant →
      ∃ earlier, cells.get? cellId = some earlier ∧ earlier.grant = some grant := by
    intro cellId cell grant present granted
    rw [Dict.get?_set] at present
    split at present
    · rename_i same
      rw [← Option.some.inj present, sameGrant] at granted
      exact ⟨before, same ▸ found, granted⟩
    · exact ⟨cell, present, granted⟩
  refine ⟨?_, ?_, ?_, ?_⟩
  · intro cellId cell grant present granted
    obtain ⟨earlier, was, had⟩ := back cellId cell grant present granted
    exact spent.known cellId earlier grant was had
  · intro left right cell other grant another foundLeft foundRight granted alsoGranted same
    obtain ⟨first, firstWas, firstHad⟩ := back left cell grant foundLeft granted
    obtain ⟨second, secondWas, secondHad⟩ := back right other another foundRight alsoGranted
    exact spent.apart left right first second grant another firstWas secondWas firstHad secondHad
      same
  · intro cellId cell grant present granted state used
    rw [Dict.get?_set] at present
    split at present
    · rw [← Option.some.inj present] at state
      exact past state
    · rename_i elsewhere
      rcases List.mem_append.mp used with old | new
      · exact spent.fresh cellId cell grant present granted state old
      · obtain ⟨mine, had, same⟩ := own _ new
        simp only [Prod.mk.injEq, true_and] at same
        exact elsewhere (spent.apart cellId here cell before grant mine present found granted had
          (Subtype.ext same))
  · intro grantId used
    rcases List.mem_append.mp used with old | new
    · exact spent.keys grantId old
    · obtain ⟨mine, had, same⟩ := own _ new
      simp only [Prod.mk.injEq, true_and] at same
      rw [Subtype.ext same]
      exact spent.known here before mine found had

theorem GrantsSpent.step {plan : MatrixPlan} {cells : Cells} {registry : ReplayRegistry}
    {seen : List Ident} {here : Ident} {document : Document} {digest : Digest}
    {parents : List Digest} {after : Cell} {consumed : ReplayRegistry}
    (spent : GrantsSpent cells registry seen)
    (taken : CellStep plan (cells.get? here) document digest parents after)
    (new : ∀ grantId ∈ document.grantIds, grantId ∉ seen)
    (own : ∀ key ∈ consumed, ∃ receipt, document = .receipt receipt ∧
      key = (grantNamespace, receipt.grantId.val)) :
    GrantsSpent (cells.set here after) (registry ++ consumed) (seen ++ document.grantIds) := by
  have none_consumed : document.kind ≠ .receipt → consumed = [] := by
    intro other
    refine List.eq_nil_iff_forall_not_mem.mpr fun key present => ?_
    obtain ⟨receipt, rfl, _⟩ := own key present
    exact other rfl
  generalize foundEq : cells.get? here = before at taken
  cases taken with
  | intent intent =>
      rw [none_consumed (by simp [Document.kind])]
      simp only [Document.grantIds, List.append_nil]
      exact spent.opened here rfl
  | grant before grant =>
      rw [none_consumed (by simp [Document.kind])]
      simp only [Document.grantIds, List.append_nil]
      exact spent.granted here rfl (new _ List.mem_cons_self)
  | receipt before receipt _ grant _ _ granted _ descends =>
      simp only [Document.grantIds, List.append_nil]
      refine spent.moved foundEq ?_ ?_ consumed fun key present => ?_
      · rfl
      · intro impossible; cases impossible
      · obtain ⟨_, ⟨⟩, rfl⟩ := own key present
        exact ⟨grant, granted, by rw [descends.2.2]⟩
  | evidence before evidence _ _ gate state =>
      rw [none_consumed (by simp [Document.kind])]
      simp only [Document.grantIds, List.append_nil seen]
      obtain ⟨_, _, grantEq, _, _, _, _, _, stateEq⟩ :=
        withEvidence_fields before evidence digest gate
      refine spent.moved foundEq grantEq ?_ [] fun _ impossible => ?_
      · rcases stateEq with ready | same
        · rw [ready]; simp
        · rw [same]; rcases state with h | h <;> rw [h] <;> simp
      · cases impossible
  | decision before =>
      rw [none_consumed (by simp [Document.kind])]
      simp only [Document.grantIds, List.append_nil seen]
      refine spent.moved foundEq ?_ ?_ [] fun _ impossible => ?_
      · rfl
      · intro impossible; cases impossible
      · cases impossible

end EgoAgent.Rxp
