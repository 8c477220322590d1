import EgoAgent.TrustedMemory.Projection

/-!
Which runs keep the lifecycle of the projected states.

Only a lifecycle record is matched with the current state.  Conflicts,
supersessions and revocations are matched with the revision alone, and the
trusted fact after a supersession with its number alone.
-/

namespace EgoAgent.TrustedMemory

open EgoAgent.Api

/-! ### Histories step by step -/

/-- A relation of every row with the rows before it. -/
def EachStep (step : List HistoryRow → HistoryRow → Prop) (rows : List HistoryRow) : Prop :=
  ∀ before row after, rows = before ++ row :: after → step before row

theorem eachStep_nil (step : List HistoryRow → HistoryRow → Prop) : EachStep step [] := by
  intro before row after split
  have length := congrArg List.length split
  rw [List.length_append, List.length_cons, List.length_nil] at length
  omega

section

variable {row : HistoryRow} {rows : List HistoryRow}

theorem eachStep_append {step : List HistoryRow → HistoryRow → Prop}
    (earlier : EachStep step rows) (last : step rows row) :
    EachStep step (rows ++ [row]) := by
  intro before entry after split
  rcases List.eq_nil_or_concat after with rfl | ⟨middle, final, rfl⟩
  · have ⟨same, single⟩ := List.append_inj' split rfl
    rw [← same, ← List.head_eq_of_cons_eq single]
    exact last
  · rw [List.concat_eq_append, ← List.cons_append, ← List.append_assoc] at split
    exact earlier before entry middle (List.append_inj' split rfl).1

theorem eachStep_iff {left right : List HistoryRow → HistoryRow → Prop}
    (same : EachStep (fun before row => left before row ↔ right before row) rows) :
    EachStep left rows ↔ EachStep right rows := by
  constructor
  · intro holds before row after split
    exact (same before row after split).mp (holds before row after split)
  · intro holds before row after split
    exact (same before row after split).mpr (holds before row after split)

/-! ### Supersessions that wait for their fact -/

def pendingStep (named : List SupersessionRecord) (row : HistoryRow) : List SupersessionRecord :=
  match row.record.body with
  | .trustedFact _ => []
  | .supersession record => named ++ [record]
  | _ => named

/-- The supersessions since the last trusted fact. -/
def pending (rows : List HistoryRow) : List SupersessionRecord := rows.foldl pendingStep []

theorem pending_append (rows : List HistoryRow) (row : HistoryRow) :
    pending (rows ++ [row]) = pendingStep (pending rows) row := by
  simp [pending]

/-! ### The claim and its condition -/

/-- A change of the projected state is an allowed one from VALIDATED, and a trusted
fact is the one every waiting supersession named. -/
structure FollowsLifecycle (before : List HistoryRow) (row : HistoryRow) : Prop where
  allowed : ∀ shown state, fold before = some shown → row.record.body.trusted = none →
    row.record.body.projectedState = some state → state ≠ shown.state →
    shown.state = .validated ∧ shown.state.Allowed state
  named : ∀ fact, row.record.body = .trustedFact fact → ∀ record ∈ pending before,
    fact.revisionId = record.supersedingRevisionId ∧ fact.revision = record.supersedingRevision

/-- What the guards leave to the caller. -/
def InOrder (before : List HistoryRow) (row : HistoryRow) : Prop :=
  match row.record.body with
  | .conflict _ => ∀ shown, fold before = some shown →
      shown.state = .validated ∨ shown.state = .conflicted
  | .supersession _ => ∀ shown, fold before = some shown →
      shown.state = .validated ∨ shown.state = .superseded
  | .revocation _ => ∀ shown, fold before = some shown →
      shown.state = .validated ∨ shown.state = .revoked
  | .trustedFact fact => ∀ record ∈ pending before, fact.revisionId = record.supersedingRevisionId
  | _ => True

/-- What the guards ensure of every row. -/
structure Guarded (before : List HistoryRow) (row : HistoryRow) : Prop where
  lifecycle : ∀ transition shown, row.record.body = .lifecycle transition →
    fold before = some shown → transition.fromState = shown.state
  trusted : ∀ fact, row.record.body = .trustedFact fact →
    fact.revision = (facts before).length + 1
  waiting : ∀ record ∈ pending before, record.supersedingRevision = (facts before).length + 1
  shown : ∀ shown, fold before = some shown → shown.state ≠ .candidate

theorem MemoryState.Allowed.from_validated {fromState toState : MemoryState}
    (allowed : fromState.Allowed toState) (notCandidate : fromState ≠ .candidate) :
    fromState = .validated := by
  cases fromState with
  | candidate => exact absurd rfl notCandidate
  | validated => rfl
  | _ => cases toState <;> cases allowed

/-- A record that sets one state follows the lifecycle from VALIDATED only. -/
theorem followsLifecycle_iff_of_sets {before : List HistoryRow}
    {state : MemoryState} (notTrusted : row.record.body.trusted = none)
    (projected : row.record.body.projectedState = some state)
    (allowed : MemoryState.validated.Allowed state) :
    FollowsLifecycle before row ↔
      ∀ shown, fold before = some shown → shown.state = .validated ∨ shown.state = state := by
  constructor
  · intro follows shown found
    by_cases same : shown.state = state
    · exact .inr same
    · exact .inl (follows.allowed shown state found notTrusted projected (Ne.symm same)).1
  · intro ordered
    constructor
    · intro shown next found _ nextProjected changed
      rw [projected] at nextProjected
      rw [← Option.some.inj nextProjected] at changed ⊢
      rcases ordered shown found with validated | same
      · rw [validated]
        exact ⟨rfl, allowed⟩
      · exact absurd same.symm changed
    · intro fact body
      rw [body] at notTrusted
      cases notTrusted

theorem followsLifecycle_iff {before : List HistoryRow}
    (guarded : Guarded before row) : FollowsLifecycle before row ↔ InOrder before row := by
  unfold InOrder
  cases body : row.record.body with
  | candidate fact =>
      refine ⟨fun _ => trivial, fun _ => ⟨?_, ?_⟩⟩
      · intro shown state _ _ projected
        rw [body] at projected
        cases projected
      · intro other impossible
        rw [body] at impossible
        cases impossible
  | trustedFact fact =>
      constructor
      · intro follows record waiting
        exact (follows.named fact body record waiting).1
      · intro ordered
        constructor
        · intro shown state _ notTrusted
          rw [body] at notTrusted
          cases notTrusted
        · intro other same record waiting
          rw [body] at same
          rw [← RecordBody.trustedFact.inj same]
          refine ⟨ordered record waiting, ?_⟩
          rw [guarded.trusted fact body, guarded.waiting record waiting]
  | lifecycle transition =>
      refine ⟨fun _ => trivial, fun _ => ⟨?_, ?_⟩⟩
      · intro shown state found _ projected _
        rw [body] at projected
        have allowed := transition.allowed
        rw [guarded.lifecycle transition shown body found, Option.some.inj projected] at allowed
        exact ⟨allowed.from_validated (guarded.shown shown found), allowed⟩
      · intro other impossible
        rw [body] at impossible
        cases impossible
  | conflict record =>
      exact followsLifecycle_iff_of_sets (by rw [body]; rfl) (by rw [body]; rfl) trivial
  | supersession record =>
      exact followsLifecycle_iff_of_sets (by rw [body]; rfl) (by rw [body]; rfl) trivial
  | revocation record =>
      exact followsLifecycle_iff_of_sets (by rw [body]; rfl) (by rw [body]; rfl) trivial

/-! ### Runs -/

/-- Every row passed the guards, and what waits after the last one is numbered too. -/
structure GuardedRows (rows : List HistoryRow) : Prop where
  each : EachStep Guarded rows
  waiting : ∀ record ∈ pending rows, record.supersedingRevision = (facts rows).length + 1

theorem Append.guards_lifecycle {call : Append} {shown : CurrentRow}
    {transition : LifecycleTransition} (guarded : call.guards (some shown) = .ok ())
    (body : call.record.body = .lifecycle transition) : transition.fromState = shown.state := by
  unfold guards at guarded
  rw [body] at guarded
  obtain ⟨_, matched⟩ := (raiseIf_bind_eq_ok _ _ _ _).mp guarded
  have holds := (raiseIf_eq_ok _ _ _).mp matched
  simp only [RecordBody.matches, Bool.not_eq_false, decide_eq_true_eq] at holds
  exact holds.2.2

theorem Append.guards_supersession {call : Append} {shown : CurrentRow}
    {record : SupersessionRecord} (guarded : call.guards (some shown) = .ok ())
    (body : call.record.body = .supersession record) :
    record.supersededRevision = shown.revision := by
  unfold guards at guarded
  rw [body] at guarded
  obtain ⟨_, matched⟩ := (raiseIf_bind_eq_ok _ _ _ _).mp guarded
  have holds := (raiseIf_eq_ok _ _ _).mp matched
  simp only [RecordBody.matches, Bool.not_eq_false, decide_eq_true_eq] at holds
  exact holds.2

/-- The numbers of trusted facts and of the supersessions after them. -/
theorem GuardedRows.append {key : Key} {stream : Option (Nat × String)}
    {current : Option CurrentRow} {call : Append}
    (sound : Sound key rows stream current) (guardedRows : GuardedRows rows)
    (guarded : call.guards current = .ok ()) (record : row.record = call.record) :
    GuardedRows (rows ++ [row]) := by
  have folded := sound.folded
  have counted : ∀ fact, row.record.body = .trustedFact fact →
      fact.revision = (facts rows).length + 1 := by
    intro fact body
    rw [record] at body
    have next := Append.guards_trusted guarded body
    rcases current with _ | shown
    · rw [sound.absent.mp rfl]
      exact next
    · rw [← sound.revision]
      exact next
  constructor
  · apply eachStep_append guardedRows.each
    constructor
    · intro transition shown body found
      rw [← folded] at found
      rw [found] at guarded
      rw [record] at body
      exact Append.guards_lifecycle guarded body
    · exact counted
    · exact guardedRows.waiting
    · intro shown found
      rw [← folded] at found
      obtain ⟨_, _, _, _, _, shows⟩ := sound.present shown found
      exact shows.state
  · rw [pending_append, facts_append, facts_singleton]
    unfold pendingStep
    cases body : row.record.body with
    | trustedFact fact =>
        intro waiting member
        cases member
    | supersession superseding =>
        simp only [RecordBody.trusted, Option.toList_none, List.append_nil]
        intro waiting member
        rcases List.mem_append.mp member with old | new
        · exact guardedRows.waiting waiting old
        · rw [List.mem_singleton.mp new]
          rw [record] at body
          rcases current with _ | shown
          · obtain ⟨fact, impossible⟩ := Append.guards_current guarded (by rw [body]; rfl)
            rw [body] at impossible
            cases impossible
          · rw [superseding.next, Append.guards_supersession guarded body, sound.revision]
    | _ =>
        simp only [RecordBody.trusted, Option.toList_none, List.append_nil]
        intro waiting member
        exact guardedRows.waiting waiting member

end

theorem runAll_guarded (sha256 : Bytes → Digest) (calls : List Append) (key : Key) :
    GuardedRows ((runAll sha256 calls).rows key) := by
  have runs := @runAll_induction sha256 (fun _ => True)
    (fun tables => ∀ key, GuardedRows (tables.rows key))
    (by
      intro key
      constructor
      · exact eachStep_nil _
      · intro record member
        cases member)
    (by
      intro call tables row later _ faithful inserted guarded key
      by_cases same : key = call.key
      · subst same
        rw [inserted.rows_self]
        apply GuardedRows.append (faithful call.key) (guarded call.key) inserted.guards
        rw [inserted.recorded]
        rfl
      · rw [inserted.rows_other same]
        exact guarded key) calls (fun _ _ => trivial)
  exact runs.2 key

/-- The projected states of a run follow the lifecycle exactly when every record
was appended in order. -/
theorem followsLifecycle_iff_inOrder (sha256 : Bytes → Digest) (calls : List Append) (key : Key) :
    (runAll sha256 calls).current.get? key = fold ((runAll sha256 calls).rows key) ∧
      (EachStep FollowsLifecycle ((runAll sha256 calls).rows key) ↔
        EachStep InOrder ((runAll sha256 calls).rows key)) := by
  refine ⟨(runAll_faithful sha256 calls key).folded, eachStep_iff ?_⟩
  intro before row after split
  exact followsLifecycle_iff ((runAll_guarded sha256 calls key).each before row after split)

namespace Sample

def core : TrustedFactCore := ⟨"finding", "The cache is stale.", by decide, by decide⟩

def provenance : FactProvenance :=
  ⟨"closure-digest", ["evidence-1"], ["evidence-digest"], .dict [], by decide, by decide,
    by decide, by decide, rfl⟩

theorem localTrusted_trusted : (MemoryOrigin.localTrusted = .localTrusted ∨
    MemoryOrigin.localTrusted = .attestedExternal) := .inl rfl

def fact : TrustedFact :=
  { scope
    lineageId := "lineage-1"
    revisionId := "revision-1"
    revision := 1
    outcome := .keep
    origin := .localTrusted
    core
    trustedFactDigest := "fact-digest"
    provenance
    revisionPositive := by decide
    lineageBounded := by decide
    revisionIdBounded := by decide
    trustedOrigin := localTrusted_trusted }

def revocation : RevocationRecord :=
  ⟨scope, "lineage-1", "revision-1", 1, 1, "fact-digest", "closure-digest", rfl⟩

def supersession : SupersessionRecord :=
  ⟨scope, "lineage-1", "revision-1", 1, "revision-2", 2, "closure-digest", rfl⟩

def promote : Append :=
  ⟨lineage, ⟨.trustedFact fact, .dict [("revision", .int 1)]⟩, "key-1", none⟩

/-- A record appended with the hash of the current row. -/
def against (body : RecordBody) (idempotencyKey : String) (calls : List Append) : Append :=
  ⟨lineage, ⟨body, .dict [("record", .str body.eventType)]⟩, idempotencyKey,
    ((runAll rolling calls).current.get? lineage).map CurrentRow.projectionEventHash⟩

def revoked : List Append := [promote, against (.revocation revocation) "key-2" [promote]]

def superseded : Append := against (.supersession supersession) "key-3" revoked

def isOk {α ε : Type} : Except ε α → Bool
  | .ok _ => true
  | .error _ => false

theorem revoked_state :
    ((runAll rolling revoked).current.get? lineage).map CurrentRow.state = some .revoked := by
  decide +kernel

theorem superseded_new :
    ((runAll rolling revoked).find lineage "key-3").isNone = true := by
  decide +kernel

theorem superseded_accepted :
    isOk (appendTrustedMemoryRecord rolling superseded (runAll rolling revoked)).1 = true := by
  decide +kernel

/-- A revoked fact is superseded: the projected state leaves REVOKED without a
later trusted fact. -/
theorem revoked_fact_superseded :
    ¬ EachStep FollowsLifecycle ((runAll rolling (revoked ++ [superseded])).rows lineage) := by
  intro follows
  have accepted := superseded_accepted
  have new := superseded_new
  rw [runAll_append] at follows
  rcases outcome : appendTrustedMemoryRecord rolling superseded (runAll rolling revoked) with
    ⟨error | row, later⟩
  · rw [outcome] at accepted
    cases accepted
  · rw [outcome] at follows
    rcases append_eq_ok rolling outcome with ⟨found, _⟩ | ⟨_, inserted⟩
    · rw [show superseded.key = lineage from rfl,
        show superseded.idempotencyKey = "key-3" from rfl] at found
      rw [found] at new
      cases new
    · have step := follows _ row [] inserted.rows_self
      have body : row.record.body = .supersession supersession := by
        rw [inserted.recorded]
        rfl
      obtain ⟨shown, found, state⟩ := Option.map_eq_some_iff.mp revoked_state
      have folded := (runAll_faithful rolling revoked lineage).folded
      rw [folded] at found
      have validated := (step.allowed shown .superseded found (by rw [body]; rfl)
        (by rw [body]; rfl) (by rw [state]; decide)).1
      rw [state] at validated
      cases validated

end Sample

end EgoAgent.TrustedMemory
