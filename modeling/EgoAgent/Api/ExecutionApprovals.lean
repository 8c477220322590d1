import EgoAgent.Api.ApprovalExpiry

/-!
Entries into execution, over runs of decisions and executions: each spends an approval of its own,
which a decision granted.
-/

namespace EgoAgent.Api

section Licences

variable {φ : Type} (sha256 : Bytes → Digest)

/-- The approval that an entry into execution finds. -/
structure ExecutionCall.Licence (call : ExecutionCall φ) (tables : ApprovalTables φ)
    (approval : StoredApproval) : Prop where
  latest : ∃ generation, tables.events.tasks.get? call.taskId = some generation ∧
    latestApproval call.taskId generation tables = some approval ∧
    approval.generation = generation
  approved : approval.status = .approved
  unexpired : call.now.micros < approval.expiresAt.micros
  task : approval.taskId = call.taskId
  action : approval.scope = call.scope ∧ approval.action = call.action ∧
    approval.actionDigest = call.digest
  token : ∃ token, call.approvalToken = some token ∧
    approval.tokenHash = some (textSha256 sha256 token)

variable {sha256} {call : ExecutionCall φ} {tables : ApprovalTables φ}

theorem ExecutionCall.fetch_eq_ok {locals fetched : Deciding}
    (read : call.fetch sha256 locals tables = .ok fetched) :
    ∃ approval, call.Licence sha256 tables approval ∧
      fetched = ⟨some { approval with status := .consumed, usedAt := some call.now }, .ok none⟩ := by
  unfold ExecutionCall.fetch at read
  obtain ⟨generation, current, read⟩ := (bind_eq_ok _ _ _).mp read
  obtain ⟨_, _, read⟩ := (bind_eq_ok _ _ _).mp read
  obtain ⟨approval, latest, read⟩ := (bind_eq_ok _ _ _).mp read
  obtain ⟨_, valid, read⟩ := (bind_eq_ok _ _ _).mp read
  cases read
  unfold validateApprovalToken at valid
  obtain ⟨token, given, valid⟩ := (bind_eq_ok _ _ _).mp valid
  obtain ⟨_, valid⟩ := (raiseIf_bind_eq_ok _ _ _ _).mp valid
  obtain ⟨approved, valid⟩ := (raiseIf_bind_eq_ok _ _ _ _).mp valid
  obtain ⟨unexpired, valid⟩ := (raiseIf_bind_eq_ok _ _ _ _).mp valid
  obtain ⟨same, valid⟩ := (raiseIf_bind_eq_ok _ _ _ _).mp valid
  have hash := not_not.mp ((raiseIf_eq_ok _ _ _).mp valid)
  simp only [not_or, not_not] at same
  obtain ⟨task, ofGeneration, action⟩ := same
  exact ⟨approval,
    { latest := ⟨generation, (expect_eq_ok _ _ _).mp current, (expect_eq_ok _ _ _).mp latest,
        ofGeneration⟩
      approved := not_not.mp approved
      unexpired := not_le.mp unexpired
      task
      action
      token := ⟨token, (Option.filter_eq_some_iff.mp ((expect_eq_ok _ _ _).mp given)).1, hash⟩ },
    rfl⟩

theorem ExecutionCall.Licence.status {approval : StoredApproval}
    (licence : call.Licence sha256 tables approval) :
    tables.statusOf approval.id = some .approved := by
  obtain ⟨_, _, latest, _⟩ := licence.latest
  rw [ApprovalTables.statusOf, latestApproval_found latest, Option.map_some, licence.approved]

theorem ExecutionCall.Licence.unique {approval other : StoredApproval}
    (licence : call.Licence sha256 tables approval) (again : call.Licence sha256 tables other) :
    other = approval := by
  obtain ⟨_, current, latest, _⟩ := licence.latest
  obtain ⟨_, currentAgain, latestAgain, _⟩ := again.latest
  rw [current] at currentAgain
  rw [← Option.some.inj currentAgain, latest] at latestAgain
  exact (Option.some.inj latestAgain).symm

/-- An entry that returns has a licence, and only the licence's status turns. -/
theorem ExecutionCall.plain_eq_ok [FloatText φ] {later : Plain Deciding (ApprovalTables φ)}
    (ran : (call.body sha256).plain (Plain.start Deciding.start tables) = (.ok (), later)) :
    ∃ approval, call.Licence sha256 tables approval ∧ ∀ approvalId,
      later.database.statusOf approvalId =
        if approvalId = approval.id then some .consumed else tables.statusOf approvalId := by
  obtain ⟨_, fetched, first, ran⟩ := (Effect.bind_eq_ok _ _ _ _ _).mp ran
  obtain ⟨locals, read, rfl⟩ := readCall_eq_ok first
  obtain ⟨approval, licence, rfl⟩ := ExecutionCall.fetch_eq_ok read
  obtain ⟨_, saved, save, ran⟩ := (Effect.bind_eq_ok _ _ _ _ _).mp ran
  obtain ⟨_, rfl⟩ := saveCall_eq_ok rfl save
  obtain ⟨_, noted, note, ran⟩ := (Effect.bind_eq_ok _ _ _ _ _).mp ran
  obtain ⟨_, rfl⟩ := eventCall_eq_ok note
  obtain ⟨_, rfl⟩ := eventCall_eq_ok ran
  refine ⟨approval, licence, fun approvalId => ?_⟩
  unfold ApprovalTables.statusOf ApprovalTables.set
  split
  · next same => rw [same, Dict.get?_set_self, Option.map_some]
  · next different => rw [Dict.get?_set_ne _ _ different]; rfl

end Licences

/-! ### Runs -/

/-- What a deployment fixes. -/
structure ApprovalService where
  sha256 : Bytes → Digest
  hmacSha256 : Bytes → Bytes → Digest
  memory : Bool

namespace ApprovalService

variable {φ : Type} [FloatText φ] (service : ApprovalService)

def after (tables : ApprovalTables φ) (calls : List (ApprovalCall φ)) : ApprovalTables φ :=
  afterApprovalCalls service.sha256 service.hmacSha256 service.memory tables calls

def Returns (tables : ApprovalTables φ) (call : ApprovalCall φ) : Prop :=
  (call.serve service.sha256 service.hmacSha256 service.memory tables).1 = .ok ()

/-- What the entries into execution of a run owe to its approvals. -/
structure OwnApprovals (tables : ApprovalTables φ) (calls : List (ApprovalCall φ)) : Prop where
  /-- An entry that returns has consumed the approval that licensed it. -/
  licensed : ∀ before call rest, calls = before ++ .execute call :: rest →
    service.Returns (service.after tables before) (.execute call) →
    ∃ approval, call.Licence service.sha256 (service.after tables before) approval ∧
      (service.after tables (before ++ [.execute call])).statusOf approval.id = some .consumed
  /-- No later entry finds that approval again. -/
  own : ∀ before first middle second rest approval other,
    calls = before ++ .execute first :: (middle ++ .execute second :: rest) →
    service.Returns (service.after tables before) (.execute first) →
    first.Licence service.sha256 (service.after tables before) approval →
    second.Licence service.sha256 (service.after tables (before ++ .execute first :: middle)) other →
    other.id ≠ approval.id
  /-- What licenses an entry was APPROVED from the start, or a decision of the run approved it. -/
  granted : ∀ before call rest approval, calls = before ++ .execute call :: rest →
    call.Licence service.sha256 (service.after tables before) approval →
    tables.statusOf approval.id = some .approved ∨ ∃ earlier decision later,
      before = earlier ++ .decide decision :: later ∧
        (service.after tables earlier).statusOf approval.id = some .pending ∧
        (service.after tables (earlier ++ [.decide decision])).statusOf approval.id = some .approved

variable {service}

theorem after_append (tables : ApprovalTables φ) (before rest : List (ApprovalCall φ)) :
    service.after tables (before ++ rest) = service.after (service.after tables before) rest :=
  List.foldl_append

theorem after_turned (tables : ApprovalTables φ) (call : ApprovalCall φ) :
    Turned tables (service.after tables [call]) :=
  serve_turned service.memory call tables

/-- An entry that returns spends its licence. -/
theorem Returns.spends {call : ExecutionCall φ} {tables : ApprovalTables φ}
    (returned : service.Returns tables (.execute call)) :
    ∃ approval, call.Licence service.sha256 tables approval ∧
      (service.after tables [.execute call]).statusOf approval.id = some .consumed := by
  unfold Returns ApprovalCall.serve at returned
  change ∃ approval, _ ∧ ((ApprovalCall.execute call).serve _ _ _ tables).2.statusOf _ = _
  unfold ApprovalCall.serve
  dsimp only at returned ⊢
  rw [Body.run_outermost] at returned ⊢
  rcases ran : ((ApprovalCall.execute call).body service.sha256 service.hmacSha256).plain
    (Plain.start Deciding.start tables) with ⟨error | ⟨⟩, later⟩
  · rw [ran] at returned
    cases returned
  · rw [ran] at returned
    unfold Plain.settle at returned ⊢
    dsimp only at returned ⊢
    split at returned
    · cases returned
    · next kept =>
        obtain ⟨approval, licence, statuses⟩ := ExecutionCall.plain_eq_ok ran
        rw [if_neg kept]
        exact ⟨approval, licence, (statuses approval.id).trans (if_pos rfl)⟩

section

variable {approvalId : String}

/-- An entry approves nothing. -/
theorem execute_approves_nothing {call : ExecutionCall φ} {tables : ApprovalTables φ}
    (approved : (service.after tables [.execute call]).statusOf approvalId = some .approved) :
    tables.statusOf approvalId = some .approved := by
  change ((ApprovalCall.execute call).serve _ _ _ tables).2.statusOf _ = _ at approved
  rcases serve_tables service.memory (.execute call) tables with same | ⟨later, ran, written⟩
  · rw [same] at approved
    exact approved
  · obtain ⟨approval, _, statuses⟩ := ExecutionCall.plain_eq_ok ran
    rw [written, statuses] at approved
    split at approved
    · cases approved
    · exact approved

/-- CONSUMED is final. -/
theorem consumed_stays (calls : List (ApprovalCall φ)) (tables : ApprovalTables φ)
    (consumed : tables.statusOf approvalId = some .consumed) :
    (service.after tables calls).statusOf approvalId = some .consumed := by
  induction calls generalizing tables with
  | nil => exact consumed
  | cons call rest ih =>
      apply ih
      have turn := @after_turned φ _ service tables call approvalId
      rw [consumed] at turn
      generalize reached : ApprovalTables.statusOf _ approvalId = status at turn
      cases turn
      exact reached

/-- What is APPROVED after a run was so before it, or a decision of the run approved it. -/
theorem approved_by (tables : ApprovalTables φ) (calls : List (ApprovalCall φ))
    (approved : (service.after tables calls).statusOf approvalId = some .approved) :
    tables.statusOf approvalId = some .approved ∨ ∃ earlier decision later,
      calls = earlier ++ .decide decision :: later ∧
        (service.after tables earlier).statusOf approvalId = some .pending ∧
        (service.after tables (earlier ++ [.decide decision])).statusOf approvalId =
          some .approved := by
  induction calls using List.reverseRecOn with
  | nil => exact .inl approved
  | append_singleton calls call ih =>
      have now := approved
      rw [after_append] at now
      have turn := @after_turned φ _ service (service.after tables calls) call approvalId
      rw [now] at turn
      generalize reached : (service.after tables calls).statusOf approvalId = status at turn
      cases turn with
      | kept =>
          refine (ih reached).imp id fun ⟨earlier, decision, later, split, turns⟩ => ?_
          exact ⟨earlier, decision, later ++ [call], by rw [split]; simp, turns⟩
      | approved =>
          cases call with
          | decide decision => exact .inr ⟨calls, decision, [], rfl, reached, approved⟩
          | execute call =>
              rw [execute_approves_nothing now] at reached
              cases reached

end

end ApprovalService

/-- Every entry into execution spends an approval of its own, which a decision granted. -/
theorem executions_spend_own_approvals {φ : Type} [FloatText φ] (service : ApprovalService)
    (tables : ApprovalTables φ) (calls : List (ApprovalCall φ)) :
    service.OwnApprovals tables calls where
  licensed := by
    intro before call rest _ returned
    rw [ApprovalService.after_append]
    exact returned.spends
  own := by
    intro before first middle second rest approval other _ returned licence later same
    obtain ⟨spent, itsLicence, consumed⟩ := returned.spends
    rw [licence.unique itsLicence, ← same] at consumed
    have approved := later.status
    rw [← List.singleton_append, ← List.append_assoc, ApprovalService.after_append,
      ApprovalService.after_append, ApprovalService.consumed_stays middle _ consumed] at approved
    cases approved
  granted := by
    intro before call rest approval _ licence
    exact ApprovalService.approved_by tables before licence.status

end EgoAgent.Api
