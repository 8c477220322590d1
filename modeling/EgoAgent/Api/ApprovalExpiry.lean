import EgoAgent.Api.ApprovalDecision

/-!
The status of a stored approval: how calls change it, and that none of them stores EXPIRED.
-/

namespace EgoAgent.Api

/-! ### The policy -/

section Policy

variable (sha256 : Bytes → Digest) (hmacSha256 : Bytes → Bytes → Digest)

theorem decidePolicy_expired (decision approver expectedDigest : String) {occasion : Occasion}
    {approval : StoredApproval} (pending : approval.status = .pending)
    (late : approval.expiresAt.micros ≤ occasion.now.micros) :
    decidePolicy sha256 hmacSha256 decision approver expectedDigest occasion approval =
      (.error expiredError, { approval with status := .expired }) := by
  unfold decidePolicy
  rw [Effect.read_bind, (raiseIf_eq_ok _ _ ()).mpr (not_not.mpr pending), Effect.check_ok_bind,
    if_pos late]
  rfl

/-- What a decision that returns has made of the record. -/
structure Decided (approval later : StoredApproval) : Prop where
  pending : approval.status = .pending
  id : later.id = approval.id
  status : later.status = .approved ∨ later.status = .denied

theorem decidePolicy_ok {decision approver expectedDigest : String} {occasion : Occasion}
    {approval later : StoredApproval} {token : Option String}
    (decided : decidePolicy sha256 hmacSha256 decision approver expectedDigest occasion approval =
      (.ok token, later)) : Decided approval later := by
  unfold decidePolicy at decided
  rw [Effect.read_bind] at decided
  obtain ⟨pending, decided⟩ := (Effect.raiseIf_bind_eq_ok _ _ _ _ _ _).mp decided
  split at decided
  · rw [Effect.write_bind] at decided
    cases decided
  · obtain ⟨_, decided⟩ := (Effect.raiseIf_bind_eq_ok _ _ _ _ _ _).mp decided
    obtain ⟨_, decided⟩ := (Effect.raiseIf_bind_eq_ok _ _ _ _ _ _).mp decided
    rw [Effect.write_bind] at decided
    split at decided
    · rw [Effect.write_bind] at decided
      cases decided
      exact ⟨not_not.mp pending, rfl, .inr rfl⟩
    · obtain ⟨_, decided⟩ := (Effect.raiseIf_bind_eq_ok _ _ _ _ _ _).mp decided
      obtain ⟨_, _, decided⟩ := (Effect.check_bind_eq_ok _ _ _ _ _).mp decided
      rw [Effect.write_bind] at decided
      cases decided
      exact ⟨not_not.mp pending, rfl, .inl rfl⟩

theorem validateApprovalToken_approved {approval : StoredApproval} {rawToken : Option String}
    {taskId generation scope action digest : String} {now : Instant}
    (valid : validateApprovalToken sha256 approval rawToken taskId generation scope action digest
      now = .ok ()) : approval.status = .approved := by
  unfold validateApprovalToken at valid
  obtain ⟨_, _, valid⟩ := (bind_eq_ok _ _ _).mp valid
  obtain ⟨_, valid⟩ := (raiseIf_bind_eq_ok _ _ _ _).mp valid
  obtain ⟨approved, _⟩ := (raiseIf_bind_eq_ok _ _ _ _).mp valid
  exact not_not.mp approved

end Policy

/-! ### Changes of status -/

/-- The changes of a stored status. -/
inductive StatusTurn : Option ApprovalStatus → Option ApprovalStatus → Prop
  | kept (status : Option ApprovalStatus) : StatusTurn status status
  | approved : StatusTurn (some .pending) (some .approved)
  | denied : StatusTurn (some .pending) (some .denied)
  | expired : StatusTurn (some .pending) (some .expired)
  | consumed : StatusTurn (some .approved) (some .consumed)

section Turns

variable {φ : Type}

def ApprovalTables.statusOf (tables : ApprovalTables φ) (approvalId : String) :
    Option ApprovalStatus :=
  (tables.approvals.get? approvalId).map fun approval => approval.status

/-- Every status stays or turns. -/
def Turned (before after : ApprovalTables φ) : Prop :=
  ∀ approvalId, StatusTurn (before.statusOf approvalId) (after.statusOf approvalId)

theorem turned_set {tables : ApprovalTables φ} {approval old : StoredApproval}
    (found : tables.approvals.get? approval.id = some old)
    (turn : StatusTurn (some old.status) (some approval.status)) (events : EventStore φ) :
    Turned tables { tables.set approval with events } := by
  intro approvalId
  unfold ApprovalTables.statusOf ApprovalTables.set
  by_cases same : approvalId = approval.id
  · rw [same, Dict.get?_set_self, found]
    exact turn
  · rw [Dict.get?_set_ne _ _ same]
    exact .kept _

theorem latestApproval_found {taskId generation : String} {tables : ApprovalTables φ}
    {approval : StoredApproval} (latest : latestApproval taskId generation tables = some approval) :
    tables.approvals.get? approval.id = some approval := by
  obtain ⟨chosen, _, found⟩ := Option.bind_eq_some_iff.mp latest
  have same := tables.named _ _ found
  rw [same]
  exact found

end Turns

/-! ### Calls -/

section Calls

variable {φ : Type} [FloatText φ] {sha256 : Bytes → Digest} {hmacSha256 : Bytes → Bytes → Digest}
  {state later : Plain Deciding (ApprovalTables φ)}

omit [FloatText φ] in
theorem readCall_eq_ok {read : Deciding → ApprovalTables φ → Except ServiceError Deciding}
    (ran : (readCall read).plain state = (.ok (), later)) :
    ∃ locals, read state.locals state.database = .ok locals ∧ later = { state with locals } := by
  rw [readCall, Body.plain_call] at ran
  rcases result : read state.locals state.database with error | locals
  · rw [result] at ran
    cases ran
  · rw [result] at ran
    cases ran
    exact ⟨locals, rfl, rfl⟩

omit [FloatText φ] in
theorem saveCall_eq_ok {approval : StoredApproval}
    (isApproval : state.locals.approval = some approval)
    (ran : saveCall.plain state = (.ok (), later)) :
    (∃ old, state.database.approvals.get? approval.id = some old) ∧
      later = { state with database := state.database.set approval } := by
  rw [saveCall, Body.plain_call, isApproval] at ran
  unfold saveApproval at ran
  dsimp only at ran
  cases found : state.database.approvals.get? approval.id with
  | none =>
      rw [found] at ran
      cases ran
  | some old =>
      rw [found] at ran
      cases ran
      exact ⟨⟨old, rfl⟩, rfl⟩

omit [FloatText φ] in
theorem eventCall_eq_ok {write : Deciding → EventStore φ → Except ServiceError (EventStore φ)}
    (ran : (eventCall write).plain state = (.ok (), later)) :
    ∃ events, later = { state with database := { state.database with events } } := by
  rw [eventCall, Body.plain_call] at ran
  rcases result : write state.locals state.database.events with error | events
  · rw [result] at ran
    cases ran
  · rw [result] at ran
    cases ran
    exact ⟨events, rfl⟩

omit [FloatText φ] in
theorem refuseDecision_raises (error : ServiceError) (locals : Deciding)
    (state : Plain Deciding (ApprovalTables φ)) :
    ∃ other later, (refuseDecision error locals).plain state = (.error other, later) := by
  unfold refuseDecision
  rw [Body.plain_seq]
  rcases ran : Body.plain (if error.isPolicy = true ∧
      locals.approval.map (fun approval => approval.status) = some .expired then saveCall
    else .compute .ok) state with ⟨raised | _, later⟩
  · exact ⟨raised, later, rfl⟩
  · exact ⟨error, later, rfl⟩

omit [FloatText φ] in
theorem fetchPending_ok {approvalId : String} {locals : Deciding} {tables : ApprovalTables φ}
    {fetched : Deciding} (ran : fetchPending approvalId locals tables = .ok fetched) :
    ∃ approval, tables.approvals.get? approvalId = some approval ∧
      fetched = ⟨some approval, .ok none⟩ := by
  unfold fetchPending at ran
  obtain ⟨approval, found, ran⟩ := (bind_eq_ok _ _ _).mp ran
  obtain ⟨_, _, ran⟩ := (bind_eq_ok _ _ _).mp ran
  obtain ⟨_, ran⟩ := (raiseIf_bind_eq_ok _ _ _ _).mp ran
  cases ran
  exact ⟨approval, (expect_eq_ok _ _ _).mp found, rfl⟩

/-- The writes of a decision that returns. -/
theorem DecisionCall.turns (call : DecisionCall) {tables : ApprovalTables φ}
    (ran : (call.body sha256 hmacSha256).plain (Plain.start Deciding.start tables) =
      (.ok (), later)) : Turned tables later.database := by
  obtain ⟨_, fetched, first, ran⟩ := (Effect.bind_eq_ok _ _ _ _ _).mp ran
  obtain ⟨locals, read, rfl⟩ := readCall_eq_ok first
  obtain ⟨approval, found, rfl⟩ := fetchPending_ok read
  rw [Body.plain_seq, Body.plain_compute] at ran
  dsimp only [DecisionCall.judge] at ran
  rw [Body.plain_choose] at ran
  rcases judged : decidePolicy sha256 hmacSha256 call.decision call.approver call.expectedDigest
    call.occasion approval with ⟨error | token, decided⟩
  · rw [judged] at ran
    obtain ⟨_, _, raised⟩ := refuseDecision_raises error ⟨some decided, .error error⟩
      { Plain.start Deciding.start tables with locals := ⟨some decided, .error error⟩ }
    dsimp only at ran
    rw [raised] at ran
    cases ran
  · rw [judged] at ran
    dsimp only at ran
    have outcome := decidePolicy_ok sha256 hmacSha256 judged
    obtain ⟨_, saved, save, ran⟩ := (Effect.bind_eq_ok _ _ _ _ _).mp ran
    obtain ⟨_, rfl⟩ := saveCall_eq_ok rfl save
    obtain ⟨events, rfl⟩ := eventCall_eq_ok ran
    refine @turned_set φ _ _ approval ?_ ?_ events
    · rw [outcome.id, tables.named _ _ found]
      exact found
    · rw [outcome.pending]
      rcases outcome.status with approved | denied
      · rw [approved]
        exact .approved
      · rw [denied]
        exact .denied

theorem ExecutionCall.turns (call : ExecutionCall φ) {tables : ApprovalTables φ}
    (ran : (call.body sha256).plain (Plain.start Deciding.start tables) = (.ok (), later)) :
    Turned tables later.database := by
  obtain ⟨_, fetched, first, ran⟩ := (Effect.bind_eq_ok _ _ _ _ _).mp ran
  obtain ⟨locals, read, rfl⟩ := readCall_eq_ok first
  unfold ExecutionCall.fetch at read
  obtain ⟨generation, _, read⟩ := (bind_eq_ok _ _ _).mp read
  obtain ⟨_, _, read⟩ := (bind_eq_ok _ _ _).mp read
  obtain ⟨approval, latest, read⟩ := (bind_eq_ok _ _ _).mp read
  obtain ⟨_, valid, read⟩ := (bind_eq_ok _ _ _).mp read
  cases read
  obtain ⟨_, saved, save, ran⟩ := (Effect.bind_eq_ok _ _ _ _ _).mp ran
  obtain ⟨_, rfl⟩ := saveCall_eq_ok rfl save
  obtain ⟨_, noted, note, ran⟩ := (Effect.bind_eq_ok _ _ _ _ _).mp ran
  obtain ⟨_, rfl⟩ := eventCall_eq_ok note
  obtain ⟨events, rfl⟩ := eventCall_eq_ok ran
  have turn : StatusTurn (some approval.status) (some .consumed) := by
    rw [validateApprovalToken_approved sha256 valid]
    exact .consumed
  have found : tables.approvals.get? approval.id = some approval :=
    latestApproval_found ((expect_eq_ok _ _ _).mp latest)
  exact @turned_set φ tables { approval with status := .consumed, usedAt := some call.now } approval
    found turn events

/-- What is stored after a call: the writes of one that returns, and what was stored before one
that raises. -/
theorem serve_tables (memory : Bool) (call : ApprovalCall φ) (tables : ApprovalTables φ) :
    (call.serve sha256 hmacSha256 memory tables).2 = tables ∨
      ∃ later, (call.body sha256 hmacSha256).plain (Plain.start Deciding.start tables) =
        (.ok (), later) ∧ (call.serve sha256 hmacSha256 memory tables).2 = later.database := by
  unfold ApprovalCall.serve
  dsimp only
  rw [Body.run_outermost]
  rcases ran : (call.body sha256 hmacSha256).plain (Plain.start Deciding.start tables) with
    ⟨error | ⟨⟩, later⟩
  · exact .inl rfl
  · unfold Plain.settle
    dsimp only
    split
    · exact .inl rfl
    · exact .inr ⟨later, rfl, rfl⟩

theorem serve_turned (memory : Bool) (call : ApprovalCall φ) (tables : ApprovalTables φ) :
    Turned tables (call.serve sha256 hmacSha256 memory tables).2 := by
  rcases serve_tables memory call tables with same | ⟨later, ran, written⟩
  · rw [same]
    exact fun _ => .kept _
  · rw [written]
    cases call with
    | decide call => exact call.turns ran
    | execute call => exact call.turns ran

/-- A decision that comes too late raises, and leaves the tables as they are. -/
theorem DecisionCall.late (memory : Bool) (call : DecisionCall) {tables : ApprovalTables φ}
    {approval : StoredApproval} (found : tables.approvals.get? call.approvalId = some approval)
    (current : tables.events.tasks.get? approval.taskId = some approval.generation)
    (pending : approval.status = .pending)
    (late : approval.expiresAt.micros ≤ call.occasion.now.micros) :
    (ApprovalCall.decide call).serve sha256 hmacSha256 memory tables =
      (.error expiredError, tables) := by
  have fetched : fetchPending call.approvalId Deciding.start tables =
      .ok ⟨some approval, .ok none⟩ := by
    unfold fetchPending getTask
    rw [found, (expect_eq_ok _ _ _).mpr rfl, ok_bind, current, (expect_eq_ok _ _ _).mpr rfl,
      ok_bind, raiseIf_bind_of_not (not_not.mpr rfl)]
  have judged := decidePolicy_expired sha256 hmacSha256 call.decision call.approver
    call.expectedDigest pending late
  have saved : saveApproval { approval with status := .expired } tables =
      (.ok (), tables.set { approval with status := .expired }) := by
    unfold saveApproval
    dsimp only
    rw [tables.named _ _ found, found]
  have ran : ∃ later, (call.body sha256 hmacSha256).plain (Plain.start Deciding.start tables) =
      (.error expiredError, later) := by
    unfold DecisionCall.body readCall
    rw [Body.plain_seq, Body.plain_call]
    dsimp only [Plain.start]
    rw [fetched]
    dsimp only
    rw [Body.plain_seq, Body.plain_compute]
    dsimp only [DecisionCall.judge]
    rw [judged, Body.plain_choose]
    dsimp only [refuseDecision]
    rw [Body.plain_seq, if_pos ⟨rfl, rfl⟩, saveCall, Body.plain_call]
    dsimp only
    rw [saved]
    exact ⟨_, rfl⟩
  obtain ⟨later, ran⟩ := ran
  unfold ApprovalCall.serve
  dsimp only
  rw [Body.run_outermost, ApprovalCall.body, ran]
  rfl

/-- The call raises `approval_expired`, and the approval is stored as EXPIRED. -/
def ExpiryRecorded (served : Except ServiceError Unit × ApprovalTables φ) (approvalId : String) :
    Prop :=
  served.1 = .error expiredError ∧ served.2.statusOf approvalId = some .expired

/-- A decision on a pending approval that comes at its expiry or later is never recorded as an
expiry: it raises, its transaction takes the status back to PENDING. All calls together only turn
PENDING into a decision or an expiry, and APPROVED into CONSUMED. -/
theorem expiry_never_recorded (sha256 : Bytes → Digest) (hmacSha256 : Bytes → Bytes → Digest)
    (memory : Bool) :
    (∀ (call : DecisionCall) (tables : ApprovalTables φ) (approval : StoredApproval),
      tables.approvals.get? call.approvalId = some approval →
      tables.events.tasks.get? approval.taskId = some approval.generation →
      approval.status = .pending → approval.expiresAt.micros ≤ call.occasion.now.micros →
      let served := (ApprovalCall.decide call).serve sha256 hmacSha256 memory tables
      ¬ ExpiryRecorded served call.approvalId ∧ served.1 = .error expiredError ∧
        served.2.statusOf call.approvalId = some .pending) ∧
    ∀ (tables : ApprovalTables φ) (calls : List (ApprovalCall φ)) (call : ApprovalCall φ),
      Turned (afterApprovalCalls sha256 hmacSha256 memory tables calls)
        (afterApprovalCalls sha256 hmacSha256 memory tables (calls ++ [call])) := by
  constructor
  · intro call tables approval found current pending late
    dsimp only
    rw [DecisionCall.late memory call found current pending late]
    have status : tables.statusOf call.approvalId = some .pending := by
      rw [ApprovalTables.statusOf, found, Option.map_some, pending]
    refine ⟨?_, rfl, status⟩
    rintro ⟨_, recorded⟩
    rw [status] at recorded
    cases recorded
  · intro tables calls call
    unfold afterApprovalCalls
    rw [List.foldl_append]
    exact serve_turned memory call _

end Calls

namespace ApprovalSample

abbrev pending : StoredApproval where
  id := "apr_1"
  status := .pending
  scope := "launch:task-1:gen_1"
  action := "launch"
  actionDigest := "00"
  configSha256 := none
  expiresAt := ⟨1000000, by decide⟩
  approver := none
  tokenHash := none
  taskId := "task-1"
  generation := "gen_1"
  riskLevel := "R2"
  requestedAt := ⟨0, by decide⟩
  decidedAt := none
  usedAt := none

abbrev events : EventStore Empty where
  tasks := [("task-1", "gen_1")]
  auditEvents := EventTable.empty
  named := by
    intro taskId generation found
    by_cases same : "task-1" = taskId
    · rw [Dict.get?, if_pos same] at found
      cases found
      decide
    · rw [Dict.get?, if_neg same] at found
      cases found

abbrev tables : ApprovalTables Empty where
  approvals := [("apr_1", pending)]
  events := events
  named := by
    intro approvalId approval found
    by_cases same : "apr_1" = approvalId
    · rw [Dict.get?, if_pos same] at found
      cases found
      exact same
    · rw [Dict.get?, if_neg same] at found
      cases found

/-- A denial at the second of the expiry. -/
abbrev denial : DecisionCall where
  approvalId := "apr_1"
  decision := "denied"
  approver := "operator"
  expectedDigest := "00"
  occasion := ⟨⟨1000000, by decide⟩, none, ""⟩
  eventId := "evt_1"
  eventTime := "1970-01-01T00:00:01+00:00"

theorem expiry_never_recorded_sample :
    let served := (ApprovalCall.decide denial).serve (fun _ => 0) (fun _ _ => 0) true tables
    ¬ ExpiryRecorded served "apr_1" ∧ served.1 = .error expiredError ∧
      served.2.statusOf "apr_1" = some .pending :=
  (expiry_never_recorded (fun _ => 0) (fun _ _ => 0) true).1 denial tables pending rfl rfl rfl
    (by decide)

theorem expired_stays_pending :
    ¬ ExpiryRecorded ((ApprovalCall.decide denial).serve (fun _ => 0) (fun _ _ => 0) true tables)
      "apr_1" := by
  rintro ⟨_, recorded⟩
  have status : ((ApprovalCall.decide denial).serve (fun _ => 0) (fun _ _ => 0) true
      tables).2.statusOf "apr_1" = some .pending := by
    decide +kernel
  rw [status] at recorded
  cases recorded

end ApprovalSample

end EgoAgent.Api
