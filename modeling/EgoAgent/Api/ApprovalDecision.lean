import EgoAgent.Api.ApprovalToken
import EgoAgent.Api.EventStream

/-!
`ResearchOpsService.decide_approval` and the consumption of its tokens, inside the store's
transactions.
-/

namespace EgoAgent.Api

/-! ### Records and tables -/

/-- An `ApprovalRecord` with its task and its times. -/
structure StoredApproval extends ApprovalRecord where
  taskId : String
  generation : String
  riskLevel : String
  requestedAt : Instant
  decidedAt : Option Instant
  usedAt : Option Instant

/-- The tables that a decision reads and writes. -/
structure ApprovalTables (φ : Type) where
  approvals : Dict String StoredApproval
  events : EventStore φ
  named : ∀ approvalId approval,
    approvals.get? approvalId = some approval → approval.id = approvalId

section Tables

variable {φ : Type}

def ApprovalTables.set (tables : ApprovalTables φ) (approval : StoredApproval) : ApprovalTables φ :=
  { tables with
    approvals := tables.approvals.set approval.id approval
    named := by
      intro approvalId other found
      by_cases same : approvalId = approval.id
      · rw [same, Dict.get?_set_self] at found
        cases found
        exact same.symm
      · rw [Dict.get?_set_ne _ _ same] at found
        exact tables.named approvalId other found }

def approvalMissing (approvalId : String) : ServiceError :=
  .control .notFound "not_found" ("approval '" ++ approvalId ++ "' was not found") 404

/-- `save_approval`, an UPDATE. -/
def saveApproval (approval : StoredApproval) (tables : ApprovalTables φ) :
    Except ServiceError Unit × ApprovalTables φ :=
  match tables.approvals.get? approval.id with
  | some _ => (.ok (), tables.set approval)
  | none => (.error (approvalMissing approval.id), tables)

/-- `latest_approval`: the last of the rows with the greatest `created_at`. -/
def latestOf : List (String × StoredApproval) → Option StoredApproval
  | [] => none
  | (_, approval) :: rest =>
      match latestOf rest with
      | none => some approval
      | some later =>
          if later.requestedAt.micros < approval.requestedAt.micros then some approval
          else some later

def latestApproval (taskId generation : String) (tables : ApprovalTables φ) :
    Option StoredApproval :=
  (latestOf (tables.approvals.filter fun entry =>
    entry.2.taskId = taskId ∧ entry.2.generation = generation)).bind fun approval =>
      tables.approvals.get? approval.id

end Tables

/-! ### The policy -/

/-- What a decision meets: the clock, the configured secret, and `secrets.token_urlsafe`. -/
structure Occasion where
  now : Instant
  approvalHmacSecret : Option String
  tokenUrlsafe : String

section Policy

variable (sha256 : Bytes → Digest) (hmacSha256 : Bytes → Bytes → Digest)

def expiredError : ServiceError :=
  .control .policy "approval_expired" "Approval request expired before a decision was recorded" 403

/-- `decide_approval` of the policy, on the record that it changes in place. -/
def decidePolicy (decision approver expectedDigest : String) (occasion : Occasion) :
    Effect StoredApproval ServiceError (Option String) := do
  let approval ← Effect.read
  Effect.check (raiseIf (approval.status ≠ .pending)
    (conflictError "approval_already_decided" "Approval is no longer pending"))
  if approval.expiresAt.micros ≤ occasion.now.micros then do
    Effect.write fun approval => { approval with status := .expired }
    Effect.check (.error expiredError)
  else do
    Effect.check (raiseIf (¬ isAscii expectedDigest)
      (.other "TypeError" "comparing strings with non-ASCII characters is not supported"))
    Effect.check (raiseIf (approval.actionDigest ≠ expectedDigest)
      (.control .policy "approval_digest_mismatch"
        "The reviewed action digest does not match the pending action" 403))
    Effect.write fun approval =>
      { approval with approver := some approver, decidedAt := some occasion.now }
    if decision = "denied" then do
      Effect.write fun approval => { approval with status := .denied }
      pure none
    else do
      Effect.check (raiseIf (decision ≠ "approved")
        (.other "ValueError" "decision must be approved or denied"))
      let token ← Effect.check (match occasion.approvalHmacSecret.filter (· ≠ "") with
        | some secret => issueHmacApprovalToken hmacSha256 approval.toApprovalRecord secret
            occasion.now
        | none => .ok ("egoap_" ++ approval.id ++ "_" ++ occasion.tokenUrlsafe))
      Effect.write fun approval =>
        { approval with status := .approved, tokenHash := some (textSha256 sha256 token) }
      pure (some token)

/-- `validate_approval_token`, for the action that the task's contract asks for. -/
def validateApprovalToken (approval : StoredApproval) (rawToken : Option String)
    (taskId generation scope action expectedDigest : String) (now : Instant) :
    Except ServiceError Unit := do
  let token ← expect (.control .policy "approval_required"
    "A scoped approval token is required for this transition" 403) (rawToken.filter (· ≠ ""))
  raiseIf (approval.status = .consumed ∨ approval.usedAt.isSome = true)
    (.control .policy "approval_token_replayed" "This approval token has already been consumed" 403)
  raiseIf (approval.status ≠ .approved)
    (.control .policy "approval_not_granted" "The approval is not in an approved state" 403)
  raiseIf (approval.expiresAt.micros ≤ now.micros)
    (.control .policy "approval_token_expired" "The approval token has expired" 403)
  raiseIf (approval.taskId ≠ taskId ∨ approval.generation ≠ generation ∨
      approval.scope ≠ scope ∨ approval.action ≠ action ∨ approval.actionDigest ≠ expectedDigest)
    (.control .policy "approval_scope_mismatch"
      "Approval token is not valid for this exact action scope" 403)
  raiseIf (approval.tokenHash ≠ some (textSha256 sha256 token))
    (.control .policy "approval_token_invalid" "Approval token is invalid" 403)

end Policy

/-! ### The service -/

/-- A decision, with the id and the time of its event. -/
structure DecisionCall where
  approvalId : String
  decision : String
  approver : String
  expectedDigest : String
  occasion : Occasion
  eventId : String
  eventTime : String

/-- The local variables of a call. -/
structure Deciding where
  approval : Option StoredApproval
  outcome : Except ServiceError (Option String)

def Deciding.start : Deciding := ⟨none, .ok none⟩

/-- The entry of an approval into execution; `checks` is what the transition asks before it, and
`rest` what it does after it. -/
structure ExecutionCall (φ : Type) where
  taskId : String
  approvalToken : Option String
  scope : String
  action : String
  digest : String
  now : Instant
  eventId : String
  eventTime : String
  checks : EventStore φ → Except ServiceError Unit
  rest : EventStore φ → Except ServiceError (EventStore φ)

section Service

variable {φ : Type} [FloatText φ] (sha256 : Bytes → Digest) (hmacSha256 : Bytes → Bytes → Digest)

/-- A store call that only reads. -/
def readCall {β : Type} (read : β → ApprovalTables φ → Except ServiceError β) :
    Body β (ApprovalTables φ) ServiceError :=
  .call fun locals tables => (read locals tables, tables)

def saveCall : Body Deciding (ApprovalTables φ) ServiceError :=
  .call fun locals tables =>
    match locals.approval with
    | none => (.ok locals, tables)
    | some approval =>
        match saveApproval approval tables with
        | (.ok (), written) => (.ok locals, written)
        | (.error error, written) => (.error error, written)

/-- A call that writes events and tasks, and all of it or nothing. -/
def eventCall (write : Deciding → EventStore φ → Except ServiceError (EventStore φ)) :
    Body Deciding (ApprovalTables φ) ServiceError :=
  .call fun locals tables =>
    match write locals tables.events with
    | .ok events => (.ok locals, { tables with events })
    | .error error => (.error error, tables)

def fetchPending (approvalId : String) (_ : Deciding) (tables : ApprovalTables φ) :
    Except ServiceError Deciding := do
  let approval ← expect (approvalMissing approvalId) (tables.approvals.get? approvalId)
  let generation ← getTask approval.taskId tables.events
  raiseIf (generation ≠ approval.generation) (.control .policy "stale_approval"
    "Approval belongs to an earlier task generation" 403)
  .ok ⟨some approval, .ok none⟩

/-- The policy's verdict, and the record as it leaves it. -/
def DecisionCall.judge (call : DecisionCall) (locals : Deciding) : Deciding :=
  match locals.approval with
  | none => locals
  | some approval =>
      let judged := decidePolicy sha256 hmacSha256 call.decision call.approver call.expectedDigest
        call.occasion approval
      ⟨some judged.2, judged.1⟩

def DecisionCall.event (call : DecisionCall) (locals : Deciding) (events : EventStore φ) :
    Except ServiceError (EventStore φ) :=
  match locals.approval with
  | none => .ok events
  | some approval =>
      appendEvent sha256
        { id := call.eventId
          taskId := approval.taskId
          generation := approval.generation
          eventType := "approval." ++ call.decision
          actor := call.approver
          stage := some "APPROVAL"
          payload := .dict [("approval_id", .str approval.id),
            ("action_digest", .str approval.actionDigest),
            ("risk_level", .str approval.riskLevel),
            ("token_issued", .bool (approval.status = .approved))]
          createdAt := call.eventTime } events

def ServiceError.isPolicy : ServiceError → Bool
  | .control .policy _ _ _ => true
  | _ => false

/-- `except PolicyError: if approval.status == EXPIRED: save; raise`. -/
def refuseDecision (error : ServiceError) (locals : Deciding) :
    Body Deciding (ApprovalTables φ) ServiceError :=
  .seq
    (if error.isPolicy = true ∧
        locals.approval.map (fun approval => approval.status) = some .expired then saveCall
      else .compute .ok)
    (.compute fun _ => .error error)

/-- `ResearchOpsService.decide_approval`, within its transaction. -/
def DecisionCall.body (call : DecisionCall) : Body Deciding (ApprovalTables φ) ServiceError :=
  .seq (readCall (fetchPending call.approvalId))
    (.seq (.compute fun locals => .ok (call.judge sha256 hmacSha256 locals))
      (.choose fun locals =>
        match locals.outcome with
        | .error error => refuseDecision error locals
        | .ok _ => .seq saveCall (eventCall (call.event sha256))))

def ExecutionCall.fetch (call : ExecutionCall φ) (_ : Deciding) (tables : ApprovalTables φ) :
    Except ServiceError Deciding := do
  let generation ← getTask call.taskId tables.events
  call.checks tables.events
  let approval ← expect (.control .policy "approval_required"
    "No approval exists for this experiment" 403) (latestApproval call.taskId generation tables)
  validateApprovalToken sha256 approval call.approvalToken call.taskId generation call.scope
    call.action call.digest call.now
  .ok ⟨some { approval with status := .consumed, usedAt := some call.now }, .ok none⟩

def ExecutionCall.event (call : ExecutionCall φ) (locals : Deciding) (events : EventStore φ) :
    Except ServiceError (EventStore φ) :=
  match locals.approval with
  | none => .ok events
  | some approval =>
      appendEvent sha256
        { id := call.eventId
          taskId := approval.taskId
          generation := approval.generation
          eventType := "approval.token.consumed"
          actor := (approval.approver.filter (· ≠ "")).getD "human"
          stage := some "APPROVAL"
          payload := .dict [("approval_id", .str approval.id), ("single_use", .bool true),
            ("scope", .str approval.scope)]
          createdAt := call.eventTime } events

/-- The step of `_transition` from APPROVAL to EXECUTE, within its transaction. -/
def ExecutionCall.body (call : ExecutionCall φ) : Body Deciding (ApprovalTables φ) ServiceError :=
  .seq (readCall (call.fetch sha256))
    (.seq saveCall
      (.seq (eventCall (call.event sha256)) (eventCall fun _ events => call.rest events)))

/-- A call of either kind. -/
inductive ApprovalCall (φ : Type) where
  | decide (call : DecisionCall)
  | execute (call : ExecutionCall φ)

def ApprovalCall.body (call : ApprovalCall φ) : Body Deciding (ApprovalTables φ) ServiceError :=
  match call with
  | .decide call => call.body sha256 hmacSha256
  | .execute call => call.body sha256

/-- A call on a thread that is in no transaction: what it returns, and what is stored after it. -/
def ApprovalCall.serve (memory : Bool) (call : ApprovalCall φ) (tables : ApprovalTables φ) :
    Except ServiceError Unit × ApprovalTables φ :=
  let served := (Body.transaction (call.body sha256 hmacSha256)).run
    (Deciding.start, Thread.idle memory tables)
  (served.1, served.2.2.database)

def afterApprovalCalls (memory : Bool) (tables : ApprovalTables φ) (calls : List (ApprovalCall φ)) :
    ApprovalTables φ :=
  calls.foldl (fun tables call => (call.serve sha256 hmacSha256 memory tables).2) tables

end Service

end EgoAgent.Api
