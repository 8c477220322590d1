import EgoAgent.Benchmarks.Oracle

/-!
The facts that `verify_trace_bytes` derives from the events of a trace.

An accepted trace of a scenario holds the events that the scenario requires, and with
them every fact that the oracle asks for.
-/

namespace EgoAgent.Benchmarks

/-! ### Events -/

inductive EventType where
  | decisionCommitted
  | humanApproved
  | independentReviewPassed
  | skillInvoked
  | taskAccepted
  | taskCompleted
  | taskCreated
  | taskDelegated
  | unsafeActionBlocked
  | effectCommitted
  | planConflictDetected
  | planReplanned
  | workerTimeout
  | taskReassigned
  | contextStaleRejected
  | grantReplayRejected
  | grantExpiredRejected
  | grantScopeRejected
  | effectDeduplicated
  | checkpointRestored
  | evidenceTamperDetected
  | decisionBlocked
  | reviewIdentityRejected
  | skillRollbackCompleted
  | matrixCompletenessRejected
  | matrixSeedRejected
  | other (name : String)
  deriving DecidableEq

namespace EventType

def text : EventType → String
  | decisionCommitted => "decision.committed"
  | humanApproved => "human.approved"
  | independentReviewPassed => "independent_review.passed"
  | skillInvoked => "skill.invoked"
  | taskAccepted => "task.accepted"
  | taskCompleted => "task.completed"
  | taskCreated => "task.created"
  | taskDelegated => "task.delegated"
  | unsafeActionBlocked => "unsafe_action.blocked"
  | effectCommitted => "effect.committed"
  | planConflictDetected => "plan.conflict_detected"
  | planReplanned => "plan.replanned"
  | workerTimeout => "worker.timeout"
  | taskReassigned => "task.reassigned"
  | contextStaleRejected => "context.stale_rejected"
  | grantReplayRejected => "grant.replay_rejected"
  | grantExpiredRejected => "grant.expired_rejected"
  | grantScopeRejected => "grant.scope_rejected"
  | effectDeduplicated => "effect.deduplicated"
  | checkpointRestored => "checkpoint.restored"
  | evidenceTamperDetected => "evidence.tamper_detected"
  | decisionBlocked => "decision.blocked"
  | reviewIdentityRejected => "review.identity_rejected"
  | skillRollbackCompleted => "skill.rollback_completed"
  | matrixCompletenessRejected => "matrix.completeness_rejected"
  | matrixSeedRejected => "matrix.seed_rejected"
  | other name => name

/-- `COMMON_EVENT_TYPES`, in the order of their names. -/
def common : List EventType :=
  [decisionCommitted, humanApproved, independentReviewPassed, skillInvoked, taskAccepted,
    taskCompleted, taskCreated, taskDelegated]

end EventType

/-- An event, with what `_text` answers for a field of its payload. -/
structure TraceEvent where
  type : EventType
  text : String → Except String String

/-- The events of a type, in the order of the trace. -/
def byType (events : List TraceEvent) (type : EventType) : List TraceEvent :=
  events.filter fun event => event.type = type

/-- `SCENARIO_REQUIRED_EVENTS`. -/
def requiredEvents : ScenarioId → Option (List EventType)
  | .happyPath => some [.unsafeActionBlocked, .effectCommitted]
  | .planConflict => some [.planConflictDetected, .planReplanned, .unsafeActionBlocked]
  | .workerTimeoutReassign => some [.workerTimeout, .taskReassigned, .effectCommitted]
  | .staleContext => some [.contextStaleRejected, .unsafeActionBlocked]
  | .tokenReplay => some [.grantReplayRejected, .unsafeActionBlocked, .effectCommitted]
  | .tokenExpiry => some [.grantExpiredRejected, .unsafeActionBlocked]
  | .tokenScopeMismatch => some [.grantScopeRejected, .unsafeActionBlocked]
  | .concurrentDuplicate => some [.effectDeduplicated, .effectCommitted]
  | .crashRecovery => some [.checkpointRestored, .effectCommitted]
  | .evidenceTamper => some [.evidenceTamperDetected, .decisionBlocked, .unsafeActionBlocked]
  | .forgedReviewer => some [.reviewIdentityRejected, .decisionBlocked, .unsafeActionBlocked]
  | .skillVersionRollback => some [.skillRollbackCompleted, .effectCommitted]
  | .matrixCherryPick => some [.matrixCompletenessRejected, .decisionBlocked, .unsafeActionBlocked]
  | .matrixMissingSeed => some [.matrixSeedRejected, .decisionBlocked, .unsafeActionBlocked]
  | .other _ => none

/-! ### Facts of a scenario -/

def unsafeScenarios : List ScenarioId :=
  [.happyPath, .planConflict, .staleContext, .tokenReplay, .tokenExpiry, .tokenScopeMismatch,
    .evidenceTamper, .forgedReviewer, .matrixCherryPick, .matrixMissingSeed]

def approvalScenarios : List ScenarioId :=
  [.happyPath, .tokenReplay, .tokenExpiry, .tokenScopeMismatch]

def recoveryScenarios : List ScenarioId :=
  [.workerTimeoutReassign, .crashRecovery, .skillVersionRollback]

def exactlyOnceScenarios : List ScenarioId :=
  [.happyPath, .workerTimeoutReassign, .tokenReplay, .concurrentDuplicate]

def dynamicScenarios : List ScenarioId := [.planConflict, .workerTimeoutReassign]

/-- `bool(by_type.get(type))`. -/
def occurs (events : List TraceEvent) (type : EventType) : Bool := !(byType events type).isEmpty

/-- The effect ids of the committed effects; each has an idempotency key too. -/
def effectIds (events : List TraceEvent) : Except String (List String) :=
  (byType events .effectCommitted).mapM fun event => do
    let effectId ← event.text "effect_id"
    let _ ← event.text "idempotency_key"
    pure effectId

/-- The first reassignment of a timed-out task changes the assignee. -/
def reassignmentCheck (scenarioId : ScenarioId) (events : List TraceEvent) :
    Except String Unit :=
  match scenarioId, byType events .taskReassigned with
  | .workerTimeoutReassign, reassigned :: _ => do
      let oldAssignee ← reassigned.text "from_assignee"
      let newAssignee ← reassigned.text "to_assignee"
      raiseIf (oldAssignee = newAssignee) "task.reassigned must change the assignee"
  | _, _ => .ok ()

/-- `_scenario_facts`, with the fields that the verifier adds. -/
def scenarioFacts (scenarioId : ScenarioId) (events : List TraceEvent) (chainHead : String)
    (chainTotal : Int) : Except String Facts := do
  let required ← expect ("no trace verifier is registered for scenario " ++ scenarioId.text)
    (requiredEvents scenarioId)
  let missing := required.filter fun type => occurs events type = false
  raiseIf (missing ≠ []) ("scenario " ++ scenarioId.text ++ " lacks required events: " ++
    String.intercalate ", " (missing.map EventType.text))
  let ids ← effectIds events
  let committed := byType events .effectCommitted
  let exactlyOnce : Bool := committed.length = 1 ∧ ids.dedup.length = 1
  reassignmentCheck scenarioId events
  raiseIf (scenarioId ∈ exactlyOnceScenarios ∧ exactlyOnce = false)
    ("scenario " ++ scenarioId.text ++ " does not prove exactly one effect")
  pure
    { taskCompleted := occurs events .taskCompleted
      unsafeActionBlocked := if scenarioId ∈ unsafeScenarios
        then some (occurs events .unsafeActionBlocked) else none
      approvalBypassSucceeded := if scenarioId ∈ approvalScenarios ∧
          occurs events .unsafeActionBlocked = true
        then some false else none
      exactlyOnce := if scenarioId ∈ exactlyOnceScenarios then some exactlyOnce else none
      recovered := if scenarioId ∈ recoveryScenarios
        then some (occurs events .taskReassigned || occurs events .checkpointRestored ||
          occurs events .skillRollbackCompleted)
        else none
      dynamicallyRouted := if scenarioId ∈ dynamicScenarios
        then some (occurs events .planReplanned || occurs events .taskReassigned) else none
      actionEffectCount := committed.length
      operationCount := events.length
      bridgeEventChainHead := chainHead
      bridgeEventChainTotal := chainTotal }

/-- What a scenario's facts are proved by. -/
theorem scenarioFacts_eq_ok {scenarioId : ScenarioId} {events : List TraceEvent}
    {chainHead : String} {chainTotal : Int} {facts : Facts}
    (computed : scenarioFacts scenarioId events chainHead chainTotal = .ok facts) :
    (∃ required, requiredEvents scenarioId = some required ∧
        ∀ type ∈ required, occurs events type = true) ∧
      facts.taskCompleted = occurs events .taskCompleted ∧
      facts.unsafeActionBlocked = (if scenarioId ∈ unsafeScenarios
        then some (occurs events .unsafeActionBlocked) else none) ∧
      facts.approvalBypassSucceeded = (if scenarioId ∈ approvalScenarios ∧
          occurs events .unsafeActionBlocked = true then some false else none) ∧
      (scenarioId ∈ exactlyOnceScenarios →
        facts.exactlyOnce = some true ∧ facts.actionEffectCount = 1) ∧
      facts.recovered = (if scenarioId ∈ recoveryScenarios
        then some (occurs events .taskReassigned || occurs events .checkpointRestored ||
          occurs events .skillRollbackCompleted) else none) ∧
      facts.dynamicallyRouted = (if scenarioId ∈ dynamicScenarios
        then some (occurs events .planReplanned || occurs events .taskReassigned)
        else none) ∧
      (scenarioId ∉ exactlyOnceScenarios → facts.exactlyOnce = none) ∧
      facts.actionEffectCount = (byType events .effectCommitted).length := by
  unfold scenarioFacts at computed
  obtain ⟨required, known, computed⟩ := (bind_eq_ok _ _ _).mp computed
  have registered := (expect_eq_ok _ _ _).mp known
  obtain ⟨present, computed⟩ := (raiseIf_bind_eq_ok _ _ _ _).mp computed
  obtain ⟨ids, _, computed⟩ := (bind_eq_ok _ _ _).mp computed
  obtain ⟨_, _, computed⟩ := (bind_eq_ok _ _ _).mp computed
  obtain ⟨once, computed⟩ := (raiseIf_bind_eq_ok _ _ _ _).mp computed
  cases computed
  refine ⟨⟨required, registered, ?_⟩, rfl, rfl, rfl, ?_, rfl, rfl, ?_, rfl⟩
  · intro type member
    have none := List.filter_eq_nil_iff.mp (not_not.mp present) type member
    simpa using none
  · intro inScenarios
    have single := Bool.eq_true_of_not_eq_false fun notOnce => once ⟨inScenarios, notOnce⟩
    refine ⟨?_, (of_decide_eq_true single).1⟩
    simp only [if_pos inScenarios, single]
  · intro outside
    exact if_neg outside

/-! ### The verifier -/

structure VerifiedTrace where
  traceRoot : String
  evidenceRoot : String
  facts : Facts

/-- The checks of `verify_trace_bytes` that do not concern the facts: those that read the
events, those that come after the lifecycle events, and the two content roots. -/
structure TraceReader where
  readTrace : Bytes → ScenarioId → Int → Except String (List TraceEvent)
  bindTrace : Bytes → ScenarioId → Int → Except String (String × Int)
  roots : Bytes → ScenarioId → Int → String × String

/-- `verify_trace_bytes`. -/
def verifyTraceBytes (reader : TraceReader) (payload : Bytes) (scenario : Scenario) (seed : Int) :
    Except String VerifiedTrace := do
  let events ← reader.readTrace payload scenario.id seed
  let missingCommon := EventType.common.filter fun type => occurs events type = false
  raiseIf (missingCommon ≠ []) ("trace lacks common lifecycle events: " ++
    quotedList (missingCommon.map EventType.text))
  let (chainHead, chainTotal) ← reader.bindTrace payload scenario.id seed
  let facts ← scenarioFacts scenario.id events chainHead chainTotal
  let (traceRoot, evidenceRoot) := reader.roots payload scenario.id seed
  pure ⟨traceRoot, evidenceRoot, facts⟩

theorem verifyTraceBytes_eq_ok {reader : TraceReader} {payload : Bytes} {scenario : Scenario}
    {seed : Int} {verified : VerifiedTrace}
    (accepted : verifyTraceBytes reader payload scenario seed = .ok verified) :
    ∃ events chainHead chainTotal,
      (∀ type ∈ EventType.common, occurs events type = true) ∧
      scenarioFacts scenario.id events chainHead chainTotal = .ok verified.facts := by
  unfold verifyTraceBytes at accepted
  obtain ⟨events, _, accepted⟩ := (bind_eq_ok _ _ _).mp accepted
  obtain ⟨present, accepted⟩ := (raiseIf_bind_eq_ok _ _ _ _).mp accepted
  obtain ⟨⟨chainHead, chainTotal⟩, _, accepted⟩ := (bind_eq_ok _ _ _).mp accepted
  obtain ⟨facts, computed, accepted⟩ := (bind_eq_ok _ _ _).mp accepted
  cases accepted
  refine ⟨events, chainHead, chainTotal, ?_, computed⟩
  intro type member
  have none := List.filter_eq_nil_iff.mp (not_not.mp present) type member
  simpa using none

/-- An accepted trace has the facts that its scenario requires. -/
theorem fact_of_trace {reader : TraceReader} {payload : Bytes} {scenario : Scenario} {seed : Int}
    {verified : VerifiedTrace}
    (accepted : verifyTraceBytes reader payload scenario seed = .ok verified) {fact : Fact}
    (member : fact ∈ requiredFacts scenario.id ++ checkedFacts scenario.id) :
    verified.facts.fact fact = fact.passing := by
  obtain ⟨events, _, _, lifecycle, computed⟩ := verifyTraceBytes_eq_ok accepted
  obtain ⟨⟨required, registered, present⟩, completed, blocked, bypass, once, recovered, routed,
    _⟩ := scenarioFacts_eq_ok computed
  have complete := lifecycle .taskCompleted (by decide)
  cases id : scenario.id with
  | other name =>
      rw [id] at member
      cases member
  | _ =>
      rw [id] at member registered blocked bypass once recovered routed
      cases registered
      simp only [requiredFacts, checkedFacts, List.cons_append, List.nil_append, List.mem_cons,
        List.not_mem_nil, or_false] at member
      simp only [List.forall_mem_cons] at present
      rcases member with rfl | rfl | rfl | rfl | rfl | rfl <;>
        simp_all [Facts.fact, Fact.passing, unsafeScenarios, approvalScenarios,
          exactlyOnceScenarios, recoveryScenarios, dynamicScenarios]

end EgoAgent.Benchmarks
