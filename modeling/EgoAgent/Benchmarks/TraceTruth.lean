import EgoAgent.Benchmarks.TraceVerifier

/-!
What the facts of an accepted trace say about its events.

The verifier counts and compares; it puts only a few events in order.  So the facts
speak of the presence and the actors of events, not of which came first.
-/

namespace EgoAgent.Benchmarks

open EgoAgent.Api

section Truth

variable {φ : Type} [FloatText φ] (platform : TracePlatform φ)

/-- The recovery event of a scenario. -/
def recoveryEvent : ScenarioId → Option EventType
  | .workerTimeoutReassign => some .taskReassigned
  | .crashRecovery => some .checkpointRestored
  | .skillVersionRollback => some .skillRollbackCompleted
  | _ => none

/-- What an accepted trace with its facts says. -/
structure Truthful (scenarioId : ScenarioId) (head : TraceHead φ) (checked : Checked φ)
    (facts : Facts) : Prop where
  once : facts.exactlyOnce = some true → ∃ event, ofType head.events .effectCommitted = [event]
  blocked : facts.approvalBypassSucceeded = some false →
    ofType head.events .unsafeActionBlocked ≠ []
  granted : ∃ event ∈ ofType head.events .humanApproved,
    payloadHas event "grant_id" checked.rxp.grantId = true
  humans : ∀ event ∈ ofType head.events .humanApproved, ∃ id,
    identityOf head event = .ok (.principal id) ∧ head.kinds.get? id = some "human"
  recovered : facts.recovered = some true → ∃ type, recoveryEvent scenarioId = some type ∧
    ofType head.events type ≠ [] ∧ ofType head.events .effectCommitted ≠ []
  reviewers : ∀ review ∈ ofType head.events .independentReviewPassed, ∃ id,
    identityOf head review = .ok (.agent id) ∧
      ∀ skill ∈ ofType head.events .skillInvoked, identityOf head skill ≠ .ok (.agent id)
  lifecycle : checked.bound.map Prod.fst =
    head.events.filter fun event => (expectedKind event.type).isSome
  items : (checked.bound.map fun pair => pair.2.eventId).Nodup
  kinds : ∀ pair ∈ checked.bound, pair.2 ∈ checked.ledger.items ∧
    expectedKind pair.1.type = some pair.2.kind ∧
    field pair.1.payload "bridge_event_id" = .str pair.2.eventId ∧
    field pair.1.payload "bridge_event_hash" = .str pair.2.eventHash

/-! ### Loops -/

/-- The bound events so far: those of the lifecycle, each with an item of its own. -/
structure Binds (items : List LedgerItem) (done : List (Event φ)) (bound : Bound φ) : Prop where
  events : bound.map Prod.fst = done.filter fun event => (expectedKind event.type).isSome
  distinct : (bound.map fun pair => pair.2.eventId).Nodup
  kinds : ∀ pair ∈ bound, pair.2 ∈ items ∧ expectedKind pair.1.type = some pair.2.kind ∧
    field pair.1.payload "bridge_event_id" = .str pair.2.eventId ∧
    field pair.1.payload "bridge_event_hash" = .str pair.2.eventHash

omit [FloatText φ] in
theorem Binds.step {items : List LedgerItem} {done : List (Event φ)} {bound later : Bound φ}
    {event : Event φ} (binds : Binds items done bound)
    (ran : bindEvent items bound event = .ok later) : Binds items (done ++ [event]) later := by
  unfold bindEvent at ran
  simp only at ran
  obtain ⟨_, ran⟩ := (raiseIf_bind_eq_ok _ _ _ _).mp ran
  obtain ⟨needed, ran⟩ := (raiseIf_bind_eq_ok _ _ _ _).mp ran
  split at ran
  · next unbound =>
    cases ran
    have outside : (expectedKind event.type).isSome = false :=
      Bool.eq_false_of_not_eq_true fun kind => needed ⟨kind, unbound⟩
    refine ⟨?_, binds.distinct, binds.kinds⟩
    rw [binds.events, List.filter_append, List.filter_singleton, outside]
    exact (List.append_nil _).symm
  · obtain ⟨eventId, idText, ran⟩ := (bind_eq_ok _ _ _).mp ran
    obtain ⟨eventHash, hashText, ran⟩ := (bind_eq_ok _ _ _).mp ran
    obtain ⟨item, found, ran⟩ := (bind_eq_ok _ _ _).mp ran
    obtain ⟨sameHash, ran⟩ := (raiseIf_bind_eq_ok _ _ _ _).mp ran
    obtain ⟨unused, ran⟩ := (raiseIf_bind_eq_ok _ _ _ _).mp ran
    obtain ⟨kind, expected, ran⟩ := (bind_eq_ok _ _ _).mp ran
    obtain ⟨sameKind, ran⟩ := (raiseIf_bind_eq_ok _ _ _ _).mp ran
    cases ran
    have found := (expect_eq_ok _ _ _).mp found
    have kindOf := (expect_eq_ok _ _ _).mp expected
    have holds := List.find?_some found
    have itsId : item.eventId = eventId := of_decide_eq_true holds
    constructor
    · rw [List.map_append, binds.events, List.filter_append, List.filter_singleton, kindOf]
      rfl
    · rw [List.map_append]
      refine List.nodup_append.mpr ⟨binds.distinct, List.nodup_singleton _, ?_⟩
      intro left inBound right inNew same
      have same : left = item.eventId := same.trans (List.mem_singleton.mp inNew)
      rw [same, itsId] at inBound
      exact unused inBound
    · intro pair member
      rcases List.mem_append.mp member with old | new
      · exact binds.kinds pair old
      · rw [List.mem_singleton.mp new]
        refine ⟨List.mem_of_find?_eq_some found, ?_, ?_, ?_⟩
        · rw [kindOf, not_not.mp sameKind]
        · rw [itsId]
          exact textOf_eq_ok idText
        · rw [not_not.mp sameHash]
          exact rawDigest_eq_ok hashText

omit [FloatText φ] in
theorem Binds.run {items : List LedgerItem} (rest : List (Event φ)) :
    ∀ {done : List (Event φ)} {bound later : Bound φ}, Binds items done bound →
      rest.foldlM (bindEvent items) bound = .ok later → Binds items (done ++ rest) later := by
  induction rest with
  | nil =>
      intro done bound later binds ran
      cases ran
      rw [List.append_nil]
      exact binds
  | cons event rest ih =>
      intro done bound later binds ran
      rw [List.foldlM_cons] at ran
      obtain ⟨middle, ofEvent, ran⟩ := (bind_eq_ok _ _ _).mp ran
      have binds := ih (binds.step ofEvent) ran
      rw [List.append_assoc, List.singleton_append] at binds
      exact binds

/-! ### Checks -/

omit [FloatText φ] in
variable {head : TraceHead φ}

/-- The approvals are a human's, and the reviewers are agents that invoked no skill. -/
theorem checkActors_eq_ok (checked : checkActors head = .ok ()) :
    (∀ event ∈ ofType head.events .humanApproved, ∃ id,
      identityOf head event = .ok (.principal id) ∧ head.kinds.get? id = some "human") ∧
    ∀ review ∈ ofType head.events .independentReviewPassed, ∃ id,
      identityOf head review = .ok (.agent id) ∧
        ∀ skill ∈ ofType head.events .skillInvoked, identityOf head skill ≠ .ok (.agent id) := by
  unfold checkActors at checked
  obtain ⟨_, _, checked⟩ := (bind_eq_ok _ _ _).mp checked
  obtain ⟨_, _, checked⟩ := (bind_eq_ok _ _ _).mp checked
  obtain ⟨_, checked⟩ := (raiseIf_bind_eq_ok _ _ _ _).mp checked
  obtain ⟨_, _, checked⟩ := (bind_eq_ok _ _ _).mp checked
  obtain ⟨_, humans, checked⟩ := (bind_eq_ok _ _ _).mp checked
  obtain ⟨_, _, checked⟩ := (bind_eq_ok _ _ _).mp checked
  obtain ⟨_, reviewers, checked⟩ := (bind_eq_ok _ _ _).mp checked
  obtain ⟨independent, _⟩ := (raiseIf_bind_eq_ok _ _ _ _).mp checked
  constructor
  · intro event member
    have human := forM_eq_ok humans event member
    unfold checkPrincipal at human
    obtain ⟨identity, known, human⟩ := (bind_eq_ok _ _ _).mp human
    cases identity with
    | agent id => cases human
    | principal id => exact ⟨id, known, not_not.mp ((raiseIf_eq_ok _ _ _).mp human)⟩
  · intro review member
    have isAgent := (raiseIf_eq_ok _ _ _).mp (forM_eq_ok reviewers review member)
    obtain ⟨id, acts⟩ := Option.isSome_iff_exists.mp (Bool.eq_true_of_not_eq_false isAgent)
    have identity : ∀ event, agentOf head event = some id ↔
        identityOf head event = .ok (.agent id) := by
      intro event
      unfold agentOf
      split
      · next other known =>
        rw [known]
        simp
      · next none =>
        constructor
        · intro impossible
          cases impossible
        · intro known
          exact absurd known (none id)
    refine ⟨id, (identity review).mp acts, ?_⟩
    intro skill inSkills known
    exact independent ⟨id, List.mem_filterMap.mpr ⟨review, member, acts⟩,
      List.mem_filterMap.mpr ⟨skill, inSkills, (identity skill).mpr known⟩⟩

omit [FloatText φ] in
/-- The grant of the trace is bound by an approval. -/
theorem readRxp_eq_ok {rxp : Rxp} (read : readRxp head = .ok rxp) :
    ∃ event ∈ ofType head.events .humanApproved,
      payloadHas event "grant_id" rxp.grantId = true := by
  unfold readRxp at read
  iterate 8 obtain ⟨_, _, read⟩ := (bind_eq_ok _ _ _).mp read
  obtain ⟨_, grant, read⟩ := (bind_eq_ok _ _ _).mp read
  iterate 3 obtain ⟨_, _, read⟩ := (bind_eq_ok _ _ _).mp read
  obtain ⟨_, read⟩ := (raiseIf_bind_eq_ok _ _ _ _).mp read
  cases read
  exact List.any_eq_true.mp (Bool.eq_true_of_not_eq_false ((raiseIf_eq_ok _ _ _).mp grant))

/-- What an accepted trace was checked for. -/
theorem checkTrace_eq_ok {checked : Checked φ} (ran : checkTrace platform head = .ok checked) :
    checkActors head = .ok () ∧ readRxp head = .ok checked.rxp ∧
      Binds checked.ledger.items head.events checked.bound := by
  unfold checkTrace at ran
  obtain ⟨_, actors, ran⟩ := (bind_eq_ok _ _ _).mp ran
  obtain ⟨rxp, read, ran⟩ := (bind_eq_ok _ _ _).mp ran
  iterate 6 obtain ⟨_, _, ran⟩ := (bind_eq_ok _ _ _).mp ran
  obtain ⟨ledger, _, ran⟩ := (bind_eq_ok _ _ _).mp ran
  obtain ⟨bound, folded, ran⟩ := (bind_eq_ok _ _ _).mp ran
  obtain ⟨_, ran⟩ := (raiseIf_bind_eq_ok _ _ _ _).mp ran
  obtain ⟨_, _, ran⟩ := (bind_eq_ok _ _ _).mp ran
  cases ran
  have started : Binds ledger.items ([] : List (Event φ)) [] :=
    ⟨rfl, List.nodup_nil, fun _ member => absurd member List.not_mem_nil⟩
  exact ⟨actors, read, Binds.run head.events started folded⟩

omit [FloatText φ] in
theorem occurs_iff (events : List (Event φ)) (type : EventType) :
    occurs (events.map Event.traceEvent) type = true ↔ ofType events type ≠ [] := by
  unfold occurs byType ofType
  rw [List.filter_map, Bool.not_eq_true', List.isEmpty_eq_false_iff, Ne, List.map_eq_nil_iff]
  rfl

omit [FloatText φ] in
/-- The committed effects of the facts are those of the trace. -/
theorem committed_length (events : List (Event φ)) (type : EventType) :
    (byType (events.map Event.traceEvent) type).length = (ofType events type).length := by
  unfold byType ofType
  rw [List.filter_map, List.length_map]
  rfl

/-- The facts of an accepted trace are true of it: what is committed exactly once, which
events are there, who acted in them, and which ledger items they bind. -/
theorem verified_facts_truthful {payload : Bytes} {scenario : Scenario} {seed : Int}
    {verified : VerifiedTrace}
    (accepted : verifyTraceBytes (traceReader platform) payload scenario seed = .ok verified) :
    ∃ head checked, readHead platform payload scenario.id seed = .ok head ∧
      checkTrace platform head = .ok checked ∧
      Truthful scenario.id head checked verified.facts := by
  unfold verifyTraceBytes at accepted
  obtain ⟨events, readEvents, accepted⟩ := (bind_eq_ok _ _ _).mp accepted
  obtain ⟨head, readsHead, rfl⟩ : ∃ head,
      readHead platform payload scenario.id seed = .ok head ∧
        events = head.events.map Event.traceEvent := by
    obtain ⟨head, readsHead, mapped⟩ := (bind_eq_ok _ _ _).mp readEvents
    cases mapped
    exact ⟨head, readsHead, rfl⟩
  obtain ⟨_, accepted⟩ := (raiseIf_bind_eq_ok _ _ _ _).mp accepted
  obtain ⟨⟨chainHead, chainTotal⟩, bindsTrace, accepted⟩ := (bind_eq_ok _ _ _).mp accepted
  obtain ⟨facts, computed, accepted⟩ := (bind_eq_ok _ _ _).mp accepted
  cases accepted
  obtain ⟨⟨again, checked⟩, readAll, _⟩ := (bind_eq_ok _ _ _).mp bindsTrace
  obtain ⟨sameHead, readAgain, readAll⟩ := (bind_eq_ok _ _ _).mp readAll
  obtain ⟨itsChecked, ran, readAll⟩ := (bind_eq_ok _ _ _).mp readAll
  cases readAll
  cases readsHead.symm.trans readAgain
  have ⟨actors, read, binds⟩ := checkTrace_eq_ok platform ran
  have ⟨humans, reviewers⟩ := checkActors_eq_ok actors
  obtain ⟨⟨required, registered, present⟩, _, _, bypass, once, recovered, _, outside, count⟩ :=
    scenarioFacts_eq_ok computed
  refine ⟨head, checked, readsHead, ran, ?_, ?_, readRxp_eq_ok read, humans, ?_, reviewers,
    binds.events, binds.distinct, binds.kinds⟩
  · intro isOnce
    have inScenarios : scenario.id ∈ exactlyOnceScenarios := by
      by_contra notOnce
      cases (outside notOnce).symm.trans isOnce
    have single := (once inScenarios).2
    rw [count, committed_length] at single
    exact List.length_eq_one_iff.mp single
  · intro isFalse
    rw [bypass] at isFalse
    split at isFalse
    · next shown => exact (occurs_iff _ _).mp shown.2
    · cases isFalse
  · intro isRecovered
    rw [recovered] at isRecovered
    split at isRecovered
    · next inScenarios =>
      have shown : ∀ type ∈ required, ofType head.events type ≠ [] :=
        fun type member => (occurs_iff _ _).mp (present type member)
      cases id : scenario.id <;> rw [id] at inScenarios registered <;>
        simp only [recoveryScenarios, List.mem_cons, List.not_mem_nil, reduceCtorEq, or_false,
          or_self] at inScenarios
      all_goals
        cases registered
        exact ⟨_, rfl, shown _ (by simp), shown _ (by simp)⟩
    · cases isRecovered

end Truth

namespace TraceSample

def zeros : String := String.ofList (List.replicate 64 '0')

def agent (id role matrixId : String) : Json Empty := .dict
  [("id", .str id), ("role", .str role), ("matrix_user_id", .str matrixId), ("source", .str "s")]

def principal (id kind : String) : Json Empty := .dict
  [("id", .str id), ("kind", .str kind), ("source", .str "s")]

/-- An item of the ledger; its hashes are all zero. -/
def ledgerItem (index : Nat) (eventId kind : String) : Json Empty := .dict
  [("sequence", .int index), ("event_id", .str eventId), ("run_id", .str "r"),
    ("kind", .str kind), ("previous_hash", .str zeros), ("event_hash", .str zeros),
    ("created_at", .str "t"),
    ("envelope", .dict
      [("schema", .str "egoagentos.agentteams-envelope.v2"), ("envelope_id", .str "v"),
        ("task_id", .str "t"), ("project_id", .str "p"), ("trace_id", .str "x"),
        ("correlation_id", .str "c"), ("context_version", .int 1), ("attempt", .int 1),
        ("kind", .str kind), ("sender", .str "b"), ("recipient", .str "e"),
        ("causation_id", .null), ("body", .dict []), ("body_sha256", .str zeros),
        ("created_at", .str "t")])]

def eventOf (index : Nat) (type : EventType) (actor : String)
    (payload : List (String × Json Empty)) : Json Empty := .dict
  [("sequence", .int index), ("type", .str type.text), ("actor", .str actor),
    ("task_id", .str "t"), ("correlation_id", .str "c"), ("payload", .dict payload)]

def binding (eventId : String) : List (String × Json Empty) :=
  [("bridge_event_id", .str eventId), ("bridge_event_hash", .str zeros)]

/-- A trace with these events; the ledger ends the task before the approval. -/
def document (scenarioId : ScenarioId) (events : List (Json Empty)) : Json Empty := .dict
  [("schema_version", .str "egoagentos.agentteams-trace/v1"), ("source", .str "AgentTeams"),
    ("execution_mode", .str "real-agentteams"), ("external_origin_status", .str "UNVERIFIED"),
    ("seed", .int 7), ("scenario_id", .str scenarioId.text), ("project_id", .str "p"),
    ("task_id", .str "t"), ("correlation_id", .str "c"), ("trace_id", .str "x"),
    ("context_version", .int 1),
    ("agents", .list [agent "e" "runtime" "me", agent "w" "reviewer" "mw",
      agent "l" "planner" "ml"]),
    ("principals", .list [principal "b" "bridge", principal "h" "human", principal "g" "ego"]),
    ("events", .list events),
    ("rxp", .dict [("intent_digest", .str zeros), ("grant_id", .str "q"),
      ("receipt_digest", .str zeros), ("evidence_digest", .str zeros), ("matrix_root", .str "m")]),
    ("bridge", .dict [("api_version", .str "v1"), ("endpoint", .str "/"), ("run_id", .str "r")]),
    ("official_contract", .dict
      [("repository", .str "https://github.com/agentscope-ai/AgentTeams"),
        ("main_commit", .str (String.ofList (List.replicate 40 'a'))), ("api_version", .str "v1"),
        ("controller", .str "c")]),
    ("official_response_identifiers", .dict
      [("project_id", .str "p"), ("project_create_sha256", .str zeros), ("matrix_root", .str "m"),
        ("approval_matrix_event_id", .str "a"), ("workflow_sha256", .list [.str zeros])]),
    ("snapshots", .list [.dict [("workflow_sha256", .str zeros)]]),
    ("bridge_event_chain", .dict
      [("valid", .bool true), ("hash_algorithm", .str "sha256-canonical-json-v1"),
        ("external_origin_status", .str "UNVERIFIED"), ("total", .int 5), ("head", .str zeros),
        ("source_ledger_total", .int 5),
        ("items", .list [ledgerItem 1 "1" "TASK_REQUEST", ledgerItem 2 "2" "TASK_UPDATE",
          ledgerItem 3 "3" "ARTIFACT_ACCEPTED", ledgerItem 4 "5" "TERMINAL",
          ledgerItem 5 "4" "APPROVAL_GRANTED"])]),
    ("replay", .dict [("run_ids", .list [.str "1", .str "2"]),
      ("semantic_digests", .list [.str zeros, .str zeros])]),
    ("truth_boundary", .str "b")]

/-- The events of a task whose effect the reviewer commits before the approval. -/
def eventsWith (recovery : List (Json Empty)) (next : Nat) : List (Json Empty) :=
  [eventOf 1 .taskCreated "b" (binding "1" ++ [("intent_digest", .str zeros),
      ("matrix_root", .str "m")]),
    eventOf 2 .taskDelegated "b" (binding "2" ++ [("assignee", .str "me")]),
    eventOf 3 .taskAccepted "b" (binding "3"),
    eventOf 4 .skillInvoked "e" [("tool", .str "k"), ("session_id", .str "n"),
      ("message_seq", .int 1), ("source_endpoint", .str "/"),
      ("official_response_sha256", .str zeros)],
    eventOf 5 .effectCommitted "w" [("effect_id", .str "f"), ("idempotency_key", .str "i")],
    eventOf 6 .humanApproved "h" (binding "4" ++ [("grant_id", .str "q"),
      ("receipt_digest", .str zeros)])] ++ recovery ++
  [eventOf next .independentReviewPassed "w" [("evidence_digest", .str zeros)],
    eventOf (next + 1) .taskCompleted "e" (binding "5"),
    eventOf (next + 2) .decisionCommitted "g" [("evidence_digest", .str zeros)]]

def happyEvents : List (Json Empty) := eventsWith [eventOf 7 .unsafeActionBlocked "b" []] 8

def recoveredEvents : List (Json Empty) :=
  eventsWith [eventOf 7 .workerTimeout "b" [], eventOf 8 .taskReassigned "b"
    [("from_assignee", .str "me"), ("to_assignee", .str "ml")]] 9

/-- Libraries that read every payload as the document. -/
def platform (scenarioId : ScenarioId) (events : List (Json Empty)) : TracePlatform Empty :=
  { sha256 := fun _ => 0
    parse := fun _ => some (document scenarioId events)
    intOf := fun number => nomatch number
    instant := fun _ => some (some 0)
    lower := id
    secretText := fun _ => false }

/-- What the verifier makes of the document. -/
def outcome (scenarioId : ScenarioId) (events : List (Json Empty)) :
    Option (TraceHead Empty × Checked Empty × VerifiedTrace) := do
  let head ← (readHead (platform scenarioId events) [123, 125] scenarioId 7).toOption
  let checked ← (checkTrace (platform scenarioId events) head).toOption
  let verified ← (verifyTraceBytes (traceReader (platform scenarioId events)) [123, 125]
    ⟨scenarioId⟩ 7).toOption
  some (head, checked, verified)

private theorem toOption_eq_some {α ε : Type} {value : Except ε α} {item : α}
    (some' : value.toOption = some item) : value = .ok item := by
  cases value with
  | error error => cases some'
  | ok other => exact congrArg Except.ok (Option.some.inj some')

theorem outcome_eq_some {scenarioId : ScenarioId} {events : List (Json Empty)}
    {head : TraceHead Empty} {checked : Checked Empty} {verified : VerifiedTrace}
    (computed : outcome scenarioId events = some (head, checked, verified)) :
    readHead (platform scenarioId events) [123, 125] scenarioId 7 = .ok head ∧
      checkTrace (platform scenarioId events) head = .ok checked ∧
      verifyTraceBytes (traceReader (platform scenarioId events)) [123, 125] ⟨scenarioId⟩ 7 =
        .ok verified := by
  obtain ⟨_, readsHead, computed⟩ := Option.bind_eq_some_iff.mp computed
  obtain ⟨_, checks, computed⟩ := Option.bind_eq_some_iff.mp computed
  obtain ⟨_, accepts, computed⟩ := Option.bind_eq_some_iff.mp computed
  cases computed
  exact ⟨toOption_eq_some readsHead, toOption_eq_some checks, toOption_eq_some accepts⟩

/-- The first effect comes before every event of a type. -/
def effectBefore (head : TraceHead Empty) (type : EventType) : Prop :=
  ∃ effect ∈ ofType head.events .effectCommitted, ∀ event ∈ ofType head.events type,
    effect.sequence < event.sequence

instance (head : TraceHead Empty) (type : EventType) : Decidable (effectBefore head type) :=
  inferInstanceAs (Decidable (∃ _ ∈ _, _))

theorem happy_outcome : (outcome .happyPath happyEvents).any (fun (head, checked, verified) =>
    decide (verified.facts.approvalBypassSucceeded = some false ∧
      effectBefore head .humanApproved ∧
      (∃ effect ∈ ofType head.events .effectCommitted,
        ∃ review ∈ ofType head.events .independentReviewPassed, review.actor = effect.actor) ∧
      checked.ledger.items.map LedgerItem.eventId = ["1", "2", "3", "5", "4"] ∧
      checked.bound.map (fun pair => pair.2.eventId) = ["1", "2", "3", "4", "5"])) = true := by
  decide +kernel

theorem recovered_outcome : (outcome .workerTimeoutReassign recoveredEvents).any
    (fun (head, _, verified) => decide (verified.facts.recovered = some true ∧
      effectBefore head .taskReassigned)) = true := by
  decide +kernel

/-- Two accepted traces.  On the happy path the reviewer commits the effect before the
approval, and the ledger has the end of the task before it; after the timeout the effect
is committed before the reassignment. -/
theorem facts_without_order :
    (∃ head checked verified,
      readHead (platform .happyPath happyEvents) [123, 125] .happyPath 7 = .ok head ∧
      checkTrace (platform .happyPath happyEvents) head = .ok checked ∧
      verifyTraceBytes (traceReader (platform .happyPath happyEvents)) [123, 125]
        ⟨.happyPath⟩ 7 = .ok verified ∧
      verified.facts.approvalBypassSucceeded = some false ∧ effectBefore head .humanApproved ∧
      (∃ effect ∈ ofType head.events .effectCommitted,
        ∃ review ∈ ofType head.events .independentReviewPassed, review.actor = effect.actor) ∧
      checked.ledger.items.map LedgerItem.eventId = ["1", "2", "3", "5", "4"] ∧
      checked.bound.map (fun pair => pair.2.eventId) = ["1", "2", "3", "4", "5"]) ∧
    ∃ head verified,
      readHead (platform .workerTimeoutReassign recoveredEvents) [123, 125]
        .workerTimeoutReassign 7 = .ok head ∧
      verifyTraceBytes (traceReader (platform .workerTimeoutReassign recoveredEvents)) [123, 125]
        ⟨.workerTimeoutReassign⟩ 7 = .ok verified ∧
      verified.facts.recovered = some true ∧ effectBefore head .taskReassigned := by
  constructor
  · obtain ⟨⟨head, checked, verified⟩, computed, holds⟩ :=
      (Option.any_eq_true _ _).mp happy_outcome
    obtain ⟨readsHead, checks, accepts⟩ := outcome_eq_some computed
    exact ⟨head, checked, verified, readsHead, checks, accepts, of_decide_eq_true holds⟩
  · obtain ⟨⟨head, checked, verified⟩, computed, holds⟩ :=
      (Option.any_eq_true _ _).mp recovered_outcome
    obtain ⟨readsHead, _, accepts⟩ := outcome_eq_some computed
    exact ⟨head, verified, readsHead, accepts, of_decide_eq_true holds⟩

theorem verified_facts_truthful_sample : ∃ (head : TraceHead Empty) (checked : Checked Empty)
    (verified : VerifiedTrace),
    verifyTraceBytes (traceReader (platform .happyPath happyEvents)) [123, 125] ⟨.happyPath⟩ 7 =
      .ok verified ∧ Truthful .happyPath head checked verified.facts := by
  obtain ⟨⟨_, _, verified⟩, computed, _⟩ := (Option.any_eq_true _ _).mp happy_outcome
  have accepts := (outcome_eq_some computed).2.2
  obtain ⟨head, checked, _, _, truthful⟩ :=
    verified_facts_truthful (platform .happyPath happyEvents) accepts
  exact ⟨head, checked, verified, accepts, truthful⟩

end TraceSample

end EgoAgent.Benchmarks
