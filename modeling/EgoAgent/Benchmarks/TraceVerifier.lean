import EgoAgent.Benchmarks.TraceDocument

/-!
The checks of `verify_trace_bytes` behind the lifecycle events: their order and actors,
the RXP bindings, the exported bridge ledger, and the events that bind its items.
-/

namespace EgoAgent.Benchmarks

open EgoAgent.Api

section Checks

variable {φ : Type} [FloatText φ] (platform : TracePlatform φ)

/-! ### The bridge ledger -/

def bridgeLedgerKinds : List String :=
  ["TASK_REQUEST", "TASK_UPDATE", "ARTIFACT_ACCEPTED", "CONFLICT", "REPLAN", "APPROVAL_REQUIRED",
    "APPROVAL_GRANTED", "COMPENSATION", "TERMINAL"]

def bridgeLedgerItemKeys : List String :=
  ["sequence", "event_id", "run_id", "kind", "envelope", "previous_hash", "event_hash",
    "created_at"]

def bridgeEnvelopeRequiredKeys : List String :=
  ["schema", "envelope_id", "task_id", "project_id", "trace_id", "correlation_id",
    "context_version", "attempt", "kind", "sender", "recipient", "causation_id", "body",
    "body_sha256", "created_at"]

def secretFieldNames : List String :=
  ["access_token", "api_key", "approval_token", "auth_token", "authorization", "client_secret",
    "password", "private_key", "refresh_token"]

/-- Whether an object has exactly these keys. -/
def hasKeys (members : Members φ) (keys : List String) : Bool :=
  (members.keys.all fun key => key ∈ keys) && keys.all fun key => key ∈ members.keys

mutual

/-- `_assert_secret_free`. -/
def assertSecretFree (label : String) : Json φ → Except String Unit
  | .dict members => assertSecretFreeMembers label members
  | .list items => assertSecretFreeItems label 0 items
  | .str text =>
      raiseIf (platform.secretText text = true) (label ++ " contains possible secret material")
  | _ => .ok ()

def assertSecretFreeItems (label : String) (index : Nat) : List (Json φ) → Except String Unit
  | [] => .ok ()
  | item :: rest => do
      assertSecretFree (label ++ "[" ++ toString index ++ "]") item
      assertSecretFreeItems label (index + 1) rest

def assertSecretFreeMembers (label : String) : List (String × Json φ) → Except String Unit
  | [] => .ok ()
  | (key, value) :: rest => do
      raiseIf (platform.lower key ∈ secretFieldNames)
        (label ++ " contains forbidden secret field " ++ key)
      assertSecretFree (label ++ "." ++ key) value
      assertSecretFreeMembers label rest

end

/-- `canonical_sha256`, of a value whose numbers are finite. -/
def sha256Of (value : Json φ) : Except String String :=
  match canonicalSha256 platform.sha256 value with
  | .ok digest => .ok digest
  | .error _ => .error "Out of range float values are not JSON compliant"

/-- An item of the ledger, by what later checks read of it. -/
structure LedgerItem where
  eventId : String
  kind : String
  eventHash : String
  deriving DecidableEq

/-- The items so far; the hash of the last one is the next one's predecessor. -/
def expectedPrevious (items : List LedgerItem) : String :=
  match items.getLast? with
  | some item => item.eventHash
  | none => String.ofList (List.replicate 64 '0')

/-- The identities of an envelope that are not the trace's. -/
def identityMismatch (head : TraceHead φ) (envelope : Members φ) : List String :=
  (["task_id", "project_id", "trace_id", "correlation_id"].zip
      [head.taskId, head.projectId, head.traceId, head.correlationId]).filterMap
    (fun (key, value) => if equalsText (field envelope key) value then none else some key) ++
  if equalsInt platform (field envelope "context_version") head.contextVersion then []
  else ["context_version"]

/-- The checks of an envelope against its item and the trace, with the time of the item. -/
def checkEnvelope (head : TraceHead φ) (label kind : String) (item envelope : Members φ) :
    Except String String := do
  raiseIf (hasKeys envelope bridgeEnvelopeRequiredKeys = false)
    (label ++ " envelope fields do not match the v2 contract")
  assertSecretFree platform (label ++ ".envelope") (.dict envelope)
  raiseIf (equalsText (field envelope "schema") "egoagentos.agentteams-envelope.v2" = false)
    "bridge event envelope schema is unsupported"
  raiseIf (equalsText (field envelope "kind") kind = false)
    "bridge event kind differs from its envelope"
  let mismatch := identityMismatch platform head envelope
  raiseIf (mismatch ≠ []) ("bridge event envelope identity mismatch: " ++ quotedList mismatch)
  let _ ← positiveInteger (label ++ ".envelope.attempt") (field envelope "attempt")
  let _ ← textOf (label ++ ".envelope.envelope_id") (field envelope "envelope_id")
  let _ ← textOf (label ++ ".envelope.sender") (field envelope "sender")
  let _ ← textOf (label ++ ".envelope.recipient") (field envelope "recipient")
  let body ← objectOf (label ++ ".envelope.body") (field envelope "body")
  let bodySha256 ← sha256Of platform (.dict body)
  raiseIf (equalsText (field envelope "body_sha256") bodySha256 = false)
    "bridge event envelope body digest mismatch"
  let createdAt ← textOf (label ++ ".created_at") (field item "created_at")
  let envelopeCreatedAt ← textOf (label ++ ".envelope.created_at") (field envelope "created_at")
  match platform.instant createdAt, platform.instant envelopeCreatedAt with
  | some (some timestamp), some (some envelopeTimestamp) => do
      raiseIf (timestamp ≠ envelopeTimestamp) "bridge event envelope created_at mismatch"
      pure createdAt
  | some _, some _ => .error "bridge event created_at must be timezone-aware"
  | _, _ => .error "bridge event created_at is not ISO-8601"

/-- One item of the ledger. -/
def readItem (head : TraceHead φ) (runId : String) (items : List LedgerItem)
    (entry : Json φ × Nat) : Except String (List LedgerItem) := do
  let label := "bridge_event_chain.items[" ++ toString entry.2 ++ "]"
  let item ← objectOf label entry.1
  raiseIf (hasKeys item bridgeLedgerItemKeys = false)
    (label ++ " fields do not match the durable ledger contract")
  let sequence ← positiveInteger (label ++ ".sequence") (field item "sequence")
  raiseIf (sequence ≠ entry.2 + 1) "bridge event chain sequence is not contiguous"
  let eventId ← textOf (label ++ ".event_id") (field item "event_id")
  raiseIf (eventId ∈ items.map LedgerItem.eventId) "bridge event chain contains duplicate event_id"
  raiseIf (equalsText (field item "run_id") runId = false)
    "bridge event chain item run_id mismatch"
  let kind ← textOf (label ++ ".kind") (field item "kind")
  raiseIf (kind ∉ bridgeLedgerKinds) "bridge event kind is unsupported"
  let envelope ← objectOf (label ++ ".envelope") (field item "envelope")
  let createdAt ← checkEnvelope platform head label kind item envelope
  let previousHash ← rawDigest (label ++ ".previous_hash") (field item "previous_hash")
  raiseIf (previousHash ≠ expectedPrevious items) "bridge event chain previous_hash mismatch"
  let expectedHash ← sha256Of platform (.dict [("event_id", .str eventId), ("run_id", .str runId),
    ("kind", .str kind), ("envelope", .dict envelope), ("previous_hash", .str previousHash),
    ("created_at", .str createdAt)])
  let eventHash ← rawDigest (label ++ ".event_hash") (field item "event_hash")
  raiseIf (eventHash ≠ expectedHash) "bridge event chain event_hash mismatch"
  pure (items ++ [⟨eventId, kind, eventHash⟩])

structure Ledger where
  head : String
  total : Int
  items : List LedgerItem

/-- `_verify_bridge_event_chain`. -/
def verifyBridgeEventChain (head : TraceHead φ) (runId : String) (chain : Members φ) :
    Except String Ledger := do
  raiseIf (equalsText (field chain "hash_algorithm") "sha256-canonical-json-v1" = false)
    "bridge event chain hash_algorithm is unsupported"
  raiseIf (equalsText (field chain "external_origin_status") "UNVERIFIED" = false)
    "bridge event chain external origin must remain UNVERIFIED"
  let entries ← arrayOf "bridge_event_chain.items" (field chain "items")
  raiseIf (entries = []) "bridge event chain items must be non-empty"
  let total ← positiveInteger "bridge_event_chain.total" (field chain "total")
  let sourceTotal ← positiveInteger "bridge_event_chain.source_ledger_total"
    (field chain "source_ledger_total")
  raiseIf (total ≠ entries.length ∨ sourceTotal ≠ total)
    "bridge event chain total does not match its durable items"
  let items ← entries.zipIdx.foldlM (readItem platform head runId) []
  let chainHead ← rawDigest "bridge_event_chain.head" (field chain "head")
  raiseIf (chainHead ≠ expectedPrevious items) "bridge event chain head mismatch"
  raiseIf (¬ (field chain "valid") matches .bool true)
    "adapter did not report a valid bridge event chain"
  pure ⟨chainHead, total, items⟩

/-! ### Events and the ledger -/

/-- `expected_bridge_kinds`. -/
def expectedKind : EventType → Option String
  | .taskCreated => some "TASK_REQUEST"
  | .taskDelegated => some "TASK_UPDATE"
  | .taskAccepted => some "ARTIFACT_ACCEPTED"
  | .humanApproved => some "APPROVAL_GRANTED"
  | .taskCompleted => some "TERMINAL"
  | _ => none

/-- The events that are bound so far, each to its item. -/
abbrev Bound (φ : Type) : Type := List (Event φ × LedgerItem)

def bindEvent (items : List LedgerItem) (bound : Bound φ) (event : Event φ) :
    Except String (Bound φ) := do
  let hasId := has event.payload "bridge_event_id"
  raiseIf (hasId ≠ has event.payload "bridge_event_hash")
    "trace event bridge ledger binding requires both event_id and event_hash"
  raiseIf ((expectedKind event.type).isSome = true ∧ hasId = false)
    (event.type.text ++ " lacks a bridge ledger binding")
  if hasId = false then pure bound
  else do
    let eventId ← textOf "event.payload.bridge_event_id" (field event.payload "bridge_event_id")
    let eventHash ← rawDigest "event.payload.bridge_event_hash"
      (field event.payload "bridge_event_hash")
    let item ← expect "trace event does not bind a verified bridge ledger item"
      (items.find? fun item => item.eventId = eventId)
    raiseIf (item.eventHash ≠ eventHash)
      "trace event does not bind a verified bridge ledger item"
    raiseIf (eventId ∈ bound.map fun pair => pair.2.eventId)
      "trace lifecycle events cannot reuse a bridge ledger item"
    let kind ← expect "unexpected trace event carries a bridge ledger binding"
      (expectedKind event.type)
    raiseIf (item.kind ≠ kind) (event.type.text ++ " binds the wrong bridge ledger kind")
    pure (bound ++ [(event, item)])

/-! ### Lifecycle and actors -/

def ofType (events : List (Event φ)) (type : EventType) : List (Event φ) :=
  events.filter fun event => event.type = type

/-- The sequence of the first event of a type. -/
def firstIndex (events : List (Event φ)) (type : EventType) : Int :=
  ((ofType events type).head?.map Event.sequence).getD 0

def lastIndex (events : List (Event φ)) (type : EventType) : Int :=
  ((ofType events type).getLast?.map Event.sequence).getD 0

def checkOrder (events : List (Event φ)) : Except String Unit := do
  raiseIf (¬ (firstIndex events .taskCreated < firstIndex events .taskDelegated ∧
      firstIndex events .taskDelegated < firstIndex events .taskAccepted ∧
      firstIndex events .taskAccepted < lastIndex events .taskCompleted ∧
      lastIndex events .taskCompleted < lastIndex events .decisionCommitted))
    "task lifecycle events are out of order"
  raiseIf (lastIndex events .decisionCommitted ≤ lastIndex events .independentReviewPassed)
    "independent review must precede the decision"

def checkDelegation (head : TraceHead φ) (event : Event φ) : Except String Unit := do
  let assignee ← textOf "task.delegated.payload.assignee" (field event.payload "assignee")
  raiseIf ((head.agents.aliases.get? assignee).isSome = false)
    "delegated assignee is not an AgentTeams worker"

def checkSkill (event : Event φ) : Except String Unit := do
  let _ ← textOf "skill.invoked.payload.tool" (field event.payload "tool")
  let _ ← textOf "skill.invoked.payload.session_id" (field event.payload "session_id")
  match field event.payload "message_seq" with
  | .int number => raiseIf (number < 1) "skill.invoked.payload.message_seq must be positive"
  | _ => .error "skill.invoked.payload.message_seq must be positive"
  let _ ← textOf "skill.invoked.payload.source_endpoint" (field event.payload "source_endpoint")
  let _ ← rawDigest "skill.invoked.payload.official_response_sha256"
    (field event.payload "official_response_sha256")
  pure ()

def identityOf (head : TraceHead φ) (event : Event φ) : Except String Identity :=
  canonicalAgent head.agents head.kinds event.actor

/-- The actor is a principal of a kind. -/
def checkPrincipal (head : TraceHead φ) (kind message : String) (event : Event φ) :
    Except String Unit := do
  let identity ← identityOf head event
  match identity with
  | .principal id => raiseIf (head.kinds.get? id ≠ some kind) message
  | .agent _ => .error message

/-- The agent that acts, if it is one. -/
def agentOf (head : TraceHead φ) (event : Event φ) : Option String :=
  match identityOf head event with
  | .ok (.agent id) => some id
  | _ => none

/-- The agents that acted in the events of a type. -/
def agentsOf (head : TraceHead φ) (type : EventType) : List String :=
  (ofType head.events type).filterMap (agentOf head)

def checkReviewer (head : TraceHead φ) (event : Event φ) : Except String Unit :=
  raiseIf ((agentOf head event).isSome = false)
    "independent review must be performed by an AgentTeams agent"

/-- The lifecycle in order, and each kind of event done by who may do it. -/
def checkActors (head : TraceHead φ) : Except String Unit := do
  checkOrder head.events
  (ofType head.events .taskDelegated).forM (checkDelegation head)
  raiseIf (agentsOf head .skillInvoked = [])
    "skill.invoked must be performed by an AgentTeams worker"
  (ofType head.events .skillInvoked).forM checkSkill
  (ofType head.events .humanApproved).forM (checkPrincipal head "human"
    "human.approved must be performed by a human principal")
  (ofType head.events .taskAccepted).forM (checkPrincipal head "bridge"
    "task.accepted must be performed by the bridge principal")
  (ofType head.events .independentReviewPassed).forM (checkReviewer head)
  raiseIf (∃ id ∈ agentsOf head .independentReviewPassed, id ∈ agentsOf head .skillInvoked)
    "reviewer must be independent from skill executors"
  (ofType head.events .decisionCommitted).forM (checkPrincipal head "ego"
    "decision must be committed by the Ego principal")

/-! ### Bindings -/

structure Rxp where
  intentDigest : String
  grantId : String
  receiptDigest : String
  evidenceDigest : String
  matrixRoot : String

/-- `_event_payload_has`. -/
def payloadHas (event : Event φ) (key expected : String) : Bool :=
  equalsText (field event.payload key) expected || occursIn expected (.dict event.payload)

/-- `_require_event_binding`. -/
def requireEventBinding (events : List (Event φ)) (type : EventType) (key expected : String) :
    Except String Unit :=
  raiseIf (((ofType events type).any fun event => payloadHas event key expected) = false)
    (type.text ++ " must bind payload." ++ key ++ " to the top-level RXP value")

def readRxp (head : TraceHead φ) : Except String Rxp := do
  let rxp ← objectOf "rxp" (field head.root "rxp")
  let intentDigest ← rxpDigest "rxp.intent_digest" (field rxp "intent_digest")
  let grantId ← textOf "rxp.grant_id" (field rxp "grant_id")
  let receiptDigest ← rxpDigest "rxp.receipt_digest" (field rxp "receipt_digest")
  let evidenceDigest ← rxpDigest "rxp.evidence_digest" (field rxp "evidence_digest")
  let matrixRoot ← textOf "rxp.matrix_root" (field rxp "matrix_root")
  requireEventBinding head.events .taskCreated "intent_digest" intentDigest
  requireEventBinding head.events .taskCreated "matrix_root" matrixRoot
  requireEventBinding head.events .humanApproved "grant_id" grantId
  requireEventBinding head.events .humanApproved "receipt_digest" receiptDigest
  requireEventBinding head.events .independentReviewPassed "evidence_digest" evidenceDigest
  requireEventBinding head.events .decisionCommitted "evidence_digest" evidenceDigest
  raiseIf ((head.events.any fun event => occursIn matrixRoot (.dict event.payload)) = false)
    "event payloads do not bind the matrix root"
  pure ⟨intentDigest, grantId, receiptDigest, evidenceDigest, matrixRoot⟩

def isCommit (text : String) : Bool :=
  text.toList.length = 40 ∧ text.toList.all fun c => ('0' ≤ c ∧ c ≤ '9') ∨ ('a' ≤ c ∧ c ≤ 'f')

structure Official where
  projectCreateSha256 : String
  workflowSha256 : List String

def checkOfficial (head : TraceHead φ) (matrixRoot : String) : Except String Official := do
  let contract ← objectOf "official_contract" (field head.root "official_contract")
  raiseIf (equalsText (field contract "repository")
      "https://github.com/agentscope-ai/AgentTeams" = false)
    "official contract must identify the AgentTeams repository"
  let mainCommit ← textOf "official_contract.main_commit" (field contract "main_commit")
  raiseIf (isCommit mainCommit = false)
    "official AgentTeams main_commit must be 40 lowercase hex"
  let _ ← textOf "official_contract.api_version" (field contract "api_version")
  let _ ← textOf "official_contract.controller" (field contract "controller")
  let identifiers ← objectOf "official_response_identifiers"
    (field head.root "official_response_identifiers")
  raiseIf (equalsText (field identifiers "project_id") head.projectId = false)
    "official project identifier does not match project_id"
  let projectCreateSha256 ← rawDigest "official_response_identifiers.project_create_sha256"
    (field identifiers "project_create_sha256")
  raiseIf (equalsText (field identifiers "matrix_root") matrixRoot = false)
    "official matrix root does not match the RXP matrix root"
  let _ ← textOf "official_response_identifiers.approval_matrix_event_id"
    (field identifiers "approval_matrix_event_id")
  let workflow ← arrayOf "official_response_identifiers.workflow_sha256"
    (field identifiers "workflow_sha256")
  let workflowHashes ← workflow.mapM (rawDigest "official_response_identifiers.workflow_sha256")
  raiseIf (workflowHashes = []) "at least one official workflow response digest is required"
  let snapshots ← arrayOf "snapshots" (field head.root "snapshots")
  let snapshotHashes ← snapshots.mapM fun snapshot => do
    let members ← objectOf "snapshot" snapshot
    rawDigest "snapshots.workflow_sha256" (field members "workflow_sha256")
  raiseIf (snapshotHashes ≠ workflowHashes)
    "snapshot hashes do not match official workflow identifiers"
  raiseIf (equalsText (field head.root "external_origin_status") "UNVERIFIED" = false)
    "trace external origin must remain UNVERIFIED"
  pure ⟨projectCreateSha256, workflowHashes⟩

def checkReplay (head : TraceHead φ) : Except String Unit := do
  let _ ← textOf "truth_boundary" (field head.root "truth_boundary")
  let replay ← objectOf "replay" (field head.root "replay")
  let runItems ← arrayOf "replay.run_ids" (field replay "run_ids")
  let runIds ← runItems.mapM (textOf "replay.run_ids")
  let digestItems ← arrayOf "replay.semantic_digests" (field replay "semantic_digests")
  let digests ← digestItems.mapM (rawDigest "replay.semantic_digests")
  raiseIf (runIds.length < 2 ∨ runIds.length ≠ digests.length ∨ ¬ runIds.Nodup)
    "replay requires at least two distinct run ids and digests"
  raiseIf (digests.dedup.length ≠ 1) "independent replay semantic digests disagree"

/-! ### The verifier -/

/-- What the checks behind the lifecycle events read. -/
structure Checked (φ : Type) where
  rxp : Rxp
  official : Official
  ledger : Ledger
  bound : Bound φ

/-- The checks of `verify_trace_bytes` behind the lifecycle events. -/
def checkTrace (head : TraceHead φ) : Except String (Checked φ) := do
  checkActors head
  let rxp ← readRxp head
  let bridge ← objectOf "bridge" (field head.root "bridge")
  let _ ← textOf "bridge.api_version" (field bridge "api_version")
  let _ ← textOf "bridge.endpoint" (field bridge "endpoint")
  let runId ← textOf "bridge.run_id" (field bridge "run_id")
  let official ← checkOfficial head rxp.matrixRoot
  let chain ← objectOf "bridge_event_chain" (field head.root "bridge_event_chain")
  let ledger ← verifyBridgeEventChain platform head runId chain
  let bound ← head.events.foldlM (bindEvent ledger.items) []
  let missing := [EventType.humanApproved, .taskAccepted, .taskCompleted, .taskCreated,
    .taskDelegated].filter fun type => type ∉ bound.map fun pair => pair.1.type
  raiseIf (missing ≠ []) ("trace lifecycle events lack bridge ledger bindings: " ++
    quotedList (missing.map EventType.text))
  checkReplay head
  pure ⟨rxp, official, ledger, bound⟩

/-- `evidence_commitment`. -/
def evidenceCommitment (head : TraceHead φ) (checked : Checked φ) (scenarioId : ScenarioId)
    (seed : Int) (traceRoot : String) : Json φ := .dict
  [("schema_version", .str "egoagentos.benchmark-evidence/v1"),
    ("scenario_id", .str scenarioId.text), ("seed", .int seed), ("trace_root", .str traceRoot),
    ("rxp", .dict
      [("intent_digest", .str checked.rxp.intentDigest), ("grant_id", .str checked.rxp.grantId),
        ("receipt_digest", .str checked.rxp.receiptDigest),
        ("evidence_digest", .str checked.rxp.evidenceDigest),
        ("matrix_root", .str checked.rxp.matrixRoot)]),
    ("official", .dict
      [("project_id", .str head.projectId),
        ("project_create_sha256", .str checked.official.projectCreateSha256),
        ("workflow_sha256", .list (checked.official.workflowSha256.map Json.str)),
        ("bridge_event_chain_head", .str checked.ledger.head),
        ("bridge_event_chain_total", .int checked.ledger.total)])]

def readAndCheck (payload : Bytes) (scenarioId : ScenarioId) (seed : Int) :
    Except String (TraceHead φ × Checked φ) := do
  let head ← readHead platform payload scenarioId seed
  let checked ← checkTrace platform head
  pure (head, checked)

/-- The checks of the verifier, as the facts are built on them. -/
def traceReader : TraceReader where
  readTrace payload scenarioId seed := do
    let head ← readHead platform payload scenarioId seed
    pure (head.events.map Event.traceEvent)
  bindTrace payload scenarioId seed := do
    let (_, checked) ← readAndCheck platform payload scenarioId seed
    pure (checked.ledger.head, checked.ledger.total)
  roots payload scenarioId seed :=
    let traceRoot := (platform.sha256 payload).labelled "sha256:"
    match readAndCheck platform payload scenarioId seed with
    | .ok (head, checked) =>
        (traceRoot, (platform.sha256 (utf8Encode
          (evidenceCommitment head checked scenarioId seed traceRoot).sorted.text)).labelled
            "sha256:")
    | .error _ => (traceRoot, "")

end Checks

end EgoAgent.Benchmarks
