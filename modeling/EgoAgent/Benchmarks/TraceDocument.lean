import EgoAgent.Benchmarks.TraceFacts
import EgoAgent.Gateway.WorkspaceContract
import EgoAgent.Lib.Dict

/-!
The parts of `verify_trace_bytes` that read a trace document: values of a kind, the
declared agents and principals, and the events.
-/

namespace EgoAgent.Benchmarks

open EgoAgent.Api

abbrev Members (φ : Type) : Type := Dict String (Json φ)

/-- What the verifier uses of its libraries: hashing, `json.loads` without duplicate keys,
the integer that a number equals, ISO-8601 instants (`some none` without a time zone),
lower case, and the patterns of secret values. -/
structure TracePlatform (φ : Type) where
  sha256 : Bytes → Digest
  parse : Bytes → Option (Json φ)
  intOf : φ → Option Int
  instant : String → Option (Option Int)
  lower : String → String
  secretText : String → Bool

section Reading

variable {φ : Type}

/-! ### Values -/

/-- `dict.get`. -/
def field (members : Members φ) (key : String) : Json φ := (members.get? key).getD .null

def has (members : Members φ) (key : String) : Bool := (members.get? key).isSome

/-- `_object`. -/
def objectOf (label : String) : Json φ → Except String (Members φ)
  | .dict members => .ok members
  | _ => .error (label ++ " must be an object")

/-- `_array`. -/
def arrayOf (label : String) : Json φ → Except String (List (Json φ))
  | .list items => .ok items
  | _ => .error (label ++ " must be an array")

def trimmed (text : String) : Bool :=
  text.toList ≠ [] ∧ Bridge.strip text.toList = text.toList

/-- `_text`. -/
def textOf (label : String) : Json φ → Except String String
  | .str text => do
      raiseIf (trimmed text = false) (label ++ " must be a non-empty trimmed string")
      raiseIf (2048 < text.length) (label ++ " exceeds 2048 characters")
      pure text
  | _ => .error (label ++ " must be a non-empty trimmed string")

/-- `_raw_digest`. -/
def rawDigest (label : String) (value : Json φ) : Except String String := do
  let text ← textOf label value
  raiseIf (Gateway.isSha256 text = false) (label ++ " must be a lowercase SHA-256 digest")
  pure text

/-- `_rxp_digest`. -/
def rxpDigest (label : String) (value : Json φ) : Except String String := do
  let text ← textOf label value
  let body := if "sha256:".toList.isPrefixOf text.toList then String.ofList (text.toList.drop 7)
    else text
  raiseIf (Gateway.isSha256 body = false) (label ++ " must be sha256:<hex> or lowercase SHA-256")
  pure text

/-- `_positive_integer`. -/
def positiveInteger (label : String) : Json φ → Except String Int
  | .int number => do
      raiseIf (number < 1) (label ++ " must be a positive integer")
      pure number
  | _ => .error (label ++ " must be a positive integer")

/-- `==` with an integer; true and false are one and zero. -/
def equalsInt (platform : TracePlatform φ) (value : Json φ) (number : Int) : Bool :=
  match value with
  | .int other => other = number
  | .bool flag => (if flag then 1 else 0) = number
  | .float other => platform.intOf other = some number
  | _ => false

/-- `==` with a string. -/
def equalsText (value : Json φ) (text : String) : Bool :=
  match value with
  | .str other => other = text
  | _ => false

mutual

/-- Whether a string is among `_values`. -/
def occursIn (text : String) : Json φ → Bool
  | .str other => other = text
  | .list items => occursInItems text items
  | .dict members => occursInMembers text members
  | _ => false

def occursInItems (text : String) : List (Json φ) → Bool
  | [] => false
  | item :: rest => occursIn text item || occursInItems text rest

def occursInMembers (text : String) : List (String × Json φ) → Bool
  | [] => false
  | (key, value) :: rest => key = text || occursIn text value || occursInMembers text rest

end

theorem textOf_eq_ok {label text : String} {value : Json φ} (read : textOf label value = .ok text) :
    value = .str text := by
  cases value with
  | str other =>
      obtain ⟨_, read⟩ := (raiseIf_bind_eq_ok _ _ _ _).mp read
      obtain ⟨_, read⟩ := (raiseIf_bind_eq_ok _ _ _ _).mp read
      cases read
      rfl
  | _ => cases read

theorem rawDigest_eq_ok {label text : String} {value : Json φ}
    (read : rawDigest label value = .ok text) : value = .str text := by
  obtain ⟨_, ofText, read⟩ := (bind_eq_ok _ _ _).mp read
  obtain ⟨_, read⟩ := (raiseIf_bind_eq_ok _ _ _ _).mp read
  cases read
  exact textOf_eq_ok ofText

/-! ### Identities -/

/-- The aliases of the agents with their roles and matrix ids. -/
structure Agents where
  aliases : Dict String String
  roles : List String
  matrixIds : List String

/-- An agent is added under its id and its matrix id. -/
def readAgent (agents : Agents) (entry : Json φ × Nat) : Except String Agents := do
  let label := "agents[" ++ toString entry.2 ++ "]"
  let agent ← objectOf label entry.1
  let agentId ← textOf (label ++ ".id") (field agent "id")
  let role ← textOf (label ++ ".role") (field agent "role")
  let matrixId ← textOf (label ++ ".matrix_user_id") (field agent "matrix_user_id")
  let _ ← textOf (label ++ ".source") (field agent "source")
  raiseIf ((agents.aliases.get? agentId).isSome = true) "AgentTeams agent aliases must be unique"
  let aliases := agents.aliases.set agentId agentId
  raiseIf ((aliases.get? matrixId).isSome = true) "AgentTeams agent aliases must be unique"
  pure ⟨aliases.set matrixId agentId, agents.roles ++ [role], agents.matrixIds ++ [matrixId]⟩

def readAgents (items : List (Json φ)) : Except String Agents := do
  raiseIf (items.length < 3) "trace requires at least three AgentTeams agents"
  let agents ← items.zipIdx.foldlM readAgent ⟨[], [], []⟩
  raiseIf (agents.roles.dedup.length < 3)
    "trace requires at least three distinct AgentTeams roles"
  raiseIf (¬ agents.matrixIds.Nodup) "AgentTeams matrix_user_id values must be unique"
  pure agents

def readPrincipal (agents : Agents) (kinds : Dict String String) (entry : Json φ × Nat) :
    Except String (Dict String String) := do
  let label := "principals[" ++ toString entry.2 ++ "]"
  let principal ← objectOf label entry.1
  let principalId ← textOf (label ++ ".id") (field principal "id")
  let kind ← textOf (label ++ ".kind") (field principal "kind")
  let _ ← textOf (label ++ ".source") (field principal "source")
  raiseIf ((kinds.get? principalId).isSome = true ∨ (agents.aliases.get? principalId).isSome = true)
    "principal ids must be unique and distinct from agents"
  pure (kinds.set principalId kind)

def readPrincipals (agents : Agents) (items : List (Json φ)) :
    Except String (Dict String String) := do
  let kinds ← items.zipIdx.foldlM (readPrincipal agents) []
  raiseIf ("human" ∉ kinds.map Prod.snd) "principals must declare the human approver"
  raiseIf ("bridge" ∉ kinds.map Prod.snd) "principals must declare the bridge identity"
  raiseIf ("ego" ∉ kinds.map Prod.snd) "principals must declare the Ego decision identity"
  pure kinds

inductive Identity where
  | agent (id : String)
  | principal (id : String)
  deriving DecidableEq

/-- `_canonical_agent`. -/
def canonicalAgent (agents : Agents) (kinds : Dict String String) (actor : String) :
    Except String Identity :=
  match agents.aliases.get? actor with
  | some id => .ok (.agent id)
  | none =>
      if (kinds.get? actor).isSome then .ok (.principal actor)
      else .error ("event actor '" ++ actor ++ "' is absent from agents/principals")

/-! ### Events -/

def EventType.known : List EventType :=
  EventType.common ++ [.unsafeActionBlocked, .effectCommitted, .planConflictDetected,
    .planReplanned, .workerTimeout, .taskReassigned, .contextStaleRejected, .grantReplayRejected,
    .grantExpiredRejected, .grantScopeRejected, .effectDeduplicated, .checkpointRestored,
    .evidenceTamperDetected, .decisionBlocked, .reviewIdentityRejected, .skillRollbackCompleted,
    .matrixCompletenessRejected, .matrixSeedRejected]

def EventType.ofText (text : String) : EventType :=
  (EventType.known.find? fun type => type.text = text).getD (.other text)

structure Event (φ : Type) where
  sequence : Int
  type : EventType
  actor : String
  payload : Members φ

/-- The event as the facts read it. -/
def Event.traceEvent (event : Event φ) : TraceEvent :=
  { type := event.type
    text := fun name => textOf
      (if name = "from_assignee" ∨ name = "to_assignee" then name
        else "effect.committed.payload." ++ name) (field event.payload name) }

/-- What the first part of the verifier reads of a trace. -/
structure TraceHead (φ : Type) where
  root : Members φ
  projectId : String
  taskId : String
  correlationId : String
  traceId : String
  contextVersion : Int
  agents : Agents
  kinds : Dict String String
  events : List (Event φ)

variable (platform : TracePlatform φ)

def readEvent (taskId correlationId : String) (agents : Agents) (kinds : Dict String String)
    (entry : Json φ × Nat) : Except String (Event φ) := do
  let label := "events[" ++ toString entry.2 ++ "]"
  let event ← objectOf label entry.1
  raiseIf (equalsInt platform (field event "sequence") (entry.2 + 1) = false)
    "event sequence must be contiguous and start at 1"
  let type ← textOf (label ++ ".type") (field event "type")
  let actor ← textOf (label ++ ".actor") (field event "actor")
  let _ ← canonicalAgent agents kinds actor
  raiseIf (equalsText (field event "task_id") taskId = false ∨
      equalsText (field event "correlation_id") correlationId = false)
    "every event must share the trial task/correlation ids"
  let payload ← objectOf (label ++ ".payload") (field event "payload")
  pure ⟨entry.2 + 1, EventType.ofText type, actor, payload⟩

def maxTraceBytes : Nat := 16 * 1024 * 1024

/-- The checks up to the events. -/
def readHead (payload : Bytes) (scenarioId : ScenarioId) (seed : Int) :
    Except String (TraceHead φ) := do
  raiseIf (payload.length = 0 ∨ maxTraceBytes < payload.length)
    "trace must be between 1 byte and 16 MiB"
  let trace ← expect "trace is not valid duplicate-free UTF-8 JSON" (platform.parse payload)
  let root ← objectOf "trace" trace
  raiseIf (equalsText (field root "schema_version") "egoagentos.agentteams-trace/v1" = false)
    "unsupported trace schema_version"
  raiseIf (equalsText (field root "source") "AgentTeams" = false)
    "trace source must be AgentTeams"
  raiseIf (equalsText (field root "execution_mode") "real-agentteams" = false)
    "trace execution_mode must be real-agentteams"
  raiseIf (equalsText (field root "scenario_id") scenarioId.text = false)
    "trace scenario_id does not match the benchmark trial"
  raiseIf (equalsInt platform (field root "seed") seed = false ∨
      (field root "seed") matches .bool _)
    "trace seed does not match the benchmark trial"
  let projectId ← textOf "project_id" (field root "project_id")
  let taskId ← textOf "task_id" (field root "task_id")
  let correlationId ← textOf "correlation_id" (field root "correlation_id")
  let traceId ← textOf "trace_id" (field root "trace_id")
  let contextVersion ← match field root "context_version" with
    | .int number => do
        raiseIf (number < 1) "context_version must be a positive integer"
        pure number
    | _ => .error "context_version must be a positive integer"
  let agentItems ← arrayOf "agents" (field root "agents")
  let agents ← readAgents agentItems
  let principalItems ← arrayOf "principals" (field root "principals")
  let kinds ← readPrincipals agents principalItems
  let eventItems ← arrayOf "events" (field root "events")
  raiseIf (eventItems = []) "events must be non-empty"
  let events ← eventItems.zipIdx.mapM (readEvent platform taskId correlationId agents kinds)
  pure ⟨root, projectId, taskId, correlationId, traceId, contextVersion, agents, kinds, events⟩

end Reading

end EgoAgent.Benchmarks
