import EgoAgent.Bridge.Guardian

/-!
The authority stream of a bridge run, with its task leases and evaluator bindings.

The four operations write through one append routine.  A row keeps the model it was
dumped from; `canonicalPayload` are the bytes of its column.  The JSON reader and the
lease model are parameters, as are the identifiers and times of new rows.
-/

namespace EgoAgent.Bridge.Authority

open EgoAgent.Api EgoAgent.SecureMemory Effect

/-! ### Errors -/

/-- A `BridgeError`, or the integrity error of the database. -/
inductive AuthorityError where
  | bridge (code message : String) (statusCode : Nat)
  | integrity
  deriving DecidableEq

def AuthorityError.isBridge : AuthorityError → Bool
  | .bridge .. => true
  | .integrity => false

def conflictWith (code message : String) : AuthorityError := .bridge code message 409

/-! ### Contracts -/

inductive MeasuredConfigurationId where
  | a | b | c | d | e | f
  deriving DecidableEq

inductive ExecutionPhaseOwner where
  | a | b | c | d | e | f
  | qualification
  | optimizer
  | winnerSealed
  | fSealed
  | gpuDemo
  deriving DecidableEq

structure CampaignBinding where
  campaignId : String
  configurationId : Option MeasuredConfigurationId
  executionPhaseOwner : ExecutionPhaseOwner
  problemId : String
  turn : Nat
  generation : Nat
  manifestSha256 : Digest
  postSelectionExtensionSha256 : Option Digest
  policySha256 : Digest
  requirementLedgerSha256 : Digest
  workspaceCheckpointSha256 : Digest
  memoryWatermark : Nat
  deriving DecidableEq

/-- A lease core; `campaign` are the fields it shares with a campaign binding. -/
structure SignedTaskLeaseCore where
  campaign : CampaignBinding
  projectId : String
  taskId : String
  issuerId : String
  keyId : String
  deriving DecidableEq

structure SignedTaskLease where
  core : SignedTaskLeaseCore
  signatureBase64 : String
  deriving DecidableEq

/-- The fields that admission reads; `document` is the whole dump. -/
structure AttentionPacket (φ : Type) where
  projectId : String
  taskId : String
  turn : Nat
  generation : Nat
  requirementLedgerSha256 : Digest
  workspaceCheckpointSha256 : Digest
  policySha256 : Digest
  memoryWatermark : Nat
  document : Json φ

structure UserStatusProjection (φ : Type) [FloatText φ] where
  projectId : String
  taskId : String
  sourceEventIds : List String
  guardianDecision : Option GuardianDecision
  safetyDecision : Option (SafetyDecision φ)
  document : Json φ

inductive ExtensionEvent (φ : Type) [FloatText φ] where
  | canonicalEffect (effect : CanonicalEffect φ)
  | systemRiskAssessment (assessment : RiskAssessment)
  | guardianDecision (decision : GuardianDecision)
  | safetyDecision (decision : SafetyDecision φ)
  | attentionPacket (packet : AttentionPacket φ)
  | userStatusProjection (projection : UserStatusProjection φ)

/-! ### Rows -/

/-- What a row of the stream holds: a typed event, or a signed payload as it came. -/
inductive RowContent (φ : Type) [FloatText φ] where
  | event (event : ExtensionEvent φ)
  | taskLease (payload : Bytes)
  | evaluator (payload : Bytes)

structure ExtensionRow (φ : Type) [FloatText φ] where
  runId : String
  sequence : Nat
  eventId : String
  content : RowContent φ
  idempotencyKey : String
  payloadSha256 : Digest
  memoryWatermark : Int
  previousHash : Digest
  eventHash : Digest
  createdAt : String

/-- The columns that a lease and an evaluator binding share. -/
structure Admission where
  runId : String
  taskId : String
  eventSequence : Nat
  idempotencyKey : String
  canonicalSignedPayload : Bytes
  payloadSha256 : Digest
  signatureBase64 : String
  keyId : String
  issuerId : String
  previousStreamDigest : Digest
  streamDigest : Digest
  createdAt : String
  deriving DecidableEq

structure EvaluatorRow where
  bindingId : String
  admission : Admission
  deriving DecidableEq

structure AuthorityRun where
  id : String
  agentteamsProjectId : String
  campaign : Option CampaignBinding
  deriving DecidableEq

structure AuthorityStore (φ : Type) [FloatText φ] where
  runs : List AuthorityRun
  events : List (ExtensionRow φ)
  leases : List Admission
  evaluators : List EvaluatorRow

/-- `uuid4` and the clock of one call. -/
structure Stamp where
  eventId : String
  createdAt : String

section Store

variable {φ : Type} [FloatEquality φ]

structure AuthorityPlatform (φ : Type) [FloatText φ] where
  sha256 : Bytes → Digest
  unicode : UnicodeText
  parseJson : Bytes → Option (Json φ)
  readTaskLease : List (String × Json φ) → Option SignedTaskLease

variable (platform : AuthorityPlatform φ)

/-! ### Payloads -/

def ExtensionEvent.eventType : ExtensionEvent φ → String
  | .canonicalEffect _ => "CANONICAL_EFFECT"
  | .systemRiskAssessment _ => "SYSTEM_RISK_ASSESSMENT"
  | .guardianDecision _ => "GUARDIAN_DECISION"
  | .safetyDecision _ => "SAFETY_DECISION"
  | .attentionPacket _ => "ATTENTION_PACKET"
  | .userStatusProjection _ => "USER_STATUS_PROJECTION"

def extensionEventTypes : List String :=
  ["CANONICAL_EFFECT", "SYSTEM_RISK_ASSESSMENT", "GUARDIAN_DECISION", "SAFETY_DECISION",
    "ATTENTION_PACKET", "USER_STATUS_PROJECTION"]

def ExtensionEvent.json (sha256 : Bytes → Digest) : ExtensionEvent φ → Json φ
  | .canonicalEffect effect => effect.json sha256
  | .systemRiskAssessment assessment => assessment.json
  | .guardianDecision decision => decision.json
  | .safetyDecision decision => decision.json sha256
  | .attentionPacket packet => packet.document
  | .userStatusProjection projection => projection.document

def RowContent.eventType : RowContent φ → String
  | .event content => content.eventType
  | .taskLease _ => "VERIFIED_TASK_LEASE_ADMISSION"
  | .evaluator _ => "VERIFIED_EVALUATOR_ADMISSION"

def RowContent.canonicalPayload (sha256 : Bytes → Digest) : RowContent φ → Bytes
  | .event content => SecureMemory.canonicalBytes (content.json sha256)
  | .taskLease payload => payload
  | .evaluator payload => payload

/-- What the models validate beyond what their types say. -/
abbrev ExtensionEvent.Valid (sha256 : Bytes → Digest) : ExtensionEvent φ → Prop
  | .systemRiskAssessment assessment => assessment.Valid
  | .guardianDecision decision => decision.Valid φ sha256
  | .safetyDecision decision => decision.Valid sha256
  | _ => True

instance (sha256 : Bytes → Digest) (event : ExtensionEvent φ) :
    Decidable (event.Valid sha256) := by
  cases event <;> unfold ExtensionEvent.Valid <;> infer_instance

def eventInvalid (message : String) : AuthorityError :=
  conflictWith "extension_event_invalid" message

/-- `_typed_extension_payload`; `none` is a value that no contract accepts. -/
def typedExtensionPayload (sha256 : Bytes → Digest) (eventType : String)
    (event : Option (ExtensionEvent φ)) : Except AuthorityError (ExtensionEvent φ) := do
  raiseIf (eventType ∉ extensionEventTypes) (conflictWith "extension_event_type_invalid"
    "Extension event type is not a frozen typed contract")
  let event ← expect
    (eventInvalid "Extension event does not satisfy its frozen typed contract") event
  raiseIf (event.eventType ≠ eventType ∨ ¬ event.Valid sha256)
    (eventInvalid "Extension event does not satisfy its frozen typed contract")
  match event with
  | .systemRiskAssessment assessment =>
      raiseIf (assessment.stage ≠ .system)
        (eventInvalid "System risk event must use the SYSTEM assessment stage")
      return event
  | _ => return event

def payloadInvalid (message : String) : AuthorityError :=
  conflictWith "verified_payload_invalid" message

/-- `_require_canonical_object`. -/
def requireCanonicalObject (payload : Bytes) : Except AuthorityError (List (String × Json φ)) :=
  match platform.parseJson payload with
  | none =>
      .error (payloadInvalid "Already-verified signed payload is not valid canonical JSON")
  | some (.dict members) => do
      raiseIf (SecureMemory.canonicalBytes (Json.dict members) ≠ payload)
        (payloadInvalid "Already-verified signed payload must be one canonical JSON object")
      return members
  | some _ =>
      .error (payloadInvalid "Already-verified signed payload must be one canonical JSON object")

def forbiddenMaterial : List String :=
  ["bearer", "dsn", "hidden", "private", "prompt", "raw_key", "secret", "token"]

/-- `_reject_private_verification_material`. -/
def rejectPrivateVerificationMaterial (members : List (String × Json φ)) :
    Except AuthorityError Unit :=
  raiseIf (∃ entry ∈ walkMembers members,
      loweredName platform.unicode entry.1 ∈ words forbiddenMaterial ∨
        ∃ part ∈ (loweredName platform.unicode entry.1).splitOn '_',
          part ∈ words forbiddenMaterial)
    (conflictWith "verified_payload_forbidden_material"
      "Evaluator binding contains forbidden private or bearer material")

/-! ### Queries -/

def AuthorityStore.findRun (store : AuthorityStore φ) (runId : String) :
    Except AuthorityError AuthorityRun :=
  expect (.bridge "run_not_found" "Bridge run was not found" 404)
    (store.runs.find? fun run => run.id = runId)

def AuthorityStore.rowsOf (store : AuthorityStore φ) (runId : String) : List (ExtensionRow φ) :=
  store.events.filter fun row => row.runId = runId

def AuthorityStore.keyed (store : AuthorityStore φ) (runId key : String) :
    Option (ExtensionRow φ) :=
  store.events.find? fun row => row.runId = runId ∧ row.idempotencyKey = key

def AuthorityStore.leaseOf (store : AuthorityStore φ) (runId taskId : String) : Option Admission :=
  store.leases.find? fun lease => lease.runId = runId ∧ lease.taskId = taskId

def AuthorityStore.evaluatorOf (store : AuthorityStore φ) (runId bindingId : String) :
    Option EvaluatorRow :=
  store.evaluators.find? fun row => row.admission.runId = runId ∧ row.bindingId = bindingId

/-- `_has_exact_extension_event_locked`. -/
def AuthorityStore.hasExact (store : AuthorityStore φ) (runId : String)
    (event : ExtensionEvent φ) : Bool :=
  store.events.any fun row =>
    row.runId = runId ∧ row.content.eventType = event.eventType ∧
      row.content.canonicalPayload platform.sha256 =
        SecureMemory.canonicalBytes (event.json platform.sha256)

/-- `_require_task_lease_locked`. -/
def AuthorityStore.requireTaskLease (store : AuthorityStore φ) (runId taskId message : String) :
    Except AuthorityError Unit :=
  raiseIf (store.leaseOf runId taskId = none) (conflictWith "task_lease_required" message)

def exactLeaseRequired : String := "Extension evidence requires the exact admitted task lease"

def projectionUnadmitted (message : String) : AuthorityError :=
  conflictWith "projection_source_unadmitted" message

/-- `_validate_extension_admission_locked`. -/
def AuthorityStore.admission (store : AuthorityStore φ) (run : AuthorityRun)
    (campaign : CampaignBinding) (memoryWatermark : Int) :
    RowContent φ → Except AuthorityError Unit
  | .event (.canonicalEffect effect) => do
      raiseIf (effect.projectId ≠ run.agentteamsProjectId ∨
          effect.workspaceCheckpointSha256 ≠ campaign.workspaceCheckpointSha256 ∨
          effect.policySha256 ≠ campaign.policySha256)
        (conflictWith "effect_binding_mismatch"
          "Canonical effect does not match the bound project, checkpoint, and policy")
      store.requireTaskLease run.id effect.taskId exactLeaseRequired
  | .event (.guardianDecision decision) =>
      raiseIf (decision.systemAssessment.riskLevel ≠ .high ∨
          store.hasExact platform run.id (.systemRiskAssessment decision.systemAssessment) = false)
        (conflictWith "guardian_order_invalid"
          "Guardian decision requires its matching admitted system-HIGH assessment")
  | .event (.safetyDecision decision) =>
      raiseIf (store.hasExact platform run.id (.canonicalEffect decision.effect) = false ∨
          store.hasExact platform run.id (.guardianDecision decision.guardianDecision) = false)
        (conflictWith "safety_binding_unadmitted"
          "Safety decision requires its exact admitted effect and Guardian decision")
  | .event (.attentionPacket packet) => do
      raiseIf (packet.projectId ≠ run.agentteamsProjectId ∨ packet.turn ≠ campaign.turn ∨
          packet.generation ≠ campaign.generation ∨
          packet.requirementLedgerSha256 ≠ campaign.requirementLedgerSha256 ∨
          packet.workspaceCheckpointSha256 ≠ campaign.workspaceCheckpointSha256 ∨
          packet.policySha256 ≠ campaign.policySha256 ∨
          (packet.memoryWatermark : Int) ≠ memoryWatermark)
        (conflictWith "attention_binding_mismatch"
          "Attention packet does not match the immutable campaign authority")
      store.requireTaskLease run.id packet.taskId exactLeaseRequired
  | .event (.userStatusProjection projection) => do
      raiseIf (projection.projectId ≠ run.agentteamsProjectId)
        (conflictWith "projection_binding_mismatch"
          "User projection does not match the bound bridge project")
      store.requireTaskLease run.id projection.taskId exactLeaseRequired
      raiseIf (((store.rowsOf run.id).filter fun row =>
          row.eventId ∈ projection.sourceEventIds).length ≠ projection.sourceEventIds.length)
        (projectionUnadmitted "User projection cites a future or unadmitted extension event")
      raiseIf (∃ decision ∈ projection.guardianDecision,
          store.hasExact platform run.id (.guardianDecision decision) = false)
        (projectionUnadmitted "User projection embeds an unadmitted Guardian decision")
      raiseIf (∃ decision ∈ projection.safetyDecision,
          store.hasExact platform run.id (.safetyDecision decision) = false)
        (projectionUnadmitted "User projection embeds an unadmitted Safety decision")
  | _ => .ok ()

/-! ### The append routine -/

/-- The payload of `event_hash`. -/
def ExtensionRow.hashPayload (row : ExtensionRow φ) : Json φ := .dict
  [("sequence", .int row.sequence), ("event_id", .str row.eventId), ("run_id", .str row.runId),
    ("event_type", .str row.content.eventType), ("idempotency_key", .str row.idempotencyKey),
    ("payload_sha256", digestText row.payloadSha256),
    ("memory_watermark", .int row.memoryWatermark),
    ("previous_hash", digestText row.previousHash), ("created_at", .str row.createdAt)]

def ExtensionRow.expectedHash (sha256 : Bytes → Digest) (row : ExtensionRow φ) : Digest :=
  sha256 (SecureMemory.canonicalBytes row.hashPayload)

/-- `ZERO_HASH`. -/
def streamGenesis : Digest := 0

/-- The row after the newest one of its run. -/
def AuthorityStore.nextRow (store : AuthorityStore φ) (runId : String) (content : RowContent φ)
    (key : String) (memoryWatermark : Int) (stamp : Stamp) : ExtensionRow φ :=
  let newest := (store.rowsOf runId).getLast?
  let row : ExtensionRow φ :=
    { runId := runId
      sequence := (newest.map ExtensionRow.sequence).getD 0 + 1
      eventId := stamp.eventId
      content := content
      idempotencyKey := key
      payloadSha256 := platform.sha256 (content.canonicalPayload platform.sha256)
      memoryWatermark := memoryWatermark
      previousHash := (newest.map ExtensionRow.eventHash).getD streamGenesis
      eventHash := streamGenesis
      createdAt := stamp.createdAt }
  { row with eventHash := row.expectedHash platform.sha256 }

/-- The constraints of the stream's table. -/
abbrev AuthorityStore.Accepts (store : AuthorityStore φ) (row : ExtensionRow φ) : Prop :=
  0 ≤ row.memoryWatermark ∧ ∀ stored ∈ store.events, stored.eventId ≠ row.eventId ∧
    stored.eventHash ≠ row.eventHash ∧
    (stored.runId = row.runId →
      stored.sequence ≠ row.sequence ∧ stored.idempotencyKey ≠ row.idempotencyKey)

/-- A row that an insertion or a replay returns. -/
structure Outcome (ρ : Type) where
  record : ρ
  idempotentReplay : Bool

/-- `_append_extension_bytes_locked`. -/
def appendExtensionBytes (runId : String) (content : RowContent φ) (key : String)
    (memoryWatermark : Int) (stamp : Stamp) :
    Effect (AuthorityStore φ) AuthorityError (Outcome (ExtensionRow φ)) := do
  let store ← read
  let run ← check (store.findRun runId)
  let campaign ← check (expect (conflictWith "campaign_binding_required"
    "Extension events require an immutable campaign binding") run.campaign)
  check (raiseIf ((campaign.memoryWatermark : Int) < memoryWatermark)
    (conflictWith "future_memory_watermark"
      "Extension event cannot cite a future memory watermark"))
  match store.keyed runId key with
  | some existing => do
      check (raiseIf (existing.content.canonicalPayload platform.sha256 ≠
            content.canonicalPayload platform.sha256 ∨
          existing.content.eventType ≠ content.eventType ∨
          existing.memoryWatermark ≠ memoryWatermark)
        (conflictWith "idempotency_conflict"
          "Idempotency key was replayed with different canonical bytes"))
      return ⟨existing, true⟩
  | none => do
      check (store.admission platform run campaign memoryWatermark content)
      let row := store.nextRow platform runId content key memoryWatermark stamp
      check (raiseIf (¬ store.Accepts row) .integrity)
      write fun store => { store with events := store.events ++ [row] }
      return ⟨row, false⟩

/-! ### Operations -/

/-- `UPDATE bridge_runs ... WHERE id = ? AND campaign_binding_json IS NULL`. -/
def boundRuns (runId : String) (binding : CampaignBinding) (runs : List AuthorityRun) :
    List AuthorityRun :=
  runs.map fun run =>
    if run.id = runId ∧ run.campaign = none then { run with campaign := some binding } else run

/-- `bind_campaign`; bindings are compared as canonical JSON, which spells every field. -/
def bindCampaign (runId : String) (binding : CampaignBinding) :
    Effect (AuthorityStore φ) AuthorityError (Outcome CampaignBinding) := transaction do
  let store ← read
  let run ← check (store.findRun runId)
  match run.campaign with
  | some stored => do
      check (raiseIf (stored ≠ binding) (conflictWith "campaign_binding_conflict"
        "Bridge run already has a different immutable campaign binding"))
      return ⟨stored, true⟩
  | none => do
      write fun store => { store with runs := boundRuns runId binding store.runs }
      return ⟨binding, false⟩

/-- `append_extension_event`. -/
def appendExtensionEvent (runId eventType : String) (event : Option (ExtensionEvent φ))
    (key : String) (memoryWatermark : Int) (stamp : Stamp) :
    Effect (AuthorityStore φ) AuthorityError (Outcome (ExtensionRow φ)) := do
  check (raiseIf (key = "")
    (conflictWith "idempotency_key_invalid" "Idempotency key must be non-empty"))
  let payload ← check (typedExtensionPayload platform.sha256 eventType event)
  transaction (appendExtensionBytes platform runId (.event payload) key memoryWatermark stamp)

def leaseMismatch (message : String) : AuthorityError :=
  conflictWith "task_lease_binding_mismatch" message

/-- `_assert_lease_binding`. -/
def assertLeaseBinding (run : AuthorityRun) (campaign : CampaignBinding)
    (lease : SignedTaskLease) : Except AuthorityError Unit := do
  raiseIf (lease.core.campaign ≠ campaign) (leaseMismatch
    "Already-verified task lease does not match the immutable campaign binding")
  raiseIf (lease.core.projectId ≠ run.agentteamsProjectId) (leaseMismatch
    "Already-verified task lease does not match the bridge project")

/-- The columns of an admission that its row of the stream gives. -/
def admissionOf (row : ExtensionRow φ) (taskId : String) (payload : Bytes)
    (signature keyId issuerId : String) : Admission where
  runId := row.runId
  taskId := taskId
  eventSequence := row.sequence
  idempotencyKey := row.idempotencyKey
  canonicalSignedPayload := payload
  payloadSha256 := row.payloadSha256
  signatureBase64 := signature
  keyId := keyId
  issuerId := issuerId
  previousStreamDigest := row.previousHash
  streamDigest := row.eventHash
  createdAt := row.createdAt

/-- `UNIQUE(run_id, event_sequence)` and `UNIQUE(run_id, idempotency_key)`. -/
abbrev Fresh (stored : List Admission) (admission : Admission) : Prop :=
  ∀ other ∈ stored, other.runId = admission.runId →
    other.eventSequence ≠ admission.eventSequence ∧
      other.idempotencyKey ≠ admission.idempotencyKey

/-- The table part of `store_signed_task_lease`. -/
def admitLease (row : ExtensionRow φ) (payload : Bytes) (lease : SignedTaskLease) :
    Effect (AuthorityStore φ) AuthorityError (Outcome Admission) := do
  let store ← read
  match store.leaseOf row.runId lease.core.taskId with
  | some existing => do
      check (raiseIf (existing.eventSequence ≠ row.sequence) (conflictWith "task_lease_conflict"
        "Task already has a different immutable lease admission"))
      return ⟨existing, true⟩
  | none => do
      let admission := admissionOf row lease.core.taskId payload lease.signatureBase64
        lease.core.keyId lease.core.issuerId
      check (raiseIf (¬ Fresh store.leases admission) .integrity)
      write fun store => { store with leases := store.leases ++ [admission] }
      return ⟨admission, false⟩

/-- `store_signed_task_lease`. -/
def storeSignedTaskLease (runId : String) (payload : Bytes) (key : String) (stamp : Stamp) :
    Effect (AuthorityStore φ) AuthorityError (Outcome Admission) := do
  let members ← check (requireCanonicalObject platform payload)
  let lease ← check (expect (conflictWith "verified_task_lease_invalid"
    "Already-verified payload is not a valid signed task lease") (platform.readTaskLease members))
  transaction do
    let store ← read
    let run ← check (store.findRun runId)
    let campaign ← check (expect (conflictWith "campaign_binding_required"
      "Task lease admission requires an immutable campaign binding") run.campaign)
    check (assertLeaseBinding run campaign lease)
    let event ← appendExtensionBytes platform runId (.taskLease payload) key
      lease.core.campaign.memoryWatermark stamp
    admitLease event.record payload lease

def evaluatorInvalid (message : String) : AuthorityError :=
  conflictWith "verified_evaluator_binding_invalid" message

/-- The arguments of `bind_sealed_evaluation`. -/
structure SealedEvaluation where
  bindingId : String
  taskId : String
  payload : Bytes
  signatureBase64 : String
  keyId : String
  issuerId : String
  idempotencyKey : String

/-- The table part of `bind_sealed_evaluation`. -/
def admitEvaluation (row : ExtensionRow φ) (evaluation : SealedEvaluation) :
    Effect (AuthorityStore φ) AuthorityError (Outcome EvaluatorRow) := do
  let store ← read
  match store.evaluatorOf row.runId evaluation.bindingId with
  | some existing => do
      check (raiseIf (existing.admission.eventSequence ≠ row.sequence)
        (conflictWith "evaluator_binding_conflict"
          "Evaluator binding ID already has different immutable evidence"))
      return ⟨existing, true⟩
  | none => do
      let binding : EvaluatorRow := ⟨evaluation.bindingId, admissionOf row evaluation.taskId
        evaluation.payload evaluation.signatureBase64 evaluation.keyId evaluation.issuerId⟩
      check (raiseIf (¬ Fresh (store.evaluators.map EvaluatorRow.admission) binding.admission)
        .integrity)
      write fun store => { store with evaluators := store.evaluators ++ [binding] }
      return ⟨binding, false⟩

/-- A signed evaluation names the task and holds nothing private. -/
def checkEvaluation (payload : Bytes) (taskId : String) : Except AuthorityError Unit := do
  let members ← requireCanonicalObject platform payload
  rejectPrivateVerificationMaterial platform members
  match members.lookup "task_id" with
  | some (.str named) =>
      raiseIf (named ≠ taskId)
        (evaluatorInvalid "Evaluator admission task does not match its signed payload")
  | _ => .error (evaluatorInvalid "Evaluator admission task does not match its signed payload")

/-- The public metadata is not empty. -/
abbrev SealedEvaluation.Named (evaluation : SealedEvaluation) : Prop :=
  evaluation.bindingId ≠ "" ∧ evaluation.taskId ≠ "" ∧ evaluation.signatureBase64 ≠ "" ∧
    evaluation.keyId ≠ "" ∧ evaluation.issuerId ≠ "" ∧ evaluation.idempotencyKey ≠ ""

/-- `bind_sealed_evaluation`. -/
def bindSealedEvaluation (runId : String) (evaluation : SealedEvaluation) (stamp : Stamp) :
    Effect (AuthorityStore φ) AuthorityError (Outcome EvaluatorRow) := do
  check (raiseIf (¬ evaluation.Named)
    (evaluatorInvalid "Evaluator admission public metadata must be non-empty"))
  check (checkEvaluation platform evaluation.payload evaluation.taskId)
  transaction do
    let store ← read
    let run ← check (store.findRun runId)
    let campaign ← check (expect (conflictWith "campaign_binding_required"
      "Evaluator admission requires an immutable campaign binding") run.campaign)
    check (store.requireTaskLease runId evaluation.taskId
      "Evaluator admission requires the exact admitted task lease")
    let event ← appendExtensionBytes platform runId (.evaluator evaluation.payload)
      evaluation.idempotencyKey campaign.memoryWatermark stamp
    admitEvaluation event.record evaluation

inductive AuthorityCall (φ : Type) [FloatText φ] where
  | bindCampaign (runId : String) (binding : CampaignBinding)
  | appendExtensionEvent (runId eventType : String) (event : Option (ExtensionEvent φ))
      (key : String) (memoryWatermark : Int) (stamp : Stamp)
  | storeSignedTaskLease (runId : String) (payload : Bytes) (key : String) (stamp : Stamp)
  | bindSealedEvaluation (runId : String) (evaluation : SealedEvaluation) (stamp : Stamp)

/-- What a call returns. -/
inductive AuthorityRecord (φ : Type) [FloatText φ] where
  | campaign (outcome : Outcome CampaignBinding)
  | event (outcome : Outcome (ExtensionRow φ))
  | lease (outcome : Outcome Admission)
  | evaluator (outcome : Outcome EvaluatorRow)

/-- The effect of a call, with its result as a record. -/
def returning {σ ε ρ τ : Type} (wrap : ρ → τ) (effect : Effect σ ε ρ) : Effect σ ε τ :=
  effect >>= fun item => pure (wrap item)

def perform : AuthorityCall φ → Effect (AuthorityStore φ) AuthorityError (AuthorityRecord φ)
  | .bindCampaign runId binding => returning .campaign (bindCampaign runId binding)
  | .appendExtensionEvent runId eventType event key memoryWatermark stamp =>
      returning .event
        (appendExtensionEvent platform runId eventType event key memoryWatermark stamp)
  | .storeSignedTaskLease runId payload key stamp =>
      returning .lease (storeSignedTaskLease platform runId payload key stamp)
  | .bindSealedEvaluation runId evaluation stamp =>
      returning .evaluator (bindSealedEvaluation platform runId evaluation stamp)

/-- The store after a list of calls, whatever they return. -/
def afterCalls (calls : List (AuthorityCall φ)) (store : AuthorityStore φ) : AuthorityStore φ :=
  calls.foldl (fun state call => (perform platform call state).2) store

/-- A store whose runs have no events yet. -/
def freshStore (runs : List AuthorityRun) : AuthorityStore φ := ⟨runs, [], [], []⟩

/-! ### Replay -/

/-- `extension_events`: whether the rows hold one valid chain. -/
def chainValid (sha256 : Bytes → Digest) : Digest → List (ExtensionRow φ) → Bool
  | _, [] => true
  | previous, row :: rest =>
      decide (row.payloadSha256 = sha256 (row.content.canonicalPayload sha256) ∧
        row.previousHash = previous ∧ row.eventHash = row.expectedHash sha256) &&
        chainValid sha256 row.eventHash rest

end Store

end EgoAgent.Bridge.Authority
