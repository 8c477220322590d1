import EgoAgent.Bridge.AdmittedEffects

/-!
The typed workspace effects of the gateway and the executor's authority checks.

`readEffect` is `WorkspaceEffect.model_validate` of a decoded payload and
`WorkspaceEffect.json` its dump by alias.  `redact_text` is a parameter: the checks
only compare its result with the text.
-/

namespace EgoAgent.Gateway

open EgoAgent.Api EgoAgent.Bridge

inductive GatewayError where
  | validation (field : String)
  | tool (code message : String)
  deriving DecidableEq

/-! ### Contracts -/

inductive WorkspaceOperation where
  | writeText
  | makeDirectory
  | deleteFile
  deriving DecidableEq

def WorkspaceOperation.text : WorkspaceOperation → String
  | .writeText => "WRITE_TEXT"
  | .makeDirectory => "MAKE_DIRECTORY"
  | .deleteFile => "DELETE_FILE"

inductive WorkspaceArguments where
  | writeText (contentUtf8 : String)
  | makeDirectory
  | deleteFile
  deriving DecidableEq

def WorkspaceArguments.operation : WorkspaceArguments → WorkspaceOperation
  | .writeText _ => .writeText
  | .makeDirectory => .makeDirectory
  | .deleteFile => .deleteFile

inductive RecoveryMode where
  | removeCreatedPath
  | restoreBackup
  deriving DecidableEq

def RecoveryMode.text : RecoveryMode → String
  | .removeCreatedPath => "REMOVE_CREATED_PATH"
  | .restoreBackup => "RESTORE_BACKUP"

structure RecoveryPlan where
  mode : RecoveryMode
  backupPath : Option String
  deriving DecidableEq

structure WorkspaceEffectCore where
  operation : WorkspaceOperation
  finalArguments : WorkspaceArguments
  target : String
  affectedScope : List String
  projectId : String
  taskId : String
  workspaceCheckpointSha256 : String
  policySha256 : String
  decision : Verdict
  recovery : RecoveryPlan
  sourceEffectSha256 : String
  safetyDecisionSha256 : String
  projectionSha256 : String

structure WorkspaceEffect extends WorkspaceEffectCore where
  effectSha256 : String

def maxWriteTextBytes : Nat := 1024 * 1024

def maxRelativePathLength : Nat := 1024

/-- `SHA256_PATTERN`. -/
def isSha256 (text : String) : Bool :=
  text.toList.length = 64 ∧
    text.toList.all fun c => ('0' ≤ c ∧ c ≤ '9') ∨ ('a' ≤ c ∧ c ≤ 'f')

/-- `IDENTIFIER_PATTERN`. -/
def isProjectIdentifier (text : String) : Bool :=
  match text.toList with
  | [] => false
  | first :: rest =>
      Authority.isAsciiAlphanumeric first && decide (rest.length ≤ 127) &&
        rest.all fun c => Authority.isAsciiAlphanumeric c || decide (c ∈ ['.', '_', '-'])

/-! ### Dumps and digests -/

section Dumps

variable {φ : Type} [FloatText φ]

def WorkspaceArguments.json : WorkspaceArguments → Json φ
  | .writeText content =>
      .dict [("operation", .str "WRITE_TEXT"), ("content_utf8", .str content)]
  | .makeDirectory => .dict [("operation", .str "MAKE_DIRECTORY")]
  | .deleteFile => .dict [("operation", .str "DELETE_FILE")]

def RecoveryPlan.json (plan : RecoveryPlan) : Json φ :=
  .dict [("mode", .str plan.mode.text),
    ("backup_path", match plan.backupPath with
      | none => .null
      | some path => .str path)]

/-- `model_dump(mode="json", by_alias=True)` of the core. -/
def WorkspaceEffectCore.json (core : WorkspaceEffectCore) : List (String × Json φ) :=
  [("schema", .str "egoagentos.workspace-effect.v1"), ("operation", .str core.operation.text),
    ("final_arguments", core.finalArguments.json), ("target", .str core.target),
    ("affected_scope", textList core.affectedScope), ("project_id", .str core.projectId),
    ("task_id", .str core.taskId),
    ("workspace_checkpoint_sha256", .str core.workspaceCheckpointSha256),
    ("policy_sha256", .str core.policySha256), ("decision", .str core.decision.text),
    ("reversibility", .str "REVERSIBLE"), ("recovery", core.recovery.json),
    ("source_effect_sha256", .str core.sourceEffectSha256),
    ("safety_decision_sha256", .str core.safetyDecisionSha256),
    ("projection_sha256", .str core.projectionSha256)]

def WorkspaceEffect.json (effect : WorkspaceEffect) : List (String × Json φ) :=
  effect.toWorkspaceEffectCore.json ++ [("effect_sha256", .str effect.effectSha256)]

/-- `canonical_json`; a dump holds no numbers. -/
def canonicalJson (value : Json φ) : List Char := value.sorted.text

variable (φ) (sha256 : Bytes → Digest)

/-- `WORKSPACE_MAPPING_VERSION`. -/
def workspaceMappingVersion : String := "agentteams-workspace-adapter/2026-09-01"

/-- `_PROJECTION_FIELDS`. -/
def projectionFields : List String :=
  ["source_effect_sha256", "safety_decision_sha256", "operation", "final_arguments", "target",
    "affected_scope", "project_id", "task_id", "workspace_checkpoint_sha256", "policy_sha256",
    "decision", "reversibility", "recovery"]

/-- `workspace_projection_sha256`. -/
def workspaceProjectionSha256 (core : WorkspaceEffectCore) : String :=
  let projection := ("mapping_version", Json.str workspaceMappingVersion) ::
    (core.json (φ := φ)).filter fun entry => entry.1 ∈ projectionFields
  (sha256 (utf8Encode "egoagentos:agentteams-workspace-wire-projection:v1\x00".toList ++
    utf8Encode (canonicalJson (.dict projection)))).labelled ""

end Dumps

/-! ### Reading a payload -/

section Reading

variable {φ : Type} [FloatText φ] (sha256 : Bytes → Digest)

def textField (members : List (String × Json φ)) (field : String) : Except GatewayError String :=
  match members.lookup field with
  | some (.str text) => .ok text
  | _ => .error (.validation field)

/-- A field whose text has to pass a check. -/
def checkedField (members : List (String × Json φ)) (field : String) (check : String → Bool) :
    Except GatewayError String := do
  let text ← textField members field
  raiseIf (check text = false) (.validation field)
  return text

/-- A field of one of several literals. -/
def literalField {α : Type} (members : List (String × Json φ)) (field : String)
    (spelled : α → String) (options : List α) : Except GatewayError α := do
  let text ← textField members field
  expect (.validation field) (options.find? fun option => spelled option = text)

/-- `extra="forbid"`. -/
def forbidExtra (members : List (String × Json φ)) (fields : List String) :
    Except GatewayError Unit :=
  raiseIf (¬ ∀ entry ∈ members, entry.1 ∈ fields) (.validation "extra_forbidden")

def operations : List WorkspaceOperation := [.writeText, .makeDirectory, .deleteFile]

def readArguments : Option (Json φ) → Except GatewayError WorkspaceArguments
  | some (.dict members) => do
      let operation ← literalField members "operation" WorkspaceOperation.text operations
      match operation with
      | .writeText => do
          forbidExtra members ["operation", "content_utf8"]
          let content ← checkedField members "content_utf8" fun text =>
            text.length ≤ maxWriteTextBytes
          return .writeText content
      | .makeDirectory => do
          forbidExtra members ["operation"]
          return .makeDirectory
      | .deleteFile => do
          forbidExtra members ["operation"]
          return .deleteFile
  | _ => .error (.validation "final_arguments")

def readBackupPath : Option (Json φ) → Except GatewayError (Option String)
  | some .null => .ok none
  | some (.str path) => .ok (some path)
  | _ => .error (.validation "backup_path")

def readRecovery : Option (Json φ) → Except GatewayError RecoveryPlan
  | some (.dict members) => do
      forbidExtra members ["mode", "backup_path"]
      let mode ← literalField members "mode" RecoveryMode.text [.removeCreatedPath, .restoreBackup]
      let backupPath ← readBackupPath (members.lookup "backup_path")
      return ⟨mode, backupPath⟩
  | _ => .error (.validation "recovery")

def readScopeItems : List (Json φ) → Except GatewayError (List String)
  | [] => .ok []
  | .str text :: rest => do return text :: (← readScopeItems rest)
  | _ => .error (.validation "affected_scope")

def readScope : Option (Json φ) → Except GatewayError (List String)
  | some (.list items) => do
      let scope ← readScopeItems items
      raiseIf (scope.length < 1 ∨ 2 < scope.length) (.validation "affected_scope")
      return scope
  | _ => .error (.validation "affected_scope")

/-- The durable paths of an effect. -/
def durablePaths (target : String) : Option String → List String
  | none => [target]
  | some backup => [target, backup]

/-- `validate_exact_operation_binding`. -/
def validateExactOperationBinding (core : WorkspaceEffectCore) : Except GatewayError Unit := do
  raiseIf (core.finalArguments.operation ≠ core.operation)
    (.validation "operation must exactly match final_arguments.operation")
  raiseIf (core.affectedScope ≠ durablePaths core.target core.recovery.backupPath)
    (.validation "affected_scope must exactly enumerate the durable paths")
  raiseIf (core.operation = .makeDirectory ∧
      (core.recovery.mode ≠ .removeCreatedPath ∨ core.recovery.backupPath ≠ none))
    (.validation "MAKE_DIRECTORY recovery must remove the created path")
  raiseIf (core.operation = .deleteFile ∧
      (core.recovery.mode ≠ .restoreBackup ∨ core.recovery.backupPath = none))
    (.validation "DELETE_FILE requires an exact recoverable backup path")
  raiseIf (core.recovery.mode = .restoreBackup ∧ core.recovery.backupPath = none)
    (.validation "RESTORE_BACKUP requires backup_path")
  raiseIf (core.recovery.mode = .removeCreatedPath ∧ core.recovery.backupPath ≠ none)
    (.validation "REMOVE_CREATED_PATH cannot bind a backup_path")
  raiseIf (workspaceProjectionSha256 φ sha256 core ≠ core.projectionSha256)
    (.validation "projection digest does not match the exact mapped authority")

def coreFields : List String :=
  ["schema", "operation", "final_arguments", "target", "affected_scope", "project_id", "task_id",
    "workspace_checkpoint_sha256", "policy_sha256", "decision", "reversibility", "recovery",
    "source_effect_sha256", "safety_decision_sha256", "projection_sha256"]

/-- The fields of the core, each by its own annotation. -/
def readFields (wire : List (String × Json φ)) : Except GatewayError WorkspaceEffectCore := do
  let _ ← literalField wire "schema" id ["egoagentos.workspace-effect.v1"]
  let operation ← literalField wire "operation" WorkspaceOperation.text operations
  let finalArguments ← readArguments (wire.lookup "final_arguments")
  let target ← checkedField wire "target" fun text =>
    1 ≤ text.length ∧ text.length ≤ maxRelativePathLength
  let affectedScope ← readScope (wire.lookup "affected_scope")
  let projectId ← checkedField wire "project_id" isProjectIdentifier
  let taskId ← checkedField wire "task_id" isProjectIdentifier
  let workspaceCheckpointSha256 ← checkedField wire "workspace_checkpoint_sha256" isSha256
  let policySha256 ← checkedField wire "policy_sha256" isSha256
  let decision ← literalField wire "decision" Verdict.text [.allow, .approvalRequired, .deny]
  let _ ← literalField wire "reversibility" id ["REVERSIBLE"]
  let recovery ← readRecovery (wire.lookup "recovery")
  let sourceEffectSha256 ← checkedField wire "source_effect_sha256" isSha256
  let safetyDecisionSha256 ← checkedField wire "safety_decision_sha256" isSha256
  let projectionSha256 ← checkedField wire "projection_sha256" isSha256
  return WorkspaceEffectCore.mk operation finalArguments target affectedScope projectId taskId
    workspaceCheckpointSha256 policySha256 decision recovery sourceEffectSha256
    safetyDecisionSha256 projectionSha256

/-- `WorkspaceEffectCore.model_validate`. -/
def readCore (wire : List (String × Json φ)) : Except GatewayError WorkspaceEffectCore := do
  forbidExtra wire coreFields
  let core ← readFields wire
  validateExactOperationBinding (φ := φ) sha256 core
  return core

/-- `WorkspaceEffect.model_validate`. -/
def readEffect (wire : List (String × Json φ)) : Except GatewayError WorkspaceEffect := do
  forbidExtra wire (coreFields ++ ["effect_sha256"])
  let core ← readFields wire
  let effectSha256 ← checkedField wire "effect_sha256" isSha256
  validateExactOperationBinding (φ := φ) sha256 core
  return { core with effectSha256 := effectSha256 }

variable (φ)

/-- `workspace_effect_sha256`: the core of the effect, validated again. -/
def workspaceEffectSha256 (effect : WorkspaceEffect) : Except GatewayError String := do
  let core ← readCore (φ := φ) sha256 effect.toWorkspaceEffectCore.json
  return (sha256 (utf8Encode (canonicalJson (.dict (core.json (φ := φ)))))).labelled ""

end Reading

/-! ### Authority checks -/

section Executor

variable (unicode : UnicodeText)

def sensitiveDirectories : List String := [".git", ".ssh", ".aws", ".gnupg"]

def sensitiveExactNames : List String :=
  [".env", ".npmrc", ".pypirc", "credentials.json", "id_dsa", "id_ecdsa", "id_ed25519", "id_rsa",
    "known_hosts", "netrc", "secrets.json"]

def sensitivePrefixes : List String := [".env.", "credentials.", "secrets."]

def sensitiveSuffixes : List String := [".key", ".p12", ".pfx", ".pem"]

/-- `is_sensitive_path`. -/
def isSensitivePath (path : String) : Bool :=
  let lowered := (parts path.toList).map unicode.lower
  let name := lowered.getLast?.getD []
  lowered.any (fun part => decide (part ∈ words sensitiveDirectories)) ||
    decide (name ∈ words sensitiveExactNames) ||
    sensitivePrefixes.any (fun start => start.toList.isPrefixOf name) ||
    sensitiveSuffixes.any (fun ending => ending.toList.isSuffixOf name)

/-- `_relative_parts`. -/
def relativeParts (path : String) : Except GatewayError (List (List Char)) := do
  raiseIf (path = "" ∨ maxRelativePathLength < path.length)
    (.tool "invalid_path" "A non-empty bounded relative path is required")
  raiseIf ('\x00' ∈ path.toList ∨ '\\' ∈ path.toList)
    (.tool "invalid_path" "NUL and backslash path syntax are forbidden")
  raiseIf (isAbsolute path.toList = true ∨ ['.', '.'] ∈ parts path.toList)
    (.tool "path_outside_trusted_root" "Absolute paths and parent traversal are forbidden")
  return (parts path.toList).filter fun part => part ∉ [[], ['.']]

/-- `normalised_relative`. -/
def normalisedRelative (path : String) : Except GatewayError String := do
  let kept ← relativeParts path
  return if joined kept = [] then "." else String.ofList (joined kept)

/-- `_validate_project_id`. -/
def validateProjectId (projectId : String) : Except GatewayError String := do
  let normalised ← normalisedRelative projectId
  raiseIf (normalised ≠ projectId ∨ (parts normalised.toList).length ≠ 1)
    (.tool "project_scope_mismatch" "Project IDs must name one canonical workspace directory")
  raiseIf (isSensitivePath unicode projectId = true)
    (.tool "sensitive_path_rejected" "Sensitive project paths are forbidden")
  return normalised

/-- `_normalise_bound_path`. -/
def normaliseBoundPath (path projectId : String) : Except GatewayError String := do
  let normalised ← normalisedRelative path
  raiseIf (normalised ≠ path) (.tool "invalid_path" "Workspace paths must be canonical")
  raiseIf ((parts normalised.toList).head? ≠ some projectId.toList)
    (.tool "project_scope_mismatch" "The effect target is outside its exact project")
  raiseIf (isSensitivePath unicode normalised = true)
    (.tool "sensitive_path_rejected" "Sensitive workspace paths cannot be mutated")
  return normalised

/-- The checks of the backup path. -/
def validateBackup (target projectId : String) :
    Option String → Except GatewayError (Option String)
  | none => .ok none
  | some path => do
      let backup ← normaliseBoundPath unicode path projectId
      raiseIf (backup = target)
        (.tool "recovery_path_invalid" "Recovery backup must differ from the target")
      return some backup

/-- The checks of a text to be written. -/
def validateContent (redactText : String → String) :
    WorkspaceArguments → Except GatewayError Unit
  | .writeText content => do
      raiseIf ('\x00' ∈ content.toList) (.tool "invalid_text" "WRITE_TEXT rejects NUL content")
      raiseIf (redactText content ≠ content)
        (.tool "secret_content_rejected" "Credential-like content cannot be written")
  | _ => .ok ()

variable (φ : Type) [FloatText φ] (sha256 : Bytes → Digest) (redactText : String → String)

def digestMismatch : GatewayError :=
  .tool "effect_digest_mismatch" "The canonical effect fields changed after admission"

/-- `_validate_authority`. -/
def validateAuthority (effect : WorkspaceEffect) :
    Except GatewayError (String × Option String) := do
  let actual ← (workspaceEffectSha256 φ sha256 effect).mapError fun _ => digestMismatch
  raiseIf (actual ≠ effect.effectSha256) digestMismatch
  let project ← validateProjectId unicode effect.projectId
  let target ← normaliseBoundPath unicode effect.target project
  let backup ← validateBackup unicode target project effect.recovery.backupPath
  raiseIf (effect.affectedScope ≠ durablePaths target backup)
    (.tool "affected_scope_mismatch" "The effect affected scope is not exact")
  validateContent redactText effect.finalArguments
  return (target, backup)

end Executor

end EgoAgent.Gateway
