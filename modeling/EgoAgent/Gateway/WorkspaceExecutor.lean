import EgoAgent.Gateway.RelativePaths

/-!
The executor on a tree of directories and files.

The file system does what it is asked and no one else writes.  A call that raises is an
error without a tree: what it leaves behind is not followed here.
-/

namespace EgoAgent.Gateway

open EgoAgent.Api EgoAgent.Bridge

inductive Node where
  | directory
  | file (content : Bytes)
  deriving DecidableEq

abbrev EntryPath := List (List Char)

/-- The entries below the workspace root. -/
abbrev Tree := Finmap fun _ : EntryPath => Node

/-- The entry a relative path names. -/
def entryOf (path : String) : EntryPath := parts path.toList

structure ReceiptRecovery where
  mode : RecoveryMode
  backupPath : Option String
  backupSha256 : Option String
  deriving DecidableEq

inductive Approval where
  | notRequired
  | consumed
  deriving DecidableEq

/-- A receipt, less the fields it copies from its effect. -/
structure Receipt where
  effect : WorkspaceEffect
  target : String
  approval : Approval
  beforeCheckpointSha256 : String
  afterCheckpointSha256 : String
  artifactSha256 : String
  recovery : ReceiptRecovery

/-- A call and what the two verifiers answer it. -/
structure ExecuteCall where
  effect : WorkspaceEffect
  approvalReceipt : Option String
  effectAuthorityVerifier : Option (WorkspaceEffect → Except GatewayError Unit)
  approvalVerifier : Option (String → WorkspaceEffect → Except GatewayError Unit)

section Executor

variable (φ : Type) [FloatText φ] (unicode : UnicodeText) (sha256 : Bytes → Digest)

/-! ### Checkpoints -/

/-- `open_directory_descriptor`: every directory on the way is there. -/
def openDirectory (tree : Tree) (directory : EntryPath) : Except GatewayError Unit :=
  raiseIf (¬ ∀ start ∈ directory.inits, start ≠ [] → tree.lookup start = some .directory)
    (.tool "path_open_failed"
      "The requested directory could not be opened without following symlinks")

/-- The entries of a project in the order of `_checkpoint_entries`. -/
def checkpointEntries (tree : Tree) (project : List Char) : List EntryPath :=
  (tree.keys.filter fun entry => entry.head? = some project ∧ entry.length ≠ 1).sort (· ≤ ·)

def entryJson (tree : Tree) (entry : EntryPath) : Json φ :=
  match tree.lookup entry with
  | some (.file content) => .dict
      [("path", .str (String.ofList (joined entry))), ("kind", .str "file"),
        ("size_bytes", .int content.length), ("sha256", .str ((sha256 content).labelled ""))]
  | _ => .dict [("path", .str (String.ofList (joined entry))), ("kind", .str "directory")]

/-- `workspace_checkpoint_sha256`. -/
def workspaceCheckpointSha256 (tree : Tree) (projectId : String) : Except GatewayError String := do
  let project ← validateProjectId unicode projectId
  openDirectory tree (entryOf project)
  let entries := checkpointEntries tree project.toList
  raiseIf (entries.any (fun entry => isSensitivePath unicode (String.ofList (joined entry))) = true)
    (.tool "sensitive_path_rejected" "Sensitive workspace paths are forbidden")
  return (sha256 (utf8Encode (canonicalJson (.dict
    [("schema", Json.str "egoagentos.workspace-checkpoint.v1"), ("project_id", .str project),
      ("entries", .list (entries.map (entryJson φ sha256 tree)))])))).labelled ""

/-- `_verify_checkpoint`. -/
def verifyCheckpoint (tree : Tree) (effect : WorkspaceEffect) : Except GatewayError String := do
  let actual ← workspaceCheckpointSha256 φ unicode sha256 tree effect.projectId
  raiseIf (actual ≠ effect.workspaceCheckpointSha256)
    (.tool "workspace_checkpoint_stale" "The workspace changed after the effect was admitted")
  return actual

/-- `_authorize`. -/
def authorize (call : ExecuteCall) : Except GatewayError Approval :=
  match call.effect.decision with
  | .deny => .error (.tool "effect_denied" "Denied effects are never executable")
  | .allow => do
      raiseIf (call.approvalReceipt ≠ none)
        (.tool "approval_not_expected" "ALLOW effects do not accept approval receipts")
      return .notRequired
  | .approvalRequired => do
      let receipt ← expect (.tool "approval_required" "An exact approval receipt is required")
        call.approvalReceipt
      let verifier ← expect (.tool "approval_verifier_unavailable"
        "No trusted approval verifier is configured") call.approvalVerifier
      verifier receipt call.effect
      return .consumed

/-! ### Operations -/

/-- `_parent_and_name`, with the parent opened. -/
def openParent (tree : Tree) (path : String) : Except GatewayError Unit := do
  raiseIf (entryOf path = []) (.tool "invalid_path" "A concrete workspace target is required")
  openDirectory tree (entryOf path).dropLast

def contentSha256 (content : Bytes) : String := (sha256 content).labelled ""

def planMismatch (message : String) : GatewayError := .tool "recovery_plan_mismatch" message

def argumentMismatch (message : String) : GatewayError :=
  .tool "operation_argument_mismatch" message

/-- The tree, the artifact digest and the recovery an operation ends with. -/
abbrev Outcome := Tree × String × ReceiptRecovery

/-- A backup path is used once. -/
def openBackup (tree : Tree) (backup : String) : Except GatewayError Unit := do
  openParent tree backup
  raiseIf (tree.lookup (entryOf backup) ≠ none)
    (.tool "recovery_backup_exists" "Recovery backup paths are single-use")

/-- A write over an existing file. -/
def overwrite (tree : Tree) (target : String) (old data : Bytes) (mode : RecoveryMode) :
    Option String → Except GatewayError Outcome
  | none => .error (planMismatch "Overwrites require an exact backup path")
  | some backup => do
      raiseIf (mode ≠ .restoreBackup) (planMismatch "Overwrites require an exact backup path")
      openBackup tree backup
      return ((tree.insert (entryOf backup) (.file old)).insert (entryOf target) (.file data),
        contentSha256 sha256 data, ⟨.restoreBackup, some backup, some (contentSha256 sha256 old)⟩)

/-- `_execute_write`. -/
def executeWrite (tree : Tree) (effect : WorkspaceEffect) (target : String)
    (backup : Option String) : Except GatewayError Outcome :=
  match effect.finalArguments with
  | .writeText content => do
      let data := utf8Encode content.toList
      raiseIf (maxWriteTextBytes < data.length)
        (.tool "write_too_large" "WRITE_TEXT exceeds the configured UTF-8 byte limit")
      openParent tree target
      match tree.lookup (entryOf target) with
      | none => do
          raiseIf (effect.recovery.mode ≠ .removeCreatedPath ∨ backup ≠ none)
            (planMismatch "New files must bind REMOVE_CREATED_PATH recovery")
          return (tree.insert (entryOf target) (.file data), contentSha256 sha256 data,
            ⟨.removeCreatedPath, none, none⟩)
      | some .directory => .error (.tool "not_regular_file" "WRITE_TEXT targets regular files")
      | some (.file old) => overwrite sha256 tree target old data effect.recovery.mode backup
  | _ => .error (argumentMismatch "WRITE_TEXT arguments required")

/-- `_execute_mkdir`. -/
def executeMkdir (tree : Tree) (effect : WorkspaceEffect) (target : String)
    (backup : Option String) : Except GatewayError Outcome :=
  match effect.finalArguments with
  | .makeDirectory => do
      raiseIf (effect.recovery.mode ≠ .removeCreatedPath ∨ backup ≠ none)
        (planMismatch "Directories must bind REMOVE_CREATED_PATH recovery")
      openParent tree target
      raiseIf (tree.lookup (entryOf target) ≠ none)
        (.tool "path_already_exists" "Directory target already exists")
      return (tree.insert (entryOf target) .directory,
        (sha256 (utf8Encode (canonicalJson (.dict
          [("kind", Json.str (φ := φ) "directory"), ("path", .str target)])))).labelled "",
        ⟨.removeCreatedPath, none, none⟩)
  | _ => .error (argumentMismatch "MAKE_DIRECTORY arguments required")

/-- The move of a file to its backup. -/
def moveToBackup (tree : Tree) (target : String) (mode : RecoveryMode) :
    Option String → Except GatewayError Outcome
  | none => .error (planMismatch "DELETE_FILE requires a recoverable backup")
  | some backup => do
      raiseIf (mode ≠ .restoreBackup) (planMismatch "DELETE_FILE requires a recoverable backup")
      openParent tree target
      match tree.lookup (entryOf target) with
      | none => .error (.tool "path_not_found" "DELETE_FILE target does not exist")
      | some .directory =>
          .error (.tool "not_regular_file" "DELETE_FILE only removes regular files")
      | some (.file old) => do
          openBackup tree backup
          return ((tree.erase (entryOf target)).insert (entryOf backup) (.file old),
            contentSha256 sha256 old,
            ⟨.restoreBackup, some backup, some (contentSha256 sha256 old)⟩)

/-- `_execute_delete`. -/
def executeDelete (tree : Tree) (effect : WorkspaceEffect) (target : String)
    (backup : Option String) : Except GatewayError Outcome :=
  match effect.finalArguments with
  | .deleteFile => moveToBackup sha256 tree target effect.recovery.mode backup
  | _ => .error (argumentMismatch "DELETE_FILE arguments required")

def executeOperation (tree : Tree) (effect : WorkspaceEffect) (target : String)
    (backup : Option String) : Except GatewayError Outcome :=
  match effect.operation with
  | .writeText => executeWrite sha256 tree effect target backup
  | .makeDirectory => executeMkdir φ sha256 tree effect target backup
  | .deleteFile => executeDelete sha256 tree effect target backup

variable (redactText : String → String)

/-- `WorkspaceExecutor.execute`. -/
def execute (tree : Tree) (call : ExecuteCall) : Except GatewayError (Tree × Receipt) := do
  let verifier ← expect (.tool "effect_authority_verifier_unavailable"
    "A trusted Control-ledger effect verifier is required before execution")
    call.effectAuthorityVerifier
  let paths ← validateAuthority unicode φ sha256 redactText call.effect
  verifier call.effect
  let before ← verifyCheckpoint φ unicode sha256 tree call.effect
  let approval ← authorize call
  let _ ← verifyCheckpoint φ unicode sha256 tree call.effect
  let outcome ← executeOperation φ sha256 tree call.effect paths.1 paths.2
  let after ← workspaceCheckpointSha256 φ unicode sha256 outcome.1 call.effect.projectId
  return (outcome.1, Receipt.mk call.effect paths.1 approval before after outcome.2.1 outcome.2.2)

end Executor

end EgoAgent.Gateway
