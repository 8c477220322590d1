import EgoAgent.Bridge.AuthorityLedger

/-!
`build_workspace_effect` and the verifier that compares a wire effect with it.

The projection re-roots a safety decision's effect to its project directory.  The
verifier replays the authority stream and accepts a wire effect whose bytes are the
projection of the one admitted decision it names.
-/

namespace EgoAgent.Bridge.Authority

open EgoAgent.Api EgoAgent.SecureMemory

/-! ### Paths and identifiers -/

/-- `_WINDOWS_ABSOLUTE_RE`. -/
def hasWindowsRoot : List Char → Bool
  | letter :: ':' :: separator :: _ =>
      (('A' ≤ letter ∧ letter ≤ 'Z') ∨ ('a' ≤ letter ∧ letter ≤ 'z')) ∧
        (separator = '\\' ∨ separator = '/')
  | _ => false

/-- `validate_guest_artifact_path`, as a verdict. -/
def isGuestArtifactPath (path : List Char) : Bool :=
  path ≠ [] ∧ '\x00' ∉ path ∧ '\\' ∉ path ∧ hasWindowsRoot path = false ∧
    isAbsolute path = false ∧
    (parts path).all (fun part => part ∉ [[], ['.'], ['.', '.']]) = true ∧ asPosix path = path

def requireGuestArtifactPath (path : List Char) : Except GateError Unit :=
  raiseIf (isGuestArtifactPath path = false) (.value "guest artifact path is not canonical")

def isAsciiAlphanumeric (c : Char) : Bool :=
  ('a' ≤ c ∧ c ≤ 'z') ∨ ('A' ≤ c ∧ c ≤ 'Z') ∨ ('0' ≤ c ∧ c ≤ '9')

/-- `_IDENTIFIER`. -/
def isIdentifier : List Char → Bool
  | [] => false
  | first :: rest =>
      isAsciiAlphanumeric first && decide (rest.length ≤ 127) &&
        rest.all fun c => isAsciiAlphanumeric c || decide (c ∈ ['.', '_', '-'])

/-! ### The projection -/

inductive Recovery where
  | removeCreatedPath
  | restoreBackup (backupPath : String)
  deriving DecidableEq

section Projection

variable {φ : Type} [FloatEquality φ]

def Recovery.json : Recovery → Json φ
  | .removeCreatedPath => .dict [("mode", .str "REMOVE_CREATED_PATH"), ("backup_path", .null)]
  | .restoreBackup path => .dict [("mode", .str "RESTORE_BACKUP"), ("backup_path", .str path)]

/-- `_validate_source_authority`. -/
def validateSourceAuthority (effect : CanonicalEffect φ) : Except GateError Unit := do
  raiseIf (effect.affectedScope ≠ expectedScope effect)
    (.value "source affected scope must exactly bind project and task")
  raiseIf (isIdentifier effect.projectId.toList = false)
    (.value "source project ID is not a workspace identifier")
  raiseIf (isIdentifier effect.taskId.toList = false)
    (.value "source task ID is not a workspace identifier")
  raiseIf (effect.reversibility ≠ "REVERSIBLE")
    (.value "workspace mapping requires an explicitly reversible effect")

/-- `_validated_source_path`: the path below the project directory. -/
def validatedSourcePath (effect : CanonicalEffect φ) : Except GateError String := do
  requireGuestArtifactPath effect.target.toList
  let targetParts := parts effect.target.toList
  raiseIf (targetParts.length < 2 ∨ targetParts.head? ≠ some "workspace".toList)
    (.value "source target must be a canonical workspace subpath")
  let relative := joined targetParts.tail
  match effect.finalArguments.lookup "path" with
  | some (.str argument) => do
      requireGuestArtifactPath argument.toList
      raiseIf (argument.toList ≠ relative)
        (.value "source argument path does not match the exact target")
      return effect.projectId ++ "/" ++ argument
  | _ => .error (.value "source arguments require one canonical path string")

def restorePrefix : List Char := "RESTORE_BACKUP:".toList

/-- `_project_recovery`. -/
def projectRecovery (effect : CanonicalEffect φ) : Except GateError Recovery := do
  let plan := effect.recoveryPlan.toList
  let recovery ←
    if effect.recoveryPlan = "REMOVE_CREATED_PATH" then .ok .removeCreatedPath
    else if restorePrefix.isPrefixOf plan then
      let backup := plan.drop restorePrefix.length
      if isGuestArtifactPath backup = false then
        .error (.value "guest artifact path is not canonical")
      else if (parts backup).length < 3 ∨ (parts backup).take 2 ≠ words ["workspace", ".recovery"]
      then .error (.value "recovery backup must be below workspace/.recovery")
      else .ok (.restoreBackup
        (effect.projectId ++ "/" ++ String.ofList (joined (parts backup).tail)))
    else .error (.value "source recovery plan is not exactly mappable")
  raiseIf (effect.operation = "workspace.mkdir" ∧ recovery ≠ .removeCreatedPath)
    (.value "workspace.mkdir requires REMOVE_CREATED_PATH recovery")
  raiseIf (effect.operation = "workspace.delete" ∧ recovery = .removeCreatedPath)
    (.value "workspace.delete requires RESTORE_BACKUP recovery")
  return recovery

/-- `set(arguments) == names`. -/
def hasExactly (arguments : List (String × Json φ)) (names : List String) : Bool :=
  (arguments.all fun entry => entry.1 ∈ names) &&
    names.all fun name => name ∈ arguments.map Prod.fst

/-- `_project_arguments`. -/
def projectArguments (effect : CanonicalEffect φ) :
    Except GateError (String × List (String × Json φ)) :=
  if effect.operation = "workspace.write" then
    match effect.finalArguments.lookup "text" with
    | some (.str text) =>
        if hasExactly effect.finalArguments ["path", "text"] then
          .ok ("WRITE_TEXT",
            [("operation", .str "WRITE_TEXT"), ("content_utf8", .str text)])
        else .error (.value "workspace.write requires only exact path and text arguments")
    | _ => .error (.value "workspace.write requires only exact path and text arguments")
  else if effect.operation = "workspace.mkdir" then
    if hasExactly effect.finalArguments ["path"] then
      .ok ("MAKE_DIRECTORY", [("operation", .str "MAKE_DIRECTORY")])
    else .error (.value "workspace.mkdir requires only the exact path argument")
  else if effect.operation = "workspace.delete" then
    if hasExactly effect.finalArguments ["path"] then
      .ok ("DELETE_FILE", [("operation", .str "DELETE_FILE")])
    else .error (.value "workspace.delete requires only the exact path argument")
  else .error (.value "source operation has no typed workspace mapping")

def workspaceMappingVersion : String := "agentteams-workspace-adapter/2026-09-01"

def projectionFields : List String :=
  ["source_effect_sha256", "safety_decision_sha256", "operation", "final_arguments", "target",
    "affected_scope", "project_id", "task_id", "workspace_checkpoint_sha256", "policy_sha256",
    "decision", "reversibility", "recovery"]

variable (sha256 : Bytes → Digest)

/-- The wire effect before its two digests. -/
def wireCore (decision : SafetyDecision φ) (target operation : String)
    (arguments : List (String × Json φ)) (recovery : Recovery) : List (String × Json φ) :=
  [("schema", .str "egoagentos.workspace-effect.v1"), ("operation", .str operation),
    ("final_arguments", .dict arguments), ("target", .str target),
    ("affected_scope", textList (match recovery with
      | .removeCreatedPath => [target]
      | .restoreBackup backup => [target, backup])),
    ("project_id", .str decision.effect.projectId), ("task_id", .str decision.effect.taskId),
    ("workspace_checkpoint_sha256", digestText decision.effect.workspaceCheckpointSha256),
    ("policy_sha256", digestText decision.effect.policySha256),
    ("decision", .str decision.verdict.text), ("reversibility", .str "REVERSIBLE"),
    ("recovery", recovery.json),
    ("source_effect_sha256", digestText (decision.effect.effectSha256 sha256)),
    ("safety_decision_sha256", digestText decision.decisionSha256)]

/-- `core` with `projection_sha256` and then `effect_sha256`. -/
def sealedWire (core : List (String × Json φ)) : List (String × Json φ) :=
  let projection := ("mapping_version", Json.str workspaceMappingVersion) ::
    core.filter fun entry => entry.1 ∈ projectionFields
  let projected := core ++ [("projection_sha256",
    digestText (domainDigest sha256 "agentteams-workspace-wire-projection" (.dict projection)))]
  projected ++ [("effect_sha256",
    digestText (sha256 (SecureMemory.canonicalBytes (.dict projected : Json φ))))]

/-- `build_workspace_effect`. -/
def buildWorkspaceEffect (decision : SafetyDecision φ) :
    Except GateError (List (String × Json φ)) := do
  raiseIf (¬ decision.Valid sha256) (.validation "SafetyDecision")
  raiseIf (decision.verdict = .deny)
    (.value "DENY safety decisions can never become workspace effects")
  validateSourceAuthority decision.effect
  let target ← validatedSourcePath decision.effect
  let arguments ← projectArguments decision.effect
  let recovery ← projectRecovery decision.effect
  return sealedWire sha256 (wireCore sha256 decision target arguments.1 arguments.2 recovery)

end Projection

/-! ### The verifier -/

inductive VerifierError where
  | bridge (error : AuthorityError)
  | gate (error : GateError)
  | value (message : String)

section Verifier

variable {φ : Type} [FloatEquality φ] (platform : AuthorityPlatform φ)

/-- `campaign_binding`: the bound run of a project and a configuration. -/
def AuthorityStore.campaignBinding (store : AuthorityStore φ) (runId projectId : String)
    (configurationId : Option MeasuredConfigurationId) : Except VerifierError CampaignBinding :=
  expect (.bridge (.bridge "campaign_binding_not_found"
      "No campaign binding matches this run, project, and configuration" 404))
    ((store.runs.find? fun run => run.id = runId).bind fun run =>
      run.campaign.bind fun campaign =>
        if run.agentteamsProjectId = projectId ∧ campaign.configurationId = configurationId
        then some campaign else none)

/-- The safety decision of a row, as its model reads it back. -/
def ExtensionRow.safety (sha256 : Bytes → Digest) (row : ExtensionRow φ) :
    Option (SafetyDecision φ) :=
  match row.content with
  | .event (.safetyDecision decision) => if decision.Valid sha256 then some decision else none
  | _ => none

/-- `wire.get(field) == text`. -/
def fieldIs (wire : List (String × Json φ)) (field text : String) : Bool :=
  match wire.lookup field with
  | some (.str found) => found = text
  | _ => false

/-- The admitted safety decisions of a run that have the digest a wire effect names. -/
def AuthorityStore.matched (store : AuthorityStore φ) (runId : String)
    (wire : List (String × Json φ)) : List (SafetyDecision φ) :=
  ((store.rowsOf runId).filterMap (ExtensionRow.safety platform.sha256)).filter fun decision =>
    fieldIs wire "safety_decision_sha256" (decision.decisionSha256.labelled "")

/-- The readable leases of a task. -/
def AuthorityStore.readLeases (store : AuthorityStore φ) (runId taskId : String) :
    List SignedTaskLease :=
  (store.leases.filter fun lease => lease.runId = runId ∧ lease.taskId = taskId).filterMap
    fun lease =>
      match platform.parseJson lease.canonicalSignedPayload with
      | some (.dict members) => platform.readTaskLease members
      | _ => none

/-- The lease belongs to the campaign and to the effect's project and task. -/
abbrev LeaseBound (campaign : CampaignBinding) (projectId : String) (effect : CanonicalEffect φ)
    (lease : SignedTaskLease) : Prop :=
  lease.core.projectId = projectId ∧ lease.core.taskId = effect.taskId ∧
    lease.core.campaign.policySha256 = campaign.policySha256 ∧
    lease.core.campaign.workspaceCheckpointSha256 = campaign.workspaceCheckpointSha256 ∧
    lease.core.campaign.campaignId = campaign.campaignId

def refuse (message : String) : VerifierError := .value message

/-- What the verifier asks of the one decision it found. -/
def verifyDecision (store : AuthorityStore φ) (runId projectId : String)
    (campaign : CampaignBinding) (wire : List (String × Json φ)) (decision : SafetyDecision φ) :
    Except VerifierError Unit := do
  raiseIf (fieldIs wire "project_id" projectId = false)
    (refuse "workspace effect project is outside the Control run")
  raiseIf (decision.effect.projectId ≠ projectId)
    (refuse "admitted source effect project is outside the Control run")
  raiseIf (decision.effect.policySha256 ≠ campaign.policySha256)
    (refuse "source effect policy is not bound to the campaign")
  raiseIf (decision.effect.workspaceCheckpointSha256 ≠ campaign.workspaceCheckpointSha256)
    (refuse "source effect checkpoint is not bound to the campaign")
  match store.readLeases platform runId decision.effect.taskId with
  | [lease] => do
      raiseIf (¬ LeaseBound campaign projectId decision.effect lease)
        (refuse "task lease is not bound to the campaign and workspace effect")
      let expected ← (buildWorkspaceEffect platform.sha256 decision).mapError .gate
      raiseIf (SecureMemory.canonicalBytes (.dict expected : Json φ) ≠
          SecureMemory.canonicalBytes (.dict wire : Json φ))
        (refuse "workspace wire effect does not match the admitted SafetyDecision")
  | _ => .error (refuse "workspace effect requires exactly one admitted task lease")

/-- `ControlLedgerWorkspaceEffectVerifier.__call__`. -/
def verifyWorkspaceEffect (store : AuthorityStore φ) (runId projectId : String)
    (configurationId : Option MeasuredConfigurationId) (wire : List (String × Json φ)) :
    Except VerifierError Unit := do
  let core := wire.filter fun entry => entry.1 ≠ "effect_sha256"
  raiseIf ((Json.dict core).finite = false)
    (refuse "canonical JSON forbids NaN and Infinity")
  let digest := platform.sha256 (SecureMemory.canonicalBytes (.dict core : Json φ))
  raiseIf (fieldIs wire "effect_sha256" (digest.labelled "") = false)
    (refuse "workspace wire effect digest is not canonical")
  let campaign ← store.campaignBinding runId projectId configurationId
  raiseIf (chainValid platform.sha256 streamGenesis (store.rowsOf runId) = false)
    (refuse "Control extension event chain is invalid")
  match store.matched platform runId wire with
  | [decision] => verifyDecision platform store runId projectId campaign wire decision
  | _ =>
      .error (refuse "workspace effect is not bound to exactly one admitted SafetyDecision")

end Verifier

end EgoAgent.Bridge.Authority
