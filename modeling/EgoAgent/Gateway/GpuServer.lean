import EgoAgent.Api.ApprovalToken
import EgoAgent.Gateway.WorkspaceContract

/-!
The experiment launcher of the tool plane.

A call comes with what it finds outside: the workspace's files, the time, whether the
process starts, and the return code a process has when it is asked.  The trace of a service
holds what it has done to the outside, a consumption of a token or the start of a process.
-/

namespace EgoAgent.Gateway.Gpu

open EgoAgent.Api EgoAgent.Bridge EgoAgent.Gateway

/-! ### Requests -/

inductive Entrypoint where
  | trainPose
  | evalPose
  | benchmarkStream
  deriving DecidableEq

def Entrypoint.text : Entrypoint → String
  | .trainPose => "train_pose"
  | .evalPose => "eval_pose"
  | .benchmarkStream => "benchmark_stream"

/-- `ENTRYPOINT_MODES`. -/
def Entrypoint.mode : Entrypoint → String
  | .trainPose => "train"
  | .evalPose => "evaluate"
  | .benchmarkStream => "benchmark"

/-- `LaunchRequest`, with or without the bounds that its validators put on the fields. -/
structure LaunchRequest (φ : Type) where
  experimentId : String
  idempotencyKey : String
  entrypoint : Entrypoint
  configPath : String
  configSha256 : String
  gpuIds : List Nat
  seed : Nat
  expectedGpuHours : φ
  tags : List String
  dryRun : Bool
  approvalToken : Option String

def approvalAction : String := "gpu.launch_experiment"

def allowedConfigSuffixes : List String := [".json", ".toml", ".yaml", ".yml"]

structure Risk (φ : Type) where
  riskLevel : String
  expectedGpuHours : φ
  gpuCount : Nat
  requiresApprovalForExecution : Bool
  reasons : List String

structure Plan (φ : Type) where
  schema : String
  executionMode : String
  synthetic : Bool
  dryRun : Bool
  liveGpuIntegration : Bool
  entrypoint : Entrypoint
  configPath : String
  configSha256 : String
  commandArgv : List String
  shell : Bool
  runId : String
  actionDigest : String
  approvalScope : String
  risk : Risk φ
  approvalRequiredToExecute : Bool

/-- A response: a plan, or the state of a job. -/
inductive Response (φ : Type) where
  | preview (plan : Plan φ)
  | job (plan : Plan φ) (pid : Nat) (idempotentReplay : Bool) (processStatus : String)
      (returnCode : Option Int)

structure Job (φ : Type) where
  plan : Plan φ
  pid : Nat

/-- `_Job.current`. -/
def Job.current {φ : Type} (job : Job φ) (returnCode : Option Int) (replay : Bool) : Response φ :=
  .job job.plan job.pid replay (if returnCode = none then "running" else "finished") returnCode

/-! ### The outside -/

inductive DiskEntry where
  | missing
  | symlink
  | directory
  | file (content : Bytes)

/-- The entries below the workspace root. -/
abbrev Disk := List (List Char) → DiskEntry

/-- What a call finds outside; a process that does not start has no identifier. -/
structure Outside where
  disk : Disk
  checkedAt : Int
  process : Option Nat
  returnCode : Option Int

inductive Event (φ : Type) where
  | consumed (token : String) (claims : ApprovalClaims)
  | started (request : LaunchRequest φ) (pid : Nat)

/-- What an operator sets up; the approval manager is known by its secret. -/
structure Setup where
  workspaceRoot : String
  enableSyntheticLocalExecution : Bool
  approvalSecret : Option Bytes
  pythonExecutable : String

structure Service (φ : Type) where
  jobs : Dict String (Job φ)
  consumed : List String
  trace : List (Event φ)

/-! ### Planning -/

def toolFailure : GatewayError → ToolFailure
  | .tool code message => .structured code message
  | .validation _ => .typeError

/-- `Path.suffix` of a name. -/
def nameSuffix (name : List Char) : List Char :=
  let ending := (name.reverse.takeWhile fun c => c ≠ '.').reverse
  if ending = [] ∨ name.length ≤ ending.length + 1 then [] else '.' :: ending

/-- `resolve_existing` of a file. -/
def resolveFile (disk : Disk) (path : String) :
    Except ToolFailure (List (List Char) × Bytes) := do
  let found ← (relativeParts path).mapError toolFailure
  raiseIf (found.inits.any (fun start => start ≠ [] ∧ disk start matches .symlink) = true)
    (.structured "symlink_rejected" "Symlinks are not permitted in trusted tool paths")
  raiseIf (found.dropLast.inits.any (fun start =>
      start ≠ [] ∧ ¬ (disk start matches .directory)) = true)
    (.structured "path_not_found" "The requested path does not exist")
  raiseIf (found = []) (.structured "not_regular_file" "The requested path is not a regular file")
  match disk found with
  | .file content => return (found, content)
  | .directory =>
      .error (.structured "not_regular_file" "The requested path is not a regular file")
  | _ => .error (.structured "path_not_found" "The requested path does not exist")

section Launch

variable {φ : Type} [FloatText φ] (value : φ → ℚ) (unicode : UnicodeText)
  (sha256 : Bytes → Digest) (hmacSha256 : Bytes → Bytes → Digest) (setup : Setup)

/-- `classify_gpu_action`; `value` is the number a float stands for. -/
def classifyGpuAction (request : LaunchRequest φ) : Risk φ :=
  let reasons := (if 1 < request.gpuIds.length then ["multi_gpu"] else []) ++
    if 2 < value request.expectedGpuHours then ["gpu_hour_budget_over_2"] else []
  let riskLevel := if reasons ≠ [] then "R2" else "R1"
  { riskLevel
    expectedGpuHours := request.expectedGpuHours
    gpuCount := request.gpuIds.length
    requiresApprovalForExecution := riskLevel = "R2"
    reasons := if reasons ≠ [] then reasons else ["bounded_single_gpu_budget"] }

/-- `action_payload`. -/
def actionPayload (request : LaunchRequest φ) : Json φ :=
  .dict [("experiment_id", .str request.experimentId),
    ("idempotency_key", .str request.idempotencyKey), ("entrypoint", .str request.entrypoint.text),
    ("config_path", .str request.configPath), ("config_sha256", .str request.configSha256),
    ("gpu_ids", .list (request.gpuIds.map fun id => .int id)), ("seed", .int request.seed),
    ("expected_gpu_hours", .float request.expectedGpuHours),
    ("tags", .list (request.tags.map .str))]

def actionDigest (request : LaunchRequest φ) : String :=
  (sha256 (utf8Encode (canonicalJson (.dict
    [("action", .str approvalAction), ("payload", actionPayload request)])))).labelled ""

def approvalScope (request : LaunchRequest φ) : String :=
  "gpu.launch:" ++ request.experimentId ++ ":" ++ request.idempotencyKey

/-- `_config_path`. -/
def resolveConfig (disk : Disk) (request : LaunchRequest φ) :
    Except ToolFailure (List (List Char)) := do
  let (path, content) ← resolveFile disk request.configPath
  raiseIf (String.ofList (unicode.lower (nameSuffix (path.getLast?.getD []))) ∉
      allowedConfigSuffixes)
    (.structured "config_type_rejected" "Only JSON, TOML, and YAML config files are allowed")
  raiseIf (1024 * 1024 < content.length)
    (.structured "config_too_large" "Config files are limited to 1 MiB")
  raiseIf ((sha256 content).labelled "" ≠ request.configSha256)
    (.structured "config_digest_mismatch"
      "The config bytes do not match the digest bound to this launch request")
  return path

/-- `_command`. -/
def command (request : LaunchRequest φ) (config : List (List Char)) : List String :=
  [setup.pythonExecutable, "-I", "-m", "egoagentos_mcp.synthetic_worker", "--mode",
    request.entrypoint.mode, "--config",
    setup.workspaceRoot ++ "/" ++ String.ofList (joined config),
    "--expected-config-sha256", request.configSha256, "--seed", toString request.seed] ++
  request.gpuIds.flatMap (fun id => ["--gpu-id", toString id]) ++
  request.tags.flatMap fun tag => ["--tag", tag]

/-- The plan of a request whose config file was found. -/
def planOf (request : LaunchRequest φ) (config : List (List Char)) : Plan φ :=
  let digest := actionDigest sha256 request
  let risk := classifyGpuAction value request
  { schema := "egoagentos.gpu-launch-plan.v1"
    executionMode := "synthetic_dry_run"
    synthetic := true
    dryRun := true
    liveGpuIntegration := false
    entrypoint := request.entrypoint
    configPath := String.ofList (joined config)
    configSha256 := request.configSha256
    commandArgv := command setup request config
    shell := false
    runId := "run_" ++ String.ofList (digest.toList.take 20)
    actionDigest := digest
    approvalScope := approvalScope request
    risk
    approvalRequiredToExecute := risk.requiresApprovalForExecution }

def plan (disk : Disk) (request : LaunchRequest φ) : Except ToolFailure (Plan φ) :=
  (resolveConfig unicode sha256 disk request).map (planOf value sha256 setup request)

/-! ### Launching -/

/-- What a token has to be bound to. -/
def expectedOf (request : LaunchRequest φ) : Expected :=
  ⟨approvalAction, approvalScope request, actionDigest sha256 request, request.configSha256⟩

/-- The consumption of an R2 launch's token; `none` is a launch that needs none. -/
def approveLaunch (request : LaunchRequest φ) (checkedAt : Int) :
    Effect (Service φ) ToolFailure Unit := fun service =>
  if (classifyGpuAction value request).requiresApprovalForExecution = false then (.ok (), service)
  else
    match request.approvalToken with
    | none => (.error (.structured "approval_required"
        "R2 synthetic local execution requires a scoped approval token"), service)
    | some token =>
        if token = "" then (.error (.structured "approval_required"
          "R2 synthetic local execution requires a scoped approval token"), service)
        else
          match setup.approvalSecret with
          | none => (.error (.structured "approval_validator_unconfigured"
              "The operator has not configured an HMAC approval validator"), service)
          | some secret =>
              match validateAndConsume hmacSha256 secret token (expectedOf sha256 request)
                  checkedAt service.consumed with
              | (.error failure, consumed) => (.error failure, { service with consumed })
              | (.ok claims, consumed) => (.ok (),
                  { service with consumed, trace := service.trace ++ [.consumed token claims] })

/-- The start of the process and the record of its job. -/
def startProcess (request : LaunchRequest φ) (planned : Plan φ) (outside : Outside) :
    Effect (Service φ) ToolFailure (Response φ) := fun service =>
  match outside.process with
  | none => (.error (.structured "synthetic_launch_failed"
      "The allowlisted synthetic worker could not be launched"), service)
  | some pid =>
      let job : Job φ :=
        ⟨{ planned with executionMode := "synthetic_local_process", dryRun := false }, pid⟩
      (.ok (job.current outside.returnCode false),
        { service with
          jobs := service.jobs.set request.idempotencyKey job
          trace := service.trace ++ [.started request pid] })

/-- `GPUService.launch`. -/
def launch (request : LaunchRequest φ) (outside : Outside) :
    Effect (Service φ) ToolFailure (Response φ) := fun service =>
  match plan value unicode sha256 setup outside.disk request with
  | .error failure => (.error failure, service)
  | .ok planned =>
      if request.dryRun then (.ok (.preview planned), service)
      else if setup.enableSyntheticLocalExecution = false then
        (.error (.structured "local_execution_disabled"
          "Synthetic local execution is disabled; use dry_run or set the operator opt-in"), service)
      else
        match service.jobs.get? request.idempotencyKey with
        | some job =>
            if job.plan.actionDigest ≠ planned.actionDigest then
              (.error (.structured "idempotency_conflict"
                "The idempotency key is already bound to a different action"), service)
            else (.ok (job.current outside.returnCode true), service)
        | none => (approveLaunch value sha256 hmacSha256 setup request outside.checkedAt >>=
            fun _ => startProcess request planned outside) service

/-- The service after a list of calls. -/
def afterLaunches (calls : List (LaunchRequest φ × Outside)) (service : Service φ) : Service φ :=
  calls.foldl
    (fun service call =>
      (launch value unicode sha256 hmacSha256 setup call.1 call.2 service).2) service

/-- A service that has just been set up, with the tokens consumed before. -/
def opened (consumed : List String) : Service φ := ⟨[], consumed, []⟩

end Launch

end EgoAgent.Gateway.Gpu
