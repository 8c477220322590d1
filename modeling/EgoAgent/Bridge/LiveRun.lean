import Mathlib

/-!
A live run: its task graph, what a reconcile does with a workflow snapshot, and the grant.

A call returns the run that the store holds after it.  The upstream services are inputs:
a snapshot, the verdict on each contract, the time a node is in its status, and which of
the calls upstream succeed.  Envelopes, receipts and event records are left out with the
reasons they carry, as no decision of these functions reads them.
-/

namespace EgoAgent.Bridge.Live

/-! ### Data -/

inductive Stage where
  | context
  | plan
  | planReview
  | execute
  | observe
  | evaluate
  | verify
  | memorySkill
  deriving DecidableEq

def preApprovalStages : List Stage := [.context, .plan, .planReview]

def postApprovalStages : List Stage := [.execute, .observe, .evaluate, .verify, .memorySkill]

inductive RunState where
  | provisioning
  | preApproval
  | waitingR2
  | postApproval
  | compensationRequired
  | blocked
  | completed
  deriving DecidableEq

/-- `ResearchTaskSpec`. -/
structure Task where
  taskId : String
  title : String
  stage : Stage
  assignedWorker : String
  assignedTo : String
  dependsOn : List String
  expectedSkills : List String
  attempt : Nat
  status : String
  originTaskId : Option String
  deriving DecidableEq

def Task.origin (task : Task) : String := task.originTaskId.getD task.taskId

structure Worker where
  name : String
  matrixUserId : String
  role : String
  skills : List String

/-- The operations of a compensation. -/
inductive Retry where
  | startDispatch
  | replanNotify (resumeState : RunState) (replacementTaskId : String)
  | approvalRequiredNotify
  | terminalNotify
  | resumeReplanNotify
  | grantResponseUncertain
  deriving DecidableEq

/-- The fields of a `BridgeRun` and of its checkpoint that the calls read. -/
structure Run where
  projectId : String
  state : RunState
  taskGraph : List Task
  workers : List Worker
  accepted : List String
  reassignments : List (String × Nat)
  retry : Option Retry
  egoGrantCommitted : Bool
  egoGrantObservedStage : Option String
  ackTimeoutSeconds : Nat
  executionTimeoutSeconds : Nat
  maxReassignments : Nat

structure Node where
  id : String
  status : String

/-- What the checks of a completed task's result come to. -/
inductive Contract where
  | missing
  | unsuccessful
  | refused (suggestedWorker : Option String)
  | accepted
  | failing
  deriving DecidableEq

structure Snapshot where
  bound : Bool
  nodes : List Node
  contract : String → Contract
  seconds : String → Nat

/-- Which of the calls upstream succeed, whether the finalization was stored by this call,
and whether its last write reaches the store. -/
structure Upstream where
  advanced : Bool
  cancelled : Bool
  replanned : Bool
  paused : Bool
  resumed : Bool
  sent : Bool
  finalized : Bool
  finalizationStored : Bool
  completed : Bool
  stored : Bool

/-! ### Tasks -/

/-- The tasks that are the newest attempt of theirs, after some earlier ones: a greater
attempt counts, and of two equal ones the later. -/
def newestAfter (earlier : List Task) : List Task → List Task
  | [] => []
  | task :: later =>
      let rest := newestAfter (earlier ++ [task]) later
      if (earlier.all fun other => other.origin ≠ task.origin ∨ other.attempt ≤ task.attempt) &&
          later.all fun other => other.origin ≠ task.origin ∨ other.attempt < task.attempt
      then task :: rest else rest

/-- `_effective_tasks`: the newest attempt of every task of the stages. -/
def effectiveTasks (graph : List Task) (stages : List Stage) : List Task :=
  newestAfter [] (graph.filter fun task => task.stage ∈ stages)

def allStages : List Stage := preApprovalStages ++ postApprovalStages

def statusOf (snapshot : Snapshot) (taskId : String) : Option String :=
  (snapshot.nodes.find? fun node => node.id = taskId).map Node.status

/-- `_all_stage_tasks_completed`; of two nodes with one id the later one counts. -/
def allStageTasksCompleted (run : Run) (snapshot : Snapshot) (stages : List Stage) : Bool :=
  let tasks := effectiveTasks run.taskGraph stages
  !tasks.isEmpty && tasks.all fun task =>
    ((snapshot.nodes.reverse.find? fun node => node.id = task.taskId).map Node.status) =
      some "completed" ∧ task.taskId ∈ run.accepted

/-! ### Conflicts -/

structure Conflict where
  task : Task
  suggestedWorker : Option String

/-- Whether a node asks for another attempt, whatever its result is. -/
def timedOut (run : Run) (snapshot : Snapshot) (task : Task) (status : String) : Bool :=
  status = "revision" ∨ status = "blocked" ∨
    (status = "delegated" ∧ run.ackTimeoutSeconds < snapshot.seconds task.taskId) ∨
    (status = "in-progress" ∧ run.executionTimeoutSeconds < snapshot.seconds task.taskId)

/-- `_first_conflict` from a task on: the contracts accepted so far, and the conflict.
`none` is an exception other than a bridge error. -/
def firstConflictFrom (run : Run) (snapshot : Snapshot) :
    List Task → List String → Option (List String × Option Conflict)
  | [], accepted => some (accepted, none)
  | task :: rest, accepted =>
      match statusOf snapshot task.taskId with
      | none => firstConflictFrom run snapshot rest accepted
      | some status =>
          if timedOut run snapshot task status then some (accepted, some ⟨task, none⟩)
          else if status ≠ "completed" ∨ task.taskId ∈ accepted then
            firstConflictFrom run snapshot rest accepted
          else
            match snapshot.contract task.taskId with
            | .missing => some (accepted, some ⟨task, none⟩)
            | .unsuccessful => some (accepted, some ⟨task, none⟩)
            | .refused suggested => some (accepted, some ⟨task, suggested⟩)
            | .accepted => firstConflictFrom run snapshot rest (accepted ++ [task.taskId])
            | .failing => none

def firstConflict (run : Run) (snapshot : Snapshot) : Option (List String × Option Conflict) :=
  firstConflictFrom run snapshot (effectiveTasks run.taskGraph allStages) run.accepted

/-! ### Reassignment -/

/-- `_candidate_workers`, by name. -/
def candidateWorkers (run : Run) (task : Task) : List Worker :=
  (run.workers.filter fun worker =>
    worker.name ≠ task.assignedWorker ∧ worker.role ≠ "team_leader" ∧
      (task.expectedSkills = [] ∨
        task.expectedSkills.any (fun skill => skill ∈ worker.skills) = true)).insertionSort
    fun left right => left.name ≤ right.name

/-- The candidates, a suggested one first. -/
def orderedCandidates (run : Run) (conflict : Conflict) : List Worker :=
  let candidates := candidateWorkers run conflict.task
  match conflict.suggestedWorker with
  | none => candidates
  | some suggested =>
      if suggested = "" then candidates
      else (candidates.filter fun worker => worker.name = suggested) ++
        candidates.filter fun worker => worker.name ≠ suggested

/-- `_status_to_raw`. -/
def statusToRaw (status : String) : String :=
  if status = "pending" then "planned"
  else if status = "delegated" then "assigned"
  else if status = "in-progress" then "in_progress"
  else status

/-- A task of the graph after the attempt of another one was replaced. -/
def Task.afterReplacement (replaced replacementId status : String) (task : Task) : Task :=
  { task with
    status := if task.taskId = replaced then statusToRaw status else task.status
    dependsOn := if replaced ∈ task.dependsOn
      then task.dependsOn.map fun dependency =>
        if dependency = replaced then replacementId else dependency
      else task.dependsOn }

def replacementOf (task : Task) (count : Nat) (worker : Worker) : Task :=
  { task with
    taskId := task.origin ++ "-r" ++ toString (count + 1)
    title := task.title ++ " · reassignment " ++ toString (count + 1)
    assignedWorker := worker.name
    assignedTo := worker.matrixUserId
    attempt := count + 2
    status := "planned"
    originTaskId := some task.origin }

/-- The active nodes and the started tasks that put a replacement off. -/
def deferred (run : Run) (snapshot : Snapshot) (task : Task) : Bool :=
  (snapshot.nodes.any fun node => node.id ≠ task.taskId ∧ node.status = "in-progress") ||
    run.taskGraph.any fun candidate =>
      task.taskId ∈ candidate.dependsOn ∧ candidate.status ≠ "planned"

def reassignmentsOf (run : Run) (task : Task) : Nat :=
  (run.reassignments.lookup task.origin).getD 0

/-- The worker of the replacement, when `_reassign` does not block or defer. -/
def replacementWorker (run : Run) (snapshot : Snapshot) (conflict : Conflict) : Option Worker :=
  let count := reassignmentsOf run conflict.task
  if run.maxReassignments ≤ count ∨ deferred run snapshot conflict.task = true then none
  else
    let candidates := orderedCandidates run conflict
    candidates[count % candidates.length]?

def counted (task : Task) (count : Nat) (reassignments : List (String × Nat)) :
    List (String × Nat) :=
  (task.origin, count) :: reassignments.filter fun entry => entry.1 ≠ task.origin

/-- The run after the replacement of a task. -/
def replaced (run : Run) (snapshot : Snapshot) (task : Task) (worker : Worker) : Run :=
  let count := reassignmentsOf run task
  let replacement := replacementOf task count worker
  let observed := (statusOf snapshot task.taskId).getD task.status
  let status := if observed = "delegated" ∨ observed = "in-progress" then "blocked" else observed
  { run with
    taskGraph :=
      run.taskGraph.map (Task.afterReplacement task.taskId replacement.taskId status) ++
        [replacement]
    reassignments := counted task (count + 1) run.reassignments }

/-- `_reassign`; `none` is a call upstream that failed before the replacement was recorded. -/
def reassign (run : Run) (snapshot : Snapshot) (upstream : Upstream) (conflict : Conflict) :
    Option Run :=
  let task := conflict.task
  if run.maxReassignments ≤ reassignmentsOf run task then some { run with state := .blocked }
  else if deferred run snapshot task then some run
  else
    match replacementWorker run snapshot conflict with
    | none => some { run with state := .blocked }
    | some worker =>
        let observed := (statusOf snapshot task.taskId).getD task.status
        if (observed = "delegated" ∨ observed = "in-progress") ∧ upstream.cancelled = false
        then none
        else if upstream.replanned = false then none
        else
          let updated := replaced run snapshot task worker
          if upstream.sent then some updated
          else some { updated with
            state := .compensationRequired
            retry := some (.replanNotify run.state
              (replacementOf task (reassignmentsOf run task) worker).taskId) }

/-! ### Reconcile -/

/-- `_recover_compensation`. -/
def recoverCompensation (run : Run) (upstream : Upstream) : Option Run :=
  match run.retry with
  | some .startDispatch =>
      if upstream.sent = true ∧ upstream.resumed = true
      then some { run with state := .preApproval, retry := none } else none
  | some (.replanNotify resumeState _) =>
      if upstream.sent = true ∧ upstream.resumed = true then
        some { run with
          state := if resumeState = .preApproval ∨ resumeState = .postApproval then resumeState
            else .preApproval
          retry := none }
      else none
  | some .approvalRequiredNotify =>
      if upstream.sent then some { run with state := .waitingR2, retry := none } else none
  | some .terminalNotify =>
      if upstream.sent then some { run with state := .completed, retry := none } else none
  | _ => some run

/-- The transition of a run without conflicts. -/
def advance (run : Run) (snapshot : Snapshot) (upstream : Upstream) : Option Run :=
  if run.state = .preApproval ∧ allStageTasksCompleted run snapshot preApprovalStages = true then
    if upstream.advanced = true ∧ upstream.paused = true then
      if upstream.sent then some { run with state := .waitingR2 }
      else some { run with
        state := .compensationRequired
        retry := some .approvalRequiredNotify }
    else none
  else if run.state = .postApproval ∧
      allStageTasksCompleted run snapshot postApprovalStages = true then
    if upstream.finalized = false then none
    else if upstream.completed = false then
      -- `_finalize_ego` has stored the run already
      if upstream.finalizationStored then some run else none
    else if upstream.sent then some { run with state := .completed }
    else some { run with
      state := .compensationRequired
      retry := some .terminalNotify }
  else some run

/-- `_reconcile_claimed`; `none` raises before the run is stored. -/
def reconcileClaimed (run : Run) (snapshot : Snapshot) (upstream : Upstream) : Option Run :=
  if snapshot.bound = false then none
  else if run.state = .compensationRequired then recoverCompensation run upstream
  else
    match firstConflict run snapshot with
    | none => none
    | some (accepted, some conflict) =>
        reassign { run with accepted := accepted } snapshot upstream conflict
    | some (accepted, none) => advance { run with accepted := accepted } snapshot upstream

/-- `reconcile`: the run that the store holds afterwards. -/
def reconcile (run : Run) (snapshot : Snapshot) (upstream : Upstream) : Run :=
  if run.state = .blocked ∨ run.state = .completed ∨ upstream.stored = false then run
  else (reconcileClaimed run snapshot upstream).getD run

/-- `recover_active`, for this run. -/
def recoverActive (run : Run) (snapshot : Snapshot) (upstream : Upstream) : Run :=
  if run.state = .waitingR2 ∨
      (run.state = .compensationRequired ∧ run.retry = some .resumeReplanNotify)
  then run else reconcile run snapshot upstream

/-- What happens during a repeated start. -/
structure StartUpstream where
  confirmed : Bool
  replanned : Bool
  sent : Bool
  stored : Bool

/-- `start_run`, for a run that is already reserved. -/
def startRun (run : Run) (upstream : StartUpstream) : Run :=
  if run.state ≠ .provisioning ∨ upstream.confirmed = false ∨ upstream.stored = false then run
  else if upstream.replanned = true ∧ upstream.sent = true then { run with state := .preApproval }
  else { run with state := .compensationRequired, retry := some .startDispatch }

/-! ### The grant -/

/-- `ROLE_PLAN`, with the titles of its tasks. -/
def rolePlan : List (String × String × Stage × String × List String) :=
  [("context", "CONTEXT · Context", .context, "ego-scout", ["research-memory"]),
    ("plan", "PLAN · Plan", .plan, "ego-architect", ["research-plan", "ablation-analyzer"]),
    ("plan-review", "PLAN_REVIEW · Plan Review", .planReview, "ego-reviewer", ["evidence-gate"]),
    ("execute", "EXECUTE · Execute", .execute, "ego-runtime",
      ["safe-experiment-runner", "dataset-manifest"]),
    ("observe", "OBSERVE · Observe", .observe, "ego-runtime", ["safe-experiment-runner"]),
    ("evaluate", "EVALUATE · Evaluate", .evaluate, "ego-evaluator", ["ablation-analyzer"]),
    ("verify", "VERIFY · Verify", .verify, "ego-reviewer", ["evidence-gate"]),
    ("memory", "MEMORY_SKILL · Memory", .memorySkill, "ego-memory-curator", ["research-memory"])]

/-- `_build_task_graph` from a role on; `none` is a worker that is not there. -/
def buildTasks (projectId : String) (workers : List Worker) : Option String →
    List (String × String × Stage × String × List String) → Option (List Task)
  | _, [] => some []
  | previous, (suffix, title, stage, workerName, skills) :: rest => do
      let worker ← workers.find? fun worker => worker.name = workerName
      let taskId := projectId ++ "-" ++ suffix
      let tasks ← buildTasks projectId workers (some taskId) rest
      return ⟨taskId, title, stage, workerName, worker.matrixUserId, previous.toList, skills, 1,
        "planned", none⟩ :: tasks

def buildTaskGraph (projectId : String) (workers : List Worker) (stages : List Stage) :
    Option (List Task) :=
  buildTasks projectId workers none (rolePlan.filter fun role => role.2.2.1 ∈ stages)

def Stage.order : Stage → Nat
  | .context => 0
  | .plan => 1
  | _ => 2

/-- The task that the first post-approval task depends on. -/
def lastPreApproval (run : Run) : Option Task :=
  ((effectiveTasks run.taskGraph preApprovalStages).insertionSort fun left right =>
    left.stage.order < right.stage.order ∨
      (left.stage.order = right.stage.order ∧ left.attempt ≤ right.attempt)).getLast?

/-- The post-approval tasks, the first after the last pre-approval one. -/
def dependingOn (last : Option Task) : List Task → List Task
  | first :: rest =>
      match last with
      | some task => { first with dependsOn := [task.taskId] } :: rest
      | none => first :: rest
  | [] => []

def Task.withAccepted (accepted : List String) (task : Task) : Task :=
  if task.taskId ∈ accepted then { task with status := "completed" } else task

def postTasks (run : Run) : Option (List Task) :=
  let existing := run.taskGraph.filter fun task => task.stage ∈ postApprovalStages
  if existing ≠ [] then some existing
  else buildTaskGraph run.projectId run.workers postApprovalStages

/-- `_post_approval_graph`. -/
def postApprovalGraph (run : Run) : Option (List Task) :=
  (postTasks run).map fun post =>
    (run.taskGraph.filter fun task => task.stage ∈ preApprovalStages).map
        (Task.withAccepted run.accepted) ++
      dependingOn (lastPreApproval run) post

/-- What happens during a grant: the stage that the answer to the token shows, which calls
succeed, and how many writes of the run reach the store before the call is cut off. -/
structure GrantUpstream where
  atApproval : Bool
  consumed : Option (Option String)
  resumed : Bool
  replanned : Bool
  sent : Bool
  stores : Nat

/-- The dispatch of the post-approval tasks; its outcome is one write of the run. -/
def dispatch (run : Run) (upstream : GrantUpstream) (stored : Bool) : Run :=
  match postApprovalGraph run with
  | none => run
  | some graph =>
      if stored = false then run
      else if upstream.resumed = true ∧ upstream.replanned = true then
        if upstream.sent
        then { run with taskGraph := graph, state := .postApproval, retry := none }
        else { run with
          taskGraph := graph
          state := .compensationRequired
          retry := some .resumeReplanNotify }
      else { run with state := .compensationRequired, retry := some .resumeReplanNotify }

/-- The states in which a grant is taken up. -/
def grantable (run : Run) : Bool :=
  run.state = .waitingR2 ∨ (run.state = .compensationRequired ∧
    (run.retry = some .approvalRequiredNotify ∨ run.retry = some .resumeReplanNotify))

/-- `grant_r2`: the run that the store holds afterwards. -/
def grantR2 (run : Run) (upstream : GrantUpstream) : Run :=
  if grantable run = false then run
  else if run.egoGrantCommitted then dispatch run upstream (1 ≤ upstream.stores)
  else if upstream.atApproval = false then run
  else
    match upstream.consumed with
    | none => run
    | some observed =>
        -- the consumption is stored before the answer is checked
        let committed := { run with egoGrantCommitted := true, egoGrantObservedStage := observed }
        if upstream.stores = 0 then run
        else if observed ≠ some "EXECUTE" then
          if upstream.stores = 1 then committed
          else { committed with
            state := .compensationRequired
            retry := some .grantResponseUncertain }
        else dispatch committed upstream (2 ≤ upstream.stores)

/-! ### Runs -/

inductive Call where
  | startRun (upstream : StartUpstream)
  | reconcile (snapshot : Snapshot) (upstream : Upstream)
  | recoverActive (snapshot : Snapshot) (upstream : Upstream)
  | grantR2 (upstream : GrantUpstream)

def step (run : Run) : Call → Run
  | .startRun upstream => startRun run upstream
  | .reconcile snapshot upstream => reconcile run snapshot upstream
  | .recoverActive snapshot upstream => recoverActive run snapshot upstream
  | .grantR2 upstream => grantR2 run upstream

/-- The run after a list of calls. -/
def afterAll (calls : List Call) (run : Run) : Run := calls.foldl step run

/-- Every call of a list meets a condition at the run that it finds. -/
def Throughout (condition : Run → Call → Prop) : Run → List Call → Prop
  | _, [] => True
  | run, call :: rest => condition run call ∧ Throughout condition (step run call) rest

theorem afterAll_induction {condition : Run → Call → Prop} {holds : Run → Prop}
    (keeps : ∀ run call, holds run → condition run call → holds (step run call))
    (calls : List Call) {run : Run} (start : holds run) (met : Throughout condition run calls) :
    holds (afterAll calls run) := by
  induction calls generalizing run with
  | nil => exact start
  | cons call rest ih => exact ih (keeps run call start met.1) met.2

end EgoAgent.Bridge.Live
