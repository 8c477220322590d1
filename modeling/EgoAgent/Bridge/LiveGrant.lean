import EgoAgent.Bridge.LiveGate

/-!
Execution is dispatched after a verified grant.

The consumption of the token is stored before its answer is checked, so that the token is
never sent again.  A call that is cut off between the two writes leaves a committed grant
whose stage nobody has checked.
-/

namespace EgoAgent.Bridge.Live

/-! ### What is sent -/

/-- A message upstream; a replan comes with the run that the store holds meanwhile. -/
inductive Sent where
  | token
  | replan (graph : List Task) (stored : Run)

/-- The replan of `_reassign`, whether or not it succeeds. -/
def reassignSends (run stored : Run) (snapshot : Snapshot) (upstream : Upstream)
    (conflict : Conflict) : List Sent :=
  match replacementWorker run snapshot conflict with
  | none => []
  | some worker =>
      let observed := (statusOf snapshot conflict.task.taskId).getD conflict.task.status
      if (observed = "delegated" ∨ observed = "in-progress") ∧ upstream.cancelled = false then []
      else [.replan (replaced run snapshot conflict.task worker).taskGraph stored]

def reconcileSends (run : Run) (snapshot : Snapshot) (upstream : Upstream) : List Sent :=
  if run.state = .blocked ∨ run.state = .completed ∨ run.state = .compensationRequired ∨
      snapshot.bound = false then []
  else
    match firstConflict run snapshot with
    | some (accepted, some conflict) =>
        reassignSends { run with accepted := accepted } run snapshot upstream conflict
    | _ => []

/-- The replan of the grant, whose run is the stored one. -/
def dispatchSends (run : Run) (upstream : GrantUpstream) : List Sent :=
  match postApprovalGraph run with
  | none => []
  | some graph => if upstream.resumed then [.replan graph run] else []

def grantSends (run : Run) (upstream : GrantUpstream) : List Sent :=
  if grantable run = false then []
  else if run.egoGrantCommitted then dispatchSends run upstream
  else if upstream.atApproval = false then []
  else
    match upstream.consumed with
    | none => [.token]
    | some observed =>
        if upstream.stores = 0 ∨ observed ≠ some "EXECUTE" then [.token]
        else .token :: dispatchSends
          { run with egoGrantCommitted := true, egoGrantObservedStage := observed } upstream

/-- What a call sends. -/
def sends (run : Run) : Call → List Sent
  | .startRun upstream =>
      if run.state ≠ .provisioning ∨ upstream.confirmed = false then []
      else [.replan run.taskGraph run]
  | .reconcile snapshot upstream => reconcileSends run snapshot upstream
  | .recoverActive snapshot upstream =>
      if run.state = .waitingR2 ∨
          (run.state = .compensationRequired ∧ run.retry = some .resumeReplanNotify)
      then [] else reconcileSends run snapshot upstream
  | .grantR2 upstream => grantSends run upstream

/-! ### The grant of a run -/

def HasPost (graph : List Task) : Prop := ∃ task ∈ graph, task.stage ∈ postApprovalStages

section

variable {snapshot : Snapshot} {run : Run}

theorem firstConflictFrom_task {tasks : List Task}
    {accepted later : List String} {conflict : Conflict}
    (found : firstConflictFrom run snapshot tasks accepted = some (later, some conflict)) :
    conflict.task ∈ tasks := by
  induction tasks generalizing accepted with
  | nil => cases found
  | cons task rest ih =>
      rw [firstConflictFrom] at found
      split at found
      · exact List.mem_cons_of_mem task (ih found)
      · split at found
        · cases found
          exact List.mem_cons_self
        split at found
        · exact List.mem_cons_of_mem task (ih found)
        split at found
        · cases found
          exact List.mem_cons_self
        · cases found
          exact List.mem_cons_self
        · cases found
          exact List.mem_cons_self
        · exact List.mem_cons_of_mem task (ih found)
        · cases found

theorem firstConflict_task {accepted : List String}
    {conflict : Conflict} (found : firstConflict run snapshot = some (accepted, some conflict)) :
    conflict.task ∈ run.taskGraph :=
  (List.mem_filter.mp (mem_newestAfter (firstConflictFrom_task found))).1

theorem hasPost_of_replaced {run : Run} {snapshot : Snapshot} {task : Task} {worker : Worker}
    (member : task ∈ run.taskGraph) (post : HasPost (replaced run snapshot task worker).taskGraph) :
    HasPost run.taskGraph := by
  obtain ⟨other, inGraph, stage⟩ := post
  rcases List.mem_append.mp inGraph with changed | added
  · obtain ⟨old, inOld, rfl⟩ := List.mem_map.mp changed
    exact ⟨old, inOld, stage⟩
  · rw [List.mem_singleton.mp added] at stage
    exact ⟨task, member, stage⟩

/-! ### Steps -/

variable {upstream : Upstream}

end

theorem throughout_trivial (run : Run) (calls : List Call) :
    Throughout (fun _ _ => True) run calls := by
  induction calls generalizing run with
  | nil => trivial
  | cons call rest ih => exact ⟨trivial, ih (step run call)⟩

/-! ### Runs -/

namespace Sample

end Sample

end EgoAgent.Bridge.Live
