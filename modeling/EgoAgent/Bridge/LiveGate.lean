import EgoAgent.Bridge.LiveRun

/-!
No post-approval work before the pre-approval work is accepted.

The gate is checked once, when the run starts to wait for its grant.  It stays true as
long as no pre-approval task is replaced after that.
-/

namespace EgoAgent.Bridge.Live

/-! ### Effective tasks -/

/-- A change of tasks that keeps what makes one the newest attempt. -/
structure KeepsAttempt (change : Task → Task) : Prop where
  origin : ∀ task, (change task).origin = task.origin
  attempt : ∀ task, (change task).attempt = task.attempt
  stage : ∀ task, (change task).stage = task.stage
  taskId : ∀ task, (change task).taskId = task.taskId

theorem newestAfter_map {change : Task → Task} (keeps : KeepsAttempt change)
    (tasks earlier : List Task) :
    newestAfter (earlier.map change) (tasks.map change) =
      (newestAfter earlier tasks).map change := by
  induction tasks generalizing earlier with
  | nil => rfl
  | cons task later ih =>
      have rest := ih (earlier ++ [task])
      rw [List.map_append, List.map_singleton] at rest
      rw [List.map_cons, newestAfter, newestAfter, rest]
      simp only [List.all_map, Function.comp_def, keeps.origin, keeps.attempt]
      split
      · rfl
      · rfl

theorem effectiveTasks_change {change : Task → Task} (keeps : KeepsAttempt change)
    {added : List Task} {graph : List Task} {stages : List Stage}
    (outside : ∀ task ∈ added, task.stage ∉ stages) :
    effectiveTasks (graph.map change ++ added) stages =
      (effectiveTasks graph stages).map change := by
  have none : added.filter (fun task => task.stage ∈ stages) = [] := by
    apply List.filter_eq_nil_iff.mpr
    intro task member inside
    exact outside task member (of_decide_eq_true inside)
  have same : (graph.map change).filter (fun task => task.stage ∈ stages) =
      (graph.filter fun task => task.stage ∈ stages).map change := by
    rw [List.filter_map]
    congr 1
    apply List.filter_congr
    intro task _
    rw [Function.comp_apply, keeps.stage]
  unfold effectiveTasks
  rw [List.filter_append, none, List.append_nil, same]
  exact newestAfter_map keeps _ []

theorem mem_newestAfter {task : Task} {tasks earlier : List Task}
    (member : task ∈ newestAfter earlier tasks) : task ∈ tasks := by
  induction tasks generalizing earlier with
  | nil => cases member
  | cons first later ih =>
      rw [newestAfter] at member
      split at member
      · rcases List.mem_cons.mp member with rfl | inRest
        · exact List.mem_cons_self
        · exact List.mem_cons_of_mem first (ih inRest)
      · exact List.mem_cons_of_mem first (ih member)

theorem keeps_afterReplacement (replaced replacementId status : String) :
    KeepsAttempt (Task.afterReplacement replaced replacementId status) :=
  ⟨fun _ => rfl, fun _ => rfl, fun _ => rfl, fun _ => rfl⟩

theorem keeps_withAccepted (accepted : List String) :
    KeepsAttempt (Task.withAccepted accepted) := by
  constructor <;> intro task <;> unfold Task.withAccepted <;> split <;> rfl

/-! ### Accepted stages -/

/-- Every effective task of the stages has an accepted contract. -/
def Accepted (run : Run) (stages : List Stage) : Prop :=
  ∀ task ∈ effectiveTasks run.taskGraph stages, task.taskId ∈ run.accepted

theorem Accepted.change {run later : Run} {stages : List Stage} (accepted : Accepted run stages)
    {change : Task → Task} (keeps : KeepsAttempt change)
    (effective : effectiveTasks later.taskGraph stages =
      (effectiveTasks run.taskGraph stages).map change)
    (grown : ∀ taskId ∈ run.accepted, taskId ∈ later.accepted) : Accepted later stages := by
  intro task member
  rw [effective] at member
  obtain ⟨old, inOld, rfl⟩ := List.mem_map.mp member
  rw [keeps.taskId]
  exact grown _ (accepted old inOld)

section

variable {snapshot : Snapshot} {run : Run}

theorem accepted_of_completed {stages : List Stage}
    (completed : allStageTasksCompleted run snapshot stages = true) : Accepted run stages := by
  intro task member
  have ⟨_, all⟩ := (Bool.and_eq_true _ _).mp completed
  exact (of_decide_eq_true (List.all_eq_true.mp all task member)).2

/-- A task that is effective among all stages is effective among its own. -/
theorem newestAfter_filter {kept : Task → Bool} {task : Task} {tasks earlier : List Task}
    (member : task ∈ newestAfter earlier tasks) (isKept : kept task = true) :
    task ∈ newestAfter (earlier.filter kept) (tasks.filter kept) := by
  induction tasks generalizing earlier with
  | nil => cases member
  | cons first later ih =>
      rw [newestAfter] at member
      by_cases keptFirst : kept first = true
      · have rest : (earlier ++ [first]).filter kept = earlier.filter kept ++ [first] := by
          rw [List.filter_append, List.filter_cons_of_pos keptFirst, List.filter_nil]
        rw [List.filter_cons_of_pos keptFirst, newestAfter, ← rest]
        split at member
        · next newest =>
            have ⟨before, after⟩ := (Bool.and_eq_true _ _).mp newest
            have still : ((earlier.filter kept).all fun other =>
                decide (other.origin ≠ first.origin ∨ other.attempt ≤ first.attempt)) = true :=
              List.all_eq_true.mpr fun other inside =>
                List.all_eq_true.mp before other (List.mem_filter.mp inside).1
            have stillAfter : ((later.filter kept).all fun other =>
                decide (other.origin ≠ first.origin ∨ other.attempt < first.attempt)) = true :=
              List.all_eq_true.mpr fun other inside =>
                List.all_eq_true.mp after other (List.mem_filter.mp inside).1
            rw [still, stillAfter, Bool.and_self, if_pos rfl]
            rcases List.mem_cons.mp member with rfl | inRest
            · exact List.mem_cons_self
            · exact List.mem_cons_of_mem first (ih inRest)
        · split
          · exact List.mem_cons_of_mem first (ih member)
          · exact ih member
      · have rest : (earlier ++ [first]).filter kept = earlier.filter kept := by
          rw [List.filter_append, List.filter_cons_of_neg keptFirst, List.filter_nil,
            List.append_nil]
        rw [List.filter_cons_of_neg keptFirst, ← rest]
        split at member
        · rcases List.mem_cons.mp member with rfl | inRest
          · exact absurd isKept keptFirst
          · exact ih inRest
        · exact ih member

theorem accepted_all (pre : Accepted run preApprovalStages)
    (post : Accepted run postApprovalStages) : Accepted run allStages := by
  intro task member
  have inStages : task.stage ∈ allStages :=
    of_decide_eq_true (List.mem_filter.mp (mem_newestAfter member)).2
  have narrowed : ∀ stages : List Stage, (∀ stage ∈ stages, stage ∈ allStages) →
      task.stage ∈ stages → task ∈ effectiveTasks run.taskGraph stages := by
    intro stages within inside
    have found := @newestAfter_filter (fun task => decide (task.stage ∈ stages)) _ _ _ member
      (decide_eq_true inside)
    rw [List.filter_filter] at found
    unfold effectiveTasks
    have same : (run.taskGraph.filter fun other =>
        decide (other.stage ∈ stages) && decide (other.stage ∈ allStages)) =
          run.taskGraph.filter fun other => decide (other.stage ∈ stages) := by
      apply List.filter_congr
      intro other _
      by_cases inside : other.stage ∈ stages
      · simp [inside, within other.stage inside]
      · simp [inside]
    rw [same] at found
    exact found
  rcases List.mem_append.mp inStages with inPre | inPost
  · exact pre task (narrowed preApprovalStages (fun _ => List.mem_append_left _) inPre)
  · exact post task (narrowed postApprovalStages (fun _ => List.mem_append_right _) inPost)

/-! ### The gate -/

/-- The run has passed the gate, or will be past it when its compensation is over. -/
def PastGate (run : Run) : Prop :=
  run.state = .waitingR2 ∨ run.state = .postApproval ∨ run.state = .completed ∨
    (run.state = .compensationRequired ∧ (run.retry = some .approvalRequiredNotify ∨
      run.retry = some .resumeReplanNotify ∨ run.retry = some .terminalNotify ∨
      ∃ replacementId, run.retry = some (.replanNotify .postApproval replacementId)))

/-- The run is completed, or will be when its compensation is over. -/
def Ended (run : Run) : Prop :=
  run.state = .completed ∨
    (run.state = .compensationRequired ∧ run.retry = some .terminalNotify)

structure Gated (run : Run) : Prop where
  pre : PastGate run → Accepted run preApprovalStages
  post : Ended run → Accepted run postApprovalStages

/-- Past the gate, the snapshot does not make a reconcile replace a pre-approval task. -/
def Calm (run : Run) (snapshot : Snapshot) : Prop :=
  run.state = .waitingR2 ∨ run.state = .postApproval →
    ∀ accepted conflict, firstConflict run snapshot = some (accepted, some conflict) →
      conflict.task.stage ∈ preApprovalStages →
        replacementWorker { run with accepted := accepted } snapshot conflict = none

def Undisturbed (run : Run) : Call → Prop
  | .reconcile snapshot _ => Calm run snapshot
  | .recoverActive snapshot _ => Calm run snapshot
  | _ => True

theorem firstConflictFrom_grows {tasks : List Task}
    {accepted later : List String} {conflict : Option Conflict}
    (found : firstConflictFrom run snapshot tasks accepted = some (later, conflict)) :
    ∀ taskId ∈ accepted, taskId ∈ later := by
  induction tasks generalizing accepted with
  | nil =>
      cases found
      exact fun _ member => member
  | cons task rest ih =>
      rw [firstConflictFrom] at found
      split at found
      · exact ih found
      · split at found
        · cases found
          exact fun _ member => member
        split at found
        · exact ih found
        split at found
        · cases found
          exact fun _ member => member
        · cases found
          exact fun _ member => member
        · cases found
          exact fun _ member => member
        · exact fun taskId member => ih found taskId (List.mem_append_left _ member)
        · cases found

theorem replaced_accepted {task : Task} {worker : Worker}
    {stages : List Stage} (accepted : Accepted run stages) (outside : task.stage ∉ stages) :
    Accepted (replaced run snapshot task worker) stages := by
  apply accepted.change (keeps_afterReplacement _ _ _)
  · apply effectiveTasks_change (keeps_afterReplacement _ _ _)
    intro other member
    rw [List.mem_singleton.mp member]
    exact outside
  · exact fun _ member => member

variable {upstream : Upstream}

/-- What a reassignment that returns can do to the run. -/
theorem reassign_cases {run later : Run}
    {conflict : Conflict} (reassigned : reassign run snapshot upstream conflict = some later) :
    later = { run with state := .blocked } ∨ later = run ∨
      ∃ worker, replacementWorker run snapshot conflict = some worker ∧
        (later = replaced run snapshot conflict.task worker ∨
          ∃ replacementId, later = { replaced run snapshot conflict.task worker with
            state := .compensationRequired
            retry := some (.replanNotify run.state replacementId) }) := by
  unfold reassign at reassigned
  simp only at reassigned
  split at reassigned
  · exact .inl (Option.some.inj reassigned).symm
  split at reassigned
  · exact .inr (.inl (Option.some.inj reassigned).symm)
  split at reassigned
  · exact .inl (Option.some.inj reassigned).symm
  · next worker chosen =>
    refine .inr (.inr ⟨worker, chosen, ?_⟩)
    split at reassigned
    · cases reassigned
    split at reassigned
    · cases reassigned
    split at reassigned
    · exact .inl (Option.some.inj reassigned).symm
    · exact .inr ⟨_, (Option.some.inj reassigned).symm⟩

/-- A reassignment keeps the run gated, if it replaces no pre-approval task past the gate. -/
theorem reassign_gated {run later : Run}
    {conflict : Conflict} (gated : Gated run) (active : run.state ≠ .compensationRequired)
    (running : run.state ≠ .completed)
    (outside : run.state = .waitingR2 ∨ run.state = .postApproval →
      conflict.task.stage ∈ preApprovalStages → replacementWorker run snapshot conflict = none)
    (reassigned : reassign run snapshot upstream conflict = some later) : Gated later := by
  have blocked : Gated { run with state := .blocked } := by
    constructor
    · rintro (waiting | post | completed | ⟨required, _⟩) <;> contradiction
    · rintro (completed | ⟨required, _⟩) <;> contradiction
  have kept : ∀ worker, replacementWorker run snapshot conflict = some worker →
      run.state = .waitingR2 ∨ run.state = .postApproval →
        Accepted (replaced run snapshot conflict.task worker) preApprovalStages := by
    intro worker chosen past
    apply replaced_accepted
    · exact gated.pre (past.elim .inl fun post => .inr (.inl post))
    · intro inPre
      rw [outside past inPre] at chosen
      cases chosen
  obtain rfl | rfl | ⟨worker, chosen, rfl | ⟨replacementId, rfl⟩⟩ := reassign_cases reassigned
  · exact blocked
  · exact gated
  · constructor
    · rintro (waiting | post | completed | ⟨required, _⟩)
      · exact kept worker chosen (.inl waiting)
      · exact kept worker chosen (.inr post)
      · exact absurd completed running
      · exact absurd required active
    · rintro (completed | ⟨required, _⟩)
      · exact absurd completed running
      · exact absurd required active
  · constructor
    · rintro (waiting | post | completed | ⟨_, notify | notify | notify | ⟨id, notify⟩⟩)
      · cases waiting
      · cases post
      · cases completed
      · cases notify
      · cases notify
      · cases notify
      · injection notify with same
        injection same with post _
        exact kept worker chosen (.inr post)
    · rintro (completed | ⟨_, notify⟩)
      · cases completed
      · cases notify

theorem advance_gated {run later : Run}
    (gated : Gated run) (advanced : advance run snapshot upstream = some later) : Gated later := by
  unfold advance at advanced
  split at advanced
  · next ready =>
    have pre : Accepted run preApprovalStages := accepted_of_completed ready.2
    split at advanced
    · split at advanced
      · cases advanced
        refine ⟨fun _ => pre, ?_⟩
        rintro (completed | ⟨required, _⟩)
        · cases completed
        · cases required
      · cases advanced
        refine ⟨fun _ => pre, ?_⟩
        rintro (completed | ⟨_, notify⟩)
        · cases completed
        · cases notify
    · cases advanced
  · split at advanced
    · next ready =>
      have pre : Accepted run preApprovalStages := gated.pre (.inr (.inl ready.1))
      have post : Accepted run postApprovalStages := accepted_of_completed ready.2
      split at advanced
      · cases advanced
      split at advanced
      · split at advanced
        · cases advanced
          exact gated
        · cases advanced
      split at advanced
      · cases advanced
        exact ⟨fun _ => pre, fun _ => post⟩
      · cases advanced
        exact ⟨fun _ => pre, fun _ => post⟩
    · cases advanced
      exact gated

/-- What a recovery that returns can do to the run: the state follows the retry. -/
theorem recoverCompensation_cases {run later : Run}
    (recovered : recoverCompensation run upstream = some later) :
    later = run ∨ ∃ state, later = { run with state := state, retry := none } ∧
      ((state = .preApproval ∧ (run.retry = some .startDispatch ∨
          ∃ resumeState id, run.retry = some (.replanNotify resumeState id) ∧
            resumeState ≠ .postApproval)) ∨
        (state = .postApproval ∧ ∃ id, run.retry = some (.replanNotify .postApproval id)) ∨
        (state = .waitingR2 ∧ run.retry = some .approvalRequiredNotify) ∨
        (state = .completed ∧ run.retry = some .terminalNotify)) := by
  unfold recoverCompensation at recovered
  split at recovered
  · next start =>
    split at recovered
    · exact .inr ⟨_, (Option.some.inj recovered).symm, .inl ⟨rfl, .inl start⟩⟩
    · cases recovered
  · next resumeState id notify =>
    split at recovered
    · refine .inr ⟨_, (Option.some.inj recovered).symm, ?_⟩
      split
      · next either =>
        rcases either with rfl | rfl
        · exact .inl ⟨rfl, .inr ⟨_, _, notify, nofun⟩⟩
        · exact .inr (.inl ⟨rfl, id, notify⟩)
      · next neither =>
        exact .inl ⟨rfl, .inr ⟨_, _, notify, fun post => neither (.inr post)⟩⟩
    · cases recovered
  · next notify =>
    split at recovered
    · exact .inr ⟨_, (Option.some.inj recovered).symm, .inr (.inr (.inl ⟨rfl, notify⟩))⟩
    · cases recovered
  · next notify =>
    split at recovered
    · exact .inr ⟨_, (Option.some.inj recovered).symm, .inr (.inr (.inr ⟨rfl, notify⟩))⟩
    · cases recovered
  · exact .inl (Option.some.inj recovered).symm

theorem recoverCompensation_gated {run later : Run} (gated : Gated run)
    (required : run.state = .compensationRequired)
    (recovered : recoverCompensation run upstream = some later) : Gated later := by
  have early : ∀ retry, Gated { run with state := .preApproval, retry := retry } := by
    intro retry
    constructor
    · rintro (waiting | post | completed | ⟨again, _⟩)
      · cases waiting
      · cases post
      · cases completed
      · cases again
    · rintro (completed | ⟨again, _⟩)
      · cases completed
      · cases again
  obtain rfl | ⟨_, rfl, ⟨rfl, _⟩ | ⟨rfl, _, notify⟩ | ⟨rfl, notify⟩ | ⟨rfl, notify⟩⟩ :=
    recoverCompensation_cases recovered
  · exact gated
  · exact early none
  · have pre := gated.pre (.inr (.inr (.inr ⟨required, .inr (.inr (.inr ⟨_, notify⟩))⟩)))
    refine ⟨fun _ => pre, ?_⟩
    rintro (completed | ⟨again, _⟩)
    · cases completed
    · cases again
  · have pre := gated.pre (.inr (.inr (.inr ⟨required, .inl notify⟩)))
    refine ⟨fun _ => pre, ?_⟩
    rintro (completed | ⟨again, _⟩)
    · cases completed
    · cases again
  · have pre := gated.pre (.inr (.inr (.inr ⟨required, .inr (.inr (.inl notify))⟩)))
    have post := gated.post (.inr ⟨required, notify⟩)
    exact ⟨fun _ => pre, fun _ => post⟩

theorem Gated.accepting (gated : Gated run) {accepted : List String}
    (grown : ∀ taskId ∈ run.accepted, taskId ∈ accepted) :
    Gated { run with accepted := accepted } :=
  ⟨fun past task member => grown _ (gated.pre past task member),
    fun ended task member => grown _ (gated.post ended task member)⟩

theorem reconcile_gated (gated : Gated run) (calm : Calm run snapshot) :
    Gated (reconcile run snapshot upstream) := by
  unfold reconcile
  split
  · exact gated
  · next active =>
    have running := (not_or.mp (not_or.mp active).2).1
    cases outcome : reconcileClaimed run snapshot upstream with
    | none => exact gated
    | some later =>
        rw [Option.getD_some]
        unfold reconcileClaimed at outcome
        split at outcome
        · cases outcome
        split at outcome
        · next required => exact recoverCompensation_gated gated required outcome
        next notRequired =>
        split at outcome
        · cases outcome
        · next accepted conflict found =>
          have grown := firstConflictFrom_grows found
          exact reassign_gated (gated.accepting grown) notRequired running
            (fun past => calm past accepted conflict found) outcome
        · next accepted found =>
          exact advance_gated (gated.accepting (firstConflictFrom_grows found)) outcome

theorem rolePlan_stage {projectId : String} {workers : List Worker} {previous : Option String}
    {roles : List (String × String × Stage × String × List String)} {tasks : List Task}
    (built : buildTasks projectId workers previous roles = some tasks) :
    ∀ task ∈ tasks, ∃ role ∈ roles, role.2.2.1 = task.stage := by
  induction roles generalizing previous tasks with
  | nil =>
      cases built
      exact fun task member => absurd member List.not_mem_nil
  | cons role rest ih =>
      obtain ⟨suffix, title, stage, workerName, skills⟩ := role
      rw [buildTasks] at built
      obtain ⟨worker, _, built⟩ := Option.bind_eq_some_iff.mp built
      obtain ⟨later, rest, built⟩ := Option.bind_eq_some_iff.mp built
      cases built
      intro task member
      rcases List.mem_cons.mp member with rfl | inLater
      · exact ⟨_, List.mem_cons_self, rfl⟩
      · obtain ⟨role, inRest, same⟩ := ih rest task inLater
        exact ⟨role, List.mem_cons_of_mem _ inRest, same⟩

theorem postTasks_stage {tasks : List Task} (post : postTasks run = some tasks) :
    ∀ task ∈ tasks, task.stage ∈ postApprovalStages := by
  unfold postTasks at post
  simp only at post
  split at post
  · cases post
    exact fun task member => of_decide_eq_true (List.mem_filter.mp member).2
  · intro task member
    obtain ⟨role, inRoles, same⟩ := rolePlan_stage post task member
    rw [← same]
    exact of_decide_eq_true (List.mem_filter.mp inRoles).2

theorem dependingOn_stage {last : Option Task} {tasks : List Task}
    (within : ∀ task ∈ tasks, task.stage ∈ postApprovalStages) :
    ∀ task ∈ dependingOn last tasks, task.stage ∈ postApprovalStages := by
  cases tasks with
  | nil => exact within
  | cons first rest =>
      have ⟨head, tail⟩ := List.forall_mem_cons.mp within
      cases last with
      | none => exact within
      | some task => exact List.forall_mem_cons.mpr ⟨head, tail⟩

theorem postApprovalStages_disjoint {stage : Stage} (post : stage ∈ postApprovalStages) :
    stage ∉ preApprovalStages := by
  revert post
  cases stage <;> decide

theorem postApprovalGraph_accepted {run later : Run} {graph : List Task}
    (pre : Accepted run preApprovalStages) (built : postApprovalGraph run = some graph)
    (isGraph : later.taskGraph = graph) (same : later.accepted = run.accepted) :
    Accepted later preApprovalStages := by
  obtain ⟨post, isPost, rfl⟩ := Option.map_eq_some_iff.mp built
  apply pre.change (keeps_withAccepted run.accepted)
  · rw [isGraph, effectiveTasks_change (keeps_withAccepted run.accepted)]
    · congr 1
      unfold effectiveTasks
      rw [List.filter_filter]
      congr 1
      apply List.filter_congr
      intro task _
      rw [Bool.and_self]
    · intro task member
      exact postApprovalStages_disjoint (dependingOn_stage (postTasks_stage isPost) task member)
  · rw [same]
    exact fun _ member => member

theorem dispatch_gated {upstream : GrantUpstream} {stored : Bool} (gated : Gated run)
    (pre : Accepted run preApprovalStages) : Gated (dispatch run upstream stored) := by
  unfold dispatch
  split
  · exact gated
  · next graph built =>
    split
    · exact gated
    split
    · split
      · refine ⟨fun _ => postApprovalGraph_accepted pre built rfl rfl, ?_⟩
        rintro (completed | ⟨required, _⟩)
        · cases completed
        · cases required
      · refine ⟨fun _ => postApprovalGraph_accepted pre built rfl rfl, ?_⟩
        rintro (completed | ⟨_, notify⟩)
        · cases completed
        · cases notify
    · refine ⟨fun _ => pre, ?_⟩
      rintro (completed | ⟨_, notify⟩)
      · cases completed
      · cases notify

theorem grantR2_gated (upstream : GrantUpstream) (gated : Gated run) :
    Gated (grantR2 run upstream) := by
  unfold grantR2
  split
  · exact gated
  next ready =>
  have pre : Accepted run preApprovalStages := by
    apply gated.pre
    rcases of_decide_eq_true ((Bool.not_eq_false _).mp ready) with
      waiting | ⟨required, notify | notify⟩
    · exact .inl waiting
    · exact .inr (.inr (.inr ⟨required, .inl notify⟩))
    · exact .inr (.inr (.inr ⟨required, .inr (.inl notify)⟩))
  split
  · exact dispatch_gated gated pre
  split
  · exact gated
  split
  · exact gated
  · simp only
    split
    · exact gated
    split
    · split
      · exact ⟨gated.pre, gated.post⟩
      constructor
      · rintro (waiting | post | completed | ⟨_, notify | notify | notify | ⟨_, notify⟩⟩)
        · cases waiting
        · cases post
        · cases completed
        · cases notify
        · cases notify
        · cases notify
        · cases notify
      · rintro (completed | ⟨_, notify⟩)
        · cases completed
        · cases notify
    · exact dispatch_gated ⟨gated.pre, gated.post⟩ pre

theorem startRun_gated (upstream : StartUpstream) (gated : Gated run) :
    Gated (startRun run upstream) := by
  unfold startRun
  split
  · exact gated
  split
  · constructor
    · rintro (waiting | post | completed | ⟨required, _⟩)
      · cases waiting
      · cases post
      · cases completed
      · cases required
    · rintro (completed | ⟨required, _⟩)
      · cases completed
      · cases required
  · constructor
    · rintro (waiting | post | completed | ⟨_, notify | notify | notify | ⟨_, notify⟩⟩)
      · cases waiting
      · cases post
      · cases completed
      · cases notify
      · cases notify
      · cases notify
      · cases notify
    · rintro (completed | ⟨_, notify⟩)
      · cases completed
      · cases notify

theorem step_gated (run : Run) (call : Call) (gated : Gated run)
    (undisturbed : Undisturbed run call) : Gated (step run call) := by
  cases call with
  | startRun upstream => exact startRun_gated upstream gated
  | reconcile snapshot upstream => exact reconcile_gated gated undisturbed
  | recoverActive snapshot upstream =>
      change Gated (recoverActive run snapshot upstream)
      unfold recoverActive
      split
      · exact gated
      · exact reconcile_gated gated undisturbed
  | grantR2 upstream => exact grantR2_gated upstream gated

/-! ### Runs -/

/-- The run has not reached the gate. -/
def Starting (run : Run) : Prop :=
  run.state = .provisioning ∨ run.state = .preApproval ∨
    (run.state = .compensationRequired ∧ run.retry = some .startDispatch)

theorem Starting.gated (starting : Starting run) : Gated run := by
  have notPast : ¬ PastGate run := by
    unfold PastGate
    rcases starting with early | early | ⟨required, notify⟩
    · simp [early]
    · simp [early]
    · simp [required, notify]
  refine ⟨fun past => absurd past notPast, ?_⟩
  rintro (completed | ⟨required, notify⟩)
  · exact absurd (.inr (.inr (.inl completed))) notPast
  · exact absurd (.inr (.inr (.inr ⟨required, .inr (.inr (.inl notify))⟩))) notPast

end

/-- In every run whose reconciles replace no pre-approval task past the gate, the tasks
of the pre-approval stages are accepted whenever it waits for the grant or is past it,
and all tasks when it is completed. -/
theorem work_follows_acceptance (calls : List Call) (run : Run) (starting : Starting run)
    (undisturbed : Throughout Undisturbed run calls) :
    let later := afterAll calls run
    ((later.state = .waitingR2 ∨ later.state = .postApproval) →
        Accepted later preApprovalStages) ∧
      (later.state = .completed → Accepted later allStages) := by
  have gated : Gated (afterAll calls run) :=
    afterAll_induction step_gated calls starting.gated undisturbed
  constructor
  · intro past
    exact gated.pre (past.elim .inl fun post => .inr (.inl post))
  · intro completed
    exact accepted_all (gated.pre (.inr (.inr (.inl completed)))) (gated.post (.inl completed))

/-! ### A revision after the gate -/

namespace Sample

def workers : List Worker :=
  [⟨"ego-architect", "@architect:hs", "worker", ["research-plan", "ablation-analyzer"]⟩,
    ⟨"ego-evaluator", "@evaluator:hs", "worker", ["ablation-analyzer"]⟩,
    ⟨"ego-memory-curator", "@curator:hs", "worker", ["research-memory"]⟩,
    ⟨"ego-reviewer", "@reviewer:hs", "worker", ["evidence-gate"]⟩,
    ⟨"ego-runtime", "@runtime:hs", "worker", ["safe-experiment-runner", "dataset-manifest"]⟩,
    ⟨"ego-scout", "@scout:hs", "worker", ["research-memory"]⟩]

/-- A run that `start_run` has dispatched. -/
def dispatched : Run where
  projectId := "p"
  state := .preApproval
  taskGraph := (buildTaskGraph "p" workers preApprovalStages).getD []
  workers := workers
  accepted := []
  reassignments := []
  retry := none
  egoGrantCommitted := false
  egoGrantObservedStage := none
  ackTimeoutSeconds := 300
  executionTimeoutSeconds := 3600
  maxReassignments := 2

def snapshotOf (plan : String) : Snapshot where
  bound := true
  nodes := [⟨"p-context", "completed"⟩, ⟨"p-plan", plan⟩, ⟨"p-plan-review", "completed"⟩]
  contract _ := .accepted
  seconds _ := 0

def upstream : Upstream := ⟨true, true, true, true, true, true, true, true, true, true⟩

def approved : Call := .grantR2 ⟨true, some (some "EXECUTE"), true, true, true, 2⟩

theorem granted_outcome :
    (afterAll [.reconcile (snapshotOf "completed") upstream, approved] dispatched).state =
      .postApproval := by
  decide +kernel

theorem work_follows_acceptance_sample :
    (afterAll [.reconcile (snapshotOf "completed") upstream, approved] dispatched).state =
        .postApproval ∧
      Accepted (afterAll [.reconcile (snapshotOf "completed") upstream, approved] dispatched)
        preApprovalStages := by
  have undisturbed : Throughout Undisturbed dispatched
      [.reconcile (snapshotOf "completed") upstream, approved] := by
    refine ⟨?_, trivial, trivial⟩
    rintro (waiting | post)
    · cases waiting
    · cases post
  exact ⟨granted_outcome, (work_follows_acceptance _ dispatched (.inr (.inl rfl))
    undisturbed).1 (.inr granted_outcome)⟩

/-- The accepted plan goes back to revision while the run waits for its grant. -/
def revised : Run :=
  afterAll [.reconcile (snapshotOf "completed") upstream,
    .reconcile (snapshotOf "revision") upstream, approved] dispatched

theorem revised_outcome : revised.state = .postApproval ∧
    (effectiveTasks revised.taskGraph preApprovalStages).map Task.taskId =
      ["p-context", "p-plan-review", "p-plan-r1"] ∧
    revised.accepted = ["p-context", "p-plan", "p-plan-review"] := by
  decide +kernel

/-- The grant goes through although the replacement has no accepted contract. -/
theorem granted_after_revision : Starting dispatched ∧ revised.state = .postApproval ∧
    ¬ Accepted revised preApprovalStages := by
  have ⟨post, effective, accepted⟩ := revised_outcome
  refine ⟨.inr (.inl rfl), post, ?_⟩
  intro holds
  have member : "p-plan-r1" ∈
      (effectiveTasks revised.taskGraph preApprovalStages).map Task.taskId := by
    rw [effective]
    decide
  obtain ⟨task, inTasks, named⟩ := List.mem_map.mp member
  have listed := holds task inTasks
  rw [named, accepted] at listed
  exact absurd listed (by decide)

end Sample

end EgoAgent.Bridge.Live
