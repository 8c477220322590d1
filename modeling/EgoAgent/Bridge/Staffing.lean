import EgoAgent.Bridge.Replans

/-!
Who gets the replacement of a task.

The choice is by place among the eligible workers: the count of earlier replacements,
modulo their number.  Workers are eligible by role and skill alone, so reviewers stay apart
from the others as far as the skills of the worker table keep them apart.
-/

namespace EgoAgent.Bridge.Live

/-! ### The choice of a worker -/

section

variable {run : Run}

variable {worker : Worker}

theorem candidate_spec {task : Task} (member : worker ∈ candidateWorkers run task) :
    worker ∈ run.workers ∧ worker.name ≠ task.assignedWorker ∧ worker.role ≠ "team_leader" ∧
      (task.expectedSkills = [] ∨
        ∃ skill ∈ task.expectedSkills, skill ∈ worker.skills) := by
  unfold candidateWorkers at member
  rw [List.mem_insertionSort, List.mem_filter] at member
  have ⟨other, notLeader, skilled⟩ := of_decide_eq_true member.2
  refine ⟨member.1, other, notLeader, skilled.imp id ?_⟩
  intro overlap
  obtain ⟨skill, expected, has⟩ := List.any_eq_true.mp overlap
  exact ⟨skill, expected, of_decide_eq_true has⟩

/-- A suggestion only changes the order of the candidates. -/
theorem orderedCandidates_perm (run : Run) (conflict : Conflict) :
    (orderedCandidates run conflict).Perm (candidateWorkers run conflict.task) := by
  unfold orderedCandidates
  simp only
  split
  · exact List.Perm.refl _
  · next suggested _ =>
    split
    · exact List.Perm.refl _
    · have others : ∀ worker ∈ candidateWorkers run conflict.task,
          decide (worker.name ≠ suggested) = !decide (worker.name = suggested) := by
        intro worker _
        exact decide_not
      rw [List.filter_congr others]
      exact List.filter_append_perm _ _

variable {conflict : Conflict}

theorem replacementWorker_place {snapshot : Snapshot}
    (chosen : replacementWorker run snapshot conflict = some worker) :
    (orderedCandidates run conflict)[
      reassignmentsOf run conflict.task % (candidateWorkers run conflict.task).length]? =
        some worker := by
  unfold replacementWorker at chosen
  simp only at chosen
  split at chosen
  · cases chosen
  · rw [(orderedCandidates_perm run conflict).length_eq] at chosen
    exact chosen

/-- A suggested candidate comes first. -/
theorem head_of_suggested {suggested : String}
    (suggests : conflict.suggestedWorker = some suggested) (nonempty : suggested ≠ "")
    (candidate : ∃ other ∈ candidateWorkers run conflict.task, other.name = suggested)
    (head : (orderedCandidates run conflict)[0]? = some worker) : worker.name = suggested := by
  obtain ⟨other, member, named⟩ := candidate
  unfold orderedCandidates at head
  rw [suggests] at head
  simp only [if_neg nonempty] at head
  have listed : other ∈
      (candidateWorkers run conflict.task).filter fun worker => worker.name = suggested :=
    List.mem_filter.mpr ⟨member, decide_eq_true named⟩
  cases first : (candidateWorkers run conflict.task).filter
      fun worker => worker.name = suggested with
  | nil =>
      rw [first] at listed
      cases listed
  | cons top rest =>
      rw [first] at head
      cases head
      have inFirst : worker ∈
          (candidateWorkers run conflict.task).filter fun worker => worker.name = suggested := by
        rw [first]
        exact List.mem_cons_self
      exact of_decide_eq_true (List.mem_filter.mp inFirst).2

/-- What holds of the worker of a replacement. -/
structure Choice (run : Run) (conflict : Conflict) (worker : Worker) : Prop where
  present : worker ∈ run.workers
  notLeader : worker.role ≠ "team_leader"
  notReplaced : worker.name ≠ conflict.task.assignedWorker
  skilled : conflict.task.expectedSkills = [] ∨
    ∃ skill ∈ conflict.task.expectedSkills, skill ∈ worker.skills
  suggested : ∀ name, conflict.suggestedWorker = some name → name ≠ "" →
    (∃ other ∈ candidateWorkers run conflict.task, other.name = name) →
    reassignmentsOf run conflict.task % (candidateWorkers run conflict.task).length = 0 →
      worker.name = name
  fresh : reassignmentsOf run conflict.task = 0 →
    ∀ task ∈ run.taskGraph, task.origin = conflict.task.origin →
      task.assignedWorker ≠ worker.name

/-- Every replacement of a call is such a choice. -/
def Chooses (run : Run) (call : Call) : Prop :=
  ∀ snapshot accepted conflict worker, call.snapshot = some snapshot →
    firstConflict run snapshot = some (accepted, some conflict) →
    replacementWorker run snapshot conflict = some worker → Choice run conflict worker

theorem Formed.newest_only {task : Task} (formed : Formed run)
    (effective : task ∈ effectiveTasks run.taskGraph allStages)
    (first : reassignmentsOf run task = 0) :
    ∀ other ∈ run.taskGraph, other.origin = task.origin → other = task := by
  have only : ∀ {built : List Stage}, Charted run built →
      ∀ other ∈ run.taskGraph, other.origin = task.origin → other = task := by
    intro built charted other otherIn same
    have ⟨inGraph, _, newest⟩ := charted.mem_effectiveTasks_iff.mp effective
    have stage := charted.stage_of_origin otherIn inGraph same
    obtain ⟨count, atCount, _, numbered⟩ := (charted.entries other otherIn).2.attempt
    rw [charted.reassignmentsOf_member inGraph] at first
    rw [stage] at atCount
    exact charted.task_eq otherIn inGraph stage (by omega)
  exact formed.elim only only

theorem Formed.chooses (formed : Formed run) (call : Call) : Chooses run call := by
  intro snapshot accepted conflict worker _ found chosen
  have place := replacementWorker_place chosen
  have member := (orderedCandidates_perm run conflict).mem_iff.mp (List.mem_of_getElem? place)
  have ⟨present, notReplaced, notLeader, skilled⟩ := candidate_spec member
  refine ⟨present, notLeader, notReplaced, skilled, ?_, ?_⟩
  · intro name suggests nonempty candidate first
    rw [first] at place
    exact head_of_suggested suggests nonempty candidate place
  · intro first task inGraph same
    rw [formed.newest_only (firstConflictFrom_task found) first task inGraph same]
    exact notReplaced.symm

/-! ### Reviewers -/

def reviewStages : List Stage := [.planReview, .verify]

/-- A worker that the role plan names for a stage, or that a reassignment may put on it. -/
def MayHold (workers : List Worker) (stage : Stage) (name : String) : Prop :=
  ∃ role ∈ rolePlan, role.2.2.1 = stage ∧ (role.2.2.2.1 = name ∨
    ∃ worker ∈ workers, worker.name = name ∧ worker.role ≠ "team_leader" ∧
      ∃ skill ∈ role.2.2.2.2, skill ∈ worker.skills)

/-- The worker table lets nobody hold both a review and another stage. -/
def Apart (workers : List Worker) : Prop :=
  ∀ review ∈ reviewStages, ∀ stage ∉ reviewStages, ∀ name,
    MayHold workers review name → ¬ MayHold workers stage name

/-- The workers that may hold a stage. -/
def holders (workers : List Worker) (stage : Stage) : List String :=
  (rolePlan.filter fun role => role.2.2.1 = stage).flatMap fun role =>
    role.2.2.2.1 :: (workers.filter fun worker => worker.role ≠ "team_leader" ∧
      role.2.2.2.2.any (fun skill => skill ∈ worker.skills) = true).map Worker.name

variable {workers : List Worker}

theorem MayHold.mem_holders {stage : Stage} {name : String}
    (holds : MayHold workers stage name) : name ∈ holders workers stage := by
  obtain ⟨role, planned, isStage, named⟩ := holds
  refine List.mem_flatMap.mpr ⟨role, List.mem_filter.mpr ⟨planned, decide_eq_true isStage⟩, ?_⟩
  rcases named with rfl | ⟨worker, present, rfl, notLeader, skill, expected, has⟩
  · exact List.mem_cons_self
  · refine List.mem_cons_of_mem _ (List.mem_map_of_mem (List.mem_filter.mpr ⟨present, ?_⟩))
    exact decide_eq_true ⟨notLeader, List.any_eq_true.mpr ⟨skill, expected, decide_eq_true has⟩⟩

theorem apart_of_holders
    (disjoint : ∀ review ∈ reviewStages, ∀ stage ∈ allStages, stage ∉ reviewStages →
      ∀ name ∈ holders workers review, name ∉ holders workers stage) : Apart workers :=
  fun review isReview stage notReview name reviewer worker =>
    disjoint review isReview stage (mem_allStages stage) notReview name reviewer.mem_holders
      worker.mem_holders

/-- No worker of an effective review is assigned another effective task. -/
def ReviewersApart (run : Run) : Prop :=
  ∀ review ∈ effectiveTasks run.taskGraph allStages, review.stage ∈ reviewStages →
    ∀ other ∈ effectiveTasks run.taskGraph allStages, other.stage ∉ reviewStages →
      other.assignedWorker ≠ review.assignedWorker

/-- A task as the role plan and the worker table allow it. -/
structure Staffed (workers : List Worker) (task : Task) : Prop where
  holder : MayHold workers task.stage task.assignedWorker
  skills : ∃ role ∈ rolePlan, role.2.2.1 = task.stage ∧ role.2.2.2.2 = task.expectedSkills

theorem rolePlan_skilled : ∀ role ∈ rolePlan, role.2.2.2.2 ≠ [] := by decide

theorem buildTasks_staffed {projectId : String} {table workers : List Worker}
    {previous : Option String} {roles : List (String × String × Stage × String × List String)}
    {tasks : List Task} (within : ∀ role ∈ roles, role ∈ rolePlan)
    (built : buildTasks projectId table previous roles = some tasks) :
    ∀ task ∈ tasks, Staffed workers task := by
  induction roles generalizing previous tasks with
  | nil =>
      cases built
      exact fun task member => absurd member List.not_mem_nil
  | cons role rest ih =>
      have ⟨planned, restPlanned⟩ := List.forall_mem_cons.mp within
      obtain ⟨suffix, title, stage, workerName, skills⟩ := role
      rw [buildTasks] at built
      obtain ⟨worker, _, built⟩ := Option.bind_eq_some_iff.mp built
      obtain ⟨later, isLater, built⟩ := Option.bind_eq_some_iff.mp built
      cases built
      exact List.forall_mem_cons.mpr
        ⟨⟨⟨_, planned, rfl, .inl rfl⟩, ⟨_, planned, rfl, rfl⟩⟩, ih restPlanned isLater⟩

theorem Staffed.withAccepted {task : Task} (staffed : Staffed workers task)
    (accepted : List String) : Staffed workers (task.withAccepted accepted) := by
  unfold Task.withAccepted
  split
  · exact ⟨staffed.holder, staffed.skills⟩
  · exact staffed

theorem postApprovalGraph_staffed {graph : List Task}
    (staffed : ∀ task ∈ run.taskGraph, Staffed run.workers task)
    (built : postApprovalGraph run = some graph) :
    ∀ task ∈ graph, Staffed run.workers task := by
  obtain ⟨post, isPost, rfl⟩ := Option.map_eq_some_iff.mp built
  have posts : ∀ task ∈ post, Staffed run.workers task := by
    unfold postTasks at isPost
    simp only at isPost
    split at isPost
    · cases isPost
      exact fun task member => staffed task (List.mem_filter.mp member).1
    · exact buildTasks_staffed (fun _ inRoles => (List.mem_filter.mp inRoles).1) isPost
  intro task member
  rcases List.mem_append.mp member with pre | inPost
  · obtain ⟨old, inOld, rfl⟩ := List.mem_map.mp pre
    exact (staffed old (List.mem_filter.mp inOld).1).withAccepted _
  · cases post with
    | nil => cases inPost
    | cons first rest =>
        have ⟨head, tail⟩ := List.forall_mem_cons.mp posts
        cases isLast : lastPreApproval run with
        | none =>
            rw [isLast] at inPost
            exact posts task inPost
        | some last =>
            rw [isLast] at inPost
            rcases List.mem_cons.mp inPost with rfl | inRest
            · exact ⟨head.holder, head.skills⟩
            · exact tail task inRest

theorem replaced_staffed {snapshot : Snapshot}
    (staffed : ∀ task ∈ run.taskGraph, Staffed run.workers task)
    (member : conflict.task ∈ run.taskGraph)
    (chosen : replacementWorker run snapshot conflict = some worker) :
    ∀ task ∈ (replaced run snapshot conflict.task worker).taskGraph, Staffed run.workers task := by
  intro task inGraph
  rcases List.mem_append.mp inGraph with kept | added
  · obtain ⟨old, inOld, rfl⟩ := List.mem_map.mp kept
    exact ⟨(staffed old inOld).holder, (staffed old inOld).skills⟩
  · rw [List.mem_singleton.mp added]
    obtain ⟨role, planned, stage, skills⟩ := (staffed conflict.task member).skills
    have candidate := (orderedCandidates_perm run conflict).mem_iff.mp
      (List.mem_of_getElem? (replacementWorker_place chosen))
    have ⟨present, _, notLeader, skilled⟩ := candidate_spec candidate
    refine ⟨⟨role, planned, stage, .inr ⟨worker, present, rfl, notLeader, ?_⟩⟩,
      ⟨role, planned, stage, skills⟩⟩
    rcases skilled with none | overlap
    · exact absurd (skills.trans none) (rolePlan_skilled role planned)
    · rw [skills]
      exact overlap

/-- A run of a worker table whose tasks are staffed from it. -/
structure StaffedFrom (workers : List Worker) (run : Run) : Prop where
  formed : Formed run
  table : run.workers = workers
  staffed : ∀ task ∈ run.taskGraph, Staffed run.workers task

theorem StaffedFrom.moved {workers : List Worker} {run later : Run}
    (staffed : StaffedFrom workers run) (moved : Moved run later) : StaffedFrom workers later := by
  have formed := staffed.formed.moved moved
  cases moved with
  | kept onward same =>
      refine ⟨formed, same.workers.trans staffed.table, ?_⟩
      rw [same.taskGraph, same.workers]
      exact staffed.staffed
  | accepting snapshot accepted conflict onward active found same =>
      refine ⟨formed, same.workers.trans staffed.table, ?_⟩
      rw [same.taskGraph, same.workers]
      exact staffed.staffed
  | replacing snapshot accepted conflict worker onward active found chosen same =>
      refine ⟨formed, same.workers.trans staffed.table, ?_⟩
      rw [same.taskGraph, same.workers]
      have member : conflict.task ∈ run.taskGraph := firstConflict_task found
      exact replaced_staffed staffed.staffed member chosen
  | dispatching graph grantable built after same =>
      refine ⟨formed, same.workers.trans staffed.table, ?_⟩
      rw [same.taskGraph, same.workers]
      have sent := postApprovalGraph_staffed staffed.staffed built
      exact sent

theorem Fresh.staffed (fresh : Fresh run) : StaffedFrom run.workers run :=
  ⟨.inl fresh.charted, rfl,
    buildTasks_staffed (fun _ inRoles => (List.mem_filter.mp inRoles).1) fresh.taskGraph⟩

theorem StaffedFrom.reviewersApart
    (staffed : StaffedFrom workers run) (apart : Apart workers) : ReviewersApart run := by
  intro review reviewIn isReview other otherIn notReview same
  have inGraph : ∀ {task : Task}, task ∈ effectiveTasks run.taskGraph allStages →
      task ∈ run.taskGraph := fun effective => (List.mem_filter.mp (mem_newestAfter effective)).1
  have reviewer := (staffed.staffed review (inGraph reviewIn)).holder
  have worker := (staffed.staffed other (inGraph otherIn)).holder
  rw [staffed.table] at reviewer worker
  rw [same] at worker
  exact apart review.stage isReview other.stage notReview _ reviewer worker

theorem throughout_of_invariant {condition : Run → Call → Prop} {holds : Run → Prop}
    (keeps : ∀ run call, holds run → holds (step run call))
    (meets : ∀ run call, holds run → condition run call) (calls : List Call)
    (start : holds run) : Throughout condition run calls := by
  induction calls generalizing run with
  | nil => exact trivial
  | cons call rest ih => exact ⟨meets run call start, ih (keeps run call start)⟩

end

/-- Along every run a replacement goes to a skilled worker other than the leader and the
replaced one, to the suggested one at the first place, and first to one that has not had
the task; and the reviewers stay apart when the worker table keeps them apart. -/
theorem replacements_choose (start : Run) (fresh : Fresh start) (calls : List Call) :
    Throughout Chooses start calls ∧
      (Apart start.workers → ReviewersApart (afterAll calls start)) := by
  constructor
  · have formed : Formed start := .inl fresh.charted
    exact throughout_of_invariant
      (fun run call (formed : Formed run) => formed.moved (step_moved run call))
      (fun run call formed => formed.chooses call) calls formed
  · intro apart
    have staffed : StaffedFrom start.workers (afterAll calls start) :=
      afterAll_induction (fun run call staffed _ => staffed.moved (step_moved run call)) calls
        fresh.staffed (throughout_trivial start calls)
    exact staffed.reviewersApart apart

namespace Sample

theorem workers_apart : Apart workers := apart_of_holders (by decide +kernel)

theorem replacements_choose_sample :
    (afterAll [started, revising] reserved).reassignments = [("p-plan", 1)] ∧
      Throughout Chooses reserved [started, revising] ∧
      ReviewersApart (afterAll [started, revising] reserved) := by
  have choose := replacements_choose reserved reserved_fresh [started, revising]
  exact ⟨by decide +kernel, choose.1, choose.2 workers_apart⟩

/-- The sample's table with two more workers that may review. -/
def mixedWorkers : List Worker :=
  [⟨"ego-architect", "@architect:hs", "worker",
      ["research-plan", "ablation-analyzer", "evidence-gate"]⟩,
    ⟨"ego-evaluator", "@evaluator:hs", "worker", ["ablation-analyzer"]⟩,
    ⟨"ego-memory-curator", "@curator:hs", "worker", ["research-memory"]⟩,
    ⟨"ego-reviewer", "@reviewer:hs", "worker", ["evidence-gate"]⟩,
    ⟨"ego-runtime", "@runtime:hs", "worker", ["safe-experiment-runner", "dataset-manifest"]⟩,
    ⟨"ego-scout", "@scout:hs", "worker", ["research-memory"]⟩,
    ⟨"ego-second-reviewer", "@second:hs", "worker", ["evidence-gate"]⟩]

def mixed : Run :=
  { reserved with
    workers := mixedWorkers
    taskGraph := (buildTaskGraph "p" mixedWorkers preApprovalStages).getD [] }

theorem mixed_fresh : Fresh mixed := ⟨rfl, by decide, rfl, rfl, rfl⟩

/-- The review of the plan goes back, and its replacement suggests the second reviewer. -/
def reviewRevised (suggestion : Contract) : Snapshot where
  bound := true
  nodes := [⟨"p-context", "completed"⟩, ⟨"p-plan", "completed"⟩, ⟨"p-plan-review", "revision"⟩,
    ⟨"p-plan-review-r1", "completed"⟩]
  contract id := if id = "p-plan-review-r1" then suggestion else .accepted
  seconds _ := 0

def firstRevision : Call := .reconcile (reviewRevised .accepted) upstream

def suggesting : Snapshot := reviewRevised (.refused (some "ego-second-reviewer"))

/-- The suggestion of a run's next replacement, the candidates for it, the worker chosen,
and the workers that have had the task. -/
def choiceOf (run : Run) (snapshot : Snapshot) :
    Option (Option String × List String × Option String × List String) :=
  (firstConflict run snapshot).bind fun found => found.2.map fun conflict =>
    (conflict.suggestedWorker, (candidateWorkers run conflict.task).map Worker.name,
      (replacementWorker run snapshot conflict).map Worker.name,
      (run.taskGraph.filter fun task => task.origin = conflict.task.origin).map
        Task.assignedWorker)

theorem revised_assignments :
    (effectiveTasks (afterAll [started, firstRevision] mixed).taskGraph allStages).map
        (fun task => (task.stage, task.assignedWorker)) =
      [(.context, "ego-scout"), (.plan, "ego-architect"), (.planReview, "ego-architect")] := by
  decide +kernel

/-- The reviewer also holds the plan, and the second reviewer is neither chosen when it is
suggested nor before the first one has the task again. -/
theorem reviewer_not_independent : Fresh mixed ∧
    ¬ ReviewersApart (afterAll [started, firstRevision] mixed) ∧
    choiceOf (afterAll [started, firstRevision] mixed) suggesting =
      some (some "ego-second-reviewer", ["ego-reviewer", "ego-second-reviewer"],
        some "ego-reviewer", ["ego-reviewer", "ego-architect"]) := by
  refine ⟨mixed_fresh, ?_, by decide +kernel⟩
  intro apart
  have assigned : ∀ pair ∈ [(Stage.plan, "ego-architect"), (Stage.planReview, "ego-architect")],
      ∃ task ∈ effectiveTasks (afterAll [started, firstRevision] mixed).taskGraph allStages,
        (task.stage, task.assignedWorker) = pair := by
    intro pair member
    apply List.mem_map.mp
    rw [revised_assignments]
    exact List.mem_cons_of_mem _ member
  obtain ⟨plan, planIn, isPlan⟩ := assigned _ List.mem_cons_self
  obtain ⟨review, reviewIn, isReview⟩ := assigned _ (List.mem_cons_of_mem _ List.mem_cons_self)
  obtain ⟨planStage, planWorker⟩ := Prod.mk.inj isPlan
  obtain ⟨reviewStage, reviewWorker⟩ := Prod.mk.inj isReview
  refine apart review reviewIn ?_ plan planIn ?_ (planWorker.trans reviewWorker.symm)
  · rw [reviewStage]
    decide
  · rw [planStage]
    decide

end Sample

end EgoAgent.Bridge.Live
