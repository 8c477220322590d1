import EgoAgent.Bridge.LiveMoves

/-!
The task graph stays well formed under every order of replacements, grants and recoveries.

The graph is charted from its building on.  A replacement keeps its stages, the dispatch
after the grant adds the stages after the approval, and every other change of a run leaves
the graph and its counts alone.
-/

namespace EgoAgent.Bridge.Live

/-! ### The post-approval stages -/

theorem stage_placed (stage : Stage) : stage ∈ preApprovalStages ∨ stage ∈ postApprovalStages := by
  cases stage <;> decide

theorem closed_pre : ∀ stage ∈ preApprovalStages, ∀ earlier, stage.previous = some earlier →
    earlier ∈ preApprovalStages := by
  intro stage member earlier before
  revert member
  cases stage <;> cases before <;> decide

theorem closed_all : ∀ stage ∈ allStages, ∀ earlier, stage.previous = some earlier →
    earlier ∈ allStages := by
  intro _ _ earlier _
  cases earlier <;> decide

/-- The stages before the approval, or all of them. -/
def Formed (run : Run) : Prop := Charted run preApprovalStages ∨ Charted run allStages

section Last

variable {run : Run} {built : List Stage} (charted : Charted run built)

include charted

/-- The pre-approval task with the greatest order is the newest review of the plan. -/
theorem Charted.lastPreApproval_eq (review : .planReview ∈ built) :
    ∃ task, lastPreApproval run = some task ∧ task.taskId = currentId run .planReview := by
  let before (left right : Task) : Prop := left.stage.order < right.stage.order ∨
    (left.stage.order = right.stage.order ∧ left.attempt ≤ right.attempt)
  have total : Std.Total before := ⟨fun left right => by
    unfold before
    omega⟩
  have trans : IsTrans Task before := ⟨fun first second third left right => by
    unfold before at *
    omega⟩
  obtain ⟨newest, effective, isReview⟩ :=
    charted.effective_exists review (show Stage.planReview ∈ preApprovalStages by decide)
  have sorted := List.pairwise_insertionSort before (effectiveTasks run.taskGraph preApprovalStages)
  have perm := List.perm_insertionSort before (effectiveTasks run.taskGraph preApprovalStages)
  have listed := perm.mem_iff.mpr effective
  unfold lastPreApproval
  change ∃ task, ((effectiveTasks run.taskGraph preApprovalStages).insertionSort before).getLast? =
    some task ∧ _
  generalize (effectiveTasks run.taskGraph preApprovalStages).insertionSort before = tasks
    at sorted perm listed
  rcases List.eq_nil_or_concat' tasks with rfl | ⟨initial, last, rfl⟩
  · cases listed
  refine ⟨last, List.getLast?_concat, ?_⟩
  have lastEffective := perm.mem_iff.mp (List.mem_append_right initial (List.mem_singleton_self last))
  have lastPre := (charted.mem_effectiveTasks_iff.mp lastEffective).2.1
  have atMost : 2 ≤ last.stage.order := by
    rcases List.mem_append.mp listed with inInitial | isLast
    · have ordered := (List.pairwise_append.mp sorted).2.2 newest inInitial last
        (List.mem_singleton_self last)
      have two : newest.stage.order = 2 := by rw [isReview]; rfl
      unfold before at ordered
      omega
    · rw [← List.mem_singleton.mp isLast, isReview]
      decide
  have lastReview : last.stage = .planReview := by
    revert lastPre atMost
    cases last.stage <;> decide
  rw [charted.current_of_effective lastEffective, lastReview]

end Last

section Dispatch

variable {run later : Run} {graph : List Task}

/-- The existing tasks after the approval already follow the newest review of the plan. -/
theorem Charted.dependingOn_existing {built : List Stage} (charted : Charted run built)
    (review : .planReview ∈ built) :
    dependingOn (lastPreApproval run)
        (run.taskGraph.filter fun task => task.stage ∈ postApprovalStages) =
      run.taskGraph.filter fun task => task.stage ∈ postApprovalStages := by
  obtain ⟨last, isLast, named⟩ := charted.lastPreApproval_eq review
  rw [isLast]
  cases existing : run.taskGraph.filter fun other : Task => other.stage ∈ postApprovalStages with
  | nil => rfl
  | cons first rest =>
      have execute : first.stage = .execute := charted.first first (by rw [existing]; rfl)
      have member : first ∈ run.taskGraph := by
        have listed : first ∈
            run.taskGraph.filter fun other : Task => other.stage ∈ postApprovalStages := by
          rw [existing]
          exact List.mem_cons_self
        exact (List.mem_filter.mp listed).1
      have depends := (charted.entries first member).2.depends
      rw [execute] at depends
      change { first with dependsOn := [last.taskId] } :: rest = first :: rest
      rw [named]
      change first.dependsOn = [currentId run .planReview] at depends
      rw [← depends]

/-- The tasks before the approval with their accepted ones completed, then tasks after it. -/
theorem filter_post_withAccepted {accepted : List String} {before post : List Task}
    (within : ∀ task ∈ post, task.stage ∈ postApprovalStages) :
    (((before.filter fun task => task.stage ∈ preApprovalStages).map (Task.withAccepted accepted) ++
        post).filter fun task => task.stage ∈ postApprovalStages) = post := by
  rw [List.filter_append]
  have left : (((before.filter fun task => task.stage ∈ preApprovalStages).map
      (Task.withAccepted accepted)).filter fun task => task.stage ∈ postApprovalStages) = [] := by
    apply List.filter_eq_nil_iff.mpr
    intro task member
    obtain ⟨old, inOld, rfl⟩ := List.mem_map.mp member
    have pre := of_decide_eq_true (List.mem_filter.mp inOld).2
    rw [decide_eq_true_iff, (keeps_withAccepted accepted).stage]
    exact fun isPost => postApprovalStages_disjoint isPost pre
  rw [left, List.nil_append]
  exact List.filter_eq_self.mpr fun task member => decide_eq_true (within task member)

theorem Entry.withAccepted {task : Task} (entry : Entry run task) (accepted : List String) :
    Entry run (task.withAccepted accepted) := by
  unfold Task.withAccepted
  split
  · exact ⟨entry.origin, entry.attempt, entry.depends⟩
  · exact entry

/-- The tasks that a dispatch keeps are charted as before. -/
theorem Charted.rearranged {built : List Stage} (charted : Charted run built)
    (same : SameCounts run later)
    (graph : later.taskGraph =
      (run.taskGraph.filter fun task => task.stage ∈ preApprovalStages).map
          (Task.withAccepted run.accepted) ++
        run.taskGraph.filter fun task => task.stage ∈ postApprovalStages) :
    Charted later built := by
  have keeps := keeps_withAccepted run.accepted
  have ids : (later.taskGraph.map Task.taskId).Perm (run.taskGraph.map Task.taskId) := by
    have apart : ∀ task ∈ run.taskGraph, decide (task.stage ∈ postApprovalStages) =
        !decide (task.stage ∈ preApprovalStages) := by
      intro task _
      cases task.stage <;> decide
    rw [graph, List.map_append, List.map_map, List.filter_congr apart]
    have kept : Task.taskId ∘ Task.withAccepted run.accepted = Task.taskId :=
      funext keeps.taskId
    rw [kept, ← List.map_append]
    exact (List.filter_append_perm _ _).map _
  have kept : ∀ task ∈ run.taskGraph, ∃ other ∈ later.taskGraph,
      other.stage = task.stage ∧ other.attempt = task.attempt := by
    intro task member
    rw [graph]
    rcases stage_placed task.stage with pre | post
    · exact ⟨_, List.mem_append_left _ (List.mem_map_of_mem (List.mem_filter.mpr
        ⟨member, decide_eq_true pre⟩)), keeps.stage task, keeps.attempt task⟩
    · exact ⟨task, List.mem_append_right _ (List.mem_filter.mpr ⟨member, decide_eq_true post⟩),
        rfl, rfl⟩
  refine ⟨?_, ?_, ?_, ?_, ?_, charted.closed, ?_⟩
  · exact ids.nodup_iff.mpr charted.unique
  · intro task member
    rw [graph] at member
    rcases List.mem_append.mp member with pre | post
    · obtain ⟨old, inOld, rfl⟩ := List.mem_map.mp pre
      have ⟨inBuilt, entry⟩ := charted.entries old (List.mem_filter.mp inOld).1
      rw [keeps.stage]
      exact ⟨inBuilt, same.entry (entry.withAccepted _)⟩
    · have ⟨inBuilt, entry⟩ := charted.entries task (List.mem_filter.mp post).1
      exact ⟨inBuilt, same.entry entry⟩
  · intro stage isBuilt count atCount
    rw [same.countOf_eq] at atCount
    obtain ⟨task, member, sameStage, numbered⟩ := charted.present stage isBuilt count atCount
    obtain ⟨other, inLater, stages, attempts⟩ := kept task member
    exact ⟨other, inLater, stages.trans sameStage, attempts.trans numbered⟩
  · intro stage
    rw [same.countOf_eq, same.maxReassignments]
    exact charted.budget stage
  · intro stage notBuilt
    rw [same.countOf_eq]
    exact charted.unbuilt stage notBuilt
  · intro task isHead
    rw [graph, filter_post_withAccepted fun other member =>
      of_decide_eq_true (List.mem_filter.mp member).2] at isHead
    exact charted.first task isHead

/-- The five tasks after the approval complete the chart. -/
theorem Charted.extended (charted : Charted run preApprovalStages)
    (same : SameCounts run later) {post : List Task}
    (built : buildTasks run.projectId run.workers (some (currentId run .planReview))
      (rolePlan.filter fun role => role.2.2.1 ∈ postApprovalStages) = some post)
    (graph : later.taskGraph =
      (run.taskGraph.filter fun task => task.stage ∈ preApprovalStages).map
          (Task.withAccepted run.accepted) ++ post) :
    Charted later allStages := by
  have keeps := keeps_withAccepted run.accepted
  have uncounted : ∀ stage ∈ postApprovalStages, countOf run stage = 0 := fun stage isPost =>
    charted.unbuilt stage (postApprovalStages_disjoint isPost)
  have allPre : (run.taskGraph.filter fun task => task.stage ∈ preApprovalStages) =
      run.taskGraph :=
    List.filter_eq_self.mpr fun task member => decide_eq_true (charted.entries task member).1
  rw [allPre] at graph
  have spec : post.map Task.stage = postApprovalStages ∧
      ∀ task ∈ post, Entry run task ∧ task.attempt = 1 :=
    buildTasks_entries rolePlan_post (fun role inRoles =>
      uncounted _ (of_decide_eq_true (List.mem_filter.mp inRoles).2)) built
  obtain ⟨stages, entries⟩ := spec
  have within : ∀ task ∈ post, task.stage ∈ postApprovalStages := by
    intro task member
    rw [← stages]
    exact List.mem_map_of_mem member
  refine ⟨?_, ?_, ?_, ?_, ?_, closed_all, ?_⟩
  · have kept : Task.taskId ∘ Task.withAccepted run.accepted = Task.taskId :=
      funext keeps.taskId
    rw [graph, List.map_append, List.map_map, kept]
    have ids : post.map Task.taskId =
        postApprovalStages.map fun stage => attemptId (originOf run.projectId stage) 0 := by
      rw [← stages, List.map_map]
      apply List.map_congr_left
      intro task member
      have ⟨entry, first⟩ := entries task member
      exact entry.taskId_eq first
    apply List.nodup_append.mpr
    refine ⟨charted.unique, ?_, ?_⟩
    · rw [ids]
      refine List.Nodup.map (fun left right equal => (attemptId_injective equal).1) ?_
      decide
    · intro old inOld fresh isFresh equal
      obtain ⟨other, otherIn, rfl⟩ := List.mem_map.mp inOld
      rw [ids] at isFresh
      obtain ⟨stage, isPost, rfl⟩ := List.mem_map.mp isFresh
      have ⟨pre, entry⟩ := charted.entries other otherIn
      obtain ⟨count, _, named, _⟩ := entry.attempt
      have alike := (attemptId_injective (named.symm.trans equal)).1
      rw [← alike] at isPost
      exact postApprovalStages_disjoint isPost pre
  · intro task member
    rw [graph] at member
    rcases List.mem_append.mp member with pre | isPost
    · obtain ⟨old, inOld, rfl⟩ := List.mem_map.mp pre
      have ⟨inBuilt, entry⟩ := charted.entries old inOld
      rw [keeps.stage]
      exact ⟨List.mem_append_left _ inBuilt, same.entry (entry.withAccepted _)⟩
    · exact ⟨List.mem_append_right _ (within task isPost), same.entry (entries task isPost).1⟩
  · intro stage isBuilt count atCount
    rw [same.countOf_eq] at atCount
    rw [graph]
    rcases List.mem_append.mp isBuilt with pre | isPost
    · obtain ⟨task, member, sameStage, numbered⟩ := charted.present stage pre count atCount
      exact ⟨_, List.mem_append_left _ (List.mem_map_of_mem member),
        (keeps.stage task).trans sameStage, (keeps.attempt task).trans numbered⟩
    · rw [uncounted stage isPost] at atCount
      rw [← stages] at isPost
      obtain ⟨task, member, sameStage⟩ := List.mem_map.mp isPost
      refine ⟨task, List.mem_append_right _ member, sameStage, ?_⟩
      rw [(entries task member).2, Nat.le_zero.mp atCount]
  · intro stage
    rw [same.countOf_eq, same.maxReassignments]
    exact charted.budget stage
  · intro stage notBuilt
    exact absurd (List.mem_append.mpr (stage_placed stage)) notBuilt
  · intro task isHead
    rw [← allPre] at graph
    rw [graph, filter_post_withAccepted within] at isHead
    cases post with
    | nil => cases isHead
    | cons first rest =>
        cases isHead
        exact (List.cons.inj stages).1

theorem Formed.dispatched (formed : Formed run) (same : SameCounts run later)
    (built : postApprovalGraph run = some graph) (isGraph : later.taskGraph = graph) :
    Formed later := by
  obtain ⟨post, isPost, assembled⟩ := Option.map_eq_some_iff.mp built
  unfold postTasks at isPost
  simp only at isPost
  rw [← isGraph] at assembled
  split at isPost
  · next existing =>
    cases isPost
    rcases formed with charted | charted
    · rw [charted.dependingOn_existing (by decide)] at assembled
      exact .inl (charted.rearranged same assembled.symm)
    · rw [charted.dependingOn_existing (by decide)] at assembled
      exact .inr (charted.rearranged same assembled.symm)
  · next empty =>
    rcases formed with charted | charted
    · obtain ⟨last, isLast, named⟩ := charted.lastPreApproval_eq (by decide)
      have behind := dependingOn_buildTasks last isPost
      rw [named] at behind
      rw [isLast] at assembled
      exact .inr (charted.extended same behind assembled.symm)
    · obtain ⟨execute, effective, isExecute⟩ :=
        charted.effective_exists (show Stage.execute ∈ allStages by decide)
          (show Stage.execute ∈ allStages by decide)
      refine absurd (fun none => ?_) empty
      have member : execute ∈
          run.taskGraph.filter fun other : Task => other.stage ∈ postApprovalStages := by
        refine List.mem_filter.mpr ⟨(charted.mem_effectiveTasks_iff.mp effective).1, ?_⟩
        rw [isExecute]
        decide
      rw [none] at member
      cases member

end Dispatch

/-! ### Charts along a run -/

theorem Formed.alike {run later : Run} (formed : Formed run) (same : SameCounts run later)
    (graph : later.taskGraph = run.taskGraph) : Formed later :=
  formed.imp (fun charted => charted.alike same graph) fun charted => charted.alike same graph

theorem Formed.replaced {run : Run} {snapshot : Snapshot} {conflict : Conflict} {worker : Worker}
    (formed : Formed run) (effective : conflict.task ∈ effectiveTasks run.taskGraph allStages)
    (chosen : replacementWorker run snapshot conflict = some worker) :
    Formed (replaced run snapshot conflict.task worker) := by
  have within : reassignmentsOf run conflict.task < run.maxReassignments := by
    unfold replacementWorker at chosen
    simp only at chosen
    split at chosen
    · cases chosen
    · next open' =>
      exact Nat.lt_of_not_le fun exhausted => open' (.inl exhausted)
  exact formed.imp (fun charted => charted.replaced effective snapshot worker within)
    (fun charted => charted.replaced effective snapshot worker within)

theorem Formed.moved {run later : Run} (formed : Formed run) (moved : Moved run later) :
    Formed later := by
  cases moved with
  | kept onward same => exact formed.alike same.toSameCounts same.taskGraph
  | accepting snapshot accepted conflict onward active found same =>
      have accepting : Formed { run with accepted := accepted } :=
        formed.alike ⟨rfl, rfl, rfl⟩ rfl
      exact accepting.alike same.toSameCounts same.taskGraph
  | replacing snapshot accepted conflict worker onward active found chosen same =>
      have accepting : Formed { run with accepted := accepted } :=
        formed.alike ⟨rfl, rfl, rfl⟩ rfl
      have replaced := accepting.replaced (firstConflictFrom_task found) chosen
      exact replaced.alike same.toSameCounts same.taskGraph
  | dispatching graph open' built after same =>
      exact formed.dispatched ⟨same.projectId, same.reassignments, same.maxReassignments⟩ built
        same.taskGraph

/-- A run that `start_run` has reserved and nobody has changed. -/
structure Fresh (run : Run) : Prop where
  state : run.state = .provisioning
  taskGraph : buildTaskGraph run.projectId run.workers preApprovalStages = some run.taskGraph
  reassignments : run.reassignments = []
  accepted : run.accepted = []
  retry : run.retry = none

theorem Fresh.charted {run : Run} (fresh : Fresh run) : Charted run preApprovalStages := by
  have uncounted : ∀ stage, countOf run stage = 0 := by
    intro stage
    unfold countOf
    rw [fresh.reassignments]
    rfl
  have spec : run.taskGraph.map Task.stage = preApprovalStages ∧
      ∀ task ∈ run.taskGraph, Entry run task ∧ task.attempt = 1 :=
    buildTasks_entries rolePlan_pre (fun role _ => uncounted _) fresh.taskGraph
  obtain ⟨stages, entries⟩ := spec
  have within : ∀ task ∈ run.taskGraph, task.stage ∈ preApprovalStages := by
    intro task member
    rw [← stages]
    exact List.mem_map_of_mem member
  refine ⟨?_, fun task member => ⟨within task member, (entries task member).1⟩, ?_, ?_,
    fun stage _ => uncounted stage, closed_pre, ?_⟩
  · have ids : run.taskGraph.map Task.taskId =
        preApprovalStages.map fun stage => attemptId (originOf run.projectId stage) 0 := by
      rw [← stages, List.map_map]
      apply List.map_congr_left
      intro task member
      have ⟨entry, first⟩ := entries task member
      exact entry.taskId_eq first
    rw [ids]
    refine List.Nodup.map (fun left right equal => (attemptId_injective equal).1) ?_
    decide
  · intro stage isBuilt count atCount
    rw [uncounted] at atCount
    rw [← stages] at isBuilt
    obtain ⟨task, member, sameStage⟩ := List.mem_map.mp isBuilt
    refine ⟨task, member, sameStage, ?_⟩
    rw [(entries task member).2, Nat.le_zero.mp atCount]
  · intro stage
    rw [uncounted]
    exact Nat.zero_le _
  · intro task isHead
    have listed := List.mem_filter.mp (List.mem_of_mem_head? isHead)
    exact absurd (within task listed.1)
      (postApprovalStages_disjoint (of_decide_eq_true listed.2))

/-! ### Well-formed graphs -/

/-- A task of the graph that another one depends on. -/
def DependsOn (graph : List Task) (task dependency : Task) : Prop :=
  task ∈ graph ∧ dependency ∈ graph ∧ dependency.taskId ∈ task.dependsOn

/-- Each task depends on the one before it, the first on nothing. -/
def RoleChain : Option Task → List Task → Prop
  | _, [] => True
  | before, task :: rest =>
      task.dependsOn = (before.map Task.taskId).toList ∧ RoleChain (some task) rest

/-- The stages that the graph has been built for so far. -/
def builtStages (graph : List Task) : List Stage :=
  if graph.any fun task => task.stage ∈ postApprovalStages then allStages else preApprovalStages

/-- What the task graph of a run is at any time. -/
structure WellFormed (run : Run) : Prop where
  unique : (run.taskGraph.map Task.taskId).Nodup
  named : ∀ task ∈ run.taskGraph, ∀ id ∈ task.dependsOn,
    ∃ other ∈ run.taskGraph, other.taskId = id
  acyclic : ∀ task, ¬ Relation.TransGen (DependsOn run.taskGraph) task task
  attempts : ∀ task ∈ run.taskGraph,
    ((run.taskGraph.filter fun other => other.origin = task.origin).map Task.attempt).Perm
      (List.range' 1 (reassignmentsOf run task + 1))
  budget : ∀ task ∈ run.taskGraph, reassignmentsOf run task ≤ run.maxReassignments
  newest : ∀ task, task ∈ effectiveTasks run.taskGraph allStages ↔ task ∈ run.taskGraph ∧
    ∀ other ∈ run.taskGraph, other.origin = task.origin → other.attempt ≤ task.attempt
  effective : ∀ task ∈ effectiveTasks run.taskGraph allStages, ∀ id ∈ task.dependsOn,
    ∃ other ∈ effectiveTasks run.taskGraph allStages, other.taskId = id
  chain : ∃ tasks, tasks.Perm (effectiveTasks run.taskGraph allStages) ∧
    tasks.map Task.stage = builtStages run.taskGraph ∧ RoleChain none tasks

theorem mem_allStages (stage : Stage) : stage ∈ allStages :=
  List.mem_append.mpr (stage_placed stage)

/-- Each stage comes after the one before it, the first after a given one. -/
def Linked : Option Stage → List Stage → Prop
  | _, [] => True
  | before, stage :: rest => stage.previous = before ∧ Linked (some stage) rest

theorem newestAfter_sublist (tasks earlier : List Task) :
    (newestAfter earlier tasks).Sublist tasks := by
  induction tasks generalizing earlier with
  | nil => exact List.Sublist.slnil
  | cons task later ih =>
      rw [newestAfter]
      split
      · exact (ih _).cons_cons task
      · exact (ih _).cons task

section WellFormed

variable {run : Run} {built : List Stage} (charted : Charted run built)

include charted

theorem Charted.reassignmentsOf_member {task : Task} (member : task ∈ run.taskGraph) :
    reassignmentsOf run task = countOf run task.stage := by
  unfold reassignmentsOf countOf
  rw [(charted.entries task member).2.origin]

theorem Charted.stage_of_origin {left right : Task} (first : left ∈ run.taskGraph)
    (second : right ∈ run.taskGraph) (same : left.origin = right.origin) :
    left.stage = right.stage := by
  rw [(charted.entries left first).2.origin, (charted.entries right second).2.origin] at same
  exact originOf_injective same

/-- A dependency is the newest attempt of the stage before. -/
theorem Charted.dependency_effective {task : Task} (member : task ∈ run.taskGraph) {id : String}
    (depends : id ∈ task.dependsOn) : ∃ earlier, task.stage.previous = some earlier ∧
      id = currentId run earlier ∧
        ∃ other ∈ effectiveTasks run.taskGraph allStages, other.stage = earlier ∧
          other.taskId = id := by
  have ⟨inBuilt, entry⟩ := charted.entries task member
  rw [entry.depends] at depends
  cases before : task.stage.previous with
  | none =>
      rw [before] at depends
      cases depends
  | some earlier =>
      rw [before] at depends
      have same : id = currentId run earlier := List.mem_singleton.mp depends
      obtain ⟨other, effective, isEarlier⟩ := charted.effective_exists
        (charted.closed _ inBuilt earlier before) (mem_allStages earlier)
      refine ⟨earlier, rfl, same, other, effective, isEarlier, ?_⟩
      rw [charted.current_of_effective effective, isEarlier, same]

theorem Charted.place_lt {task dependency : Task}
    (depends : DependsOn run.taskGraph task dependency) :
    dependency.stage.place < task.stage.place := by
  obtain ⟨inGraph, other, named⟩ := depends
  obtain ⟨earlier, before, current, _⟩ := charted.dependency_effective inGraph named
  obtain ⟨count, _, own, _⟩ := (charted.entries dependency other).2.attempt
  have same := (attemptId_injective (own.symm.trans current)).1
  rw [same]
  exact Stage.place_previous before

theorem Charted.acyclic (task : Task) :
    ¬ Relation.TransGen (DependsOn run.taskGraph) task task := by
  have decreases : ∀ {first last : Task}, Relation.TransGen (DependsOn run.taskGraph) first last →
      last.stage.place < first.stage.place := by
    intro first last path
    induction path with
    | single depends => exact charted.place_lt depends
    | tail _ depends ih => exact Nat.lt_trans (charted.place_lt depends) ih
  exact fun path => Nat.lt_irrefl _ (decreases path)

theorem Charted.attempts {task : Task} (member : task ∈ run.taskGraph) :
    ((run.taskGraph.filter fun other => other.origin = task.origin).map Task.attempt).Perm
      (List.range' 1 (reassignmentsOf run task + 1)) := by
  have alike : ∀ {other : Task}, other ∈ run.taskGraph.filter (fun other =>
      other.origin = task.origin) → other ∈ run.taskGraph ∧ other.stage = task.stage := by
    intro other listed
    have ⟨inGraph, same⟩ := List.mem_filter.mp listed
    exact ⟨inGraph, charted.stage_of_origin inGraph member (of_decide_eq_true same)⟩
  apply (List.perm_ext_iff_of_nodup ?_ List.nodup_range').mpr
  · intro attempt
    rw [List.mem_map, List.mem_range'_1, charted.reassignmentsOf_member member]
    constructor
    · rintro ⟨other, listed, rfl⟩
      have ⟨inGraph, stage⟩ := alike listed
      obtain ⟨count, atCount, _, numbered⟩ := (charted.entries other inGraph).2.attempt
      rw [stage] at atCount
      omega
    · rintro ⟨positive, bounded⟩
      obtain ⟨other, inGraph, stage, numbered⟩ := charted.present task.stage
        (charted.entries task member).1 (attempt - 1) (by omega)
      refine ⟨other, List.mem_filter.mpr ⟨inGraph, decide_eq_true ?_⟩, by omega⟩
      rw [(charted.entries other inGraph).2.origin, (charted.entries task member).2.origin, stage]
  · refine List.Nodup.map_on ?_ (((List.Nodup.of_map _ charted.unique)).filter _)
    intro left first right second attempts
    have ⟨leftIn, leftStage⟩ := alike first
    have ⟨rightIn, rightStage⟩ := alike second
    exact charted.task_eq leftIn rightIn (leftStage.trans rightStage.symm) attempts

theorem Charted.newest (task : Task) :
    task ∈ effectiveTasks run.taskGraph allStages ↔ task ∈ run.taskGraph ∧
      ∀ other ∈ run.taskGraph, other.origin = task.origin → other.attempt ≤ task.attempt := by
  rw [charted.mem_effectiveTasks_iff]
  constructor
  · rintro ⟨inGraph, _, newest⟩
    refine ⟨inGraph, ?_⟩
    intro other otherIn same
    have stage := charted.stage_of_origin otherIn inGraph same
    obtain ⟨count, atCount, _, numbered⟩ := (charted.entries other otherIn).2.attempt
    rw [stage] at atCount
    omega
  · rintro ⟨inGraph, greatest⟩
    refine ⟨inGraph, mem_allStages _, ?_⟩
    have ⟨inBuilt, entry⟩ := charted.entries task inGraph
    obtain ⟨other, otherIn, stage, numbered⟩ :=
      charted.present task.stage inBuilt _ (Nat.le_refl _)
    have covered := greatest other otherIn (by
      rw [(charted.entries other otherIn).2.origin, entry.origin, stage])
    obtain ⟨count, atCount, _, own⟩ := entry.attempt
    omega

theorem Charted.mem_tasks_iff {tasks : List Task} (stages : tasks.map Task.stage = built)
    (within : ∀ task ∈ tasks, task ∈ effectiveTasks run.taskGraph allStages) (task : Task) :
    task ∈ tasks ↔ task ∈ effectiveTasks run.taskGraph allStages := by
  refine ⟨within task, ?_⟩
  intro effective
  have ⟨inGraph, _, newest⟩ := charted.mem_effectiveTasks_iff.mp effective
  have inBuilt := (charted.entries task inGraph).1
  rw [← stages] at inBuilt
  obtain ⟨other, inTasks, stage⟩ := List.mem_map.mp inBuilt
  have ⟨otherIn, _, otherNewest⟩ := charted.mem_effectiveTasks_iff.mp (within other inTasks)
  have same := charted.task_eq otherIn inGraph stage (by rw [otherNewest, newest, stage])
  rw [← same]
  exact inTasks

/-- The newest attempts of consecutive stages are a chain. -/
theorem Charted.chain_from {before : Option Stage} {stages : List Stage}
    (linked : Linked before stages) (isBuilt : ∀ stage ∈ stages, stage ∈ built)
    {earlier : Option Task} (same : before.map (currentId run) = earlier.map Task.taskId) :
    ∃ tasks, tasks.map Task.stage = stages ∧
      (∀ task ∈ tasks, task ∈ effectiveTasks run.taskGraph allStages) ∧
        RoleChain earlier tasks := by
  induction stages generalizing before earlier with
  | nil => exact ⟨[], rfl, fun task member => absurd member List.not_mem_nil, trivial⟩
  | cons stage rest ih =>
      obtain ⟨follows, restLinked⟩ := linked
      obtain ⟨task, effective, isStage⟩ :=
        charted.effective_exists (isBuilt stage List.mem_cons_self) (mem_allStages stage)
      have named : (some stage).map (currentId run) = (some task).map Task.taskId := by
        rw [Option.map_some, Option.map_some, charted.current_of_effective effective, isStage]
      obtain ⟨tasks, stages, within, chain⟩ := ih restLinked
        (fun other member => isBuilt other (List.mem_cons_of_mem stage member)) named
      refine ⟨task :: tasks, ?_, List.forall_mem_cons.mpr ⟨effective, within⟩, ?_, chain⟩
      · rw [List.map_cons, isStage, stages]
      · have inGraph := (charted.mem_effectiveTasks_iff.mp effective).1
        rw [(charted.entries task inGraph).2.depends, isStage, follows, same]

theorem Charted.wellFormed (linked : Linked none built) (nodup : built.Nodup)
    (stages : builtStages run.taskGraph = built) : WellFormed run where
  unique := charted.unique
  named task member id depends := by
    obtain ⟨_, _, _, other, effective, _, named⟩ := charted.dependency_effective member depends
    exact ⟨other, (charted.mem_effectiveTasks_iff.mp effective).1, named⟩
  acyclic := charted.acyclic
  attempts _ member := charted.attempts member
  budget task member := by
    rw [charted.reassignmentsOf_member member]
    exact charted.budget task.stage
  newest := charted.newest
  effective task member id depends := by
    obtain ⟨_, _, _, other, effective, _, named⟩ :=
      charted.dependency_effective (charted.mem_effectiveTasks_iff.mp member).1 depends
    exact ⟨other, effective, named⟩
  chain := by
    have headed : (none : Option Stage).map (currentId run) =
        (none : Option Task).map Task.taskId := rfl
    obtain ⟨tasks, areBuilt, within, chain⟩ :=
      charted.chain_from linked (fun stage isBuilt => isBuilt) headed
    refine ⟨tasks, ?_, areBuilt.trans stages.symm, chain⟩
    apply (List.perm_ext_iff_of_nodup ?_ ?_).mpr (charted.mem_tasks_iff areBuilt within)
    · rw [← areBuilt] at nodup
      exact List.Nodup.of_map _ nodup
    · exact ((List.Nodup.of_map _ charted.unique).filter _).sublist (newestAfter_sublist _ _)

end WellFormed

theorem Formed.wellFormed {run : Run} (formed : Formed run) : WellFormed run := by
  rcases formed with charted | charted
  · apply charted.wellFormed (by exact ⟨rfl, rfl, rfl, trivial⟩) (by decide)
    unfold builtStages
    rw [if_neg]
    intro some
    obtain ⟨task, member, post⟩ := List.any_eq_true.mp some
    exact postApprovalStages_disjoint (of_decide_eq_true post) (charted.entries task member).1
  · apply charted.wellFormed (by exact ⟨rfl, rfl, rfl, rfl, rfl, rfl, rfl, rfl, trivial⟩) (by decide)
    unfold builtStages
    rw [if_pos]
    obtain ⟨execute, effective, isExecute⟩ :=
      charted.effective_exists (mem_allStages .execute) (mem_allStages .execute)
    refine List.any_eq_true.mpr
      ⟨execute, (charted.mem_effectiveTasks_iff.mp effective).1, decide_eq_true ?_⟩
    rw [isExecute]
    decide

/-! ### Runs -/

/-- A call, a reassignment of any effective task, or a change of the worker table. -/
inductive Evolves (run : Run) : Run → Prop
  | call (call : Call) : Evolves run (step run call)
  | reassign {later : Run} (snapshot : Snapshot) (upstream : Upstream) (conflict : Conflict)
      (effective : conflict.task ∈ effectiveTasks run.taskGraph allStages)
      (reassigned : Live.reassign run snapshot upstream conflict = some later) : Evolves run later
  | workers (table : List Worker) : Evolves run { run with workers := table }

theorem Formed.evolves {run later : Run} (formed : Formed run) (evolves : Evolves run later) :
    Formed later := by
  cases evolves with
  | call call => exact formed.moved (step_moved run call)
  | workers table => exact formed.alike ⟨rfl, rfl, rfl⟩ rfl
  | reassign snapshot upstream conflict effective reassigned =>
      rcases reassign_work reassigned with same | ⟨worker, chosen, same⟩
      · exact formed.alike same.toSameCounts same.taskGraph
      · exact (formed.replaced effective chosen).alike same.toSameCounts same.taskGraph

/-- Whatever order calls, reassignments and changes of the workers come in, the task graph
is well formed: its attempts are numbered and counted, and its effective tasks are the role
chain of the stages built so far. -/
theorem task_graph_well_formed (start later : Run) (fresh : Fresh start)
    (reached : Relation.ReflTransGen Evolves start later) : WellFormed later := by
  have formed : Formed later := by
    induction reached with
    | refl => exact .inl fresh.charted
    | tail _ evolves ih => exact ih.evolves evolves
  exact formed.wellFormed

namespace Sample

/-- The run of the sample before its start is confirmed. -/
def reserved : Run := { dispatched with state := .provisioning }

theorem reserved_fresh : Fresh reserved := ⟨rfl, by decide, rfl, rfl, rfl⟩

/-- A start, and a reconcile that replaces the plan. -/
def replanned : Run :=
  step (step reserved (.startRun ⟨true, true, true, true⟩))
    (.reconcile (snapshotOf "revision") upstream)

theorem task_graph_well_formed_sample :
    (effectiveTasks replanned.taskGraph allStages).map Task.taskId =
        ["p-context", "p-plan-review", "p-plan-r1"] ∧ WellFormed replanned := by
  have reached : Relation.ReflTransGen Evolves reserved replanned :=
    (Relation.ReflTransGen.single (.call _)).tail (.call _)
  exact ⟨by decide +kernel, task_graph_well_formed reserved replanned reserved_fresh reached⟩

end Sample

end EgoAgent.Bridge.Live
