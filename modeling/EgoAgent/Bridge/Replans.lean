import EgoAgent.Bridge.GraphForm

/-!
What a replan says about accepted work.

Three copies of a task's status are at hand when a replan is sent: the snapshot's, the
graph's and the accepted contracts.  The grant sends accepted tasks as completed; a
reassignment sends the statuses that the graph holds, whatever has been accepted since.
-/

namespace EgoAgent.Bridge.Live

/-! ### The law -/

/-- The snapshot that a call reads. -/
def Call.snapshot : Call → Option Snapshot
  | .reconcile snapshot _ => some snapshot
  | .recoverActive snapshot _ => some snapshot
  | _ => none

/-- The accepted contracts when a call sends a replan. -/
def acceptedAt (run : Run) (call : Call) : List String :=
  match call.snapshot.bind (firstConflict run) with
  | some (accepted, _) => accepted
  | none => run.accepted

/-- Nothing but the replaced task is at work, and nothing that depends on it has begun. -/
structure Idle (run : Run) (snapshot : Snapshot) (task : Task) : Prop where
  others : ∀ node ∈ snapshot.nodes, node.id ≠ task.taskId →
    node.status ≠ "delegated" ∧ node.status ≠ "in-progress"
  dependents : ∀ other ∈ run.taskGraph, task.taskId ∈ other.dependsOn →
    ∀ node ∈ snapshot.nodes, node.id = other.taskId → node.status = "pending"

/-- A list that keeps the tasks of the graph and completes the accepted ones, and that finds
nothing else at work when it replaces a task. -/
structure KeepsWork (run : Run) (call : Call) (graph : List Task) : Prop where
  tasks : ∀ task ∈ run.taskGraph, ∃ sent ∈ graph, sent.taskId = task.taskId
  completes : ∀ sent ∈ graph, sent.taskId ∈ acceptedAt run call → sent.status = "completed"
  idle : ∀ snapshot accepted conflict, call.snapshot = some snapshot →
    firstConflict run snapshot = some (accepted, some conflict) → Idle run snapshot conflict.task

/-- Every list that a reconcile or a grant sends keeps the work of the run. -/
def Lawful (run : Run) : Call → Prop
  | .startRun _ => True
  | call => ∀ graph stored, Sent.replan graph stored ∈ sends run call → KeepsWork run call graph

/-- A reconcile that gets as far as the replan of a conflict. -/
structure Replaces (run : Run) (snapshot : Snapshot) (upstream : Upstream)
    (accepted : List String) (conflict : Conflict) : Prop where
  active : run.state ≠ .blocked ∧ run.state ≠ .completed ∧ run.state ≠ .compensationRequired
  bound : snapshot.bound = true
  found : firstConflict run snapshot = some (accepted, some conflict)
  candidate : (replacementWorker { run with accepted := accepted } snapshot conflict).isSome
  cancelled : (statusOf snapshot conflict.task.taskId).getD conflict.task.status = "delegated" ∨
    (statusOf snapshot conflict.task.taskId).getD conflict.task.status = "in-progress" →
      upstream.cancelled = true

/-- The accepted tasks are stored as completed, the replaced one is not among them, no other
node is delegated, and no dependent node has left its pending state. -/
structure Settled (run : Run) (snapshot : Snapshot) (accepted : List String) (task : Task) :
    Prop where
  unaccepted : task.taskId ∉ accepted
  stored : ∀ other ∈ run.taskGraph, other.taskId ∈ accepted → other.status = "completed"
  undelegated : ∀ node ∈ snapshot.nodes, node.id ≠ task.taskId → node.status ≠ "delegated"
  pending : ∀ other ∈ run.taskGraph, task.taskId ∈ other.dependsOn →
    ∀ node ∈ snapshot.nodes, node.id = other.taskId → node.status = "pending"

/-- The replacements of a call find settled work. -/
def FindsSettled (run : Run) : Call → Prop
  | .reconcile snapshot upstream => ∀ accepted conflict,
      Replaces run snapshot upstream accepted conflict →
        Settled run snapshot accepted conflict.task
  | .recoverActive snapshot upstream => run.state ≠ .waitingR2 → ∀ accepted conflict,
      Replaces run snapshot upstream accepted conflict →
        Settled run snapshot accepted conflict.task
  | _ => True

/-! ### Accepted contracts -/

section

variable {snapshot : Snapshot} {run : Run}

variable {accepted later : List String}

theorem firstConflictFrom_known {tasks : List Task} {conflict : Option Conflict}
    (found : firstConflictFrom run snapshot tasks accepted = some (later, conflict)) :
    ∀ id ∈ later, id ∈ accepted ∨ ∃ task ∈ tasks, task.taskId = id := by
  induction tasks generalizing accepted with
  | nil =>
      cases found
      exact fun id member => .inl member
  | cons task rest ih =>
      have skipped : firstConflictFrom run snapshot rest accepted = some (later, conflict) →
          ∀ id ∈ later, id ∈ accepted ∨ ∃ other ∈ task :: rest, other.taskId = id := by
        intro found id member
        rcases ih found id member with old | ⟨other, inRest, named⟩
        · exact .inl old
        · exact .inr ⟨other, List.mem_cons_of_mem task inRest, named⟩
      rw [firstConflictFrom] at found
      split at found
      · exact skipped found
      split at found
      · cases found
        exact fun id member => .inl member
      split at found
      · exact skipped found
      split at found
      · cases found
        exact fun id member => .inl member
      · cases found
        exact fun id member => .inl member
      · cases found
        exact fun id member => .inl member
      · intro id member
        rcases ih found id member with old | ⟨other, inRest, named⟩
        · rcases List.mem_append.mp old with older | new
          · exact .inl older
          · exact .inr ⟨task, List.mem_cons_self, (List.mem_singleton.mp new).symm⟩
        · exact .inr ⟨other, List.mem_cons_of_mem task inRest, named⟩
      · cases found

variable {conflict : Conflict}

/-- A conflict about an accepted task is one about its node's status. -/
theorem firstConflictFrom_accepted {tasks : List Task}
    (found : firstConflictFrom run snapshot tasks accepted = some (later, some conflict))
    (listed : conflict.task.taskId ∈ later) :
    ∃ status, statusOf snapshot conflict.task.taskId = some status ∧
      timedOut run snapshot conflict.task status = true := by
  induction tasks generalizing accepted with
  | nil => cases found
  | cons task rest ih =>
      rw [firstConflictFrom] at found
      split at found
      · exact ih found
      next status observed =>
      split at found
      · next late =>
        cases found
        exact ⟨status, observed, late⟩
      split at found
      · exact ih found
      next unaccepted =>
      rw [not_or] at unaccepted
      split at found
      · cases found
        exact absurd listed unaccepted.2
      · cases found
        exact absurd listed unaccepted.2
      · cases found
        exact absurd listed unaccepted.2
      · exact ih found
      · cases found

/-- The replaced task is never sent as completed when it is late. -/
theorem statusToRaw_late {task : Task} {status : String}
    (late : timedOut run snapshot task status = true) :
    statusToRaw (if status = "delegated" ∨ status = "in-progress" then "blocked" else status) ≠
      "completed" := by
  unfold timedOut at late
  rcases of_decide_eq_true late with rfl | rfl | ⟨rfl, _⟩ | ⟨rfl, _⟩
  · decide
  · decide
  · decide
  · decide

/-! ### The invariant -/

/-- A run whose post-approval tasks are accepted only behind the grant. -/
structure Paced (run : Run) : Prop where
  formed : Formed run
  posted : HasPost run.taskGraph → Past run ∨ Resuming run
  worked : ∀ task ∈ run.taskGraph, task.stage ∈ postApprovalStages →
    task.taskId ∈ run.accepted → Past run
  known : ∀ id ∈ run.accepted, ∃ task ∈ run.taskGraph, task.taskId = id

theorem Formed.unique (formed : Formed run) :
    (run.taskGraph.map Task.taskId).Nodup :=
  formed.elim (fun charted => charted.unique) fun charted => charted.unique

theorem Fresh.paced (fresh : Fresh run) : Paced run where
  formed := .inl fresh.charted
  posted post := by
    obtain ⟨task, member, isPost⟩ := post
    exact absurd (fresh.charted.entries task member).1 (postApprovalStages_disjoint isPost)
  worked task member isPost := by
    exact absurd (fresh.charted.entries task member).1 (postApprovalStages_disjoint isPost)
  known id member := by
    rw [fresh.accepted] at member
    cases member

variable {graph : List Task}

/-- The ids of the dispatched graph are those of the stored one, and new ones. -/
theorem postApprovalGraph_tasks (built : postApprovalGraph run = some graph) :
    ∀ task ∈ run.taskGraph, ∃ sent ∈ graph, sent.taskId = task.taskId := by
  obtain ⟨post, isPost, rfl⟩ := Option.map_eq_some_iff.mp built
  intro task member
  rcases stage_placed task.stage with pre | inPost
  · exact ⟨_, List.mem_append_left _ (List.mem_map_of_mem (List.mem_filter.mpr
      ⟨member, decide_eq_true pre⟩)), (keeps_withAccepted run.accepted).taskId task⟩
  · have listed : task ∈ post := by
      have existing : task ∈
          run.taskGraph.filter fun other : Task => other.stage ∈ postApprovalStages :=
        List.mem_filter.mpr ⟨member, decide_eq_true inPost⟩
      unfold postTasks at isPost
      simp only at isPost
      rw [if_pos (List.ne_nil_of_mem existing)] at isPost
      cases isPost
      exact existing
    have ids : (dependingOn (lastPreApproval run) post).map Task.taskId =
        post.map Task.taskId := by
      cases post with
      | nil => rfl
      | cons first rest => cases lastPreApproval run <;> rfl
    have inIds : task.taskId ∈ (dependingOn (lastPreApproval run) post).map Task.taskId := by
      rw [ids]
      exact List.mem_map_of_mem listed
    obtain ⟨sent, inSent, named⟩ := List.mem_map.mp inIds
    exact ⟨sent, List.mem_append_right _ inSent, named⟩

/-- In a dispatched graph the accepted tasks are completed, and before the approval. -/
theorem Paced.dispatched_accepted (paced : Paced run)
    (notPast : ¬ Past run) (built : postApprovalGraph run = some graph) :
    ∀ sent ∈ graph, sent.taskId ∈ run.accepted →
      sent.stage ∈ preApprovalStages ∧ sent.status = "completed" := by
  have formed : Formed { run with taskGraph := graph } :=
    paced.formed.dispatched ⟨rfl, rfl, rfl⟩ built rfl
  have unique : (graph.map Task.taskId).Nodup := formed.unique
  obtain ⟨post, _, assembled⟩ := Option.map_eq_some_iff.mp built
  rw [← assembled, List.map_append] at unique
  intro sent member listed
  obtain ⟨task, inGraph, named⟩ := paced.known _ listed
  have isPre : task.stage ∈ preApprovalStages := by
    rcases stage_placed task.stage with pre | isPost
    · exact pre
    · rw [← named] at listed
      exact absurd (paced.worked task inGraph isPost listed) notPast
  have keeps := keeps_withAccepted run.accepted
  rw [← assembled] at member
  rcases List.mem_append.mp member with inPre | inPost
  · obtain ⟨old, inOld, rfl⟩ := List.mem_map.mp inPre
    rw [keeps.taskId] at listed
    refine ⟨?_, ?_⟩
    · rw [keeps.stage]
      exact of_decide_eq_true (List.mem_filter.mp inOld).2
    · unfold Task.withAccepted
      rw [if_pos listed]
  · have inLeft : task.taskId ∈ ((run.taskGraph.filter fun other : Task =>
        other.stage ∈ preApprovalStages).map (Task.withAccepted run.accepted)).map Task.taskId := by
      rw [List.map_map]
      refine List.mem_map.mpr ⟨task, List.mem_filter.mpr ⟨inGraph, decide_eq_true isPre⟩, ?_⟩
      exact keeps.taskId task
    exact absurd named ((List.nodup_append.mp unique).2.2 _ inLeft _ (List.mem_map_of_mem inPost))

variable {accepted : List String}

theorem Paced.accepting {conflict : Option Conflict} (paced : Paced run)
    (found : firstConflict run snapshot = some (accepted, conflict)) :
    ∀ id ∈ accepted, ∃ task ∈ run.taskGraph, task.taskId = id := by
  intro id member
  rcases firstConflictFrom_known found id member with old | ⟨task, inTasks, named⟩
  · exact paced.known id old
  · exact ⟨task, (List.mem_filter.mp (mem_newestAfter inTasks)).1, named⟩

theorem Paced.moved {run later : Run} (paced : Paced run) (moved : Moved run later) :
    Paced later := by
  have formed := paced.formed.moved moved
  cases moved with
  | kept onward same =>
      refine ⟨formed, ?_, ?_, ?_⟩
      · rw [same.taskGraph]
        exact fun post => (paced.posted post).elim (fun past => .inl (onward.past past))
          fun resuming => (onward.resuming resuming).symm
      · rw [same.taskGraph, same.accepted]
        exact fun task member isPost listed => onward.past (paced.worked task member isPost listed)
      · rw [same.taskGraph, same.accepted]
        exact paced.known
  | accepting snapshot accepted conflict onward active found same =>
      have posted : HasPost run.taskGraph → Past later := fun post =>
        onward.past ((paced.posted post).resolve_right active)
      have graph : later.taskGraph = run.taskGraph := same.taskGraph
      refine ⟨formed, ?_, ?_, ?_⟩
      · rw [graph]
        exact fun post => .inl (posted post)
      · rw [graph]
        exact fun task member isPost _ => posted ⟨task, member, isPost⟩
      · rw [graph, same.accepted]
        exact paced.accepting found
  | replacing snapshot accepted conflict worker onward active found chosen same =>
      have posted : HasPost later.taskGraph → Past later := by
        rw [same.taskGraph]
        intro post
        have before := hasPost_of_replaced (firstConflict_task found) post
        exact onward.past ((paced.posted before).resolve_right active)
      refine ⟨formed, fun post => .inl (posted post),
        fun task member isPost _ => posted ⟨task, member, isPost⟩, ?_⟩
      rw [same.taskGraph, same.accepted]
      intro id member
      obtain ⟨task, inGraph, named⟩ := paced.accepting found id member
      exact ⟨_, List.mem_append_left _ (List.mem_map_of_mem inGraph), named⟩
  | dispatching graph grantable built after same =>
      have notPast : ¬ Past run := by
        intro past
        rw [past.not_grantable] at grantable
        cases grantable
      refine ⟨formed, fun _ => after.symm, ?_, ?_⟩
      · rw [same.taskGraph, same.accepted]
        intro task member isPost listed
        have ⟨pre, _⟩ := paced.dispatched_accepted notPast built task member listed
        exact absurd pre (postApprovalStages_disjoint isPost)
      · rw [same.taskGraph, same.accepted]
        intro id member
        obtain ⟨task, inGraph, named⟩ := paced.known id member
        obtain ⟨sent, inSent, same⟩ := postApprovalGraph_tasks built task inGraph
        exact ⟨sent, inSent, same.trans named⟩

/-! ### What a reconcile sends -/

variable {upstream : Upstream}

variable {run stored : Run}

theorem mem_reconcileSends_iff :
    Sent.replan graph stored ∈ reconcileSends run snapshot upstream ↔
      stored = run ∧ ∃ accepted conflict worker,
        Replaces run snapshot upstream accepted conflict ∧
        replacementWorker { run with accepted := accepted } snapshot conflict = some worker ∧
        graph = (replaced run snapshot conflict.task worker).taskGraph := by
  constructor
  · intro sent
    unfold reconcileSends at sent
    split at sent
    · cases sent
    next active =>
    rw [not_or, not_or, not_or] at active
    obtain ⟨notBlocked, notCompleted, notRequired, bound⟩ := active
    split at sent
    · next accepted conflict found =>
      unfold reassignSends at sent
      split at sent
      · cases sent
      next worker chosen =>
      simp only at sent
      split at sent
      · cases sent
      next cancelled =>
      rw [List.mem_singleton] at sent
      cases sent
      refine ⟨rfl, accepted, conflict, worker, ⟨⟨notBlocked, notCompleted, notRequired⟩,
        Bool.not_eq_false _ ▸ bound, found, ?_, ?_⟩, chosen, rfl⟩
      · rw [chosen]
        rfl
      · intro atWork
        exact Bool.not_eq_false _ ▸ fun failed => cancelled ⟨atWork, failed⟩
    · cases sent
  · rintro ⟨rfl, accepted, conflict, worker, replaces, chosen, rfl⟩
    obtain ⟨notBlocked, notCompleted, notRequired⟩ := replaces.active
    unfold reconcileSends
    rw [if_neg (by simp [notBlocked, notCompleted, notRequired, replaces.bound]), replaces.found]
    change _ ∈ reassignSends _ _ _ _ _
    unfold reassignSends
    rw [chosen]
    simp only
    rw [if_neg]
    · exact List.mem_singleton_self _
    · rintro ⟨atWork, failed⟩
      rw [replaces.cancelled atWork] at failed
      cases failed

theorem Replaces.not_deferred (replaces : Replaces run snapshot upstream accepted conflict) :
    deferred run snapshot conflict.task = false := by
  obtain ⟨worker, chosen⟩ := Option.isSome_iff_exists.mp replaces.candidate
  unfold replacementWorker at chosen
  simp only at chosen
  split at chosen
  · cases chosen
  · next undeferred =>
    rw [not_or] at undeferred
    exact Bool.not_eq_true _ ▸ undeferred.2

section Replacement

variable {run : Run} {snapshot : Snapshot} {upstream : Upstream} {accepted : List String}
  {conflict : Conflict} {worker : Worker} (paced : Paced run)
  (replaces : Replaces run snapshot upstream accepted conflict)
  (chosen : replacementWorker { run with accepted := accepted } snapshot conflict = some worker)

include paced replaces chosen

/-- The id of a replacement is not one of an accepted task. -/
theorem Paced.replacement_unaccepted :
    (replacementOf conflict.task (reassignmentsOf run conflict.task) worker).taskId ∉ accepted := by
  intro listed
  obtain ⟨task, inGraph, named⟩ := paced.accepting replaces.found _ listed
  have formed : Formed (replaced run snapshot conflict.task worker) :=
    paced.formed.replaced (firstConflictFrom_task replaces.found) chosen
  have unique := formed.unique
  change ((run.taskGraph.map _ ++ [_]).map Task.taskId).Nodup at unique
  rw [List.map_append, List.map_map] at unique
  exact absurd named ((List.nodup_append.mp unique).2.2 _ (List.mem_map_of_mem inGraph) _
    (List.mem_map_of_mem (List.mem_singleton_self _)))

theorem Paced.replan_completes_iff :
    (∀ sent ∈ (replaced run snapshot conflict.task worker).taskGraph,
      sent.taskId ∈ accepted → sent.status = "completed") ↔
    conflict.task.taskId ∉ accepted ∧
      ∀ other ∈ run.taskGraph, other.taskId ∈ accepted → other.status = "completed" := by
  have member := firstConflict_task replaces.found
  constructor
  · intro completes
    have unaccepted : conflict.task.taskId ∉ accepted := by
      intro listed
      obtain ⟨status, observed, late⟩ := firstConflictFrom_accepted replaces.found listed
      have sent := completes _ (List.mem_append_left _ (List.mem_map_of_mem member)) listed
      change (if conflict.task.taskId = conflict.task.taskId then statusToRaw _ else _) = _ at sent
      rw [if_pos rfl, observed, Option.getD_some] at sent
      exact statusToRaw_late late sent
    refine ⟨unaccepted, ?_⟩
    intro other inGraph listed
    have sent := completes _ (List.mem_append_left _ (List.mem_map_of_mem inGraph)) listed
    change (if other.taskId = conflict.task.taskId then statusToRaw _ else other.status) = _ at sent
    have apart : other.taskId ≠ conflict.task.taskId := by
      intro same
      rw [same] at listed
      exact unaccepted listed
    rw [if_neg apart] at sent
    exact sent
  · rintro ⟨unaccepted, stored⟩ sent inSent listed
    rcases List.mem_append.mp inSent with kept | added
    · obtain ⟨other, inGraph, rfl⟩ := List.mem_map.mp kept
      change (if other.taskId = conflict.task.taskId then statusToRaw _ else other.status) = _
      have apart : other.taskId ≠ conflict.task.taskId := by
        intro same
        rw [← same] at unaccepted
        exact unaccepted listed
      rw [if_neg apart]
      exact stored other inGraph listed
    · rw [List.mem_singleton.mp added] at listed
      exact absurd listed (paced.replacement_unaccepted replaces chosen)

end Replacement

theorem Paced.replacement_keeps_iff {worker : Worker} {call : Call}
    (paced : Paced run) (reads : call.snapshot = some snapshot)
    (replaces : Replaces run snapshot upstream accepted conflict)
    (chosen : replacementWorker { run with accepted := accepted } snapshot conflict = some worker) :
    KeepsWork run call (replaced run snapshot conflict.task worker).taskGraph ↔
      Settled run snapshot accepted conflict.task := by
  have acceptedThen : acceptedAt run call = accepted := by
    unfold acceptedAt
    rw [reads, Option.bind_some, replaces.found]
  have completes := paced.replan_completes_iff replaces chosen
  have undeferred := replaces.not_deferred
  unfold deferred at undeferred
  rw [Bool.or_eq_false_iff, List.any_eq_false] at undeferred
  constructor
  · intro keeps
    have sent := keeps.completes
    rw [acceptedThen] at sent
    have ⟨unaccepted, stored⟩ := completes.mp sent
    have idle := keeps.idle snapshot accepted conflict reads replaces.found
    exact ⟨unaccepted, stored, fun node member other => (idle.others node member other).1,
      idle.dependents⟩
  · intro settled
    refine ⟨?_, ?_, ?_⟩
    · intro task member
      exact ⟨_, List.mem_append_left _ (List.mem_map_of_mem member), rfl⟩
    · rw [acceptedThen]
      exact completes.mpr ⟨settled.unaccepted, settled.stored⟩
    · intro other _ _ reads' found
      rw [reads] at reads'
      cases reads'
      rw [replaces.found] at found
      cases found
      refine ⟨fun node member apart => ⟨settled.undelegated node member apart, ?_⟩, settled.pending⟩
      intro atWork
      exact undeferred.1 node member (decide_eq_true ⟨apart, atWork⟩)

theorem Paced.reconcile_keeps_iff
    {call : Call} (paced : Paced run) (reads : call.snapshot = some snapshot) :
    (∀ graph stored, Sent.replan graph stored ∈ reconcileSends run snapshot upstream →
      KeepsWork run call graph) ↔
    ∀ accepted conflict, Replaces run snapshot upstream accepted conflict →
      Settled run snapshot accepted conflict.task := by
  constructor
  · intro lawful accepted conflict replaces
    obtain ⟨worker, chosen⟩ := Option.isSome_iff_exists.mp replaces.candidate
    apply (paced.replacement_keeps_iff reads replaces chosen).mp
    exact lawful _ run (mem_reconcileSends_iff.mpr
      ⟨rfl, accepted, conflict, worker, replaces, chosen, rfl⟩)
  · intro settled graph stored sent
    obtain ⟨_, accepted, conflict, worker, replaces, chosen, rfl⟩ := mem_reconcileSends_iff.mp sent
    exact (paced.replacement_keeps_iff reads replaces chosen).mpr
      (settled accepted conflict replaces)

/-! ### What a grant sends -/

theorem dispatchSends_graph {upstream : GrantUpstream}
    (sent : Sent.replan graph stored ∈ dispatchSends run upstream) :
    postApprovalGraph run = some graph := by
  unfold dispatchSends at sent
  split at sent
  · cases sent
  · next built =>
    split at sent
    · cases List.mem_singleton.mp sent
      exact built
    · cases sent

theorem Paced.grant_keeps {upstream : GrantUpstream}
    (paced : Paced run) (sent : Sent.replan graph stored ∈ grantSends run upstream) :
    KeepsWork run (.grantR2 upstream) graph := by
  have grants : grantable run = true ∧ postApprovalGraph run = some graph := by
    unfold grantSends at sent
    split at sent
    · cases sent
    next grantable =>
    refine ⟨Bool.not_eq_false _ ▸ grantable, ?_⟩
    split at sent
    · exact dispatchSends_graph sent
    split at sent
    · cases sent
    split at sent
    · cases List.mem_singleton.mp sent
    split at sent
    · cases List.mem_singleton.mp sent
    · rcases List.mem_cons.mp sent with token | dispatched
      · cases token
      · have built := dispatchSends_graph dispatched
        exact built
  have notPast : ¬ Past run := by
    intro past
    rw [past.not_grantable] at grants
    cases grants.1
  exact ⟨postApprovalGraph_tasks grants.2,
    fun sent member listed => (paced.dispatched_accepted notPast grants.2 sent member listed).2,
    fun _ _ _ reads => nomatch reads⟩

/-! ### Runs -/

theorem Paced.lawful_iff (paced : Paced run) (call : Call) :
    Lawful run call ↔ FindsSettled run call := by
  cases call with
  | startRun upstream => exact Iff.rfl
  | reconcile snapshot upstream => exact paced.reconcile_keeps_iff rfl
  | grantR2 upstream => exact ⟨fun _ => trivial, fun _ _ _ sent => paced.grant_keeps sent⟩
  | recoverActive snapshot upstream =>
      by_cases skipped : run.state = .waitingR2 ∨
          (run.state = .compensationRequired ∧ run.retry = some .resumeReplanNotify)
      · have silent : sends run (.recoverActive snapshot upstream) = [] := if_pos skipped
        constructor
        · intro _ notWaiting accepted conflict replaces
          rcases skipped with waiting | ⟨required, _⟩
          · exact absurd waiting notWaiting
          · exact absurd required replaces.active.2.2
        · intro _ graph stored sent
          rw [silent] at sent
          cases sent
      · have sends : sends run (.recoverActive snapshot upstream) =
            reconcileSends run snapshot upstream := if_neg skipped
        have notWaiting : run.state ≠ .waitingR2 := fun waiting => skipped (.inl waiting)
        have reads : Call.snapshot (.recoverActive snapshot upstream) = some snapshot := rfl
        constructor
        · intro lawful _
          apply (paced.reconcile_keeps_iff reads).mp
          intro graph stored sent
          rw [← sends] at sent
          exact lawful graph stored sent
        · intro settled graph stored sent
          rw [sends] at sent
          exact (paced.reconcile_keeps_iff reads).mpr (settled notWaiting) graph stored sent

theorem throughout_congr {first second : Run → Call → Prop} {holds : Run → Prop}
    (keeps : ∀ run call, holds run → holds (step run call))
    (same : ∀ run call, holds run → (first run call ↔ second run call)) (calls : List Call)
    (start : holds run) : Throughout first run calls ↔ Throughout second run calls := by
  induction calls generalizing run with
  | nil => exact Iff.rfl
  | cons call rest ih => exact and_congr (same run call start) (ih (keeps run call start))

end

/-- Along every run the lists that reconciles and grants send keep the stored tasks and send
accepted ones as completed, with nothing else at work, exactly when every replacement finds
its accepted tasks stored as completed, its own not accepted, no other node delegated and no
dependent node out of its pending state. -/
theorem replans_keep_work_iff (start : Run) (fresh : Fresh start) (calls : List Call) :
    Throughout Lawful start calls ↔ Throughout FindsSettled start calls :=
  throughout_congr (fun run call paced => paced.moved (step_moved run call))
    (fun _ call paced => paced.lawful_iff call) calls fresh.paced

namespace Sample

def started : Call := .startRun ⟨true, true, true, true⟩

def accepting : Call := .reconcile (snapshotOf "completed") upstream

theorem accepting_undisturbed :
    (firstConflict (step reserved started) (snapshotOf "completed")).map
      (fun found => found.2.isSome) = some false := by
  decide +kernel

/-- The grant of the sample sends its accepted tasks as completed. -/
theorem replans_keep_work_sample :
    (sends (step (step reserved started) accepting) approved).length = 2 ∧
      Throughout Lawful reserved [started, accepting, approved] := by
  have settled : Throughout FindsSettled reserved [started, accepting, approved] := by
    refine ⟨trivial, ?_, trivial, trivial⟩
    intro accepted conflict replaces
    have undisturbed := accepting_undisturbed
    rw [replaces.found] at undisturbed
    cases undisturbed
  exact ⟨by decide +kernel, (replans_keep_work_iff reserved reserved_fresh _).mpr settled⟩

/-- The context is accepted when the plan goes back to revision. -/
def planRevised : Snapshot where
  bound := true
  nodes := [⟨"p-context", "completed"⟩, ⟨"p-plan", "revision"⟩, ⟨"p-plan-review", "pending"⟩]
  contract _ := .accepted
  seconds _ := 0

def revising : Call := .reconcile planRevised upstream

def sentStatuses : Sent → List (String × String)
  | .token => []
  | .replan graph _ => graph.map fun task => (task.taskId, task.status)

theorem revising_outcome :
    (sends (step reserved started) revising).map sentStatuses =
        [[("p-context", "planned"), ("p-plan", "revision"), ("p-plan-review", "planned"),
          ("p-plan-r1", "planned")]] ∧
      acceptedAt (step reserved started) revising = ["p-context"] := by
  decide +kernel

/-- The accepted context is sent back as planned. -/
theorem accepted_task_restarted : Fresh reserved ∧
    ¬ Throughout Lawful reserved [started, revising] := by
  refine ⟨reserved_fresh, ?_⟩
  rintro ⟨_, lawful, _⟩
  have ⟨statuses, accepted⟩ := revising_outcome
  have first : [("p-context", "planned"), ("p-plan", "revision"), ("p-plan-review", "planned"),
      ("p-plan-r1", "planned")] ∈ (sends (step reserved started) revising).map sentStatuses := by
    rw [statuses]
    exact List.mem_cons_self
  obtain ⟨sent, inSends, same⟩ := List.mem_map.mp first
  cases sent with
  | token => cases same
  | replan graph stored =>
      have context : ("p-context", "planned") ∈
          graph.map fun task => (task.taskId, task.status) := by
        rw [show (graph.map fun task => (task.taskId, task.status)) = _ from same]
        exact List.mem_cons_self
      obtain ⟨task, inGraph, pair⟩ := List.mem_map.mp context
      obtain ⟨named, planned⟩ := Prod.mk.inj pair
      have listed : task.taskId ∈ acceptedAt (step reserved started) revising := by
        rw [accepted, named]
        exact List.mem_cons_self
      have completed := (lawful graph stored inSends).completes task inGraph listed
      rw [planned] at completed
      exact absurd completed (by decide)

end Sample

end EgoAgent.Bridge.Live
