import EgoAgent.Bridge.LiveGraph
import EgoAgent.Bridge.LiveGrant

/-!
What one call does to the tasks of a run.

A call leaves the graph alone, replaces one effective task in it, or adds the stages after
the approval.  Once the grant is behind a run it stays there.
-/

namespace EgoAgent.Bridge.Live

/-! ### What a call does to the graph -/

/-- Two runs with the same tasks, workers and accepted contracts. -/
structure SameWork (run later : Run) : Prop extends SameCounts run later where
  taskGraph : later.taskGraph = run.taskGraph
  workers : later.workers = run.workers
  accepted : later.accepted = run.accepted

theorem SameWork.refl (run : Run) : SameWork run run := ⟨⟨rfl, rfl, rfl⟩, rfl, rfl, rfl⟩

/-- The grant is behind the run for ever. -/
def Past (run : Run) : Prop :=
  run.state = .postApproval ∨ run.state = .completed ∨ run.state = .blocked ∨
    (run.state = .compensationRequired ∧ (run.retry = some .terminalNotify ∨
      run.retry = some .grantResponseUncertain ∨
        ∃ replacementId, run.retry = some (.replanNotify .postApproval replacementId)))

/-- The dispatch after the grant is to be repeated. -/
def Resuming (run : Run) : Prop :=
  run.state = .compensationRequired ∧ run.retry = some .resumeReplanNotify

structure Onward (run later : Run) : Prop where
  past : Past run → Past later
  resuming : Resuming run → Resuming later ∨ Past later

theorem Onward.refl (run : Run) : Onward run run := ⟨id, .inl⟩

theorem Past.not_grantable {run : Run} (past : Past run) : grantable run = false := by
  rcases past with post | completed | blocked | ⟨required, terminal | uncertain | ⟨_, notify⟩⟩
  · simp [grantable, post]
  · simp [grantable, completed]
  · simp [grantable, blocked]
  · simp [grantable, required, terminal]
  · simp [grantable, required, uncertain]
  · simp [grantable, required, notify]

/-- A call keeps the graph, takes contracts in, replaces one effective task, or dispatches
the stages after the approval. -/
inductive Moved (run later : Run) : Prop
  | kept (onward : Onward run later) (same : SameWork run later)
  | accepting (snapshot : Snapshot) (accepted : List String) (conflict : Option Conflict)
      (onward : Onward run later) (active : ¬ Resuming run)
      (found : firstConflict run snapshot = some (accepted, conflict))
      (same : SameWork { run with accepted := accepted } later)
  | replacing (snapshot : Snapshot) (accepted : List String) (conflict : Conflict)
      (worker : Worker) (onward : Onward run later) (active : ¬ Resuming run)
      (found : firstConflict run snapshot = some (accepted, some conflict))
      (chosen : replacementWorker { run with accepted := accepted } snapshot conflict =
        some worker)
      (same : SameWork
        (replaced { run with accepted := accepted } snapshot conflict.task worker) later)
  | dispatching (graph : List Task) (open' : grantable run = true)
      (built : postApprovalGraph run = some graph) (after : Resuming later ∨ Past later)
      (same : SameWork { run with taskGraph := graph } later)

section

variable {upstream : Upstream} {run later : Run}

theorem recoverCompensation_kept (required : run.state = .compensationRequired)
    (recovered : recoverCompensation run upstream = some later) :
    Onward run later ∧ SameWork run later := by
  obtain rfl | ⟨_, rfl, moved⟩ := recoverCompensation_cases recovered
  · exact ⟨Onward.refl _, SameWork.refl _⟩
  refine ⟨?_, ⟨rfl, rfl, rfl⟩, rfl, rfl, rfl⟩
  rcases moved with ⟨rfl, start | ⟨resumeState, _, notify, early⟩⟩ | ⟨rfl, _⟩ | ⟨rfl, notify⟩ |
    ⟨rfl, _⟩
  · constructor
    · intro past
      simp [Past, required, start] at past
    · rintro ⟨_, resuming⟩
      cases start.symm.trans resuming
  · constructor
    · intro past
      exact absurd (by simpa [Past, required, notify] using past) early
    · rintro ⟨_, resuming⟩
      cases notify.symm.trans resuming
  · exact ⟨fun _ => .inl rfl, fun _ => .inr (.inl rfl)⟩
  · constructor
    · intro past
      simp [Past, required, notify] at past
    · rintro ⟨_, resuming⟩
      cases notify.symm.trans resuming
  · exact ⟨fun _ => .inr (.inl rfl), fun _ => .inr (.inr (.inl rfl))⟩

variable {snapshot : Snapshot}

theorem advance_kept (active : run.state ≠ .compensationRequired)
    (advanced : advance run snapshot upstream = some later) :
    Onward run later ∧ SameWork run later := by
  have notResuming : ¬ Resuming run := fun resuming => active resuming.1
  unfold advance at advanced
  split at advanced
  · next pre =>
    have notPast : ¬ Past run := by
      unfold Past
      simp [pre.1]
    have onward : ∀ other, Onward run other := fun other =>
      ⟨fun past => absurd past notPast, fun resuming => absurd resuming notResuming⟩
    split at advanced
    · split at advanced
      · cases advanced
        exact ⟨onward _, ⟨rfl, rfl, rfl⟩, rfl, rfl, rfl⟩
      · cases advanced
        exact ⟨onward _, ⟨rfl, rfl, rfl⟩, rfl, rfl, rfl⟩
    · cases advanced
  · split at advanced
    · split at advanced
      · cases advanced
      · split at advanced
        · split at advanced
          · cases advanced
            exact ⟨Onward.refl run, SameWork.refl run⟩
          · cases advanced
        · split at advanced
          · cases advanced
            exact ⟨⟨fun _ => .inr (.inl rfl), fun _ => .inr (.inr (.inl rfl))⟩,
              ⟨rfl, rfl, rfl⟩, rfl, rfl, rfl⟩
          · cases advanced
            exact ⟨⟨fun _ => .inr (.inr (.inr ⟨rfl, .inl rfl⟩)),
              fun resuming => absurd resuming notResuming⟩, ⟨rfl, rfl, rfl⟩, rfl, rfl, rfl⟩
    · cases advanced
      exact ⟨Onward.refl run, SameWork.refl run⟩

/-- A reassignment keeps the work of the run or puts one replacement in. -/
theorem reassign_work
    {conflict : Conflict} (reassigned : reassign run snapshot upstream conflict = some later) :
    SameWork run later ∨ ∃ worker, replacementWorker run snapshot conflict = some worker ∧
      SameWork (replaced run snapshot conflict.task worker) later := by
  obtain rfl | rfl | ⟨worker, chosen, rfl | ⟨_, rfl⟩⟩ := reassign_cases reassigned
  · exact .inl ⟨⟨rfl, rfl, rfl⟩, rfl, rfl, rfl⟩
  · exact .inl (SameWork.refl _)
  · exact .inr ⟨worker, chosen, SameWork.refl _⟩
  · exact .inr ⟨worker, chosen, ⟨rfl, rfl, rfl⟩, rfl, rfl, rfl⟩

theorem reassign_onward {conflict : Conflict} (active : run.state ≠ .compensationRequired)
    (unended : run.state ≠ .blocked ∧ run.state ≠ .completed)
    (reassigned : reassign run snapshot upstream conflict = some later) : Onward run later := by
  have notResuming : ¬ Resuming run := fun resuming => active resuming.1
  have blocked : Onward run { run with state := .blocked } :=
    ⟨fun _ => .inr (.inr (.inl rfl)), fun resuming => absurd resuming notResuming⟩
  obtain rfl | rfl | ⟨_, _, rfl | ⟨_, rfl⟩⟩ := reassign_cases reassigned
  · exact blocked
  · exact Onward.refl _
  · exact ⟨id, .inl⟩
  · refine ⟨?_, fun resuming => absurd resuming notResuming⟩
    intro past
    have post : run.state = .postApproval := by
      rcases past with post | completed | blocked | ⟨required, _⟩
      · exact post
      · exact absurd completed unended.2
      · exact absurd blocked unended.1
      · exact absurd required active
    exact .inr (.inr (.inr ⟨rfl, .inr (.inr ⟨_, by rw [post]⟩)⟩))

end

theorem reconcile_moved (run : Run) (snapshot : Snapshot) (upstream : Upstream) :
    Moved run (reconcile run snapshot upstream) := by
  have unmoved : Moved run run := .kept (Onward.refl run) (SameWork.refl run)
  unfold reconcile
  split
  · exact unmoved
  next closed =>
  rw [not_or, not_or] at closed
  cases outcome : reconcileClaimed run snapshot upstream with
  | none => exact unmoved
  | some later =>
      rw [Option.getD_some]
      unfold reconcileClaimed at outcome
      split at outcome
      · cases outcome
      split at outcome
      · next required =>
        have ⟨onward, same⟩ := recoverCompensation_kept required outcome
        exact .kept onward same
      next active =>
      have notResuming : ¬ Resuming run := fun resuming => active resuming.1
      split at outcome
      · cases outcome
      · next accepted conflict found =>
        have stillActive : ({ run with accepted := accepted } : Run).state ≠
            .compensationRequired := active
        have onward := reassign_onward stillActive ⟨closed.1, closed.2.1⟩ outcome
        have onward : Onward run later := ⟨onward.past, onward.resuming⟩
        rcases reassign_work outcome with same | ⟨worker, chosen, same⟩
        · exact .accepting snapshot accepted _ onward notResuming found same
        · exact .replacing snapshot accepted conflict worker onward notResuming found chosen same
      · next accepted found =>
        have stillActive : ({ run with accepted := accepted } : Run).state ≠
            .compensationRequired := active
        have ⟨onward, same⟩ := advance_kept stillActive outcome
        exact .accepting snapshot accepted _ ⟨onward.past, onward.resuming⟩ notResuming found same

theorem dispatch_moved {run committed : Run} {upstream : GrantUpstream} {stored : Bool}
    (open' : grantable run = true) (resumable : Resuming run → Resuming committed)
    (same : SameWork run committed) (graphs : postApprovalGraph committed = postApprovalGraph run) :
    Moved run (dispatch committed upstream stored) := by
  have onward : ∀ later, Resuming later → Onward run later := by
    intro later resuming
    refine ⟨fun past => ?_, fun _ => .inl resuming⟩
    rw [past.not_grantable] at open'
    cases open'
  have kept : Onward run committed := by
    refine ⟨fun past => ?_, fun resuming => .inl (resumable resuming)⟩
    rw [past.not_grantable] at open'
    cases open'
  unfold dispatch
  split
  · exact .kept kept same
  · next graph built =>
    rw [graphs] at built
    have work : ∀ later : Run, SameCounts committed later → later.taskGraph = graph →
        later.workers = committed.workers → later.accepted = committed.accepted →
          SameWork { run with taskGraph := graph } later := by
      intro later counts isGraph workers accepted
      exact ⟨⟨counts.projectId.trans same.projectId, counts.reassignments.trans same.reassignments,
        counts.maxReassignments.trans same.maxReassignments⟩, isGraph,
        workers.trans same.workers, accepted.trans same.accepted⟩
    split
    · exact .kept kept same
    split
    · split
      · exact .dispatching graph open' built (.inr (.inl rfl)) (work _ ⟨rfl, rfl, rfl⟩ rfl rfl rfl)
      · exact .dispatching graph open' built (.inl ⟨rfl, rfl⟩) (work _ ⟨rfl, rfl, rfl⟩ rfl rfl rfl)
    · exact .kept (onward _ ⟨rfl, rfl⟩)
        ⟨⟨same.projectId, same.reassignments, same.maxReassignments⟩, same.taskGraph,
          same.workers, same.accepted⟩

theorem grantR2_moved (run : Run) (upstream : GrantUpstream) :
    Moved run (grantR2 run upstream) := by
  have unmoved : Moved run run := .kept (Onward.refl run) (SameWork.refl run)
  unfold grantR2
  split
  · exact unmoved
  next open' =>
  have open' : grantable run = true := Bool.not_eq_false _ ▸ open'
  have notPast : ¬ Past run := by
    intro past
    rw [past.not_grantable] at open'
    cases open'
  split
  · exact dispatch_moved open' id (SameWork.refl run) rfl
  split
  · exact unmoved
  split
  · exact unmoved
  · split
    · exact unmoved
    split
    · split
      · exact .kept ⟨fun past => absurd past notPast, .inl⟩ ⟨⟨rfl, rfl, rfl⟩, rfl, rfl, rfl⟩
      · exact .kept ⟨fun past => absurd past notPast,
          fun _ => .inr (.inr (.inr (.inr ⟨rfl, .inr (.inl rfl)⟩)))⟩ ⟨⟨rfl, rfl, rfl⟩, rfl, rfl, rfl⟩
    · exact dispatch_moved open' id ⟨⟨rfl, rfl, rfl⟩, rfl, rfl, rfl⟩ rfl

theorem startRun_moved (run : Run) (upstream : StartUpstream) :
    Moved run (startRun run upstream) := by
  unfold startRun
  split
  · exact .kept (Onward.refl run) (SameWork.refl run)
  next started =>
  rw [not_or, not_ne_iff] at started
  have notPast : ¬ Past run := by
    unfold Past
    simp [started.1]
  have notResuming : ¬ Resuming run := by
    unfold Resuming
    simp [started.1]
  split
  · exact .kept ⟨fun past => absurd past notPast, fun resuming => absurd resuming notResuming⟩
      ⟨⟨rfl, rfl, rfl⟩, rfl, rfl, rfl⟩
  · exact .kept ⟨fun past => absurd past notPast, fun resuming => absurd resuming notResuming⟩
      ⟨⟨rfl, rfl, rfl⟩, rfl, rfl, rfl⟩

/-- What a call does to the graph of a run. -/
theorem step_moved (run : Run) (call : Call) : Moved run (step run call) := by
  cases call with
  | startRun upstream => exact startRun_moved run upstream
  | reconcile snapshot upstream => exact reconcile_moved run snapshot upstream
  | recoverActive snapshot upstream =>
      change Moved run (recoverActive run snapshot upstream)
      unfold recoverActive
      split
      · exact .kept (Onward.refl run) (SameWork.refl run)
      · exact reconcile_moved run snapshot upstream
  | grantR2 upstream => exact grantR2_moved run upstream

end EgoAgent.Bridge.Live
