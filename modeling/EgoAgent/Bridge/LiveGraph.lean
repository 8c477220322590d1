import EgoAgent.Bridge.LiveGate
import EgoAgent.Lib.JsonText

/-!
The task graph of a live run under replacements, grants and recoveries.

The id of a task says its stage and its attempt.  Every task depends on the newest
attempt of the stage before its own, so a replacement moves a whole stage at once.
-/

namespace EgoAgent.Bridge.Live

/-! ### Stages and ids -/

def Stage.suffix : Stage → String
  | .context => "context"
  | .plan => "plan"
  | .planReview => "plan-review"
  | .execute => "execute"
  | .observe => "observe"
  | .evaluate => "evaluate"
  | .verify => "verify"
  | .memorySkill => "memory"

/-- The place of a stage in the role plan. -/
def Stage.place : Stage → Nat
  | .context => 0
  | .plan => 1
  | .planReview => 2
  | .execute => 3
  | .observe => 4
  | .evaluate => 5
  | .verify => 6
  | .memorySkill => 7

def Stage.previous : Stage → Option Stage
  | .context => none
  | .plan => some .context
  | .planReview => some .plan
  | .execute => some .planReview
  | .observe => some .execute
  | .evaluate => some .observe
  | .verify => some .evaluate
  | .memorySkill => some .verify

theorem Stage.place_previous {stage earlier : Stage} (before : stage.previous = some earlier) :
    earlier.place < stage.place := by
  cases stage <;> cases before <;> decide

def attemptId (origin : String) : Nat → String
  | 0 => origin
  | count + 1 => origin ++ "-r" ++ toString (count + 1)

def originOf (projectId : String) (stage : Stage) : String := projectId ++ "-" ++ stage.suffix

/-- The end of an attempt's id, after its origin. -/
def attemptTail : Nat → List Char
  | 0 => []
  | count + 1 => "-r".toList ++ Nat.toDigits 10 (count + 1)

theorem toList_attemptId (projectId : String) (stage : Stage) (count : Nat) :
    (attemptId (originOf projectId stage) count).toList =
      projectId.toList ++ '-' :: (stage.suffix.toList ++ attemptTail count) := by
  have dash : "-".toList = ['-'] := rfl
  cases count with
  | zero => simp [attemptId, attemptTail, originOf, dash]
  | succ count =>
      simp only [attemptId, attemptTail, originOf, String.toList_append, Nat.toString_eq_ofList_toDigits,
        String.toList_ofList, dash, List.append_assoc, List.cons_append, List.nil_append]

theorem attemptTail_injective {left right : Nat} (same : attemptTail left = attemptTail right) :
    left = right := by
  cases left with
  | zero =>
      cases right with
      | zero => rfl
      | succ right => cases same
  | succ left =>
      cases right with
      | zero => cases same
      | succ right =>
          have digits := List.append_cancel_left same
          have read := congrArg (fun chars => Nat.ofDigitChars 10 chars 0) digits
          simpa only [Nat.ofDigitChars_ten_toDigits] using read

/-- What follows a stage's name in an id is no more of a name. -/
theorem attemptTail_no_review (count : Nat) (rest : List Char) :
    attemptTail count ≠ "-review".toList ++ rest := by
  cases count with
  | zero => exact nofun
  | succ count =>
      intro same
      have split : "-review".toList = "-r".toList ++ "eview".toList := by decide
      rw [attemptTail, split, List.append_assoc] at same
      have digits := List.append_cancel_left same
      have letter : 'e' ∈ Nat.toDigits 10 (count + 1) := by
        rw [digits]
        exact List.mem_append_left _ (by decide)
      have digit := Nat.isDigit_of_mem_toDigits (by decide) (by decide) letter
      exact absurd digit (by decide)

section

variable {left right : Stage}

theorem suffix_tail_injective {first second : Nat}
    (same : left.suffix.toList ++ attemptTail first = right.suffix.toList ++ attemptTail second) :
    left = right := by
  have prefixed : left.suffix.toList <+: right.suffix.toList ∨
      right.suffix.toList <+: left.suffix.toList :=
    List.prefix_or_prefix_of_prefix (List.prefix_append _ (attemptTail first)) (by
      rw [same]
      exact List.prefix_append _ _)
  have names : ∀ stage other : Stage, stage.suffix.toList <+: other.suffix.toList →
      stage = other ∨ (stage = .plan ∧ other = .planReview) := by
    intro stage other
    cases stage <;> cases other <;> decide
  rcases prefixed with shorter | shorter
  · rcases names left right shorter with equal | ⟨rfl, rfl⟩
    · exact equal
    · exact absurd (List.append_cancel_left (show "plan".toList ++ _ =
        "plan".toList ++ ("-review".toList ++ _) from same)) (attemptTail_no_review _ _)
  · rcases names right left shorter with equal | ⟨rfl, rfl⟩
    · exact equal.symm
    · exact absurd (List.append_cancel_left (show "plan".toList ++ _ =
        "plan".toList ++ ("-review".toList ++ _) from same.symm)) (attemptTail_no_review _ _)

variable {projectId : String}

/-- The id of a task says its stage and its attempt. -/
theorem attemptId_injective {first second : Nat} (same : attemptId (originOf projectId left) first =
      attemptId (originOf projectId right) second) : left = right ∧ first = second := by
  have chars := congrArg String.toList same
  rw [toList_attemptId, toList_attemptId] at chars
  have tails := (List.cons.inj (List.append_cancel_left chars)).2
  have stages := suffix_tail_injective tails
  subst stages
  exact ⟨rfl, attemptTail_injective (List.append_cancel_left tails)⟩

theorem originOf_injective
    (same : originOf projectId left = originOf projectId right) : left = right :=
  (attemptId_injective (show attemptId _ 0 = attemptId _ 0 from same)).1

/-! ### Effective tasks, by attempt -/

/-- The newest of the tasks of its origin, the later one of equal attempts. -/
theorem mem_newestAfter_iff {task : Task} {tasks earlier : List Task} :
    task ∈ newestAfter earlier tasks ↔ ∃ before later, tasks = before ++ task :: later ∧
      (∀ other ∈ earlier ++ before, other.origin ≠ task.origin ∨ other.attempt ≤ task.attempt) ∧
      ∀ other ∈ later, other.origin ≠ task.origin ∨ other.attempt < task.attempt := by
  induction tasks generalizing earlier with
  | nil =>
      constructor
      · intro member
        cases member
      · rintro ⟨before, later, split, _⟩
        exact absurd split.symm (List.append_ne_nil_of_right_ne_nil _ (List.cons_ne_nil _ _))
  | cons first rest ih =>
      have inRest : task ∈ newestAfter (earlier ++ [first]) rest ↔
          ∃ before later, first :: rest = (first :: before) ++ task :: later ∧
            (∀ other ∈ earlier ++ first :: before,
              other.origin ≠ task.origin ∨ other.attempt ≤ task.attempt) ∧
            ∀ other ∈ later, other.origin ≠ task.origin ∨ other.attempt < task.attempt := by
        rw [ih]
        constructor
        · rintro ⟨before, later, rfl, atMost, below⟩
          refine ⟨before, later, rfl, ?_, below⟩
          rw [List.append_assoc] at atMost
          exact atMost
        · rintro ⟨before, later, split, atMost, below⟩
          refine ⟨before, later, (List.cons.inj split).2, ?_, below⟩
          rw [List.append_assoc]
          exact atMost
      have isFirst : ((earlier.all fun other =>
            other.origin ≠ first.origin ∨ other.attempt ≤ first.attempt) &&
          rest.all fun other =>
            other.origin ≠ first.origin ∨ other.attempt < first.attempt) = true ↔
          (∀ other ∈ earlier, other.origin ≠ first.origin ∨ other.attempt ≤ first.attempt) ∧
            ∀ other ∈ rest, other.origin ≠ first.origin ∨ other.attempt < first.attempt := by
        simp only [Bool.and_eq_true, List.all_eq_true, decide_eq_true_iff]
      have grown : (∃ before later, first :: rest = before ++ task :: later ∧
            (∀ other ∈ earlier ++ before,
              other.origin ≠ task.origin ∨ other.attempt ≤ task.attempt) ∧
            ∀ other ∈ later, other.origin ≠ task.origin ∨ other.attempt < task.attempt) ↔
          (task = first ∧
            (∀ other ∈ earlier, other.origin ≠ task.origin ∨ other.attempt ≤ task.attempt) ∧
            ∀ other ∈ rest, other.origin ≠ task.origin ∨ other.attempt < task.attempt) ∨
          task ∈ newestAfter (earlier ++ [first]) rest := by
        rw [inRest]
        constructor
        · rintro ⟨before, later, split, atMost, below⟩
          cases before with
          | nil =>
              obtain ⟨rfl, rfl⟩ := List.cons.inj split
              rw [List.append_nil] at atMost
              exact .inl ⟨rfl, atMost, below⟩
          | cons head before =>
              have same : first = head := (List.cons.inj split).1
              subst same
              exact .inr ⟨before, later, split, atMost, below⟩
        · rintro (⟨rfl, atMost, below⟩ | ⟨before, later, split, atMost, below⟩)
          · refine ⟨[], rest, rfl, ?_, below⟩
            rw [List.append_nil]
            exact atMost
          · exact ⟨first :: before, later, split, atMost, below⟩
      rw [grown, newestAfter]
      split
      · next newest =>
        have newest := isFirst.mp newest
        rw [List.mem_cons]
        constructor
        · rintro (rfl | later)
          · exact .inl ⟨rfl, newest⟩
          · exact .inr later
        · rintro (⟨rfl, _⟩ | later)
          · exact .inl rfl
          · exact .inr later
      · next notNewest =>
        constructor
        · exact .inr
        · rintro (⟨rfl, newest⟩ | later)
          · exact absurd (isFirst.mpr newest) notNewest
          · exact later

/-! ### Charted graphs -/

def countOf (run : Run) (stage : Stage) : Nat :=
  (run.reassignments.lookup (originOf run.projectId stage)).getD 0

/-- The id of the newest attempt of a stage. -/
def currentId (run : Run) (stage : Stage) : String :=
  attemptId (originOf run.projectId stage) (countOf run stage)

/-- A task as the graph of a run may hold one. -/
structure Entry (run : Run) (task : Task) : Prop where
  origin : task.origin = originOf run.projectId task.stage
  attempt : ∃ count ≤ countOf run task.stage,
    task.taskId = attemptId (originOf run.projectId task.stage) count ∧ task.attempt = count + 1
  depends : task.dependsOn = (task.stage.previous.map (currentId run)).toList

/-- The graph holds every attempt of the built stages once, and nothing else. -/
structure Charted (run : Run) (built : List Stage) : Prop where
  unique : (run.taskGraph.map Task.taskId).Nodup
  entries : ∀ task ∈ run.taskGraph, task.stage ∈ built ∧ Entry run task
  present : ∀ stage ∈ built, ∀ count ≤ countOf run stage, ∃ task ∈ run.taskGraph,
    task.stage = stage ∧ task.attempt = count + 1
  budget : ∀ stage, countOf run stage ≤ run.maxReassignments
  unbuilt : ∀ stage ∉ built, countOf run stage = 0
  closed : ∀ stage ∈ built, ∀ earlier, stage.previous = some earlier → earlier ∈ built
  first : ∀ task, (run.taskGraph.filter fun task => task.stage ∈ postApprovalStages).head? =
    some task → task.stage = .execute

theorem Entry.taskId_eq {run : Run} {task : Task} (entry : Entry run task) {count : Nat}
    (attempt : task.attempt = count + 1) :
    task.taskId = attemptId (originOf run.projectId task.stage) count := by
  obtain ⟨found, _, named, numbered⟩ := entry.attempt
  have same : found = count := by omega
  rw [named, same]

section Chart

variable {run : Run} {built : List Stage} (charted : Charted run built)

include charted

/-- Two tasks of one stage and one attempt are one task. -/
theorem Charted.task_eq {left right : Task} (first : left ∈ run.taskGraph)
    (second : right ∈ run.taskGraph) (stage : left.stage = right.stage)
    (attempt : left.attempt = right.attempt) : left = right := by
  have leftEntry := (charted.entries left first).2
  have rightEntry := (charted.entries right second).2
  obtain ⟨count, _, named, numbered⟩ := leftEntry.attempt
  have other := rightEntry.taskId_eq (attempt.symm.trans numbered)
  apply List.inj_on_of_nodup_map charted.unique first second
  rw [named, other, stage]

variable {stages : List Stage}

theorem Charted.mem_effectiveTasks_iff {task : Task} :
    task ∈ effectiveTasks run.taskGraph stages ↔
      task ∈ run.taskGraph ∧ task.stage ∈ stages ∧
        task.attempt = countOf run task.stage + 1 := by
  unfold effectiveTasks
  rw [mem_newestAfter_iff]
  constructor
  · rintro ⟨before, later, split, atMost, below⟩
    have member : task ∈ run.taskGraph.filter fun task => task.stage ∈ stages := by
      rw [split]
      exact List.mem_append_right before List.mem_cons_self
    obtain ⟨inGraph, inStages⟩ := List.mem_filter.mp member
    have inStages := of_decide_eq_true inStages
    have ⟨inBuilt, entry⟩ := charted.entries task inGraph
    refine ⟨inGraph, inStages, ?_⟩
    obtain ⟨newest, newestIn, sameStage, newestAttempt⟩ :=
      charted.present task.stage inBuilt _ (Nat.le_refl _)
    have newestEntry := (charted.entries newest newestIn).2
    have sameOrigin : newest.origin = task.origin := by
      rw [newestEntry.origin, entry.origin, sameStage]
    have listed : newest ∈ before ++ task :: later := by
      rw [← split]
      apply List.mem_filter.mpr
      refine ⟨newestIn, decide_eq_true ?_⟩
      rw [sameStage]
      exact inStages
    have covered : newest.attempt ≤ task.attempt := by
      rcases List.mem_append.mp listed with inBefore | inRest
      · rcases atMost newest (List.mem_append_right _ inBefore) with other | le
        · exact absurd sameOrigin other
        · exact le
      · rcases List.mem_cons.mp inRest with rfl | inLater
        · exact Nat.le_refl _
        · rcases below newest inLater with other | lt
          · exact absurd sameOrigin other
          · exact Nat.le_of_lt lt
    obtain ⟨count, atCount, _, numbered⟩ := entry.attempt
    omega
  · rintro ⟨inGraph, inStages, newest⟩
    have entry := (charted.entries task inGraph).2
    have listed : task ∈ run.taskGraph.filter fun task => task.stage ∈ stages :=
      List.mem_filter.mpr ⟨inGraph, decide_eq_true inStages⟩
    obtain ⟨before, later, split⟩ := List.append_of_mem listed
    have bounded : ∀ other ∈ before ++ task :: later,
        other.origin ≠ task.origin ∨
          (other.attempt ≤ task.attempt ∧ (other.attempt = task.attempt → other = task)) := by
      intro other member
      rw [← split] at member
      have otherIn := (List.mem_filter.mp member).1
      have otherEntry := (charted.entries other otherIn).2
      by_cases same : other.origin = task.origin
      · right
        rw [otherEntry.origin, entry.origin] at same
        have stage := originOf_injective same
        obtain ⟨count, atCount, _, numbered⟩ := otherEntry.attempt
        rw [stage] at atCount
        exact ⟨by omega, fun attempt => charted.task_eq otherIn inGraph stage attempt⟩
      · exact .inl same
    have nodup : (before ++ task :: later).Nodup := by
      rw [← split]
      exact (List.Nodup.of_map _ charted.unique).filter _
    refine ⟨before, later, split, ?_, ?_⟩
    · intro other member
      rcases bounded other (List.mem_append_left _ (by simpa using member)) with apart | ⟨le, _⟩
      · exact .inl apart
      · exact .inr le
    · intro other member
      rcases bounded other (List.mem_append_right _ (List.mem_cons_of_mem _ member)) with
        apart | ⟨le, only⟩
      · exact .inl apart
      · right
        apply Nat.lt_of_le_of_ne le
        intro equal
        have fresh := (List.nodup_cons.mp (List.nodup_append.mp nodup).2.1).1
        rw [only equal] at member
        exact fresh member

theorem Charted.current_of_effective {task : Task}
    (effective : task ∈ effectiveTasks run.taskGraph stages) :
    task.taskId = currentId run task.stage := by
  obtain ⟨inGraph, _, newest⟩ := charted.mem_effectiveTasks_iff.mp effective
  exact (charted.entries task inGraph).2.taskId_eq newest

/-- Every built stage has its newest attempt. -/
theorem Charted.effective_exists {stage : Stage} (isBuilt : stage ∈ built)
    (inStages : stage ∈ stages) :
    ∃ task ∈ effectiveTasks run.taskGraph stages, task.stage = stage := by
  obtain ⟨task, inGraph, sameStage, newest⟩ := charted.present stage isBuilt _ (Nat.le_refl _)
  refine ⟨task, charted.mem_effectiveTasks_iff.mpr ⟨inGraph, ?_, ?_⟩, sameStage⟩
  · rw [sameStage]
    exact inStages
  · rw [sameStage]
    exact newest

end Chart

/-! ### Replacements -/

theorem lookup_filter_ne {entries : List (String × Nat)} {key other : String} (apart : other ≠ key) :
    (entries.filter fun entry => entry.1 ≠ key).lookup other = entries.lookup other := by
  induction entries with
  | nil => rfl
  | cons entry rest ih =>
      obtain ⟨name, count⟩ := entry
      by_cases same : name = key
      · subst same
        rw [List.filter_cons_of_neg (by simp), ih, List.lookup_cons]
        rw [beq_false_of_ne apart]
      · rw [List.filter_cons_of_pos (by simpa using same), List.lookup_cons, List.lookup_cons, ih]

/-- Two runs that name and count the attempts alike. -/
structure SameCounts (run later : Run) : Prop where
  projectId : later.projectId = run.projectId
  reassignments : later.reassignments = run.reassignments
  maxReassignments : later.maxReassignments = run.maxReassignments

section Counts

variable {run later : Run} (same : SameCounts run later)

include same

theorem SameCounts.countOf_eq (stage : Stage) : countOf later stage = countOf run stage := by
  unfold countOf
  rw [same.projectId, same.reassignments]

theorem SameCounts.currentId_eq : currentId later = currentId run := by
  funext stage
  unfold currentId
  rw [same.countOf_eq, same.projectId]

theorem SameCounts.entry {task : Task} (entry : Entry run task) : Entry later task := by
  refine ⟨?_, ?_, ?_⟩
  · rw [same.projectId]
    exact entry.origin
  · rw [same.projectId, same.countOf_eq]
    exact entry.attempt
  · rw [same.currentId_eq]
    exact entry.depends

theorem Charted.alike {built : List Stage} (charted : Charted run built)
    (graph : later.taskGraph = run.taskGraph) : Charted later built := by
  refine ⟨?_, ?_, ?_, ?_, ?_, charted.closed, ?_⟩
  · rw [graph]
    exact charted.unique
  · intro task member
    rw [graph] at member
    have ⟨inBuilt, entry⟩ := charted.entries task member
    exact ⟨inBuilt, same.entry entry⟩
  · intro stage isBuilt count atCount
    rw [same.countOf_eq] at atCount
    rw [graph]
    exact charted.present stage isBuilt count atCount
  · intro stage
    rw [same.countOf_eq, same.maxReassignments]
    exact charted.budget stage
  · intro stage notBuilt
    rw [same.countOf_eq]
    exact charted.unbuilt stage notBuilt
  · rw [graph]
    exact charted.first

end Counts

section Replacement

variable {run : Run} {built : List Stage} {task : Task} (charted : Charted run built)
  (effective : task ∈ effectiveTasks run.taskGraph allStages)

include charted effective

theorem Charted.reassignmentsOf_eq : reassignmentsOf run task = countOf run task.stage := by
  have inGraph := (charted.mem_effectiveTasks_iff.mp effective).1
  unfold reassignmentsOf countOf
  rw [(charted.entries task inGraph).2.origin]

variable (snapshot : Snapshot)

theorem Charted.countOf_replaced (worker : Worker) (stage : Stage) :
    countOf (replaced run snapshot task worker) stage =
      if stage = task.stage then countOf run task.stage + 1 else countOf run stage := by
  have inGraph := (charted.mem_effectiveTasks_iff.mp effective).1
  have origin := (charted.entries task inGraph).2.origin
  change ((counted task (reassignmentsOf run task + 1) run.reassignments).lookup
    (originOf run.projectId stage)).getD 0 = _
  unfold counted
  rw [origin, List.lookup_cons, charted.reassignmentsOf_eq effective]
  by_cases same : stage = task.stage
  · rw [if_pos same, same, beq_self_eq_true]
    rfl
  · have apart : originOf run.projectId stage ≠ originOf run.projectId task.stage :=
      fun equal => same (originOf_injective equal)
    rw [if_neg same, beq_false_of_ne apart, lookup_filter_ne apart]
    rfl

theorem Charted.currentId_replaced (worker : Worker) {stage : Stage} (other : stage ≠ task.stage) :
    currentId (replaced run snapshot task worker) stage = currentId run stage := by
  unfold currentId
  rw [charted.countOf_replaced effective, if_neg other]
  rfl

theorem Charted.replacementId_eq (worker : Worker) :
    (replacementOf task (reassignmentsOf run task) worker).taskId =
      currentId (replaced run snapshot task worker) task.stage := by
  have inGraph := (charted.mem_effectiveTasks_iff.mp effective).1
  unfold currentId
  rw [charted.countOf_replaced effective, if_pos rfl, charted.reassignmentsOf_eq effective]
  change task.origin ++ "-r" ++ toString (countOf run task.stage + 1) = _
  rw [(charted.entries task inGraph).2.origin]
  rfl

/-- A task that stays follows the replacement of the stage before its own. -/
theorem Charted.entry_kept (worker : Worker) (status : String) {other : Task}
    (member : other ∈ run.taskGraph) :
    Entry (replaced run snapshot task worker) (other.afterReplacement task.taskId
      (replacementOf task (reassignmentsOf run task) worker).taskId status) := by
  have entry := (charted.entries other member).2
  have current := charted.current_of_effective effective
  refine ⟨entry.origin, ?_, ?_⟩
  · obtain ⟨count, atCount, named, numbered⟩ := entry.attempt
    refine ⟨count, ?_, named, numbered⟩
    rw [charted.countOf_replaced effective]
    change count ≤ if other.stage = task.stage then _ else _
    split
    · next same =>
      rw [same] at atCount
      exact Nat.le_succ_of_le atCount
    · exact atCount
  · change (if task.taskId ∈ other.dependsOn then other.dependsOn.map _ else other.dependsOn) =
      (other.stage.previous.map (currentId (replaced run snapshot task worker))).toList
    rw [entry.depends]
    cases before : other.stage.previous with
    | none => rfl
    | some earlier =>
        change (if task.taskId ∈ [currentId run earlier] then
          [currentId run earlier].map _ else [currentId run earlier]) =
            [currentId (replaced run snapshot task worker) earlier]
        by_cases same : earlier = task.stage
        · subst same
          rw [if_pos (List.mem_singleton.mpr current), List.map_singleton, if_pos current.symm,
            charted.replacementId_eq effective]
        · have apart : task.taskId ∉ [currentId run earlier] := by
            rw [List.mem_singleton, current]
            intro equal
            exact same (attemptId_injective equal).1.symm
          rw [if_neg apart, charted.currentId_replaced effective snapshot worker same]

theorem Charted.entry_replacement (worker : Worker) :
    Entry (replaced run snapshot task worker)
      (replacementOf task (reassignmentsOf run task) worker) := by
  have inGraph := (charted.mem_effectiveTasks_iff.mp effective).1
  have entry := (charted.entries task inGraph).2
  refine ⟨?_, ⟨countOf run task.stage + 1, ?_, ?_, ?_⟩, ?_⟩
  · exact entry.origin
  · rw [charted.countOf_replaced effective]
    change _ ≤ if task.stage = task.stage then _ else _
    rw [if_pos rfl]
  · have named := charted.replacementId_eq effective snapshot worker
    unfold currentId at named
    rw [charted.countOf_replaced effective, if_pos rfl] at named
    exact named
  · change reassignmentsOf run task + 2 = _
    rw [charted.reassignmentsOf_eq effective]
  · change task.dependsOn = _
    rw [entry.depends]
    change (task.stage.previous.map (currentId run)).toList =
      (task.stage.previous.map (currentId (replaced run snapshot task worker))).toList
    cases before : task.stage.previous with
    | none => rfl
    | some earlier =>
        have apart : earlier ≠ task.stage := by
          rintro rfl
          exact absurd (Stage.place_previous before) (Nat.lt_irrefl _)
        rw [Option.map_some, Option.map_some,
          charted.currentId_replaced effective snapshot worker apart]

theorem Charted.replaced (worker : Worker)
    (within : reassignmentsOf run task < run.maxReassignments) :
    Charted (replaced run snapshot task worker) built := by
  have inGraph := (charted.mem_effectiveTasks_iff.mp effective).1
  have ⟨inBuilt, entry⟩ := charted.entries task inGraph
  obtain ⟨status, graph⟩ : ∃ status, (Live.replaced run snapshot task worker).taskGraph =
      run.taskGraph.map (Task.afterReplacement task.taskId
        (replacementOf task (reassignmentsOf run task) worker).taskId status) ++
          [replacementOf task (reassignmentsOf run task) worker] := ⟨_, rfl⟩
  have ids : (run.taskGraph.map (Task.afterReplacement task.taskId
      (replacementOf task (reassignmentsOf run task) worker).taskId status)).map Task.taskId =
        run.taskGraph.map Task.taskId := by
    rw [List.map_map]
    rfl
  refine ⟨?_, ?_, ?_, ?_, ?_, charted.closed, ?_⟩
  · rw [graph, List.map_append, ids, List.map_singleton]
    apply List.nodup_append.mpr
    refine ⟨charted.unique, List.nodup_singleton _, ?_⟩
    intro old inOld fresh isFresh
    rw [List.mem_singleton.mp isFresh]
    obtain ⟨other, otherIn, rfl⟩ := List.mem_map.mp inOld
    obtain ⟨count, atCount, named, _⟩ := (charted.entries other otherIn).2.attempt
    rw [named, charted.replacementId_eq effective snapshot worker]
    intro same
    unfold currentId at same
    rw [charted.countOf_replaced effective, if_pos rfl] at same
    have ⟨stages, counts⟩ := attemptId_injective same
    rw [stages] at atCount
    omega
  · intro other member
    rw [graph] at member
    rcases List.mem_append.mp member with kept | added
    · obtain ⟨old, oldIn, rfl⟩ := List.mem_map.mp kept
      exact ⟨(charted.entries old oldIn).1, charted.entry_kept effective snapshot worker _ oldIn⟩
    · rw [List.mem_singleton.mp added]
      exact ⟨inBuilt, charted.entry_replacement effective snapshot worker⟩
  · intro stage isBuilt count atCount
    rw [charted.countOf_replaced effective] at atCount
    rw [graph]
    by_cases fresh : stage = task.stage ∧ count = countOf run task.stage + 1
    · refine ⟨_, List.mem_append_right _ (List.mem_singleton_self _), fresh.1.symm, ?_⟩
      rw [fresh.2]
      change reassignmentsOf run task + 2 = _
      rw [charted.reassignmentsOf_eq effective]
    · have old : count ≤ countOf run stage := by
        split at atCount
        · next same =>
          have notNew : count ≠ countOf run task.stage + 1 := fun new => fresh ⟨same, new⟩
          rw [same]
          omega
        · exact atCount
      obtain ⟨other, otherIn, sameStage, numbered⟩ := charted.present stage isBuilt count old
      exact ⟨_, List.mem_append_left _ (List.mem_map_of_mem otherIn), sameStage, numbered⟩
  · intro stage
    rw [charted.countOf_replaced effective]
    change _ ≤ run.maxReassignments
    rw [charted.reassignmentsOf_eq effective] at within
    split
    · exact within
    · exact charted.budget stage
  · intro stage notBuilt
    rw [charted.countOf_replaced effective]
    have other : stage ≠ task.stage := by
      rintro rfl
      exact notBuilt inBuilt
    rw [if_neg other]
    exact charted.unbuilt stage notBuilt
  · intro head isHead
    rw [graph, List.filter_append, List.filter_map] at isHead
    change (((run.taskGraph.filter fun other : Task => other.stage ∈ postApprovalStages).map _ ++
      [replacementOf task _ worker].filter _)).head? = some head at isHead
    cases post : run.taskGraph.filter fun other : Task => other.stage ∈ postApprovalStages with
    | cons old rest =>
        rw [post] at isHead
        cases isHead
        exact charted.first old (by rw [post]; rfl)
    | nil =>
        rw [post] at isHead
        by_cases inPost : task.stage ∈ postApprovalStages
        · have listed : task ∈
              run.taskGraph.filter fun other : Task => other.stage ∈ postApprovalStages :=
            List.mem_filter.mpr ⟨inGraph, decide_eq_true inPost⟩
          rw [post] at listed
          cases listed
        · have alike : (replacementOf task (reassignmentsOf run task) worker).stage = task.stage := rfl
          rw [List.filter_cons_of_neg (by rw [alike]; simpa using inPost)] at isHead
          cases isHead

end Replacement

/-! ### Role plans -/

/-- The roles follow each other in the order of their stages. -/
def Consecutive : Option Stage → List (String × String × Stage × String × List String) → Prop
  | _, [] => True
  | before, role :: rest => role.2.2.1.previous = before ∧ role.1 = role.2.2.1.suffix ∧
      Consecutive (some role.2.2.1) rest

theorem rolePlan_pre : Consecutive none
    (rolePlan.filter fun role => role.2.2.1 ∈ preApprovalStages) := by
  refine ⟨rfl, rfl, rfl, rfl, rfl, rfl, trivial⟩

theorem rolePlan_post : Consecutive (some .planReview)
    (rolePlan.filter fun role => role.2.2.1 ∈ postApprovalStages) := by
  refine ⟨rfl, rfl, rfl, rfl, rfl, rfl, rfl, rfl, rfl, rfl, trivial⟩

variable {roles : List (String × String × Stage × String × List String)}

/-- The tasks of consecutive roles are first attempts, one for each stage. -/
theorem buildTasks_entries {run : Run} {workers : List Worker} {before : Option Stage}
    {tasks : List Task}
    (consecutive : Consecutive before roles)
    (fresh : ∀ role ∈ roles, countOf run role.2.2.1 = 0)
    (built : buildTasks run.projectId workers (before.map (currentId run)) roles = some tasks) :
    tasks.map Task.stage = roles.map (fun role => role.2.2.1) ∧
      ∀ task ∈ tasks, Entry run task ∧ task.attempt = 1 := by
  induction roles generalizing before tasks with
  | nil =>
      cases built
      exact ⟨rfl, fun task member => absurd member List.not_mem_nil⟩
  | cons role rest ih =>
      obtain ⟨suffix, title, stage, workerName, skills⟩ := role
      obtain ⟨follows, named, restConsecutive⟩ := consecutive
      obtain ⟨first, restFresh⟩ := List.forall_mem_cons.mp fresh
      change stage.previous = before at follows
      change suffix = stage.suffix at named
      change countOf run stage = 0 at first
      subst named
      rw [buildTasks] at built
      obtain ⟨worker, _, built⟩ := Option.bind_eq_some_iff.mp built
      obtain ⟨later, isLater, built⟩ := Option.bind_eq_some_iff.mp built
      cases built
      have current : currentId run stage = run.projectId ++ "-" ++ stage.suffix := by
        unfold currentId
        rw [first]
        rfl
      have behind : buildTasks run.projectId workers ((some stage).map (currentId run)) rest =
          some later := by
        rw [Option.map_some, current]
        exact isLater
      obtain ⟨stages, entries⟩ := ih restConsecutive restFresh behind
      refine ⟨?_, List.forall_mem_cons.mpr ⟨⟨⟨rfl, ⟨0, Nat.zero_le _, rfl, rfl⟩, ?_⟩, rfl⟩, entries⟩⟩
      · rw [List.map_cons, List.map_cons, stages]
      · change (before.map (currentId run)).toList = (stage.previous.map (currentId run)).toList
        rw [follows]

/-- A chain that is put behind a task is the chain built behind it. -/
theorem dependingOn_buildTasks {workers : List Worker} (task : Task) {tasks : List Task}
    (built : buildTasks projectId workers none roles = some tasks) :
    buildTasks projectId workers (some task.taskId) roles =
      some (dependingOn (some task) tasks) := by
  cases roles with
  | nil =>
      cases built
      rfl
  | cons role rest =>
      obtain ⟨suffix, title, stage, workerName, skills⟩ := role
      rw [buildTasks] at built ⊢
      obtain ⟨worker, isWorker, built⟩ := Option.bind_eq_some_iff.mp built
      obtain ⟨later, isLater, built⟩ := Option.bind_eq_some_iff.mp built
      cases built
      rw [isWorker]
      change Option.bind (buildTasks projectId workers _ rest) _ = _
      rw [isLater]
      rfl

end

end EgoAgent.Bridge.Live
