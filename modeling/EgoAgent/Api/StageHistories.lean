import EgoAgent.Api.EventChain

/-!
The research lifecycle of a task: the histories of stages that runs of `advance` lead to.
-/

namespace EgoAgent.Api

/-! ### The state machine -/

inductive Stage where
  | intake | context | plan | planReview | approval | execute | observe | evaluate | verify | decide
  | archive | memorySkill | completed
  deriving DecidableEq

def Stage.value : Stage → String
  | .intake => "INTAKE"
  | .context => "CONTEXT"
  | .plan => "PLAN"
  | .planReview => "PLAN_REVIEW"
  | .approval => "APPROVAL"
  | .execute => "EXECUTE"
  | .observe => "OBSERVE"
  | .evaluate => "EVALUATE"
  | .verify => "VERIFY"
  | .decide => "DECIDE"
  | .archive => "ARCHIVE"
  | .memorySkill => "MEMORY_SKILL"
  | .completed => "COMPLETED"

def allowedTransitions : Stage → List Stage
  | .intake => [.context]
  | .context => [.plan]
  | .plan => [.planReview]
  | .planReview => [.plan, .approval]
  | .approval => [.execute, .plan]
  | .execute => [.observe]
  | .observe => [.evaluate]
  | .evaluate => [.verify]
  | .verify => [.plan, .decide]
  | .decide => [.archive]
  | .archive => [.memorySkill]
  | .memorySkill => [.completed]
  | .completed => []

def forwardPath : List Stage :=
  [.intake, .context, .plan, .planReview, .approval, .execute, .observe, .evaluate, .verify,
    .decide, .archive, .memorySkill, .completed]

example : forwardPath.map Stage.value = stageValues := rfl

def nextForwardStage (current : Stage) : Option Stage :=
  forwardPath[forwardPath.idxOf current + 1]?

def validateTransition (current target : Stage) : Except ServiceError Stage :=
  if target ∉ allowedTransitions current then
    .error (conflictError "illegal_transition"
      ("Illegal research transition: " ++ current.value ++ " -> " ++ target.value))
  else .ok target

/-- A call to `advance`, with what the checks of `_transition` behind the table raise. -/
structure StageCall where
  target : Option Stage
  refused : Option ServiceError

def StageCall.advance (call : StageCall) (current : Stage) : Except ServiceError Stage := do
  let destination ← expect (conflictError "terminal_task" "Task is already at a terminal stage")
    (call.target.or (nextForwardStage current))
  let destination ← validateTransition current destination
  match call.refused with
  | some error => .error error
  | none => .ok destination

/-- The stages of a task; a call that raises leaves the one it is in. -/
def visited (current : Stage) : List StageCall → List Stage
  | [] => [current]
  | call :: calls =>
      match call.advance current with
      | .ok destination => current :: visited destination calls
      | .error _ => visited current calls

/-! ### Histories -/

def Allowed (current target : Stage) : Prop := target ∈ allowedTransitions current

instance : DecidableRel Allowed := fun _ _ => inferInstanceAs (Decidable (_ ∈ _))

theorem validateTransition_eq_ok {current target destination : Stage} :
    validateTransition current target = .ok destination ↔
      Allowed current target ∧ target = destination := by
  unfold validateTransition Allowed
  split <;> simp_all

theorem StageCall.advance_eq_ok {call : StageCall} {current destination : Stage}
    (entered : call.advance current = .ok destination) : Allowed current destination := by
  unfold StageCall.advance at entered
  obtain ⟨target, _, entered⟩ := (bind_eq_ok _ _ _).mp entered
  obtain ⟨found, valid, entered⟩ := (bind_eq_ok _ _ _).mp entered
  obtain ⟨allowed, rfl⟩ := validateTransition_eq_ok.mp valid
  split at entered <;> cases entered
  exact allowed

theorem visited_chain (current : Stage) (calls : List StageCall) :
    ∃ later, visited current calls = current :: later ∧ (current :: later).IsChain Allowed := by
  induction calls generalizing current with
  | nil => exact ⟨[], rfl, .singleton current⟩
  | cons call calls ih =>
      rw [visited]
      split
      · next destination entered =>
          obtain ⟨later, visits, chain⟩ := ih destination
          rw [visits]
          exact ⟨_, rfl, .cons_cons (StageCall.advance_eq_ok entered) chain⟩
      · exact ih current

/-- Every chain is visited, by naming its stages. -/
theorem visited_of_chain {current : Stage} {later : List Stage}
    (chain : (current :: later).IsChain Allowed) :
    ∃ calls, visited current calls = current :: later := by
  induction later generalizing current with
  | nil => exact ⟨[], rfl⟩
  | cons target later ih =>
      obtain ⟨allowed, chain⟩ := List.isChain_cons_cons.mp chain
      obtain ⟨calls, visits⟩ := ih chain
      refine ⟨⟨some target, none⟩ :: calls, ?_⟩
      have entered : StageCall.advance ⟨some target, none⟩ current = .ok target :=
        (bind_eq_ok _ _ _).mpr ⟨target, rfl, (bind_eq_ok _ _ _).mpr
          ⟨target, validateTransition_eq_ok.mpr ⟨allowed, rfl⟩, rfl⟩⟩
      rw [visited, entered]
      exact congrArg (current :: ·) visits

/-- What a task that is planned again has gone through since its last plan. -/
def abandoned : List (List Stage) :=
  [[.plan, .planReview], [.plan, .planReview, .approval],
    [.plan, .planReview, .approval, .execute, .observe, .evaluate, .verify]]

def opening : List Stage := forwardPath.take 2

def planned : List Stage := forwardPath.drop 2

/-- From a plan to a stage. -/
def since (stage : Stage) : List Stage := planned.take (planned.idxOf stage + 1)

theorem since_next : ∀ current ∈ planned, ∀ target ∈ allowedTransitions current,
    target ∈ planned ∧ since target = since current ++ [target] ∨
      target = .plan ∧ since current ∈ abandoned := by
  decide

theorem planned_again {current : Stage} (inPlanned : current ∈ planned) {later : List Stage}
    (chain : (current :: later).IsChain Allowed) :
    ∃ rounds : List (List Stage), (∀ round ∈ rounds, round ∈ abandoned) ∧
      since current ++ later <+: rounds.flatten ++ planned := by
  induction later generalizing current with
  | nil =>
      refine ⟨[], List.forall_mem_nil _, ?_⟩
      rw [List.append_nil]
      exact List.take_prefix _ _
  | cons target later ih =>
      obtain ⟨allowed, chain⟩ := List.isChain_cons_cons.mp chain
      rcases since_next current inPlanned target allowed with ⟨onward, same⟩ | ⟨rfl, round⟩
      · obtain ⟨rounds, fromPlan, front⟩ := ih onward chain
        rw [same, List.append_assoc] at front
        exact ⟨rounds, fromPlan, front⟩
      · obtain ⟨rounds, fromPlan, front⟩ := ih (by decide) chain
        refine ⟨since current :: rounds, List.forall_mem_cons.mpr ⟨round, fromPlan⟩, ?_⟩
        rw [List.flatten_cons, List.append_assoc]
        exact List.prefix_append_right_inj _ |>.mpr front

theorem rounds_chain {rounds : List (List Stage)} (each : ∀ round ∈ rounds, round ∈ abandoned)
    {current : Stage} (opens : Allowed current .plan) :
    (current :: (rounds.flatten ++ planned)).IsChain Allowed := by
  induction rounds generalizing current with
  | nil => exact .cons_cons opens (by decide)
  | cons round rounds ih =>
      have ⟨here, rest⟩ := List.forall_mem_cons.mp each
      have reviewed := @ih rest
      rw [List.flatten_cons, List.append_assoc]
      simp only [abandoned, List.mem_cons, List.not_mem_nil, or_false] at here
      rcases here with rfl | rfl | rfl
      · exact .cons_cons opens (.cons_cons (by decide) (reviewed (by decide)))
      · exact .cons_cons opens (.cons_cons (by decide) (.cons_cons (by decide)
          (reviewed (by decide))))
      · exact .cons_cons opens (.cons_cons (by decide) (.cons_cons (by decide) (.cons_cons (by decide)
          (.cons_cons (by decide) (.cons_cons (by decide) (.cons_cons (by decide)
            (reviewed (by decide))))))))

/-- The histories of a task are what leads along the forward path to COMPLETED, with any number of
rounds from a plan to a review, an approval or a verification that is planned again. -/
theorem stage_histories (history : List Stage) :
    (∃ calls, visited .intake calls = history) ↔ history ≠ [] ∧ ∃ rounds : List (List Stage),
      (∀ round ∈ rounds, round ∈ abandoned) ∧
        history <+: opening ++ (rounds.flatten ++ planned) := by
  constructor
  · rintro ⟨calls, rfl⟩
    obtain ⟨later, visits, chain⟩ := visited_chain .intake calls
    rw [visits]
    refine ⟨List.cons_ne_nil _ _, ?_⟩
    rcases later with _ | ⟨first, later⟩
    · exact ⟨[], List.forall_mem_nil _, by decide⟩
    obtain ⟨allowed, chain⟩ := List.isChain_cons_cons.mp chain
    cases List.mem_singleton.mp allowed
    rcases later with _ | ⟨second, later⟩
    · exact ⟨[], List.forall_mem_nil _, by decide⟩
    obtain ⟨allowed, chain⟩ := List.isChain_cons_cons.mp chain
    cases List.mem_singleton.mp allowed
    obtain ⟨rounds, each, front⟩ := planned_again (by decide) chain
    exact ⟨rounds, each, (List.prefix_append_right_inj opening).mpr front⟩
  · rintro ⟨started, rounds, each, front⟩
    have chain : (opening ++ (rounds.flatten ++ planned)).IsChain Allowed :=
      .cons_cons (by decide) (rounds_chain each (by decide))
    obtain ⟨stage, later, rfl⟩ := List.exists_cons_of_ne_nil started
    obtain ⟨rfl, _⟩ := List.cons_prefix_cons.mp front
    exact visited_of_chain <| List.IsChain.prefix chain front

end EgoAgent.Api
