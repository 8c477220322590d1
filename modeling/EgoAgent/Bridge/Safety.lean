import EgoAgent.Bridge.Guardian

/-!
`evaluate_effect_safety`: the system's assessment, the guardian's and the decision.

The rules decide the verdict; a required approval is disclosed with the effect's
own recovery plan, which the disclosure does not accept when it is empty.
-/

namespace EgoAgent.Bridge

open EgoAgent.Api EgoAgent.SecureMemory

def systemRuleVersion : String := "agentteams-system-risk-rules/2026-08-31"

def systemRuleTable : Json Empty := .dict
  [("known_operations", textList (sortedSet knownOperations)),
    ("mandatory_constraints", constraintTable), ("unknown_operation", .str "HIGH/DENY"),
    ("known_high", .str "HIGH/APPROVAL_REQUIRED"), ("known_low_medium", .str "ALLOW")]

section Gate

variable {φ : Type} [FloatEquality φ] (unicode : UnicodeText) (sha256 : Bytes → Digest)

/-! ### Evaluation -/

/-- The level and the disposition, with the reason they add. -/
def systemOutcome (constraints : List String) (level : RiskLevel) :
    RiskLevel × Verdict × List String :=
  if constraints ≠ [] then (.high, .deny, [])
  else match level with
    | .high => (.high, .approvalRequired, ["SYSTEM_HIGH_IMPACT_EFFECT"])
    | .medium => (.medium, .allow, ["REVERSIBLE_WORKSPACE_MUTATION"])
    | .low => (.low, .allow, ["READ_ONLY_WORKSPACE_EFFECT"])

/-- The fields of the system's assessment. -/
def systemRecord (effect : CanonicalEffect φ) (sequence : Nat) : RiskAssessment :=
  let constraints := ruleConstraints unicode effect
  let outcome := systemOutcome constraints (operationRiskLevel effect.operation)
  { effectSha256 := effect.effectSha256 sha256
    stage := .system
    riskLevel := outcome.1
    disposition := outcome.2.1
    reasonCodes := sortedSet (ruleReasons unicode effect ++ outcome.2.2)
    mandatoryConstraintIds := sortedSet constraints
    ruleVersion := systemRuleVersion
    ruleSha256 := domainDigest sha256 "agentteams-system-risk-rules" systemRuleTable
    sequence := sequence }

/-- `SystemRiskClassifier.assess`. -/
def systemAssess (effect : CanonicalEffect φ) (sequence : Nat) :
    Except GateError RiskAssessment :=
  (systemRecord unicode sha256 effect sequence).validated

/-- The fields of the disclosure. -/
def disclosureValues (effect : CanonicalEffect φ) (decision : GuardianDecision) (expires : Nat) :
    ApprovalDisclosure φ where
  effectSha256 := effect.effectSha256 sha256
  safeArguments := effect.finalArguments
  target := effect.target
  affectedScope := effect.affectedScope
  reasonCodes := decision.reasons
  recoveryPlan := effect.recoveryPlan
  expiresAtSequence := expires

def discloseApproval (effect : CanonicalEffect φ) (decision : GuardianDecision)
    (sequence expires : Nat) : Except GateError (Option (ApprovalDisclosure φ)) :=
  if decision.disposition = .approvalRequired then do
    raiseIf (expires ≤ sequence)
      (.value "approval expiry must be after the system assessment sequence")
    let disclosure := disclosureValues sha256 effect decision expires
    raiseIf (¬ disclosure.Valid) (.validation "ApprovalDisclosure")
    return some disclosure
  else .ok none

/-- The fields of the safety decision. -/
def safetyValues (effect : CanonicalEffect φ) (guardian : GuardianDecision)
    (disclosure : Option (ApprovalDisclosure φ)) : SafetyDecision φ :=
  let values : SafetyDecision φ :=
    { effect := effect
      guardianDecision := guardian
      verdict := guardian.disposition
      approvalPending := decide (guardian.disposition = .approvalRequired)
      approvalDisclosure := disclosure
      decisionSha256 := guardian.decisionSha256 }
  { values with decisionSha256 := values.digest sha256 }

/-- `evaluate_effect_safety`. -/
def evaluateEffectSafety (effect : CanonicalEffect φ) (sequence expires : Nat)
    (mode : EnforcementMode) : Except GateError (SafetyDecision φ) := do
  let system ← systemAssess unicode sha256 effect sequence
  let guardian ← buildGuardianDecision unicode sha256 effect system mode (sequence + 1)
  let disclosure ← discloseApproval sha256 effect guardian sequence expires
  let decision := safetyValues sha256 effect guardian disclosure
  raiseIf (¬ decision.Valid sha256) (.validation "SafetyDecision")
  return decision

/-! ### Lists of names -/

theorem sortedUnique_sortedSet {items : List String} (nonempty : ∀ item ∈ items, item ≠ "") :
    SortedUnique (sortedSet items) := by
  constructor
  · intro item member
    exact nonempty item (mem_sortedSet.mp member)
  · exact sortedSet_pairwise items

theorem nonempty_append {left right : List String} (first : ∀ item ∈ left, item ≠ "")
    (second : ∀ item ∈ right, item ≠ "") : ∀ item ∈ left ++ right, item ≠ "" := by
  intro item member
  rcases List.mem_append.mp member with inLeft | inRight
  · exact first item inLeft
  · exact second item inRight

theorem ruleReasons_nonempty (effect : CanonicalEffect φ) :
    ∀ reason ∈ ruleReasons unicode effect, reason ≠ "" := by
  unfold ruleReasons
  apply nonempty_append
  · intro reason member
    obtain ⟨found, _, rfl⟩ := List.mem_map.mp member
    cases found <;> decide
  · split <;> decide

theorem ruleConstraints_nonempty (effect : CanonicalEffect φ) :
    ∀ constraint ∈ ruleConstraints unicode effect, constraint ≠ "" := by
  unfold ruleConstraints
  apply nonempty_append
  · intro constraint member
    obtain ⟨found, _, rfl⟩ := List.mem_map.mp member
    cases found <;> decide
  · split <;> decide

variable {effect : CanonicalEffect φ}

/-- A constraint applies exactly when a rule matches or the operation is unknown. -/
theorem ruleConstraints_eq_nil_iff :
    ruleConstraints unicode effect = [] ↔
      mandatoryRuleMatches unicode effect = [] ∧ effect.operation ∈ knownOperations := by
  unfold ruleConstraints
  rw [List.append_eq_nil_iff, List.map_eq_nil_iff]
  by_cases known : effect.operation ∈ knownOperations <;> simp [known]

theorem systemOutcome_nonempty (constraints : List String) (level : RiskLevel) :
    ∀ reason ∈ (systemOutcome constraints level).2.2, reason ≠ "" := by
  unfold systemOutcome
  split
  · exact fun reason member => absurd member List.not_mem_nil
  · cases level <;> decide

theorem guardianOutcome_nonempty (constraints : List String) (level : RiskLevel) :
    (∀ reason ∈ (guardianOutcome constraints level).2.1, reason ≠ "") ∧
      ∀ constraint ∈ (guardianOutcome constraints level).2.2, constraint ≠ "" := by
  unfold guardianOutcome
  split
  · decide
  · split <;> decide

theorem operationRiskLevel_eq_high_iff {operation : String} (known : operation ∈ knownOperations) :
    operationRiskLevel operation = .high ↔ operation ∈ highOperations := by
  have apart : ∀ item ∈ highOperations, item ∉ lowOperations ∧ item ∉ mediumOperations := by
    decide
  unfold operationRiskLevel
  constructor
  · intro high
    rcases List.mem_append.mp known with graded | inHigh
    · rcases List.mem_append.mp graded with inLow | inMedium
      · rw [if_pos inLow] at high
        cases high
      · by_cases inLow : operation ∈ lowOperations
        · rw [if_pos inLow] at high
          cases high
        · rw [if_neg inLow, if_pos inMedium] at high
          cases high
    · exact inHigh
  · intro inHigh
    have ⟨notLow, notMedium⟩ := apart operation inHigh
    rw [if_neg notLow, if_neg notMedium]

/-! ### Assessments -/

theorem validated_eq_ok {assessment : RiskAssessment} (valid : assessment.Valid) :
    assessment.validated = .ok assessment :=
  raiseIf_bind_of_not (not_not.mpr valid) _ _

theorem systemRecord_valid (effect : CanonicalEffect φ) (sequence : Nat) :
    (systemRecord unicode sha256 effect sequence).Valid := by
  refine ⟨?_, ?_, ?_⟩
  · apply sortedUnique_sortedSet
    exact nonempty_append (ruleReasons_nonempty unicode effect) (systemOutcome_nonempty _ _)
  · exact sortedUnique_sortedSet (ruleConstraints_nonempty unicode effect)
  · change systemRuleVersion ≠ ""
    decide

/-- The three outcomes of the first stage. -/
theorem systemRecord_cases (effect : CanonicalEffect φ) (sequence : Nat) :
    let system := systemRecord unicode sha256 effect sequence
    (ruleConstraints unicode effect ≠ [] ∧ system.riskLevel = .high ∧
        system.disposition = .deny) ∨
      (ruleConstraints unicode effect = [] ∧ effect.operation ∈ highOperations ∧
        system.riskLevel = .high ∧ system.disposition = .approvalRequired) ∨
      (ruleConstraints unicode effect = [] ∧ effect.operation ∉ highOperations ∧
        system.riskLevel ≠ .high ∧ system.disposition = .allow) := by
  unfold systemRecord systemOutcome
  by_cases constrained : ruleConstraints unicode effect = []
  · have known := ((ruleConstraints_eq_nil_iff unicode).mp constrained).2
    have graded := operationRiskLevel_eq_high_iff known
    simp only [constrained, ne_eq, not_true_eq_false, if_false, false_and, true_and, false_or]
    cases level : operationRiskLevel effect.operation with
    | high => exact .inl ⟨graded.mp level, rfl, rfl⟩
    | medium =>
        rw [level] at graded
        exact .inr ⟨(fun high => nomatch graded.mpr high), nofun, rfl⟩
    | low =>
        rw [level] at graded
        exact .inr ⟨(fun high => nomatch graded.mpr high), nofun, rfl⟩
  · simp [constrained]

theorem guardianRecord_valid {system : RiskAssessment} (valid : system.Valid) (sequence : Nat) :
    (guardianRecord unicode sha256 effect system sequence).Valid := by
  refine ⟨?_, ?_, ?_⟩
  · apply sortedUnique_sortedSet
    apply nonempty_append
    · apply nonempty_append (ruleReasons_nonempty unicode effect)
      split <;> decide
    · exact (guardianOutcome_nonempty _ _).1
  · apply sortedUnique_sortedSet
    apply nonempty_append
    · apply nonempty_append (ruleConstraints_nonempty unicode effect)
      split
      · exact valid.2.1.1
      · exact fun item member => absurd member List.not_mem_nil
    · exact (guardianOutcome_nonempty _ _).2
  · change guardianRuleVersion ≠ ""
    decide

/-- The second stage keeps every constraint of the first. -/
theorem guardianRecord_constraints (effect : CanonicalEffect φ) (system : RiskAssessment)
    (sequence : Nat) : ∀ constraint ∈ system.mandatoryConstraintIds,
      constraint ∈
        (guardianRecord unicode sha256 effect system sequence).mandatoryConstraintIds := by
  intro constraint member
  apply mem_sortedSet.mpr
  apply List.mem_append_left
  apply List.mem_append.mpr
  by_cases found : constraint ∈ ruleConstraints unicode effect
  · exact .inl found
  · right
    rw [if_pos (fun all => found (all constraint member))]
    exact member

/-- Both stages apply the same rules. -/
theorem guardianRecord_disposition {sequence : Nat}
    (high : (systemRecord unicode sha256 effect sequence).riskLevel = .high) (next : Nat) :
    (guardianRecord unicode sha256 effect (systemRecord unicode sha256 effect sequence)
      next).disposition = (systemRecord unicode sha256 effect sequence).disposition := by
  have nothingMissing : ∀ constraint ∈ (systemRecord unicode sha256 effect
      sequence).mandatoryConstraintIds, constraint ∈ ruleConstraints unicode effect :=
    fun constraint member => mem_sortedSet.mp member
  unfold guardianRecord guardianOutcome
  simp only
  rw [if_neg (not_not.mpr nothingMissing), List.append_nil]
  rcases systemRecord_cases unicode sha256 effect sequence with
    ⟨constrained, _, deny⟩ | ⟨free, inHigh, _, approval⟩ | ⟨_, _, low, _⟩
  · rw [if_pos constrained, deny]
  · have known := ((ruleConstraints_eq_nil_iff unicode).mp free).2
    rw [if_neg (not_not.mpr free),
      if_pos ((operationRiskLevel_eq_high_iff known).mpr inHigh), approval]
  · exact absurd high low

/-! ### Decisions -/

/-- The guardian's assessment of an effect, when there is one. -/
def guardianReview (effect : CanonicalEffect φ) (sequence : Nat) : Option RiskAssessment :=
  let system := systemRecord unicode sha256 effect sequence
  if system.riskLevel = .high
  then some (guardianRecord unicode sha256 effect system (sequence + 1))
  else none

theorem guardianReview_disposition (effect : CanonicalEffect φ) (sequence : Nat) :
    ((guardianReview unicode sha256 effect sequence).getD
      (systemRecord unicode sha256 effect sequence)).disposition =
        (systemRecord unicode sha256 effect sequence).disposition := by
  unfold guardianReview
  by_cases high : (systemRecord unicode sha256 effect sequence).riskLevel = .high
  · simp only [high, if_true, Option.getD_some]
    exact guardianRecord_disposition unicode sha256 high _
  · simp only [high, if_false, Option.getD_none]

theorem guardianReview_upholds {sequence : Nat}
    {guardian : RiskAssessment} (review : guardian ∈ guardianReview unicode sha256 effect sequence) :
    guardian.Valid ∧ guardian.Upholds (systemRecord unicode sha256 effect sequence) := by
  unfold guardianReview at review
  by_cases high : (systemRecord unicode sha256 effect sequence).riskLevel = .high
  · simp only [high, if_true, Option.mem_some_iff] at review
    subst review
    have same := guardianRecord_disposition unicode sha256 high (sequence + 1)
    refine ⟨guardianRecord_valid unicode sha256 (systemRecord_valid unicode sha256 _ _) _, rfl,
      rfl, guardianRecord_constraints unicode sha256 _ _ _, ?_, ?_⟩
    · rw [high]
      exact Nat.le_refl _
    · rw [same]
  · simp only [high, if_false] at review
    cases review

theorem guardianReview_isSome_iff (effect : CanonicalEffect φ) (sequence : Nat) :
    (systemRecord unicode sha256 effect sequence).riskLevel = .high ↔
      (guardianReview unicode sha256 effect sequence).isSome = true := by
  unfold guardianReview
  by_cases high : (systemRecord unicode sha256 effect sequence).riskLevel = .high <;> simp [high]

/-- The decision of both stages. -/
def reviewed (effect : CanonicalEffect φ) (sequence : Nat) (mode : EnforcementMode) :
    GuardianDecision :=
  guardianValues sha256 effect (systemRecord unicode sha256 effect sequence)
    (guardianReview unicode sha256 effect sequence) mode

theorem reviewed_valid (effect : CanonicalEffect φ) (sequence : Nat) (mode : EnforcementMode) :
    (reviewed unicode sha256 effect sequence mode).Valid φ sha256 :=
  ⟨systemRecord_valid unicode sha256 effect sequence, rfl, rfl,
    guardianReview_isSome_iff unicode sha256 effect sequence,
    fun _ review => guardianReview_upholds unicode sha256 review, rfl,
    (GuardianDecision.digest_with sha256 _ _).symm⟩

theorem reviewed_disposition (effect : CanonicalEffect φ) (sequence : Nat)
    (mode : EnforcementMode) : (reviewed unicode sha256 effect sequence mode).disposition =
      (systemRecord unicode sha256 effect sequence).disposition :=
  guardianReview_disposition unicode sha256 effect sequence

theorem assessIfHigh_eq_ok (effect : CanonicalEffect φ) (sequence : Nat) :
    assessIfHigh unicode sha256 effect (systemRecord unicode sha256 effect sequence)
      (sequence + 1) = .ok (guardianReview unicode sha256 effect sequence) := by
  unfold assessIfHigh guardianReview
  by_cases high : (systemRecord unicode sha256 effect sequence).riskLevel = .high
  · have valid := systemRecord_valid unicode sha256 effect sequence
    rw [if_pos high, if_pos high]
    unfold guardianAssess
    rw [raiseIf_bind_of_not (fun other => other rfl), raiseIf_bind_of_not (fun other => other rfl),
      raiseIf_bind_of_not (not_not.mpr high),
      validated_eq_ok (guardianRecord_valid unicode sha256 valid _)]
    rfl
  · rw [if_neg high, if_neg high]

theorem buildGuardianDecision_eq_ok (effect : CanonicalEffect φ) (sequence : Nat)
    (mode : EnforcementMode) :
    buildGuardianDecision unicode sha256 effect (systemRecord unicode sha256 effect sequence) mode
      (sequence + 1) = .ok (reviewed unicode sha256 effect sequence mode) := by
  have valid := reviewed_valid unicode sha256 effect sequence mode
  unfold buildGuardianDecision
  rw [raiseIf_bind_of_not (fun other => other rfl), raiseIf_bind_of_not (fun other => other rfl),
    assessIfHigh_eq_ok, ok_bind]
  exact raiseIf_bind_of_not (not_not.mpr valid) _ _

variable {decision : GuardianDecision}

theorem reasons_sortedUnique (valid : decision.Valid φ sha256) :
    SortedUnique decision.reasons := by
  apply sortedUnique_sortedSet
  apply nonempty_append valid.1.1.1
  cases review : decision.guardianAssessment with
  | none => exact fun reason member => absurd member List.not_mem_nil
  | some guardian =>
      have ⟨guardianValid, _⟩ := valid.2.2.2.2.1 guardian review
      exact guardianValid.1.1

/-! ### The gate's decision -/

def gateDisclosure (effect : CanonicalEffect φ) (sequence expires : Nat) (mode : EnforcementMode) :
    Option (ApprovalDisclosure φ) :=
  let decision := reviewed unicode sha256 effect sequence mode
  if decision.disposition = .approvalRequired
  then some (disclosureValues sha256 effect decision expires)
  else none

def gateDecision (effect : CanonicalEffect φ) (sequence expires : Nat) (mode : EnforcementMode) :
    SafetyDecision φ :=
  safetyValues sha256 effect (reviewed unicode sha256 effect sequence mode)
    (gateDisclosure unicode sha256 effect sequence expires mode)

theorem disclosureValues_valid_iff (valid : decision.Valid φ sha256) (expires : Nat) :
    (disclosureValues sha256 effect decision expires).Valid ↔ effect.recoveryPlan ≠ "" := by
  constructor
  · exact fun accepted => accepted.2.2.2.2
  · intro planned
    exact ⟨effect.argumentsFinite, effect.targetNonempty, effect.scopeSorted,
      reasons_sortedUnique sha256 valid, planned⟩

variable {sequence expires : Nat} {mode : EnforcementMode}

theorem gateDecision_valid
    (planned : (systemRecord unicode sha256 effect sequence).disposition = .approvalRequired →
      effect.recoveryPlan ≠ "") :
    (gateDecision unicode sha256 effect sequence expires mode).Valid sha256 := by
  have valid := reviewed_valid unicode sha256 effect sequence mode
  have same := reviewed_disposition unicode sha256 effect sequence mode
  refine ⟨valid, rfl, rfl, decide_eq_true_iff, ?_, ?_,
    (SafetyDecision.digest_with sha256 _ _).symm⟩
  · change (gateDisclosure unicode sha256 effect sequence expires mode).isSome = true ↔
      (reviewed unicode sha256 effect sequence mode).disposition = .approvalRequired
    unfold gateDisclosure
    by_cases required :
        (reviewed unicode sha256 effect sequence mode).disposition = .approvalRequired
    · simp [required]
    · simp [required]
  · intro disclosure present
    change disclosure ∈ gateDisclosure unicode sha256 effect sequence expires mode at present
    unfold gateDisclosure at present
    simp only at present
    split at present
    · next required =>
        obtain rfl := Option.mem_some_iff.mp present
        rw [same] at required
        exact ⟨(disclosureValues_valid_iff sha256 valid expires).mpr (planned required), rfl,
          equalDocuments_self effect.argumentsFinite, rfl, rfl, rfl, rfl⟩
    · cases present

theorem evaluateEffectSafety_eq_ok (later : sequence < expires)
    (planned : (systemRecord unicode sha256 effect sequence).disposition = .approvalRequired →
      effect.recoveryPlan ≠ "") (mode : EnforcementMode) :
    evaluateEffectSafety unicode sha256 effect sequence expires mode =
      .ok (gateDecision unicode sha256 effect sequence expires mode) := by
  have valid := reviewed_valid unicode sha256 effect sequence mode
  have same := reviewed_disposition unicode sha256 effect sequence mode
  have disclosed : discloseApproval sha256 effect (reviewed unicode sha256 effect sequence mode)
      sequence expires = .ok (gateDisclosure unicode sha256 effect sequence expires mode) := by
    unfold discloseApproval gateDisclosure
    by_cases required :
        (reviewed unicode sha256 effect sequence mode).disposition = .approvalRequired
    · have accepted : (disclosureValues sha256 effect
          (reviewed unicode sha256 effect sequence mode) expires).Valid :=
        (disclosureValues_valid_iff sha256 valid expires).mpr (planned (same ▸ required))
      rw [if_pos required, if_pos required, raiseIf_bind_of_not (Nat.not_le.mpr later),
        raiseIf_bind_of_not (not_not.mpr accepted)]
      rfl
    · rw [if_neg required, if_neg required]
  unfold evaluateEffectSafety systemAssess
  rw [validated_eq_ok (systemRecord_valid unicode sha256 effect sequence), ok_bind,
    buildGuardianDecision_eq_ok, ok_bind, disclosed, ok_bind]
  exact raiseIf_bind_of_not (not_not.mpr (gateDecision_valid unicode sha256 planned)) _ _

variable {decision : SafetyDecision φ}

/-- Whatever the gate returns is its decision, and valid. -/
theorem gateDecision_of_evaluated
    (evaluated : evaluateEffectSafety unicode sha256 effect sequence expires mode = .ok decision) :
    decision = gateDecision unicode sha256 effect sequence expires mode ∧
      decision.Valid sha256 := by
  unfold evaluateEffectSafety systemAssess at evaluated
  rw [validated_eq_ok (systemRecord_valid unicode sha256 effect sequence), ok_bind,
    buildGuardianDecision_eq_ok, ok_bind] at evaluated
  obtain ⟨disclosure, disclosed, built⟩ := (bind_eq_ok _ _ _).mp evaluated
  obtain ⟨valid, returned⟩ := (raiseIf_bind_eq_ok _ _ _ _).mp built
  cases returned
  have same : disclosure = gateDisclosure unicode sha256 effect sequence expires mode := by
    unfold discloseApproval at disclosed
    unfold gateDisclosure
    by_cases required :
        (reviewed unicode sha256 effect sequence mode).disposition = .approvalRequired
    · rw [if_pos required] at disclosed
      obtain ⟨_, disclosed⟩ := (raiseIf_bind_eq_ok _ _ _ _).mp disclosed
      obtain ⟨_, disclosed⟩ := (raiseIf_bind_eq_ok _ _ _ _).mp disclosed
      cases disclosed
      rw [if_pos required]
    · rw [if_neg required] at disclosed
      cases disclosed
      rw [if_neg required]
  subst same
  exact ⟨rfl, not_not.mp valid⟩

/-- The verdict of the gate is the disposition of its first stage. -/
theorem verdict_of_evaluated
    (evaluated : evaluateEffectSafety unicode sha256 effect sequence expires mode = .ok decision) :
    decision.verdict = (systemRecord unicode sha256 effect sequence).disposition := by
  rw [(gateDecision_of_evaluated unicode sha256 evaluated).1]
  exact reviewed_disposition unicode sha256 effect sequence mode

theorem systemRecord_deny_iff (effect : CanonicalEffect φ) (sequence : Nat) :
    (systemRecord unicode sha256 effect sequence).disposition = .deny ↔
      effect.operation ∉ knownOperations ∨ mandatoryRuleMatches unicode effect ≠ [] := by
  have free : ruleConstraints unicode effect = [] ↔ _ := ruleConstraints_eq_nil_iff unicode
  rcases systemRecord_cases unicode sha256 effect sequence with
    ⟨constrained, _, deny⟩ | ⟨none, _, _, approval⟩ | ⟨none, _, _, allow⟩
  · refine iff_of_true deny ?_
    by_cases known : effect.operation ∈ knownOperations
    · exact .inr fun noMatch => constrained (free.mpr ⟨noMatch, known⟩)
    · exact .inl known
  · have ⟨noMatch, known⟩ := free.mp none
    exact iff_of_false (by rw [approval]; nofun) (not_or.mpr ⟨not_not.mpr known, not_not.mpr noMatch⟩)
  · have ⟨noMatch, known⟩ := free.mp none
    exact iff_of_false (by rw [allow]; nofun) (not_or.mpr ⟨not_not.mpr known, not_not.mpr noMatch⟩)

end Gate

/-! ### Effects without a plan -/

namespace Sample

def byteTotal (bytes : Bytes) : Digest := BitVec.ofNat 256 bytes.length

/-- An effect of the sample task. -/
def effectOf (operation plan : String) (arguments : List (String × Json Empty))
    (named : operation ≠ "") (finite : (Json.dict arguments).finite = true) :
    CanonicalEffect Empty where
  effectId := "effect-1"
  operation := operation
  finalArguments := arguments
  target := "workspace/main"
  affectedScope := ["project:p", "task:t"]
  projectId := "p"
  taskId := "t"
  workspaceCheckpointSha256 := 0
  policySha256 := 0
  reversibility := "REVERSIBLE"
  recoveryPlan := plan
  effectIdNonempty := by decide
  operationNonempty := named
  targetNonempty := by decide
  projectNonempty := by decide
  taskNonempty := by decide
  reversibilityNonempty := by decide
  argumentsFinite := finite
  scopeSorted := by decide

end Sample

end EgoAgent.Bridge
