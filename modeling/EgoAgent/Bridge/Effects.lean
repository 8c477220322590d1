import EgoAgent.Lib.SortedSet
import EgoAgent.SecureMemory.Canonical

/-!
The contracts of the safety gate: effects, assessments and decisions.

A digest field is a digest, so its text is well formed.  `Valid` is what the model
validators ask of its fields; `core` is the document a digest is of.
-/

namespace EgoAgent.Bridge

open EgoAgent.Api EgoAgent.SecureMemory

/-! ### Enumerations -/

inductive RiskLevel where
  | low
  | medium
  | high
  deriving DecidableEq

def RiskLevel.rank : RiskLevel → Nat
  | .low => 0
  | .medium => 1
  | .high => 2

def RiskLevel.text : RiskLevel → String
  | .low => "LOW"
  | .medium => "MEDIUM"
  | .high => "HIGH"

inductive RiskStage where
  | system
  | guardian
  deriving DecidableEq

def RiskStage.text : RiskStage → String
  | .system => "SYSTEM"
  | .guardian => "GUARDIAN"

inductive EnforcementMode where
  | counterfactual
  | enforcing
  deriving DecidableEq

def EnforcementMode.text : EnforcementMode → String
  | .counterfactual => "COUNTERFACTUAL"
  | .enforcing => "ENFORCING"

/-- `RiskDisposition` and `SafetyVerdict`, which have the same values. -/
inductive Verdict where
  | allow
  | approvalRequired
  | deny
  deriving DecidableEq

def Verdict.rank : Verdict → Nat
  | .allow => 0
  | .approvalRequired => 1
  | .deny => 2

def Verdict.text : Verdict → String
  | .allow => "ALLOW"
  | .approvalRequired => "APPROVAL_REQUIRED"
  | .deny => "DENY"

/-! ### Equality of documents -/

/-- Floating-point numbers as far as `==` looks at them. -/
class FloatEquality (φ : Type) extends FloatText φ where
  equals : φ → φ → Bool
  equalsInt : φ → Int → Bool
  equals_self : ∀ number, FloatText.isFinite number = true → equals number number = true

instance : FloatEquality Empty where
  equals number := nomatch number
  equalsInt number := nomatch number
  equals_self number := nomatch number

section Equality

variable {φ : Type} [FloatEquality φ]

open FloatEquality

/-- A truth value is the number zero or one. -/
def equalNumbers : Json φ → Json φ → Bool
  | .bool left, .bool right => left = right
  | .bool left, .int right | .int right, .bool left => right = left.toNat
  | .bool left, .float right | .float right, .bool left => equalsInt right left.toNat
  | .int left, .int right => left = right
  | .int left, .float right | .float right, .int left => equalsInt right left
  | .float left, .float right => equals left right
  | _, _ => false

mutual

def sameDocument : Json φ → Json φ → Bool
  | .null, .null => true
  | .str left, .str right => left = right
  | .list left, .list right => sameItems left right
  | .dict left, .dict right => sameMembers left right
  | left, right => equalNumbers left right

def sameItems : List (Json φ) → List (Json φ) → Bool
  | [], [] => true
  | left :: leftRest, right :: rightRest =>
      sameDocument left right && sameItems leftRest rightRest
  | _, _ => false

def sameMembers : List (String × Json φ) → List (String × Json φ) → Bool
  | [], [] => true
  | (leftKey, left) :: leftRest, (rightKey, right) :: rightRest =>
      leftKey = rightKey && sameDocument left right && sameMembers leftRest rightRest
  | _, _ => false

end

/-- `==` of documents, which does not look at the order of keys. -/
def equalDocuments (left right : Json φ) : Bool := sameDocument left.sorted right.sorted

theorem finiteMembers_iff {members : List (String × Json φ)} :
    finiteMembers members = true ↔ ∀ entry ∈ members, entry.2.finite = true := by
  induction members with
  | nil => exact iff_of_true rfl fun _ member => absurd member List.not_mem_nil
  | cons entry rest ih => rw [finiteMembers, Bool.and_eq_true, List.forall_mem_cons, ih]

mutual

theorem Json.finite_sorted {value : Json φ} (finite : value.finite = true) :
    value.sorted.finite = true := by
  cases value with
  | list items => exact finite_sortedItems finite
  | dict members =>
      apply finiteMembers_iff.mpr
      intro entry member
      have unsorted := (sortMembers_perm (sortedMembers members)).mem_iff.mp member
      exact finiteMembers_iff.mp (finite_sortedMembers finite) entry unsorted
  | null => exact finite
  | bool flag => exact finite
  | int number => exact finite
  | float number => exact finite
  | str text => exact finite

theorem finite_sortedItems {items : List (Json φ)} (finite : finiteItems items = true) :
    finiteItems (sortedItems items) = true := by
  cases items with
  | nil => rfl
  | cons item rest =>
      have ⟨head, tail⟩ := (Bool.and_eq_true _ _).mp finite
      exact (Bool.and_eq_true _ _).mpr ⟨Json.finite_sorted head, finite_sortedItems tail⟩

theorem finite_sortedMembers {members : List (String × Json φ)}
    (finite : finiteMembers members = true) : finiteMembers (sortedMembers members) = true := by
  match members, finite with
  | [], _ => rfl
  | (key, value) :: rest, finite =>
      have ⟨head, tail⟩ := (Bool.and_eq_true _ _).mp finite
      exact (Bool.and_eq_true _ _).mpr ⟨Json.finite_sorted head, finite_sortedMembers tail⟩

end

mutual

theorem sameDocument_self {value : Json φ} (finite : value.finite = true) :
    sameDocument value value = true := by
  cases value with
  | list items => exact sameItems_self finite
  | dict members => exact sameMembers_self finite
  | null => rfl
  | bool flag => exact decide_eq_true rfl
  | int number => exact decide_eq_true rfl
  | float number => exact equals_self number finite
  | str text => exact decide_eq_true rfl

theorem sameItems_self {items : List (Json φ)} (finite : finiteItems items = true) :
    sameItems items items = true := by
  cases items with
  | nil => rfl
  | cons item rest =>
      have ⟨head, tail⟩ := (Bool.and_eq_true _ _).mp finite
      exact (Bool.and_eq_true _ _).mpr ⟨sameDocument_self head, sameItems_self tail⟩

theorem sameMembers_self {members : List (String × Json φ)}
    (finite : finiteMembers members = true) : sameMembers members members = true := by
  match members, finite with
  | [], _ => rfl
  | (key, value) :: rest, finite =>
      have ⟨head, tail⟩ := (Bool.and_eq_true _ _).mp finite
      rw [sameMembers, decide_eq_true rfl, Bool.true_and, sameDocument_self head,
        sameMembers_self tail, Bool.and_self]

end

/-- A finite document equals itself; one with a number that is not may not. -/
theorem equalDocuments_self {value : Json φ} (finite : value.finite = true) :
    equalDocuments value value = true :=
  sameDocument_self (Json.finite_sorted finite)

end Equality

/-! ### Models -/

/-- `_validate_sorted_unique`. -/
abbrev SortedUnique (values : List String) : Prop :=
  (∀ value ∈ values, value ≠ "") ∧ values.Pairwise (· < ·)

def textList {φ : Type} (values : List String) : Json φ := .list (values.map .str)

/-- A `CanonicalEffect` its model accepts; its digest is `effectSha256`. -/
structure CanonicalEffect (φ : Type) [FloatText φ] where
  effectId : String
  operation : String
  finalArguments : List (String × Json φ)
  target : String
  affectedScope : List String
  projectId : String
  taskId : String
  workspaceCheckpointSha256 : Digest
  policySha256 : Digest
  reversibility : String
  recoveryPlan : String
  effectIdNonempty : effectId ≠ ""
  operationNonempty : operation ≠ ""
  targetNonempty : target ≠ ""
  projectNonempty : projectId ≠ ""
  taskNonempty : taskId ≠ ""
  reversibilityNonempty : reversibility ≠ ""
  argumentsFinite : (Json.dict finalArguments).finite = true
  scopeSorted : SortedUnique affectedScope

structure RiskAssessment where
  effectSha256 : Digest
  stage : RiskStage
  riskLevel : RiskLevel
  disposition : Verdict
  reasonCodes : List String
  mandatoryConstraintIds : List String
  ruleVersion : String
  ruleSha256 : Digest
  sequence : Nat
  deriving DecidableEq

structure GuardianDecision where
  effectSha256 : Digest
  systemAssessment : RiskAssessment
  guardianAssessment : Option RiskAssessment
  enforcementMode : EnforcementMode
  disposition : Verdict
  decisionSha256 : Digest

structure ApprovalDisclosure (φ : Type) where
  effectSha256 : Digest
  safeArguments : List (String × Json φ)
  target : String
  affectedScope : List String
  reasonCodes : List String
  recoveryPlan : String
  expiresAtSequence : Nat

structure SafetyDecision (φ : Type) [FloatText φ] where
  effect : CanonicalEffect φ
  guardianDecision : GuardianDecision
  verdict : Verdict
  approvalPending : Bool
  approvalDisclosure : Option (ApprovalDisclosure φ)
  decisionSha256 : Digest

/-! ### Documents and digests -/

section Documents

variable {φ : Type} [FloatEquality φ] (sha256 : Bytes → Digest)

def CanonicalEffect.core (effect : CanonicalEffect φ) : List (String × Json φ) :=
  [("schema_version", .str "agentteams-canonical-effect/v1"), ("effect_id", .str effect.effectId),
    ("operation", .str effect.operation), ("final_arguments", .dict effect.finalArguments),
    ("target", .str effect.target), ("affected_scope", textList effect.affectedScope),
    ("project_id", .str effect.projectId), ("task_id", .str effect.taskId),
    ("workspace_checkpoint_sha256", digestText effect.workspaceCheckpointSha256),
    ("policy_sha256", digestText effect.policySha256),
    ("reversibility", .str effect.reversibility), ("recovery_plan", .str effect.recoveryPlan)]

def CanonicalEffect.effectSha256 (effect : CanonicalEffect φ) : Digest :=
  domainDigest sha256 "agentteams-canonical-effect" (.dict effect.core)

def CanonicalEffect.json (effect : CanonicalEffect φ) : Json φ :=
  .dict (effect.core ++ [("effect_sha256", digestText (effect.effectSha256 sha256))])

def RiskAssessment.json (assessment : RiskAssessment) : Json φ := .dict
  [("schema_version", .str "agentteams-risk-assessment/v1"),
    ("effect_sha256", digestText assessment.effectSha256),
    ("stage", .str assessment.stage.text), ("risk_level", .str assessment.riskLevel.text),
    ("disposition", .str assessment.disposition.text),
    ("reason_codes", textList assessment.reasonCodes),
    ("mandatory_constraint_ids", textList assessment.mandatoryConstraintIds),
    ("rule_version", .str assessment.ruleVersion),
    ("rule_sha256", digestText assessment.ruleSha256), ("sequence", .int assessment.sequence)]

def GuardianDecision.core (decision : GuardianDecision) : List (String × Json φ) :=
  [("schema_version", .str "agentteams-guardian-decision/v1"),
    ("effect_sha256", digestText decision.effectSha256),
    ("system_assessment", decision.systemAssessment.json),
    ("guardian_assessment",
      match decision.guardianAssessment with
      | some assessment => assessment.json
      | none => .null),
    ("enforcement_mode", .str decision.enforcementMode.text),
    ("disposition", .str decision.disposition.text)]

def GuardianDecision.digest (decision : GuardianDecision) : Digest :=
  domainDigest sha256 "agentteams-guardian-decision" (.dict decision.core : Json φ)

/-- The digest of a decision is not part of what it is of. -/
theorem GuardianDecision.digest_with (decision : GuardianDecision) (digest : Digest) :
    GuardianDecision.digest (φ := φ) sha256 { decision with decisionSha256 := digest } =
      decision.digest (φ := φ) sha256 := rfl

def GuardianDecision.json (decision : GuardianDecision) : Json φ :=
  .dict (decision.core ++ [("decision_sha256", digestText decision.decisionSha256)])

def ApprovalDisclosure.json (disclosure : ApprovalDisclosure φ) : Json φ := .dict
  [("schema_version", .str "agentteams-approval-disclosure/v1"),
    ("effect_sha256", digestText disclosure.effectSha256),
    ("safe_arguments", .dict disclosure.safeArguments), ("target", .str disclosure.target),
    ("affected_scope", textList disclosure.affectedScope),
    ("reason_codes", textList disclosure.reasonCodes),
    ("recovery_plan", .str disclosure.recoveryPlan),
    ("expires_at_sequence", .int disclosure.expiresAtSequence),
    ("allowed_responses", textList ["APPROVE", "DENY"])]

def SafetyDecision.core (decision : SafetyDecision φ) : List (String × Json φ) :=
  [("schema_version", .str "agentteams-safety-decision/v1"),
    ("effect", decision.effect.json sha256),
    ("guardian_decision", decision.guardianDecision.json),
    ("verdict", .str decision.verdict.text), ("approval_pending", .bool decision.approvalPending),
    ("approval_disclosure",
      match decision.approvalDisclosure with
      | some disclosure => disclosure.json
      | none => .null)]

def SafetyDecision.digest (decision : SafetyDecision φ) : Digest :=
  domainDigest sha256 "agentteams-safety-decision" (.dict (decision.core sha256))

theorem SafetyDecision.digest_with (decision : SafetyDecision φ) (digest : Digest) :
    SafetyDecision.digest sha256 { decision with decisionSha256 := digest } =
      decision.digest sha256 := rfl

def SafetyDecision.json (decision : SafetyDecision φ) : Json φ :=
  .dict (decision.core sha256 ++ [("decision_sha256", digestText decision.decisionSha256)])

/-! ### Validators -/

/-- `validate_sorted_ids` and the field bounds of `RiskAssessment`. -/
abbrev RiskAssessment.Valid (assessment : RiskAssessment) : Prop :=
  SortedUnique assessment.reasonCodes ∧ SortedUnique assessment.mandatoryConstraintIds ∧
    assessment.ruleVersion ≠ ""

/-- What `validate_guardian_decision` asks of a guardian assessment. -/
abbrev RiskAssessment.Upholds (guardian system : RiskAssessment) : Prop :=
  guardian.stage = .guardian ∧ guardian.effectSha256 = system.effectSha256 ∧
    (∀ constraint ∈ system.mandatoryConstraintIds,
      constraint ∈ guardian.mandatoryConstraintIds) ∧
    system.riskLevel.rank ≤ guardian.riskLevel.rank ∧
    system.disposition.rank ≤ guardian.disposition.rank

def GuardianDecision.effective (decision : GuardianDecision) : RiskAssessment :=
  decision.guardianAssessment.getD decision.systemAssessment

variable (φ) in
/-- The validators of `GuardianDecision` and of the assessments in it. -/
abbrev GuardianDecision.Valid (decision : GuardianDecision) : Prop :=
  decision.systemAssessment.Valid ∧ decision.systemAssessment.stage = .system ∧
    decision.systemAssessment.effectSha256 = decision.effectSha256 ∧
    (decision.systemAssessment.riskLevel = .high ↔ decision.guardianAssessment.isSome = true) ∧
    (∀ guardian ∈ decision.guardianAssessment,
      guardian.Valid ∧ guardian.Upholds decision.systemAssessment) ∧
    decision.disposition = decision.effective.disposition ∧
    decision.decisionSha256 = decision.digest (φ := φ) sha256

/-- The reasons of every assessment of a decision. -/
def GuardianDecision.reasons (decision : GuardianDecision) : List String :=
  sortedSet (decision.systemAssessment.reasonCodes ++
    (decision.guardianAssessment.map RiskAssessment.reasonCodes).getD [])

/-- The field validators of `ApprovalDisclosure`. -/
abbrev ApprovalDisclosure.Valid (disclosure : ApprovalDisclosure φ) : Prop :=
  (Json.dict disclosure.safeArguments).finite = true ∧ disclosure.target ≠ "" ∧
    SortedUnique disclosure.affectedScope ∧ SortedUnique disclosure.reasonCodes ∧
    disclosure.recoveryPlan ≠ ""

/-- `_validate_disclosure`. -/
abbrev ApprovalDisclosure.Repeats (disclosure : ApprovalDisclosure φ)
    (effect : CanonicalEffect φ) (guardian : GuardianDecision) : Prop :=
  disclosure.effectSha256 = effect.effectSha256 sha256 ∧
    equalDocuments (.dict disclosure.safeArguments) (.dict effect.finalArguments) = true ∧
    disclosure.target = effect.target ∧ disclosure.affectedScope = effect.affectedScope ∧
    disclosure.recoveryPlan = effect.recoveryPlan ∧ disclosure.reasonCodes = guardian.reasons

/-- The validators of `SafetyDecision` and of the models in it. -/
abbrev SafetyDecision.Valid (decision : SafetyDecision φ) : Prop :=
  decision.guardianDecision.Valid φ sha256 ∧
    decision.guardianDecision.effectSha256 = decision.effect.effectSha256 sha256 ∧
    decision.verdict = decision.guardianDecision.disposition ∧
    (decision.approvalPending = true ↔ decision.verdict = .approvalRequired) ∧
    (decision.approvalDisclosure.isSome = true ↔ decision.verdict = .approvalRequired) ∧
    (∀ disclosure ∈ decision.approvalDisclosure, disclosure.Valid ∧
      disclosure.Repeats sha256 decision.effect decision.guardianDecision) ∧
    decision.decisionSha256 = decision.digest sha256

end Documents

end EgoAgent.Bridge
