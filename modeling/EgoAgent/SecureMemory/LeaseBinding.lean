import EgoAgent.SecureMemory.Budget

/-!
Task leases and the campaign binding that is rebuilt from them.

`validateTaskLeaseCore` (the benchmark's rules) and `validateOwnerBinding` (the
envelope's) are two tables over the eleven phase owners.  `authoritative` is the
table that both are meant to say: what each owner's fields have to be, from the
manifest, the authoritative arguments and the sentinels alone.
-/

namespace EgoAgent.SecureMemory

open EgoAgent.Api

/-! ### The fields of a lease and of a binding -/

/-- The twelve fields that a `CampaignBinding` copies from a `SignedTaskLeaseCore`. -/
structure LeaseFields where
  campaignId : String
  configurationId : Option Configuration
  executionPhaseOwner : PhaseOwner
  problemId : String
  turn : Int
  generation : Int
  manifestSha256 : String
  postSelectionExtensionSha256 : Option String
  policySha256 : String
  requirementLedgerSha256 : String
  workspaceCheckpointSha256 : String
  memoryWatermark : Int
  deriving DecidableEq

abbrev DigestText (text : String) : Prop := Gateway.isSha256 text = true

/-- The field constraints, the same in both models. -/
structure LeaseFields.WellTyped (fields : LeaseFields) : Prop where
  campaignId : fields.campaignId ≠ ""
  problemId : fields.problemId ≠ ""
  turn : 1 ≤ fields.turn ∧ fields.turn ≤ 5
  generation : 1 ≤ fields.generation
  manifestSha256 : DigestText fields.manifestSha256
  postSelectionExtensionSha256 : ∀ digest ∈ fields.postSelectionExtensionSha256, DigestText digest
  policySha256 : DigestText fields.policySha256
  requirementLedgerSha256 : DigestText fields.requirementLedgerSha256
  workspaceCheckpointSha256 : DigestText fields.workspaceCheckpointSha256
  memoryWatermark : 0 ≤ fields.memoryWatermark

/-- `SignedTaskLeaseCore`, without the fields that neither table reads. -/
structure SignedTaskLeaseCore extends LeaseFields where
  wellTyped : toLeaseFields.WellTyped

/-- `RunManifest`: of its core the fields that the rules read. -/
structure RunManifest where
  campaignId : String
  manifestSha256 : String
  effectPolicyBundleSha256 : String
  arms : List Configuration
  providerQualificationMatrixSha256 : String
  exactArms : arms = [.a, .b, .c, .d, .e]

/-- The keyword arguments of both functions. -/
structure AuthoritativeContext where
  releasedProblemId : Option String
  releasedTurn : Option Int
  releasedGeneration : Option Int
  currentRequirementLedgerSha256 : Option String
  currentWorkspaceCheckpointSha256 : Option String
  currentMemoryWatermark : Option Int
  verifiedPostSelectionExtensionSha256 : Option String
  selectedOriginalConfigurationId : Option Configuration
  qualificationCaseIndex : Option Int
  optimizerInputSha256 : Option String
  optimizerProposalIndex : Option Int
  gpuSelectedConfigurationId : Option Configuration
  gpuAuthorizationCoreSha256 : Option String

/-! ### The rules of a lease -/

def noWorkspaceCheckpointSha256 (sha256 : Bytes → Digest) : String :=
  (domainDigest (φ := Empty) sha256 "absence"
    (.dict [("schema_version", .str "absence/v1"), ("kind", .str "workspace_checkpoint")])).labelled
    ""

/-- `_require_equal`. -/
def requireEqual {α : Type} [DecidableEq α] (actual expected : Option α) (fieldName : String) :
    Except String Unit :=
  raiseIf (expected = none ∨ actual ≠ expected)
    ("lease " ++ fieldName ++ " does not match the authoritative value")

def isReserved (problemId : String) : Bool := "__".toList.isPrefixOf problemId.toList

def validateReleasedProblem (core : LeaseFields) (context : AuthoritativeContext) :
    Except String Unit := do
  raiseIf (isReserved core.problemId = true) "measured lease requires a real problem ID"
  requireEqual (some core.problemId) context.releasedProblemId "problem_id"
  requireEqual (some core.turn) context.releasedTurn "turn"
  requireEqual (some core.generation) context.releasedGeneration "generation"
  requireEqual (some core.requirementLedgerSha256) context.currentRequirementLedgerSha256
    "requirement_ledger_sha256"
  requireEqual (some core.workspaceCheckpointSha256) context.currentWorkspaceCheckpointSha256
    "workspace_checkpoint_sha256"
  requireEqual (some core.memoryWatermark) context.currentMemoryWatermark "memory_watermark"

def initialOwners : List PhaseOwner := [.a, .b, .c, .d, .e]

def postSelectionOwners : List PhaseOwner := [.f, .winnerSealed, .fSealed]

def originalConfigurations : List (Option Configuration) := [some .c, some .d, some .e]

def gpuConfigurations : List (Option Configuration) := [some .c, some .d, some .e, some .f]

variable (sha256 : Bytes → Digest)

/-- The configuration that a selection leaves to the owner. -/
def validateSelectedConfiguration (core : LeaseFields) (context : AuthoritativeContext) :
    Except String Unit :=
  if core.executionPhaseOwner = .f ∨ core.executionPhaseOwner = .fSealed then
    raiseIf (core.configurationId ≠ some .f) "F and F_SEALED owners require configuration F"
  else do
    raiseIf (context.selectedOriginalConfigurationId ∉ originalConfigurations)
      "WINNER_SEALED requires a selected original C/D/E winner"
    requireEqual core.configurationId context.selectedOriginalConfigurationId "configuration_id"

/-- The branches of `validate_task_lease_core`. -/
def validateLeaseOwner (core : LeaseFields) (manifest : RunManifest)
    (context : AuthoritativeContext) : Except String Unit :=
  if core.executionPhaseOwner ∈ initialOwners then do
    raiseIf (core.configurationId.map Configuration.value ≠ some core.executionPhaseOwner.value)
      "initial owner must match configuration_id"
    raiseIf (∀ configuration ∈ core.configurationId, configuration ∉ manifest.arms)
      "initial configuration must be present in the A-E manifest"
    raiseIf (core.postSelectionExtensionSha256 ≠ none)
      "initial A-E lease cannot bind a post-selection extension"
    validateReleasedProblem core context
  else if core.executionPhaseOwner ∈ postSelectionOwners then do
    requireEqual core.postSelectionExtensionSha256 context.verifiedPostSelectionExtensionSha256
      "post_selection_extension_sha256"
    validateSelectedConfiguration core context
    validateReleasedProblem core context
  else if core.executionPhaseOwner = .qualification then
    raiseIf (¬ (core.configurationId = none ∧ core.postSelectionExtensionSha256 = none ∧
        core.problemId = "__qualification__" ∧ core.turn = 1 ∧
        (1 ≤ core.generation ∧ core.generation ≤ 16) ∧
        (∃ index ∈ context.qualificationCaseIndex,
          (1 ≤ index ∧ index ≤ 16) ∧ core.generation = index) ∧
        core.requirementLedgerSha256 = manifest.providerQualificationMatrixSha256 ∧
        core.workspaceCheckpointSha256 = noWorkspaceCheckpointSha256 sha256 ∧
        core.memoryWatermark = 0))
      "qualification lease sentinel fields do not match the frozen contract"
  else if core.executionPhaseOwner = .optimizer then
    raiseIf (¬ (core.configurationId = none ∧ core.postSelectionExtensionSha256 = none ∧
        core.problemId = "__optimizer__" ∧ core.turn = 1 ∧
        (1 ≤ core.generation ∧ core.generation ≤ 6) ∧
        (∃ index ∈ context.optimizerProposalIndex,
          (1 ≤ index ∧ index ≤ 6) ∧ core.generation = index) ∧
        context.optimizerInputSha256 ≠ none ∧
        some core.requirementLedgerSha256 = context.optimizerInputSha256 ∧
        core.workspaceCheckpointSha256 = noWorkspaceCheckpointSha256 sha256 ∧
        core.memoryWatermark = 0))
      "optimizer lease sentinel fields do not match the stored optimizer input"
  else do
    raiseIf (context.gpuSelectedConfigurationId ∉ gpuConfigurations)
      "GPU_DEMO requires a selected C/D/E/F configuration"
    raiseIf (¬ (core.configurationId = context.gpuSelectedConfigurationId ∧
        core.problemId = "__gpu_demo__" ∧ core.turn = 1 ∧ core.generation = 1 ∧
        context.gpuAuthorizationCoreSha256 ≠ none ∧
        some core.requirementLedgerSha256 = context.gpuAuthorizationCoreSha256 ∧
        context.currentWorkspaceCheckpointSha256 ≠ none ∧
        some core.workspaceCheckpointSha256 = context.currentWorkspaceCheckpointSha256 ∧
        context.currentMemoryWatermark ≠ none ∧
        some core.memoryWatermark = context.currentMemoryWatermark ∧
        (if context.gpuSelectedConfigurationId = some .f then
          context.verifiedPostSelectionExtensionSha256 ≠ none ∧
            core.postSelectionExtensionSha256 = context.verifiedPostSelectionExtensionSha256
        else core.postSelectionExtensionSha256 = none)))
      "GPU_DEMO lease fields do not match the signed lane authorization"

def validateTaskLeaseCore (core : SignedTaskLeaseCore) (manifest : RunManifest)
    (context : AuthoritativeContext) : Except String SignedTaskLeaseCore := do
  requireEqual (some core.campaignId) (some manifest.campaignId) "campaign_id"
  requireEqual (some core.manifestSha256) (some manifest.manifestSha256) "manifest_sha256"
  requireEqual (some core.policySha256) (some manifest.effectPolicyBundleSha256) "policy_sha256"
  validateLeaseOwner sha256 core.toLeaseFields manifest context
  return core

/-! ### The rules of a binding -/

def validateRealProblem (fields : LeaseFields) : Except String Unit :=
  raiseIf (isReserved fields.problemId = true) "measured campaign owner requires a real problem ID"

def validateOwnerBinding (fields : LeaseFields) : Except String Unit :=
  if fields.executionPhaseOwner ∈ initialOwners then do
    raiseIf (fields.configurationId.map Configuration.value ≠
        some fields.executionPhaseOwner.value)
      "initial execution phase owner must match configuration_id"
    raiseIf (fields.postSelectionExtensionSha256 ≠ none)
      "initial A-E owner forbids a post-selection extension"
    validateRealProblem fields
  else if fields.executionPhaseOwner = .f ∨ fields.executionPhaseOwner = .fSealed then do
    raiseIf (fields.configurationId ≠ some .f) "F and F_SEALED owners require configuration F"
    raiseIf (fields.postSelectionExtensionSha256 = none)
      "F and F_SEALED owners require a post-selection extension"
    validateRealProblem fields
  else if fields.executionPhaseOwner = .winnerSealed then do
    raiseIf (fields.configurationId ∉ originalConfigurations)
      "WINNER_SEALED requires configuration C, D, or E"
    raiseIf (fields.postSelectionExtensionSha256 = none)
      "WINNER_SEALED requires a post-selection extension"
    validateRealProblem fields
  else if fields.executionPhaseOwner = .qualification then
    raiseIf (¬ (fields.configurationId = none ∧ fields.postSelectionExtensionSha256 = none ∧
        fields.problemId = "__qualification__" ∧ fields.turn = 1 ∧
        (1 ≤ fields.generation ∧ fields.generation ≤ 16) ∧
        fields.workspaceCheckpointSha256 = noWorkspaceCheckpointSha256 sha256 ∧
        fields.memoryWatermark = 0))
      "qualification owner sentinel fields are invalid"
  else if fields.executionPhaseOwner = .optimizer then
    raiseIf (¬ (fields.configurationId = none ∧ fields.postSelectionExtensionSha256 = none ∧
        fields.problemId = "__optimizer__" ∧ fields.turn = 1 ∧
        (1 ≤ fields.generation ∧ fields.generation ≤ 6) ∧
        fields.workspaceCheckpointSha256 = noWorkspaceCheckpointSha256 sha256 ∧
        fields.memoryWatermark = 0))
      "optimizer owner sentinel fields are invalid"
  else do
    raiseIf (fields.configurationId ∉ gpuConfigurations)
      "GPU_DEMO requires configuration C, D, E, or F"
    raiseIf (¬ (fields.problemId = "__gpu_demo__" ∧ fields.turn = 1 ∧ fields.generation = 1 ∧
        (if fields.configurationId = some .f then fields.postSelectionExtensionSha256 ≠ none
        else fields.postSelectionExtensionSha256 = none)))
      "GPU_DEMO owner sentinel fields are invalid"

structure CampaignBinding extends LeaseFields where
  wellTyped : toLeaseFields.WellTyped
  ownerBinding : validateOwnerBinding sha256 toLeaseFields = .ok ()

/-- The field constraints of the constructor, which raises on the first that fails. -/
instance (fields : LeaseFields) : Decidable fields.WellTyped :=
  decidable_of_iff (fields.campaignId ≠ "" ∧ fields.problemId ≠ "" ∧
      (1 ≤ fields.turn ∧ fields.turn ≤ 5) ∧ 1 ≤ fields.generation ∧
      DigestText fields.manifestSha256 ∧
      (∀ digest ∈ fields.postSelectionExtensionSha256, DigestText digest) ∧
      DigestText fields.policySha256 ∧ DigestText fields.requirementLedgerSha256 ∧
      DigestText fields.workspaceCheckpointSha256 ∧ 0 ≤ fields.memoryWatermark)
    ⟨fun ⟨h₁, h₂, h₃, h₄, h₅, h₆, h₇, h₈, h₉, h₁₀⟩ => ⟨h₁, h₂, h₃, h₄, h₅, h₆, h₇, h₈, h₉, h₁₀⟩,
      fun ⟨h₁, h₂, h₃, h₄, h₅, h₆, h₇, h₈, h₉, h₁₀⟩ =>
        ⟨h₁, h₂, h₃, h₄, h₅, h₆, h₇, h₈, h₉, h₁₀⟩⟩

/-- `CampaignBinding(...)`: the constraints of the fields, then the rules of the owner. -/
def CampaignBinding.create (fields : LeaseFields) : Except String (CampaignBinding sha256) :=
  if wellTyped : fields.WellTyped then
    match ownerBinding : validateOwnerBinding sha256 fields with
    | .error message => .error message
    | .ok () => .ok ⟨fields, wellTyped, ownerBinding⟩
  else .error "the value of a field is outside its constraint"

/-- `reconstruct_from_already_signature_verified_core`. -/
def CampaignBinding.reconstruct (core : SignedTaskLeaseCore) (manifest : RunManifest)
    (context : AuthoritativeContext) : Except String (CampaignBinding sha256) := do
  let validated ← validateTaskLeaseCore sha256 core manifest context
  CampaignBinding.create sha256
    { campaignId := validated.campaignId
      configurationId := validated.configurationId
      executionPhaseOwner := validated.executionPhaseOwner
      problemId := validated.problemId
      turn := validated.turn
      generation := validated.generation
      manifestSha256 := validated.manifestSha256
      postSelectionExtensionSha256 := validated.postSelectionExtensionSha256
      policySha256 := validated.policySha256
      requirementLedgerSha256 := validated.requirementLedgerSha256
      workspaceCheckpointSha256 := validated.workspaceCheckpointSha256
      memoryWatermark := validated.memoryWatermark }

/-! ### What the owner's fields have to be -/

/-- The fields whose rule depends on the owner. -/
structure OwnerFields where
  problemId : String
  turn : Int
  generation : Int
  requirementLedgerSha256 : String
  workspaceCheckpointSha256 : String
  memoryWatermark : Int
  configurationId : Option Configuration
  postSelectionExtensionSha256 : Option String

def LeaseFields.owned (fields : LeaseFields) : OwnerFields where
  problemId := fields.problemId
  turn := fields.turn
  generation := fields.generation
  requirementLedgerSha256 := fields.requirementLedgerSha256
  workspaceCheckpointSha256 := fields.workspaceCheckpointSha256
  memoryWatermark := fields.memoryWatermark
  configurationId := fields.configurationId
  postSelectionExtensionSha256 := fields.postSelectionExtensionSha256

/-- What has been released to the owner of a real problem. -/
def released (context : AuthoritativeContext) (configurationId : Option Configuration)
    (extension : Option String) : Option OwnerFields := do
  return {
    problemId := ← context.releasedProblemId
    turn := ← context.releasedTurn
    generation := ← context.releasedGeneration
    requirementLedgerSha256 := ← context.currentRequirementLedgerSha256
    workspaceCheckpointSha256 := ← context.currentWorkspaceCheckpointSha256
    memoryWatermark := ← context.currentMemoryWatermark
    configurationId := configurationId
    postSelectionExtensionSha256 := extension }

/-- A stage before any workspace: a sentinel problem with its own counter and ledger. -/
def sentinel (problemId : String) (generation : Option Int) (ledger : Option String) :
    Option OwnerFields := do
  return {
    problemId := problemId
    turn := 1
    generation := ← generation
    requirementLedgerSha256 := ← ledger
    workspaceCheckpointSha256 := noWorkspaceCheckpointSha256 sha256
    memoryWatermark := 0
    configurationId := none
    postSelectionExtensionSha256 := none }

/-- Only configuration F runs with an extension. -/
def gpuExtension (context : AuthoritativeContext) (configuration : Configuration) :
    Option (Option String) :=
  if configuration = .f then context.verifiedPostSelectionExtensionSha256.map some else some none

/-- The one demonstration run, under its signed authorization. -/
def demonstration (context : AuthoritativeContext) : Option OwnerFields := do
  let configuration ← context.gpuSelectedConfigurationId
  return {
    problemId := "__gpu_demo__"
    turn := 1
    generation := 1
    requirementLedgerSha256 := ← context.gpuAuthorizationCoreSha256
    workspaceCheckpointSha256 := ← context.currentWorkspaceCheckpointSha256
    memoryWatermark := ← context.currentMemoryWatermark
    configurationId := some configuration
    postSelectionExtensionSha256 := ← gpuExtension context configuration }

/-- The owner-dependent fields by owner, without a look at the lease. -/
def authoritative (manifest : RunManifest) (context : AuthoritativeContext) :
    PhaseOwner → Option OwnerFields
  | .a => released context (some .a) none
  | .b => released context (some .b) none
  | .c => released context (some .c) none
  | .d => released context (some .d) none
  | .e => released context (some .e) none
  | .f | .fSealed => do
      let extension ← context.verifiedPostSelectionExtensionSha256
      released context (some .f) (some extension)
  | .winnerSealed => do
      let extension ← context.verifiedPostSelectionExtensionSha256
      let winner ← context.selectedOriginalConfigurationId
      released context (some winner) (some extension)
  | .qualification =>
      sentinel sha256 "__qualification__" context.qualificationCaseIndex
        (some manifest.providerQualificationMatrixSha256)
  | .optimizer =>
      sentinel sha256 "__optimizer__" context.optimizerProposalIndex context.optimizerInputSha256
  | .gpuDemo => demonstration context

/-! ### The two tables -/

theorem requireEqual_eq_ok {α : Type} [DecidableEq α] (actual expected : Option α)
    (fieldName : String) (done : Unit) :
    requireEqual actual expected fieldName = .ok done ↔ expected ≠ none ∧ actual = expected := by
  unfold requireEqual
  rw [raiseIf_eq_ok, not_or, not_not]

theorem requireEqual_some {α : Type} [DecidableEq α] (actual : α) (expected : Option α)
    (fieldName : String) (done : Unit) :
    requireEqual (some actual) expected fieldName = .ok done ↔ expected = some actual := by
  rw [requireEqual_eq_ok]
  constructor
  · rintro ⟨_, same⟩
    exact same.symm
  · intro same
    rw [same]
    exact ⟨Option.some_ne_none _, rfl⟩

theorem requireEqual_bind_eq_ok {α β : Type} [DecidableEq α] (actual : α) (expected : Option α)
    (fieldName : String) (next : Unit → Except String β) (result : β) :
    (requireEqual (some actual) expected fieldName >>= next) = .ok result ↔
      expected = some actual ∧ next () = .ok result := by
  rw [bind_eq_ok]
  constructor
  · rintro ⟨done, passed, computed⟩
    exact ⟨(requireEqual_some actual expected fieldName done).mp passed, computed⟩
  · rintro ⟨same, computed⟩
    exact ⟨(), (requireEqual_some actual expected fieldName ()).mpr same, computed⟩

theorem released_eq_some (context : AuthoritativeContext) (fields : LeaseFields)
    (configurationId : Option Configuration) (extension : Option String) :
    released context configurationId extension = some fields.owned ↔
      (context.releasedProblemId = some fields.problemId ∧
        context.releasedTurn = some fields.turn ∧
        context.releasedGeneration = some fields.generation ∧
        context.currentRequirementLedgerSha256 = some fields.requirementLedgerSha256 ∧
        context.currentWorkspaceCheckpointSha256 = some fields.workspaceCheckpointSha256 ∧
        context.currentMemoryWatermark = some fields.memoryWatermark) ∧
      configurationId = fields.configurationId ∧
        extension = fields.postSelectionExtensionSha256 := by
  unfold released LeaseFields.owned
  constructor
  · intro found
    simp only [Option.bind_eq_bind, Option.bind_eq_some_iff, Option.pure_def, Option.some.injEq,
      OwnerFields.mk.injEq] at found
    obtain ⟨_, h₁, _, h₂, _, h₃, _, h₄, _, h₅, _, h₆, rfl, rfl, rfl, rfl, rfl, rfl, h₇, h₈⟩ := found
    exact ⟨⟨h₁, h₂, h₃, h₄, h₅, h₆⟩, h₇, h₈⟩
  · rintro ⟨⟨h₁, h₂, h₃, h₄, h₅, h₆⟩, h₇, h₈⟩
    rw [h₁, h₂, h₃, h₄, h₅, h₆, h₇, h₈]
    rfl

theorem validateReleasedProblem_eq_ok (core : LeaseFields) (context : AuthoritativeContext)
    (done : Unit) :
    validateReleasedProblem core context = .ok done ↔
      isReserved core.problemId = false ∧
        released context core.configurationId core.postSelectionExtensionSha256 =
          some core.owned := by
  unfold validateReleasedProblem
  rw [raiseIf_bind_eq_ok, requireEqual_bind_eq_ok, requireEqual_bind_eq_ok,
    requireEqual_bind_eq_ok, requireEqual_bind_eq_ok, requireEqual_bind_eq_ok, requireEqual_some,
    released_eq_some, Bool.not_eq_true]
  tauto

theorem sentinel_eq_some (problemId : String) (generation : Option Int) (ledger : Option String)
    (fields : LeaseFields) :
    sentinel sha256 problemId generation ledger = some fields.owned ↔
      fields.problemId = problemId ∧ fields.turn = 1 ∧ generation = some fields.generation ∧
        ledger = some fields.requirementLedgerSha256 ∧
        fields.workspaceCheckpointSha256 = noWorkspaceCheckpointSha256 sha256 ∧
        fields.memoryWatermark = 0 ∧ fields.configurationId = none ∧
        fields.postSelectionExtensionSha256 = none := by
  unfold sentinel LeaseFields.owned
  constructor
  · intro found
    simp only [Option.bind_eq_bind, Option.bind_eq_some_iff, Option.pure_def, Option.some.injEq,
      OwnerFields.mk.injEq] at found
    obtain ⟨_, h₁, _, h₂, h₃, h₄, rfl, rfl, h₅, h₆, h₇, h₈⟩ := found
    exact ⟨h₃.symm, h₄.symm, h₁, h₂, h₅.symm, h₆.symm, h₇.symm, h₈.symm⟩
  · rintro ⟨h₁, h₂, h₃, h₄, h₅, h₆, h₇, h₈⟩
    rw [h₁, h₂, h₃, h₄, h₅, h₆, h₇, h₈]
    rfl

/-! ### The two tables agree -/

/-- An initial configuration is named like its owner. -/
theorem initial_configuration (manifest : RunManifest) (context : AuthoritativeContext)
    (configurationId : Option Configuration) (owner : PhaseOwner)
    (initial : owner ∈ initialOwners)
    (named : configurationId.map Configuration.value = some owner.value) :
    authoritative sha256 manifest context owner = released context configurationId none := by
  obtain ⟨configuration, rfl, same⟩ := Option.map_eq_some_iff.mp named
  cases owner <;> first
    | exact absurd initial (by decide)
    | (cases configuration <;> first | rfl | exact absurd same (by decide))

section Branches

variable (core : LeaseFields) (manifest : RunManifest) (context : AuthoritativeContext)
  (accepted : validateLeaseOwner sha256 core manifest context = .ok ())

include accepted

theorem initial_accepted (initial : core.executionPhaseOwner ∈ initialOwners) :
    authoritative sha256 manifest context core.executionPhaseOwner = some core.owned ∧
      validateOwnerBinding sha256 core = .ok () := by
  unfold validateLeaseOwner at accepted
  rw [if_pos initial, raiseIf_bind_eq_ok, raiseIf_bind_eq_ok, raiseIf_bind_eq_ok,
    validateReleasedProblem_eq_ok, not_not, not_not] at accepted
  obtain ⟨named, _, noExtension, real, isReleased⟩ := accepted
  constructor
  · rw [initial_configuration sha256 manifest context core.configurationId _ initial named,
      ← noExtension]
    exact isReleased
  · unfold validateOwnerBinding validateRealProblem
    rw [if_pos initial, raiseIf_bind_of_not (not_not.mpr named),
      raiseIf_bind_of_not (not_not.mpr noExtension), raiseIf_eq_ok, real]
    exact Bool.false_ne_true

theorem postSelection_accepted (selected : core.executionPhaseOwner ∈ postSelectionOwners) :
    authoritative sha256 manifest context core.executionPhaseOwner = some core.owned ∧
      validateOwnerBinding sha256 core = .ok () := by
  have notInitial : core.executionPhaseOwner ∉ initialOwners := by
    revert selected
    cases core.executionPhaseOwner <;> decide
  unfold validateLeaseOwner at accepted
  rw [if_neg notInitial, if_pos selected] at accepted
  obtain ⟨_, extended, accepted⟩ := (bind_eq_ok _ _ _).mp accepted
  obtain ⟨_, configured, accepted⟩ := (bind_eq_ok _ _ _).mp accepted
  obtain ⟨present, sameExtension⟩ := (requireEqual_eq_ok _ _ _ _).mp extended
  obtain ⟨real, isReleased⟩ := (validateReleasedProblem_eq_ok _ _ _).mp accepted
  obtain ⟨extension, verified⟩ := Option.ne_none_iff_exists'.mp present
  have bound : core.postSelectionExtensionSha256 = some extension := sameExtension.trans verified
  unfold validateSelectedConfiguration at configured
  unfold validateOwnerBinding validateRealProblem
  rw [if_neg notInitial]
  by_cases isF : core.executionPhaseOwner = .f ∨ core.executionPhaseOwner = .fSealed
  · rw [if_pos isF, raiseIf_eq_ok, not_not] at configured
    constructor
    · rw [configured, bound] at isReleased
      rcases isF with isF | isF <;> rw [isF] <;> unfold authoritative <;> rw [verified] <;>
        exact isReleased
    · rw [if_pos isF, raiseIf_bind_of_not (not_not.mpr configured),
        raiseIf_bind_of_not (by rw [bound]; exact Option.some_ne_none _), raiseIf_eq_ok, real]
      exact Bool.false_ne_true
  · rw [if_neg isF, raiseIf_bind_eq_ok, requireEqual_eq_ok, not_not] at configured
    obtain ⟨original, chosen, sameWinner⟩ := configured
    obtain ⟨winner, isWinner⟩ := Option.ne_none_iff_exists'.mp chosen
    have isSealed : core.executionPhaseOwner = .winnerSealed := by
      revert selected isF
      cases core.executionPhaseOwner <;> decide
    constructor
    · rw [sameWinner.trans isWinner, bound] at isReleased
      rw [isSealed]
      unfold authoritative
      rw [verified, isWinner]
      exact isReleased
    · rw [if_neg isF, if_pos isSealed,
        raiseIf_bind_of_not (by rw [sameWinner]; exact not_not.mpr original),
        raiseIf_bind_of_not (by rw [bound]; exact Option.some_ne_none _), raiseIf_eq_ok, real]
      exact Bool.false_ne_true

theorem qualification_accepted (isOwner : core.executionPhaseOwner = .qualification) :
    authoritative sha256 manifest context core.executionPhaseOwner = some core.owned ∧
      validateOwnerBinding sha256 core = .ok () := by
  unfold validateLeaseOwner at accepted
  rw [isOwner, if_neg (by decide), if_neg (by decide), if_pos rfl, raiseIf_eq_ok, not_not]
    at accepted
  obtain ⟨configuration, extension, problem, turn, range, ⟨index, isIndex, _, same⟩, ledger,
    checkpoint, watermark⟩ := accepted
  constructor
  · rw [isOwner]
    refine (sentinel_eq_some sha256 _ _ _ core).mpr
      ⟨problem, turn, ?_, congrArg some ledger.symm, checkpoint, watermark, configuration,
        extension⟩
    rw [same]
    exact isIndex
  · unfold validateOwnerBinding
    rw [isOwner, if_neg (by decide), if_neg (by decide), if_neg (by decide), if_pos rfl,
      raiseIf_eq_ok, not_not]
    exact ⟨configuration, extension, problem, turn, range, checkpoint, watermark⟩

theorem optimizer_accepted (isOwner : core.executionPhaseOwner = .optimizer) :
    authoritative sha256 manifest context core.executionPhaseOwner = some core.owned ∧
      validateOwnerBinding sha256 core = .ok () := by
  unfold validateLeaseOwner at accepted
  rw [isOwner, if_neg (by decide), if_neg (by decide), if_neg (by decide), if_pos rfl,
    raiseIf_eq_ok, not_not] at accepted
  obtain ⟨configuration, extension, problem, turn, range, ⟨index, isIndex, _, same⟩, _, ledger,
    checkpoint, watermark⟩ := accepted
  constructor
  · rw [isOwner]
    refine (sentinel_eq_some sha256 _ _ _ core).mpr
      ⟨problem, turn, ?_, ledger.symm, checkpoint, watermark, configuration, extension⟩
    rw [same]
    exact isIndex
  · unfold validateOwnerBinding
    rw [isOwner, if_neg (by decide), if_neg (by decide), if_neg (by decide), if_neg (by decide),
      if_pos rfl, raiseIf_eq_ok, not_not]
    exact ⟨configuration, extension, problem, turn, range, checkpoint, watermark⟩

theorem gpuDemo_accepted (isOwner : core.executionPhaseOwner = .gpuDemo) :
    authoritative sha256 manifest context core.executionPhaseOwner = some core.owned ∧
      validateOwnerBinding sha256 core = .ok () := by
  unfold validateLeaseOwner at accepted
  rw [isOwner, if_neg (by decide), if_neg (by decide), if_neg (by decide), if_neg (by decide),
    raiseIf_bind_eq_ok, raiseIf_eq_ok, not_not, not_not] at accepted
  obtain ⟨allowed, configured, problem, turn, generation, _, ledger, _, checkpoint, _, watermark,
    extended⟩ := accepted
  constructor
  · have chosen : context.gpuSelectedConfigurationId ≠ none := by
      intro absent
      rw [absent] at allowed
      exact absurd allowed (by decide)
    obtain ⟨configuration, selected⟩ := Option.ne_none_iff_exists'.mp chosen
    rw [selected] at configured extended
    have bound : gpuExtension context configuration = some core.postSelectionExtensionSha256 := by
      unfold gpuExtension
      by_cases isF : configuration = .f
      · rw [isF, if_pos rfl] at extended
        obtain ⟨present, sameExtension⟩ := extended
        obtain ⟨extension, verified⟩ := Option.ne_none_iff_exists'.mp present
        rw [if_pos isF, sameExtension, verified]
        rfl
      · rw [if_neg (fun same => isF (Option.some.inj same))] at extended
        rw [if_neg isF, extended]
    rw [isOwner]
    unfold authoritative demonstration LeaseFields.owned
    simp only [selected, ← ledger, ← checkpoint, ← watermark, problem, turn, generation, configured,
      Option.bind_eq_bind, Option.bind_some, bound]
    rfl
  · unfold validateOwnerBinding
    rw [isOwner, if_neg (by decide), if_neg (by decide), if_neg (by decide), if_neg (by decide),
      if_neg (by decide), raiseIf_bind_of_not (by rw [configured]; exact not_not.mpr allowed),
      raiseIf_eq_ok, not_not, configured]
    refine ⟨problem, turn, generation, ?_⟩
    by_cases isF : context.gpuSelectedConfigurationId = some .f
    · rw [if_pos isF] at extended ⊢
      rw [extended.2]
      exact extended.1
    · rw [if_neg isF] at extended ⊢
      exact extended

theorem validateLeaseOwner_accepted :
    authoritative sha256 manifest context core.executionPhaseOwner = some core.owned ∧
      validateOwnerBinding sha256 core = .ok () := by
  by_cases initial : core.executionPhaseOwner ∈ initialOwners
  · exact initial_accepted sha256 core manifest context accepted initial
  by_cases selected : core.executionPhaseOwner ∈ postSelectionOwners
  · exact postSelection_accepted sha256 core manifest context accepted selected
  cases isOwner : core.executionPhaseOwner with
  | qualification =>
      exact isOwner ▸ qualification_accepted sha256 core manifest context accepted isOwner
  | optimizer => exact isOwner ▸ optimizer_accepted sha256 core manifest context accepted isOwner
  | gpuDemo => exact isOwner ▸ gpuDemo_accepted sha256 core manifest context accepted isOwner
  | a | b | c | d | e => exact absurd (by rw [isOwner]; decide) initial
  | f | winnerSealed | fSealed => exact absurd (by rw [isOwner]; decide) selected

end Branches

theorem validateTaskLeaseCore_eq_ok (core : SignedTaskLeaseCore) (manifest : RunManifest)
    (context : AuthoritativeContext) (validated : SignedTaskLeaseCore) :
    validateTaskLeaseCore sha256 core manifest context = .ok validated ↔
      (manifest.campaignId = core.campaignId ∧ manifest.manifestSha256 = core.manifestSha256 ∧
        manifest.effectPolicyBundleSha256 = core.policySha256) ∧
      validateLeaseOwner sha256 core.toLeaseFields manifest context = .ok () ∧
      validated = core := by
  unfold validateTaskLeaseCore
  rw [requireEqual_bind_eq_ok, requireEqual_bind_eq_ok, requireEqual_bind_eq_ok, bind_eq_ok,
    Option.some.injEq, Option.some.injEq, Option.some.injEq]
  constructor
  · rintro ⟨campaign, digest, policy, ⟨⟩, owned, ⟨⟩⟩
    exact ⟨⟨campaign, digest, policy⟩, owned, rfl⟩
  · rintro ⟨⟨campaign, digest, policy⟩, owned, rfl⟩
    exact ⟨campaign, digest, policy, (), owned, rfl⟩

theorem CampaignBinding.create_eq_ok (fields : LeaseFields) (wellTyped : fields.WellTyped)
    (owned : validateOwnerBinding sha256 fields = .ok ()) :
    CampaignBinding.create sha256 fields = .ok ⟨fields, wellTyped, owned⟩ := by
  unfold CampaignBinding.create
  rw [dif_pos wellTyped]
  split
  · next failed => exact absurd (owned.symm.trans failed) (by simp)
  · rfl

/-! ### Lanes -/

/-- The owners whose rules the other fields can meet. -/
def lane (problemId : String) (configurationId : Option Configuration)
    (extension : Option String) : List PhaseOwner :=
  if problemId = "__qualification__" then [.qualification]
  else if problemId = "__optimizer__" then [.optimizer]
  else if problemId = "__gpu_demo__" then [.gpuDemo]
  else if extension = none then
    initialOwners.filter fun owner => configurationId.map Configuration.value = some owner.value
  else if configurationId = some .f then [.f, .fSealed]
  else [.winnerSealed]

theorem lane_of_real {problemId : String} (real : isReserved problemId = false)
    (configurationId : Option Configuration) (extension : Option String) :
    lane problemId configurationId extension =
      if extension = none then
        initialOwners.filter fun owner =>
          configurationId.map Configuration.value = some owner.value
      else if configurationId = some .f then [.f, .fSealed]
      else [.winnerSealed] := by
  have apart (reserved : String) (isSentinel : isReserved reserved = true) :
      problemId ≠ reserved := by
    rintro rfl
    exact Bool.false_ne_true (real.symm.trans isSentinel)
  unfold lane
  rw [if_neg (apart _ (by decide)), if_neg (apart _ (by decide)), if_neg (apart _ (by decide))]

theorem owner_mem_lane (fields : LeaseFields)
    (owned : validateOwnerBinding sha256 fields = .ok ()) :
    fields.executionPhaseOwner ∈
      lane fields.problemId fields.configurationId fields.postSelectionExtensionSha256 := by
  unfold validateOwnerBinding validateRealProblem at owned
  by_cases initial : fields.executionPhaseOwner ∈ initialOwners
  · rw [if_pos initial, raiseIf_bind_eq_ok, raiseIf_bind_eq_ok, raiseIf_eq_ok, not_not, not_not,
      Bool.not_eq_true] at owned
    obtain ⟨named, noExtension, real⟩ := owned
    rw [lane_of_real real, if_pos noExtension]
    exact List.mem_filter.mpr ⟨initial, decide_eq_true named⟩
  rw [if_neg initial] at owned
  by_cases isF : fields.executionPhaseOwner = .f ∨ fields.executionPhaseOwner = .fSealed
  · rw [if_pos isF, raiseIf_bind_eq_ok, raiseIf_bind_eq_ok, raiseIf_eq_ok, not_not,
      Bool.not_eq_true] at owned
    obtain ⟨configured, extended, real⟩ := owned
    rw [lane_of_real real, if_neg extended, if_pos configured]
    simpa using isF
  rw [if_neg isF] at owned
  by_cases isSealed : fields.executionPhaseOwner = .winnerSealed
  · rw [if_pos isSealed, raiseIf_bind_eq_ok, raiseIf_bind_eq_ok, raiseIf_eq_ok, not_not,
      Bool.not_eq_true] at owned
    obtain ⟨configured, extended, real⟩ := owned
    have notF : fields.configurationId ≠ some .f := by
      intro isF
      rw [isF] at configured
      exact absurd configured (by decide)
    rw [lane_of_real real, if_neg extended, if_neg notF, isSealed]
    exact List.mem_singleton_self _
  rw [if_neg isSealed] at owned
  by_cases isQualification : fields.executionPhaseOwner = .qualification
  · rw [if_pos isQualification, raiseIf_eq_ok, not_not] at owned
    rw [isQualification, owned.2.2.1]
    exact List.mem_singleton_self _
  rw [if_neg isQualification] at owned
  by_cases isOptimizer : fields.executionPhaseOwner = .optimizer
  · rw [if_pos isOptimizer, raiseIf_eq_ok, not_not] at owned
    rw [isOptimizer, owned.2.2.1]
    exact List.mem_singleton_self _
  · rw [if_neg isOptimizer, raiseIf_bind_eq_ok, raiseIf_eq_ok, not_not, not_not] at owned
    have isGpu : fields.executionPhaseOwner = .gpuDemo := by
      revert initial isF isSealed isQualification isOptimizer
      cases fields.executionPhaseOwner <;> decide
    rw [isGpu, owned.2.1]
    exact List.mem_singleton_self _

theorem lane_exclusive {problemId : String} {configurationId : Option Configuration}
    {extension : Option String} {left right : PhaseOwner}
    (inLeft : left ∈ lane problemId configurationId extension)
    (inRight : right ∈ lane problemId configurationId extension) :
    left = right ∨ (left ∈ [PhaseOwner.f, .fSealed] ∧ right ∈ [PhaseOwner.f, .fSealed]) := by
  unfold lane at inLeft inRight
  split at inLeft
  · simp_all
  split at inLeft
  · simp_all
  split at inLeft
  · simp_all
  split at inLeft
  · rw [if_neg ‹_›, if_neg ‹_›, if_neg ‹_›, if_pos ‹_›] at inRight
    obtain ⟨_, ofLeft⟩ := List.mem_filter.mp inLeft
    obtain ⟨_, ofRight⟩ := List.mem_filter.mp inRight
    have same : left.value = right.value :=
      Option.some.inj ((of_decide_eq_true ofLeft).symm.trans (of_decide_eq_true ofRight))
    left
    revert same
    cases left <;> cases right <;> decide
  · rw [if_neg ‹_›, if_neg ‹_›, if_neg ‹_›, if_neg ‹_›] at inRight
    split at inLeft
    · rw [if_pos ‹_›] at inRight
      exact .inr ⟨inLeft, inRight⟩
    · rw [if_neg ‹_›] at inRight
      exact .inl ((List.mem_singleton.mp inLeft).trans (List.mem_singleton.mp inRight).symm)

/-- Whatever the lease rules accept is rebuilt unchanged, its owner-dependent fields are those
of the table, and no other owner's rules hold of it, those of F and F_SEALED being the same. -/
theorem accepted_lease_reconstructed (core : SignedTaskLeaseCore) (manifest : RunManifest)
    (context : AuthoritativeContext) (validated : SignedTaskLeaseCore)
    (accepted : validateTaskLeaseCore sha256 core manifest context = .ok validated) :
    validated = core ∧
    (∃ binding, CampaignBinding.reconstruct sha256 core manifest context = .ok binding ∧
      binding.toLeaseFields = core.toLeaseFields ∧
      ∀ owner, validateOwnerBinding sha256
          { binding.toLeaseFields with executionPhaseOwner := owner } = .ok () →
        owner = core.executionPhaseOwner ∨
          (owner ∈ [PhaseOwner.f, .fSealed] ∧
            core.executionPhaseOwner ∈ [PhaseOwner.f, .fSealed])) ∧
    (core.campaignId = manifest.campaignId ∧ core.manifestSha256 = manifest.manifestSha256 ∧
      core.policySha256 = manifest.effectPolicyBundleSha256) ∧
    authoritative sha256 manifest context core.executionPhaseOwner =
      some core.toLeaseFields.owned := by
  obtain ⟨⟨campaign, digest, policy⟩, passed, same⟩ :=
    (validateTaskLeaseCore_eq_ok sha256 core manifest context validated).mp accepted
  obtain ⟨table, owned⟩ :=
    validateLeaseOwner_accepted sha256 core.toLeaseFields manifest context passed
  refine ⟨same, ⟨⟨core.toLeaseFields, core.wellTyped, owned⟩, ?_, rfl, ?_⟩,
    ⟨campaign.symm, digest.symm, policy.symm⟩, table⟩
  · unfold CampaignBinding.reconstruct
    rw [accepted, same]
    exact CampaignBinding.create_eq_ok sha256 core.toLeaseFields core.wellTyped owned
  · intro owner relabelled
    exact lane_exclusive (owner_mem_lane sha256 _ relabelled) (owner_mem_lane sha256 _ owned)

namespace LeaseSample

def digestOf (digit : Char) : String := String.ofList (List.replicate 64 digit)

def manifest : RunManifest where
  campaignId := "campaign"
  manifestSha256 := digestOf '1'
  effectPolicyBundleSha256 := digestOf '2'
  arms := [.a, .b, .c, .d, .e]
  providerQualificationMatrixSha256 := digestOf '3'
  exactArms := rfl

def core : SignedTaskLeaseCore where
  campaignId := "campaign"
  configurationId := some .c
  executionPhaseOwner := .winnerSealed
  problemId := "problem-7"
  turn := 2
  generation := 1
  manifestSha256 := digestOf '1'
  postSelectionExtensionSha256 := some (digestOf '4')
  policySha256 := digestOf '2'
  requirementLedgerSha256 := digestOf '5'
  workspaceCheckpointSha256 := digestOf '6'
  memoryWatermark := 9
  wellTyped := by decide +kernel

def context : AuthoritativeContext where
  releasedProblemId := some "problem-7"
  releasedTurn := some 2
  releasedGeneration := some 1
  currentRequirementLedgerSha256 := some (digestOf '5')
  currentWorkspaceCheckpointSha256 := some (digestOf '6')
  currentMemoryWatermark := some 9
  verifiedPostSelectionExtensionSha256 := some (digestOf '4')
  selectedOriginalConfigurationId := some .c
  qualificationCaseIndex := none
  optimizerInputSha256 := none
  optimizerProposalIndex := none
  gpuSelectedConfigurationId := none
  gpuAuthorizationCoreSha256 := none

theorem core_accepted (sha256 : Bytes → Digest) :
    validateTaskLeaseCore sha256 core manifest context = .ok core := by
  refine (validateTaskLeaseCore_eq_ok sha256 core manifest context core).mpr
    ⟨⟨rfl, rfl, rfl⟩, ?_, rfl⟩
  rfl

theorem accepted_lease_reconstructed_sample :
    ∃ binding,
      CampaignBinding.reconstruct (fun _ => 0) core manifest context = .ok binding ∧
        binding.toLeaseFields = core.toLeaseFields :=
  let ⟨_, ⟨binding, rebuilt, same, _⟩, _⟩ :=
    accepted_lease_reconstructed (fun _ => 0) core manifest context core (core_accepted _)
  ⟨binding, rebuilt, same⟩

end LeaseSample

end EgoAgent.SecureMemory
