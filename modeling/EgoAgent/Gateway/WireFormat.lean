import EgoAgent.Gateway.RelativePaths
import EgoAgent.Lib.KeySort

/-!
The projection of a safety decision as the gateway reads it.

What the adapter builds is the dump of one gateway effect.  The gateway reads a dump
back as the effect it came from, so both sides compute the same digests.
-/

namespace EgoAgent.Gateway

open EgoAgent.Api EgoAgent.Bridge EgoAgent.Bridge.Authority EgoAgent.SecureMemory

/-! ### Reading dumps -/

section Dumped

variable {φ : Type}

/-- The texts of an effect fit the fields of the model. -/
structure WorkspaceEffectCore.Fits (core : WorkspaceEffectCore) : Prop where
  content : ∀ content, core.finalArguments = .writeText content →
    content.length ≤ maxWriteTextBytes
  target_nonempty : 1 ≤ core.target.length
  target_bounded : core.target.length ≤ maxRelativePathLength
  scope_nonempty : 1 ≤ core.affectedScope.length
  scope_bounded : core.affectedScope.length ≤ 2
  project : isProjectIdentifier core.projectId = true
  task : isProjectIdentifier core.taskId = true
  checkpoint : isSha256 core.workspaceCheckpointSha256 = true
  policy : isSha256 core.policySha256 = true
  source : isSha256 core.sourceEffectSha256 = true
  safety : isSha256 core.safetyDecisionSha256 = true
  projection : isSha256 core.projectionSha256 = true

variable [FloatText φ] (sha256 : Bytes → Digest)

end Dumped

/-! ### Digest texts -/

private theorem hexDigit_lower : ∀ value, value < 16 →
    ('0' ≤ hexDigit value ∧ hexDigit value ≤ '9') ∨
      ('a' ≤ hexDigit value ∧ hexDigit value ≤ 'f') := by
  decide

theorem hexDigits_lower (count value : Nat) : ∀ c ∈ hexDigits count value,
    ('0' ≤ c ∧ c ≤ '9') ∨ ('a' ≤ c ∧ c ≤ 'f') := by
  induction count generalizing value with
  | zero =>
      intro c present
      cases present
  | succ count ih =>
      intro c present
      rw [hexDigits, List.mem_append, List.mem_singleton] at present
      rcases present with earlier | rfl
      · exact ih _ c earlier
      · exact hexDigit_lower _ (Nat.mod_lt _ (by decide))

theorem isSha256_digest (digest : Digest) : isSha256 (digest.labelled "") = true := by
  have chars : (digest.labelled "").toList = digest.hex := by
    simp [Digest.labelled]
  unfold isSha256
  apply decide_eq_true
  rw [chars]
  refine ⟨hexDigits_length 64 _, List.all_eq_true.mpr ?_⟩
  intro c member
  exact decide_eq_true (hexDigits_lower 64 _ c member)

/-! ### Effect ids -/

section Documents

variable {φ : Type} [FloatEquality φ] (sha256 : Bytes → Digest)

end Documents

/-! ### The projected effect -/

section Projected

variable {φ : Type} [FloatEquality φ] (sha256 : Bytes → Digest)

/-- The plan a projected recovery is written as. -/
def planOf : Recovery → RecoveryPlan
  | .removeCreatedPath => ⟨.removeCreatedPath, none⟩
  | .restoreBackup path => ⟨.restoreBackup, some path⟩

/-- The projection of a decision before its two digests. -/
def projectedCore (decision : SafetyDecision φ) (target : String) (arguments : WorkspaceArguments)
    (recovery : Recovery) : WorkspaceEffectCore where
  operation := arguments.operation
  finalArguments := arguments
  target := target
  affectedScope := durablePaths target (planOf recovery).backupPath
  projectId := decision.effect.projectId
  taskId := decision.effect.taskId
  workspaceCheckpointSha256 := decision.effect.workspaceCheckpointSha256.labelled ""
  policySha256 := decision.effect.policySha256.labelled ""
  decision := decision.verdict
  recovery := planOf recovery
  sourceEffectSha256 := (decision.effect.effectSha256 sha256).labelled ""
  safetyDecisionSha256 := decision.decisionSha256.labelled ""
  projectionSha256 := ""

/-- The projection leaves its own digest out. -/
theorem workspaceProjectionSha256_with (core : WorkspaceEffectCore) (digest : String) :
    workspaceProjectionSha256 φ sha256 { core with projectionSha256 := digest } =
      workspaceProjectionSha256 φ sha256 core := by
  have same : ((WorkspaceEffectCore.json (φ := φ) { core with projectionSha256 := digest }).filter
      fun entry => entry.1 ∈ projectionFields) =
        (core.json (φ := φ)).filter fun entry => entry.1 ∈ projectionFields := rfl
  simp only [workspaceProjectionSha256]
  rw [same]

/-- A core with the digest of its projection. -/
def withProjection (core : WorkspaceEffectCore) : WorkspaceEffectCore :=
  { core with projectionSha256 := workspaceProjectionSha256 φ sha256 core }

def sealedEffect (core : WorkspaceEffectCore) : WorkspaceEffect :=
  { withProjection (φ := φ) sha256 core with
    effectSha256 := (sha256 (utf8Encode (canonicalJson
      (.dict ((withProjection (φ := φ) sha256 core).json (φ := φ)))))).labelled "" }

/-- The arguments a source effect has for a wire operation. -/
inductive Projects (effect : CanonicalEffect φ) : WorkspaceArguments → Prop where
  | write {text : String} (operation : effect.operation = "workspace.write")
      (stored : effect.finalArguments.lookup "text" = some (.str text))
      (exact : hasExactly effect.finalArguments ["path", "text"] = true) :
      Projects effect (.writeText text)
  | mkdir (operation : effect.operation = "workspace.mkdir")
      (exact : hasExactly effect.finalArguments ["path"] = true) :
      Projects effect .makeDirectory
  | delete (operation : effect.operation = "workspace.delete")
      (exact : hasExactly effect.finalArguments ["path"] = true) :
      Projects effect .deleteFile

variable {effect : CanonicalEffect φ}

theorem projects_of_arguments {projected : String × List (String × Json φ)}
    (computed : projectArguments effect = .ok projected) :
    ∃ arguments, Projects effect arguments ∧ projected.1 = arguments.operation.text ∧
      Json.dict projected.2 = arguments.json := by
  unfold projectArguments at computed
  split at computed
  · next operation =>
      split at computed
      · next text stored =>
          split at computed
          · next exact =>
              cases computed
              exact ⟨.writeText text, .write operation stored exact, rfl, rfl⟩
          · cases computed
      · cases computed
  · split at computed
    · next operation =>
        split at computed
        · next exact =>
            cases computed
            exact ⟨.makeDirectory, .mkdir operation exact, rfl, rfl⟩
        · cases computed
    · split at computed
      · next operation =>
          split at computed
          · next exact =>
              cases computed
              exact ⟨.deleteFile, .delete operation exact, rfl, rfl⟩
          · cases computed
      · cases computed

theorem utf8Encode_append (left right : List Char) :
    utf8Encode (left ++ right) = utf8Encode left ++ utf8Encode right := List.flatMap_append

/-- The adapter's domain digest and the gateway's prefixed digest are one digest. -/
theorem domainDigest_wire (value : Json φ) :
    domainDigest sha256 "agentteams-workspace-wire-projection" value =
      sha256 (utf8Encode "egoagentos:agentteams-workspace-wire-projection:v1\x00".toList ++
        utf8Encode (canonicalJson value)) := by
  have start : "egoagentos:" ++ "agentteams-workspace-wire-projection" ++ ":v1\x00" =
      "egoagentos:agentteams-workspace-wire-projection:v1\x00" := by decide
  unfold domainDigest canonicalJson
  rw [start, utf8Encode_append]

variable {members : List (String × Json φ)}

variable {arguments : WorkspaceArguments}

theorem wireCore_eq (decision : SafetyDecision φ) (target digest : String)
    (same : Json.dict members = arguments.json) (recovery : Recovery) :
    wireCore sha256 decision target arguments.operation.text members recovery ++
        [("projection_sha256", .str digest)] =
      WorkspaceEffectCore.json { projectedCore sha256 decision target arguments recovery with
        projectionSha256 := digest } := by
  unfold wireCore
  rw [same]
  cases recovery <;> rfl

theorem wireCore_filter (decision : SafetyDecision φ) (target : String)
    (same : Json.dict members = arguments.json) (recovery : Recovery) :
    ((wireCore sha256 decision target arguments.operation.text members recovery).filter
        fun entry => entry.1 ∈ Authority.projectionFields) =
      ((projectedCore sha256 decision target arguments recovery).json.filter
        fun entry => entry.1 ∈ projectionFields) := by
  unfold wireCore
  rw [same]
  cases recovery <;> rfl

/-- What the adapter writes is a dump of the gateway's model. -/
theorem sealedWire_eq (decision : SafetyDecision φ) (target : String)
    (same : Json.dict members = arguments.json) (recovery : Recovery) :
    sealedWire sha256 (wireCore sha256 decision target arguments.operation.text members recovery) =
      (sealedEffect (φ := φ) sha256 (projectedCore sha256 decision target arguments recovery)).json
    := by
  have projection : domainDigest sha256 "agentteams-workspace-wire-projection"
      (.dict (("mapping_version", Json.str Authority.workspaceMappingVersion) ::
        (wireCore sha256 decision target arguments.operation.text members recovery).filter
          fun entry => entry.1 ∈ Authority.projectionFields)) =
      sha256 (utf8Encode "egoagentos:agentteams-workspace-wire-projection:v1\x00".toList ++
        utf8Encode (canonicalJson (.dict (("mapping_version", Json.str workspaceMappingVersion) ::
          ((projectedCore sha256 decision target arguments recovery).json (φ := φ)).filter
            fun entry => entry.1 ∈ projectionFields)))) := by
    rw [domainDigest_wire, wireCore_filter sha256 decision target same recovery]
    rfl
  simp only [sealedWire, digestText]
  rw [projection, wireCore_eq sha256 decision target _ same recovery]
  rfl

/-! ### Source paths -/

/-- The one path of a source effect, in its target and in its arguments. -/
structure SourcePath (effect : CanonicalEffect φ) (argument : String) : Prop where
  stored : effect.finalArguments.lookup "path" = some (.str argument)
  target : effect.target = "workspace/" ++ argument
  clean : PlainRest argument.toList

theorem sourcePath_of {target : String} (computed : validatedSourcePath effect = .ok target) :
    ∃ argument, SourcePath effect argument ∧ target = effect.projectId ++ "/" ++ argument := by
  simp only [validatedSourcePath] at computed
  obtain ⟨_, canonical, computed⟩ := (bind_eq_ok _ _ _).mp computed
  have canonical := (Bool.not_eq_false _).mp ((raiseIf_eq_ok _ _ _).mp canonical)
  obtain ⟨rooted, computed⟩ := (raiseIf_bind_eq_ok _ _ _ _).mp computed
  obtain ⟨long, head⟩ := not_or.mp rooted
  split at computed
  · next argument stored =>
      obtain ⟨_, _, computed⟩ := (bind_eq_ok _ _ _).mp computed
      obtain ⟨same, computed⟩ := (raiseIf_bind_eq_ok _ _ _ _).mp computed
      have same := not_not.mp same
      cases split : parts effect.target.toList with
      | nil =>
          rw [split] at long
          exact absurd (by decide) long
      | cons root rest =>
          rw [split] at long head same
          have isRoot : root = "workspace".toList := Option.some.inj (not_not.mp head)
          have filled : rest ≠ [] := by
            rintro rfl
            exact long (Nat.lt_succ_self 1)
          obtain ⟨whole, segmented, plain, noNul, noBackslash⟩ :=
            guest_path_split canonical split filled
          rw [List.tail_cons] at same
          refine ⟨argument, ⟨stored, ?_, ⟨?_, ?_, ?_⟩⟩, (Except.ok.inj computed).symm⟩
          · apply String.toList_inj.mp
            rw [whole, isRoot, ← same, String.toList_append]
            rfl
          · rw [same, segmented]
            exact plain
          · rw [same]
            exact noNul
          · rw [same]
            exact noBackslash
  · cases computed

/-- The source plan a projected recovery comes from. -/
inductive PlannedAs (effect : CanonicalEffect φ) : Recovery → Prop where
  | remove (plan : effect.recoveryPlan = "REMOVE_CREATED_PATH") :
      PlannedAs effect .removeCreatedPath
  | restore {rest : String} (plan : effect.recoveryPlan = "RESTORE_BACKUP:workspace/" ++ rest)
      (clean : PlainRest rest.toList)
      (kept : (segments rest.toList).head? = some ".recovery".toList) :
      PlannedAs effect (.restoreBackup (effect.projectId ++ "/" ++ rest))

theorem plannedAs_of_backup (start : restorePrefix.isPrefixOf effect.recoveryPlan.toList = true)
    (canonical : isGuestArtifactPath
      (effect.recoveryPlan.toList.drop restorePrefix.length) = true)
    (long : 3 ≤ (parts (effect.recoveryPlan.toList.drop restorePrefix.length)).length)
    (rooted : (parts (effect.recoveryPlan.toList.drop restorePrefix.length)).take 2 =
      words ["workspace", ".recovery"]) :
    PlannedAs effect (.restoreBackup (effect.projectId ++ "/" ++ String.ofList
      (joined (parts (effect.recoveryPlan.toList.drop restorePrefix.length)).tail))) := by
  have plan : effect.recoveryPlan.toList =
      restorePrefix ++ effect.recoveryPlan.toList.drop restorePrefix.length :=
    List.prefix_iff_eq_append.mp (List.isPrefixOf_iff_prefix.mp start) |>.symm
  cases split : parts (effect.recoveryPlan.toList.drop restorePrefix.length) with
  | nil =>
      rw [split] at long
      cases long
  | cons root rest =>
      rw [split] at long rooted
      have filled : rest ≠ [] := by
        rintro rfl
        exact absurd (show 3 ≤ 1 from long) (by decide)
      obtain ⟨whole, segmented, plain, noNul, noBackslash⟩ :=
        guest_path_split canonical split filled
      have ⟨isRoot, next⟩ := List.cons.inj rooted
      have spelled : (String.ofList (joined rest)).toList = joined rest := String.toList_ofList
      rw [List.tail_cons]
      refine .restore ?_ ⟨?_, ?_, ?_⟩ ?_
      · apply String.toList_inj.mp
        rw [plan, whole, isRoot, String.toList_append, spelled]
        rfl
      · rw [spelled, segmented]
        exact plain
      · rw [spelled]
        exact noNul
      · rw [spelled]
        exact noBackslash
      · rw [spelled, segmented]
        cases rest with
        | nil => exact absurd rfl filled
        | cons first others =>
            rw [(List.cons.inj next).1]
            rfl

/-- The two checks after a plan is chosen. -/
theorem recovery_checked {choice : Except GateError Recovery} {recovery : Recovery} (computed : (do
      let recovery ← choice
      raiseIf (effect.operation = "workspace.mkdir" ∧ recovery ≠ .removeCreatedPath)
        (.value "workspace.mkdir requires REMOVE_CREATED_PATH recovery")
      raiseIf (effect.operation = "workspace.delete" ∧ recovery = .removeCreatedPath)
        (.value "workspace.delete requires RESTORE_BACKUP recovery")
      return recovery) = Except.ok recovery) :
    choice = .ok recovery ∧
      ¬ (effect.operation = "workspace.mkdir" ∧ recovery ≠ .removeCreatedPath) ∧
      ¬ (effect.operation = "workspace.delete" ∧ recovery = .removeCreatedPath) := by
  obtain ⟨chosen, choice, computed⟩ := (bind_eq_ok _ _ _).mp computed
  obtain ⟨mkdir, computed⟩ := (raiseIf_bind_eq_ok _ _ _ _).mp computed
  obtain ⟨delete, computed⟩ := (raiseIf_bind_eq_ok _ _ _ _).mp computed
  cases computed
  exact ⟨choice, mkdir, delete⟩

theorem projectRecovery_eq_ok {recovery : Recovery}
    (computed : projectRecovery effect = .ok recovery) :
    PlannedAs effect recovery ∧
      ¬ (effect.operation = "workspace.mkdir" ∧ recovery ≠ .removeCreatedPath) ∧
      ¬ (effect.operation = "workspace.delete" ∧ recovery = .removeCreatedPath) := by
  simp only [projectRecovery] at computed
  split at computed
  · next plan =>
      obtain ⟨choice, checks⟩ := recovery_checked computed
      cases choice
      exact ⟨.remove plan, checks⟩
  · split at computed
    · next start =>
        split at computed
        · obtain ⟨choice, _⟩ := recovery_checked computed
          cases choice
        · next canonical =>
            split at computed
            · obtain ⟨choice, _⟩ := recovery_checked computed
              cases choice
            · next rooted =>
                obtain ⟨long, root⟩ := not_or.mp rooted
                obtain ⟨choice, checks⟩ := recovery_checked computed
                cases choice
                exact ⟨plannedAs_of_backup start ((Bool.not_eq_false _).mp canonical)
                  (Nat.not_lt.mp long) (not_not.mp root), checks⟩
    · obtain ⟨choice, _⟩ := recovery_checked computed
      cases choice

theorem validateSourceAuthority_eq_ok (passed : validateSourceAuthority effect = .ok ()) :
    effect.affectedScope = expectedScope effect ∧ isIdentifier effect.projectId.toList = true ∧
      isIdentifier effect.taskId.toList = true := by
  unfold validateSourceAuthority at passed
  obtain ⟨scope, passed⟩ := (raiseIf_bind_eq_ok _ _ _ _).mp passed
  obtain ⟨project, passed⟩ := (raiseIf_bind_eq_ok _ _ _ _).mp passed
  obtain ⟨task, _⟩ := (raiseIf_bind_eq_ok _ _ _ _).mp passed
  exact ⟨not_not.mp scope, (Bool.not_eq_false _).mp project, (Bool.not_eq_false _).mp task⟩

/-- The adapter's projection, taken apart. -/
structure Projection (decision : SafetyDecision φ) (wire : List (String × Json φ))
    (argument : String) (arguments : WorkspaceArguments) (recovery : Recovery) : Prop where
  permitted : decision.verdict ≠ .deny
  scope : decision.effect.affectedScope = expectedScope decision.effect
  project : isIdentifier decision.effect.projectId.toList = true
  task : isIdentifier decision.effect.taskId.toList = true
  path : SourcePath decision.effect argument
  pathComputed : validatedSourcePath decision.effect =
    .ok (decision.effect.projectId ++ "/" ++ argument)
  projects : Projects decision.effect arguments
  planned : PlannedAs decision.effect recovery
  recoveryComputed : projectRecovery decision.effect = .ok recovery
  mkdir : ¬ (decision.effect.operation = "workspace.mkdir" ∧ recovery ≠ .removeCreatedPath)
  delete : ¬ (decision.effect.operation = "workspace.delete" ∧ recovery = .removeCreatedPath)
  dumped : wire = (sealedEffect (φ := φ) sha256 (projectedCore sha256 decision
    (decision.effect.projectId ++ "/" ++ argument) arguments recovery)).json

theorem projection_of_built {decision : SafetyDecision φ} {wire : List (String × Json φ)}
    (built : buildWorkspaceEffect sha256 decision = .ok wire) :
    ∃ argument arguments recovery,
      Projection sha256 decision wire argument arguments recovery := by
  unfold buildWorkspaceEffect at built
  obtain ⟨_, built⟩ := (raiseIf_bind_eq_ok _ _ _ _).mp built
  obtain ⟨permitted, built⟩ := (raiseIf_bind_eq_ok _ _ _ _).mp built
  obtain ⟨_, authority, built⟩ := (bind_eq_ok _ _ _).mp built
  obtain ⟨target, pathComputed, built⟩ := (bind_eq_ok _ _ _).mp built
  obtain ⟨projected, argued, built⟩ := (bind_eq_ok _ _ _).mp built
  obtain ⟨recovery, recoveryComputed, built⟩ := (bind_eq_ok _ _ _).mp built
  obtain ⟨scope, project, task⟩ := validateSourceAuthority_eq_ok authority
  obtain ⟨argument, path, rfl⟩ := sourcePath_of pathComputed
  obtain ⟨arguments, projects, operation, members⟩ := projects_of_arguments argued
  obtain ⟨planned, mkdir, delete⟩ := projectRecovery_eq_ok recoveryComputed
  refine ⟨argument, arguments, recovery, ⟨permitted, scope, project, task, path, pathComputed,
    projects, planned, recoveryComputed, mkdir, delete, ?_⟩⟩
  rw [← Except.ok.inj built, operation]
  exact sealedWire_eq sha256 decision _ members recovery

end Projected

end EgoAgent.Gateway
