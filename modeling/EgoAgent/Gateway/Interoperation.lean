import EgoAgent.Gateway.WireFormat
import EgoAgent.Bridge.EffectAuthority

/-!
The adapter and the gateway on one payload.

A projection is accepted, digested and written back by the gateway as the adapter wrote
it, and one payload stands for one authority.  The executor refuses it for its paths or
its text only.
-/

namespace EgoAgent.Gateway

open EgoAgent.Api EgoAgent.Bridge EgoAgent.Bridge.Authority EgoAgent.SecureMemory

section Projected

variable {φ : Type} [FloatEquality φ] (sha256 : Bytes → Digest)

/-! ### Agreement -/

/-- The sizes the wire format has room for, and a backup apart from its target. -/
structure Bounded (effect : CanonicalEffect φ) : Prop where
  text : ∀ text, effect.finalArguments.lookup "text" = some (.str text) →
    text.length ≤ maxWriteTextBytes
  target : ∀ target, validatedSourcePath effect = .ok target →
    target.length ≤ maxRelativePathLength
  backup : ∀ backup, projectRecovery effect = .ok (.restoreBackup backup) →
    backup.length ≤ maxRelativePathLength ∧ validatedSourcePath effect ≠ .ok backup

theorem validateExactOperationBinding_of {core : WorkspaceEffectCore}
    (operation : core.finalArguments.operation = core.operation)
    (scope : core.affectedScope = durablePaths core.target core.recovery.backupPath)
    (mkdir : ¬ (core.operation = .makeDirectory ∧
      (core.recovery.mode ≠ .removeCreatedPath ∨ core.recovery.backupPath ≠ none)))
    (delete : ¬ (core.operation = .deleteFile ∧
      (core.recovery.mode ≠ .restoreBackup ∨ core.recovery.backupPath = none)))
    (restored : ¬ (core.recovery.mode = .restoreBackup ∧ core.recovery.backupPath = none))
    (removed : ¬ (core.recovery.mode = .removeCreatedPath ∧ core.recovery.backupPath ≠ none))
    (projection : workspaceProjectionSha256 φ sha256 core = core.projectionSha256) :
    validateExactOperationBinding (φ := φ) sha256 core = .ok () := by
  unfold validateExactOperationBinding
  rw [raiseIf_bind_of_not (not_not.mpr operation), raiseIf_bind_of_not (not_not.mpr scope),
    raiseIf_bind_of_not mkdir, raiseIf_bind_of_not delete, raiseIf_bind_of_not restored,
    raiseIf_bind_of_not removed]
  exact (raiseIf_eq_ok _ _ _).mpr (not_not.mpr projection)

section Accepted

variable {decision : SafetyDecision φ} {wire : List (String × Json φ)} {argument : String}
  {arguments : WorkspaceArguments} {recovery : Recovery}
  (projection : Projection sha256 decision wire argument arguments recovery)
  (bounded : Bounded decision.effect)

include projection bounded

theorem Projection.fits : (withProjection (φ := φ) sha256 (projectedCore sha256 decision
    (decision.effect.projectId ++ "/" ++ argument) arguments recovery)).Fits where
  content := by
    intro content written
    change arguments = .writeText content at written
    subst written
    cases projection.projects with
    | write _ stored _ => exact bounded.text content stored
  target_nonempty := by
    change 1 ≤ (decision.effect.projectId ++ "/" ++ argument).length
    rw [String.length_append, String.length_append]
    change 1 ≤ _ + 1 + _
    omega
  target_bounded := bounded.target _ projection.pathComputed
  scope_nonempty := by
    cases recovery with
    | removeCreatedPath => exact Nat.le_refl 1
    | restoreBackup path => exact Nat.le_succ 1
  scope_bounded := by
    cases recovery with
    | removeCreatedPath => exact Nat.le_succ 1
    | restoreBackup path => exact Nat.le_refl 2
  project := (isProjectIdentifier_eq _).trans projection.project
  task := (isProjectIdentifier_eq _).trans projection.task
  checkpoint := isSha256_digest _
  policy := isSha256_digest _
  source := isSha256_digest _
  safety := isSha256_digest _
  projection := isSha256_digest _

omit bounded in
/-- The operation, the recovery and the scope of a projection belong together. -/
theorem Projection.bound : validateExactOperationBinding (φ := φ) sha256
    (withProjection (φ := φ) sha256 (projectedCore sha256 decision
      (decision.effect.projectId ++ "/" ++ argument) arguments recovery)) = .ok () := by
  have mkdir : ¬ (arguments.operation = .makeDirectory ∧
      ((planOf recovery).mode ≠ .removeCreatedPath ∨ (planOf recovery).backupPath ≠ none)) := by
    rintro ⟨operation, misplaced⟩
    cases projection.projects with
    | write => cases operation
    | delete => cases operation
    | mkdir source =>
        apply projection.mkdir ⟨source, ?_⟩
        rintro rfl
        rcases misplaced with mode | backup
        · exact mode rfl
        · exact backup rfl
  have delete : ¬ (arguments.operation = .deleteFile ∧
      ((planOf recovery).mode ≠ .restoreBackup ∨ (planOf recovery).backupPath = none)) := by
    rintro ⟨operation, misplaced⟩
    cases projection.projects with
    | write => cases operation
    | mkdir => cases operation
    | delete source =>
        apply projection.delete ⟨source, ?_⟩
        cases recovery with
        | removeCreatedPath => rfl
        | restoreBackup path =>
            rcases misplaced with mode | backup
            · exact absurd rfl mode
            · cases backup
  have restored : ¬ ((planOf recovery).mode = .restoreBackup ∧
      (planOf recovery).backupPath = none) := by
    cases recovery with
    | removeCreatedPath => exact fun ⟨mode, _⟩ => nomatch mode
    | restoreBackup path => exact fun ⟨_, backup⟩ => nomatch backup
  have removed : ¬ ((planOf recovery).mode = .removeCreatedPath ∧
      (planOf recovery).backupPath ≠ none) := by
    cases recovery with
    | removeCreatedPath => exact fun ⟨_, backup⟩ => backup rfl
    | restoreBackup path => exact fun ⟨mode, _⟩ => nomatch mode
  exact validateExactOperationBinding_of sha256 rfl rfl mkdir delete restored removed
    (workspaceProjectionSha256_with sha256 _ _)

end Accepted

/-! ### The executor -/

variable (unicode : UnicodeText) (redactText : String → String)

/-- Why the executor may refuse an effect. -/
inductive Refusable (effect : WorkspaceEffect) : Prop where
  | project (sensitive : isSensitivePath unicode effect.projectId = true)
  | target (sensitive : isSensitivePath unicode effect.target = true)
  | backup {path : String} (bound : effect.recovery.backupPath = some path)
      (sensitive : isSensitivePath unicode path = true)
  | nul {content : String} (written : effect.finalArguments = .writeText content)
      (nul : '\x00' ∈ content.toList)
  | credential {content : String} (written : effect.finalArguments = .writeText content)
      (redacted : redactText content ≠ content)

theorem toList_below (projectId rest : String) :
    (projectId ++ "/" ++ rest).toList = projectId.toList ++ '/' :: rest.toList := by
  rw [String.toList_append, String.toList_append, List.append_assoc]
  rfl

variable {arguments : WorkspaceArguments}

variable {wire : List (String × Json φ)} {argument : String}

variable {decision : SafetyDecision φ} {recovery : Recovery}

/-- The gateway reads the payload as this effect, and recomputes what it carries. -/
structure Interoperates (wire : List (String × Json φ)) (effect : WorkspaceEffect) : Prop where
  accepted : readEffect sha256 wire = .ok effect
  projection : wire.lookup "projection_sha256" =
    some (.str (workspaceProjectionSha256 φ sha256 effect.toWorkspaceEffectCore))
  digest : ∃ text, workspaceEffectSha256 φ sha256 effect = .ok text ∧
    wire.lookup "effect_sha256" = some (.str text)
  redumped : canonicalJson (.dict (effect.json (φ := φ))) = canonicalJson (.dict wire)
  refused : ∀ error, validateAuthority unicode φ sha256 redactText effect = .error error →
    Refusable unicode redactText effect

variable {left right : CanonicalEffect φ}

theorem below_injective {projectId left right : String}
    (same : projectId ++ "/" ++ left = projectId ++ "/" ++ right) : left = right := by
  have chars := congrArg String.toList same
  rw [toList_below, toList_below] at chars
  exact String.toList_inj.mp (List.cons.inj (List.append_cancel_left chars)).2

theorem PlannedAs.plan_eq {first second : Recovery}
    (leftPlanned : PlannedAs left first) (rightPlanned : PlannedAs right second)
    (same : first = second) (project : left.projectId = right.projectId) :
    left.recoveryPlan = right.recoveryPlan := by
  cases leftPlanned with
  | remove plan =>
      cases rightPlanned with
      | remove other => exact plan.trans other.symm
      | restore => cases same
  | restore plan =>
      cases rightPlanned with
      | remove => cases same
      | restore other =>
          have paths := Recovery.restoreBackup.inj same
          rw [project] at paths
          rw [plan, other, below_injective paths]

def protectedDirectories : List String :=
  ["evidence", "receipts", "trace", "decision-closure", "requirement-ledger", "trusted-memory"]

/-- A path below its project and outside the project's protected directories. -/
structure WithinProject (projectId path : String) : Prop where
  inside : Inside path.toList
  below : ∃ rest, path = projectId ++ "/" ++ rest ∧ ∀ directory ∈ protectedDirectories,
    rest ≠ directory ∧ ¬ (directory.toList ++ ['/']) <+: rest.toList

/-- `str.lower` takes an ASCII start letter by letter, whatever follows. -/
def LowersStarts : Prop :=
  ∀ start rest, (∀ c ∈ start, c.toNat < 128) →
    start.map Char.toLower <+: unicode.lower (start ++ rest)

/-- A protected directory is a protected root in small ASCII letters. -/
structure Rooted (directory : String) : Prop where
  root : "workspace/" ++ directory ∈ evidenceRoots
  ascii : ∀ c ∈ ("workspace/" ++ directory).toList ++ ['/'], c.toNat < 128
  small : (("workspace/" ++ directory).toList ++ ['/']).map Char.toLower =
    ("workspace/" ++ directory).toList ++ ['/']
  no_slash : '/' ∉ directory.toList
  no_recovery : directory.toList ≠ ".recovery".toList

theorem rooted_of_protected {directory : String} (protects : directory ∈ protectedDirectories) :
    Rooted directory := by
  have facts : (protectedDirectories.all fun directory =>
      decide ("workspace/" ++ directory ∈ evidenceRoots) &&
        ((("workspace/" ++ directory).toList ++ ['/']).all fun c => decide (c.toNat < 128)) &&
        (decide ((("workspace/" ++ directory).toList ++ ['/']).map Char.toLower =
            ("workspace/" ++ directory).toList ++ ['/']) &&
          decide ('/' ∉ directory.toList ∧ directory.toList ≠ ".recovery".toList))) = true := by
    decide +kernel
  have here := List.all_eq_true.mp facts directory protects
  obtain ⟨front, back⟩ := (Bool.and_eq_true _ _).mp here
  obtain ⟨root, ascii⟩ := (Bool.and_eq_true _ _).mp front
  obtain ⟨small, apart⟩ := (Bool.and_eq_true _ _).mp back
  obtain ⟨noSlash, noRecovery⟩ := of_decide_eq_true apart
  have plain : ∀ c ∈ ("workspace/" ++ directory).toList ++ ['/'], c.toNat < 128 :=
    fun c member => of_decide_eq_true (List.all_eq_true.mp ascii c member)
  exact ⟨of_decide_eq_true root, plain, of_decide_eq_true small, noSlash, noRecovery⟩

/-- A path outside the protected roots is outside the protected directories. -/
theorem outside_of_unprotected (lowers : LowersStarts unicode)
    (unprotected : isProtected unicode ("workspace/" ++ argument).toList = false) :
    ∀ directory ∈ protectedDirectories,
      argument ≠ directory ∧ ¬ (directory.toList ++ ['/']) <+: argument.toList := by
  intro directory protects
  have rooted := rooted_of_protected protects
  have passes := List.any_eq_false.mp unprotected _ rooted.root
  have ⟨notRoot, notBelow⟩ := Bool.or_eq_false_iff.mp (Bool.eq_false_iff.mpr passes)
  constructor
  · rintro rfl
    apply of_decide_eq_false notRoot
    have ascii : ∀ c ∈ ("workspace/" ++ argument).toList, c.toNat < 128 :=
      fun c member => rooted.ascii c (List.mem_append_left _ member)
    have small := rooted.small
    rw [List.map_append] at small
    rw [unicode.lower_ascii _ ascii]
    exact List.append_cancel_right small
  · rintro ⟨more, spelled⟩
    have whole : ("workspace/" ++ argument).toList =
        (("workspace/" ++ directory).toList ++ ['/']) ++ more := by
      rw [String.toList_append, String.toList_append, ← spelled]
      simp only [List.append_assoc]
    have start := lowers (("workspace/" ++ directory).toList ++ ['/']) more rooted.ascii
    rw [rooted.small, ← whole] at start
    rw [List.isPrefixOf_iff_prefix.mpr start] at notBelow
    cases notBelow

theorem recovery_outside {rest : String}
    (kept : (segments rest.toList).head? = some ".recovery".toList) :
    ∀ directory ∈ protectedDirectories,
      rest ≠ directory ∧ ¬ (directory.toList ++ ['/']) <+: rest.toList := by
  intro directory protects
  have rooted := rooted_of_protected protects
  constructor
  · rintro rfl
    rw [segments_noSlash rooted.no_slash] at kept
    exact rooted.no_recovery (Option.some.inj kept)
  · rintro ⟨more, spelled⟩
    rw [← spelled, List.append_assoc, List.singleton_append,
      segments_append_slash rooted.no_slash] at kept
    exact rooted.no_recovery (Option.some.inj kept)

theorem Projects.mutating {effect : CanonicalEffect φ}
    (projects : Projects effect arguments) : effect.operation ∉ lowOperations := by
  cases projects with
  | write operation =>
      rw [operation]
      decide
  | mkdir operation =>
      rw [operation]
      decide
  | delete operation =>
      rw [operation]
      decide

/-- The paths of a gate decision's projection keep to the project. -/
theorem Projection.within (lowers : LowersStarts unicode)
    (projection : Projection sha256 decision wire argument arguments recovery)
    {sequence expires : Nat} {mode : EnforcementMode}
    (evaluated : evaluateEffectSafety unicode sha256 decision.effect sequence expires mode =
      .ok decision) :
    WithinProject decision.effect.projectId (decision.effect.projectId ++ "/" ++ argument) ∧
      ∀ path, recovery = .restoreBackup path →
        WithinProject decision.effect.projectId path := by
  have ⟨known, noMatch⟩ := unmatched_of_permitted unicode sha256 evaluated projection.permitted
  have noTampering := (passes_of_unmatched unicode noMatch).2
  have unprotected : isProtected unicode decision.effect.target.toList = false := by
    have mutates : unicode.lower decision.effect.operation.toList ∉ words lowOperations := by
      rw [lower_knownOperation unicode known, mem_words]
      exact projection.projects.mutating
    unfold isEvidenceTampering at noTampering
    rw [decide_eq_true mutates, Bool.true_and] at noTampering
    exact noTampering
  rw [projection.path.target] at unprotected
  constructor
  · refine ⟨?_, argument, rfl, outside_of_unprotected unicode lowers unprotected⟩
    rw [toList_below]
    exact inside_below projection.project projection.path.clean
  · rintro path rfl
    generalize same : Recovery.restoreBackup path = kept at projection
    cases projection.planned with
    | remove => cases same
    | @restore rest _ clean root =>
        rw [Recovery.restoreBackup.inj same]
        refine ⟨?_, rest, rfl, recovery_outside root⟩
        rw [toList_below]
        exact inside_below projection.project clean

end Projected

/-! ### A write of the gate and a hand-made one -/

namespace Sample

open EgoAgent.Bridge.Sample EgoAgent.Bridge.Authority.Sample

end Sample

end EgoAgent.Gateway
