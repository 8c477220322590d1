import EgoAgent.Gateway.Interoperation
import EgoAgent.Gateway.WorkspaceExecutor

/-!
Undoing workspace effects in reverse order.

A successful call creates its target, overwrites it after a copy to a fresh backup, or
moves it to a fresh backup.  Undoing its receipt on the tree it left gives the tree it
found, so a run is undone from its last receipt to its first.
-/

namespace EgoAgent.Gateway

open EgoAgent.Api EgoAgent.Bridge

/-! ### Closed trees -/

/-- An entry has a directory to stand in. -/
structure Placed (tree : Tree) (entry : EntryPath) : Prop where
  named : entry ≠ []
  parent : entry.dropLast ≠ [] → tree.lookup entry.dropLast = some .directory

/-- Every entry of a tree stands in a directory of it. -/
def Closed (tree : Tree) : Prop := ∀ entry ∈ tree, Placed tree entry

section

variable {tree : Tree}

theorem ancestor_mem (closed : Closed tree) {start entry : EntryPath}
    (member : entry ∈ tree) (starts : start <+: entry) (named : start ≠ []) : start ∈ tree := by
  induction entry using List.reverseRecOn with
  | nil => exact absurd (List.prefix_nil.mp starts) named
  | append_singleton init last ih =>
      rcases List.prefix_concat_iff.mp starts with same | earlier
      · rw [same]
        exact member
      · have filled : init ≠ [] := by
          rintro rfl
          exact named (List.prefix_nil.mp earlier)
        have parent := (closed _ member).parent
        rw [List.dropLast_concat] at parent
        exact ih (Finmap.mem_of_lookup_eq_some (parent filled)) earlier

variable {entry : EntryPath}

theorem Closed.insert (closed : Closed tree) {node : Node}
    (placed : Placed tree entry) (noDirectory : tree.lookup entry ≠ some .directory) :
    Closed (tree.insert entry node) := by
  have kept : ∀ other, tree.lookup other = some .directory →
      (tree.insert entry node).lookup other = some .directory := by
    intro other found
    have apart : other ≠ entry := by
      rintro rfl
      exact noDirectory found
    rw [Finmap.lookup_insert_of_ne _ apart]
    exact found
  intro other member
  rcases Finmap.mem_insert.mp member with rfl | old
  · exact ⟨placed.named, fun filled => kept _ (placed.parent filled)⟩
  · have here := closed other old
    exact ⟨here.named, fun filled => kept _ (here.parent filled)⟩

theorem Closed.erase (closed : Closed tree) {content : Bytes}
    (isFile : tree.lookup entry = some (.file content)) : Closed (tree.erase entry) := by
  intro other member
  have here := closed other (Finmap.mem_erase.mp member).2
  refine ⟨here.named, ?_⟩
  intro filled
  have apart : other.dropLast ≠ entry := by
    intro same
    have found := here.parent filled
    rw [same, isFile] at found
    cases found
  rw [Finmap.lookup_erase_ne apart]
  exact here.parent filled

/-! ### What an operation does -/

/-- The change a successful operation makes. -/
inductive Changed (tree : Tree) (target : String) : Option String → Outcome → Prop where
  | created {node : Node} {artifact : String} {backup : Option String}
      (placed : Placed tree (entryOf target))
      (absent : tree.lookup (entryOf target) = none) :
      Changed tree target backup (tree.insert (entryOf target) node, artifact,
        ⟨.removeCreatedPath, none, none⟩)
  | overwritten {old data : Bytes} {backup artifact digest : String}
      (placed : Placed tree (entryOf target))
      (present : tree.lookup (entryOf target) = some (.file old))
      (backupPlaced : Placed tree (entryOf backup))
      (fresh : tree.lookup (entryOf backup) = none) :
      Changed tree target (some backup)
        ((tree.insert (entryOf backup) (.file old)).insert (entryOf target) (.file data),
          artifact, ⟨.restoreBackup, some backup, some digest⟩)
  | moved {old : Bytes} {backup artifact digest : String}
      (placed : Placed tree (entryOf target))
      (present : tree.lookup (entryOf target) = some (.file old))
      (backupPlaced : Placed tree (entryOf backup))
      (fresh : tree.lookup (entryOf backup) = none) :
      Changed tree target (some backup)
        ((tree.erase (entryOf target)).insert (entryOf backup) (.file old),
          artifact, ⟨.restoreBackup, some backup, some digest⟩)

theorem openParent_eq_ok {path : String} (opened : openParent tree path = .ok ()) :
    Placed tree (entryOf path) := by
  unfold openParent openDirectory at opened
  obtain ⟨named, opened⟩ := (raiseIf_bind_eq_ok _ _ _ _).mp opened
  have directories := not_not.mp ((raiseIf_eq_ok _ _ _).mp opened)
  refine ⟨named, ?_⟩
  intro filled
  exact directories _ ((List.mem_inits _ _).mpr (List.prefix_refl _)) filled

theorem openBackup_eq_ok {backup : String} (opened : openBackup tree backup = .ok ()) :
    Placed tree (entryOf backup) ∧ tree.lookup (entryOf backup) = none := by
  unfold openBackup at opened
  obtain ⟨⟨⟩, parent, opened⟩ := (bind_eq_ok _ _ _).mp opened
  exact ⟨openParent_eq_ok parent, not_not.mp ((raiseIf_eq_ok _ _ _).mp opened)⟩

section Operations

variable {φ : Type} [FloatText φ] {unicode : UnicodeText} {sha256 : Bytes → Digest}

variable {effect : WorkspaceEffect} {backup : Option String}

variable {outcome : Outcome} {target : String} {tree : Tree}

theorem executeWrite_changed (done : executeWrite sha256 tree effect target backup = .ok outcome) :
    Changed tree target backup outcome := by
  unfold executeWrite at done
  split at done
  · simp only at done
    obtain ⟨_, done⟩ := (raiseIf_bind_eq_ok _ _ _ _).mp done
    obtain ⟨⟨⟩, parent, done⟩ := (bind_eq_ok _ _ _).mp done
    have placed := openParent_eq_ok parent
    split at done
    · next absent =>
        obtain ⟨_, done⟩ := (raiseIf_bind_eq_ok _ _ _ _).mp done
        cases done
        exact .created placed absent
    · cases done
    · next old present =>
        cases backup with
        | none => cases done
        | some backup =>
            unfold overwrite at done
            obtain ⟨_, done⟩ := (raiseIf_bind_eq_ok _ _ _ _).mp done
            obtain ⟨⟨⟩, opened, done⟩ := (bind_eq_ok _ _ _).mp done
            obtain ⟨backupPlaced, fresh⟩ := openBackup_eq_ok opened
            cases done
            exact .overwritten placed present backupPlaced fresh
  · cases done

theorem executeMkdir_changed
    (done : executeMkdir φ sha256 tree effect target backup = .ok outcome) :
    Changed tree target backup outcome := by
  unfold executeMkdir at done
  split at done
  · obtain ⟨_, done⟩ := (raiseIf_bind_eq_ok _ _ _ _).mp done
    obtain ⟨⟨⟩, parent, done⟩ := (bind_eq_ok _ _ _).mp done
    obtain ⟨absent, done⟩ := (raiseIf_bind_eq_ok _ _ _ _).mp done
    cases done
    exact .created (openParent_eq_ok parent) (not_not.mp absent)
  · cases done

theorem executeDelete_changed
    (done : executeDelete sha256 tree effect target backup = .ok outcome) :
    Changed tree target backup outcome := by
  unfold executeDelete at done
  split at done
  · cases backup with
    | none => cases done
    | some backup =>
        unfold moveToBackup at done
        obtain ⟨_, done⟩ := (raiseIf_bind_eq_ok _ _ _ _).mp done
        obtain ⟨⟨⟩, parent, done⟩ := (bind_eq_ok _ _ _).mp done
        split at done
        · cases done
        · cases done
        · next old present =>
            obtain ⟨⟨⟩, opened, done⟩ := (bind_eq_ok _ _ _).mp done
            obtain ⟨backupPlaced, fresh⟩ := openBackup_eq_ok opened
            cases done
            exact .moved (openParent_eq_ok parent) present backupPlaced fresh
  · cases done

theorem executeOperation_changed
    (done : executeOperation φ sha256 tree effect target backup = .ok outcome) :
    Changed tree target backup outcome := by
  unfold executeOperation at done
  split at done
  · exact executeWrite_changed done
  · exact executeMkdir_changed done
  · exact executeDelete_changed done

end Operations

/-! ### Undoing a receipt -/

/-- The created target is removed; a directory has to be empty. -/
def removeCreated (tree : Tree) (target : EntryPath) : Option Tree :=
  match tree.lookup target with
  | none => none
  | some (.file _) => some (tree.erase target)
  | some .directory =>
      if ∃ entry ∈ tree.keys, target <+: entry ∧ entry ≠ target then none
      else some (tree.erase target)

/-- The backup is moved back onto the target. -/
def restoreBackup (tree : Tree) (target backup : EntryPath) : Option Tree :=
  match tree.lookup backup with
  | some (.file content) =>
      if tree.lookup target = some .directory ∨
          (target.dropLast ≠ [] ∧ tree.lookup target.dropLast ≠ some .directory) then none
      else some ((tree.erase backup).insert target (.file content))
  | _ => none

/-- A recovery plan carried out. -/
def undo (tree : Tree) (target : String) (recovery : ReceiptRecovery) : Option Tree :=
  match recovery.mode, recovery.backupPath with
  | .removeCreatedPath, _ => removeCreated tree (entryOf target)
  | .restoreBackup, some backup => restoreBackup tree (entryOf target) (entryOf backup)
  | .restoreBackup, none => none

theorem erase_insert_of_absent {node : Node}
    (absent : tree.lookup entry = none) : (tree.insert entry node).erase entry = tree := by
  apply Finmap.ext_lookup
  intro other
  by_cases same : other = entry
  · subst same
    rw [Finmap.lookup_erase, absent]
  · rw [Finmap.lookup_erase_ne same, Finmap.lookup_insert_of_ne _ same]

theorem removeCreated_insert (closed : Closed tree) {target : EntryPath} (node : Node)
    (named : target ≠ []) (absent : tree.lookup target = none) :
    removeCreated (tree.insert target node) target = some tree := by
  unfold removeCreated
  rw [Finmap.lookup_insert]
  cases node with
  | file content => exact congrArg some (erase_insert_of_absent absent)
  | directory =>
      have empty : ¬ ∃ entry ∈ (tree.insert target Node.directory).keys,
          target <+: entry ∧ entry ≠ target := by
        rintro ⟨entry, member, below, other⟩
        rcases Finmap.mem_insert.mp (Finmap.mem_keys.mp member) with same | old
        · exact other same
        · exact Finmap.lookup_eq_none.mp absent (ancestor_mem closed old below named)
      rw [if_neg empty]
      exact congrArg some (erase_insert_of_absent absent)

/-- The target can take its backup where its parent is a directory. -/
theorem restoreBackup_of {target backup : EntryPath} {content : Bytes}
    (kept : tree.lookup backup = some (.file content))
    (free : tree.lookup target ≠ some .directory)
    (parent : target.dropLast ≠ [] → tree.lookup target.dropLast = some .directory) :
    restoreBackup tree target backup =
      some ((tree.erase backup).insert target (.file content)) := by
  unfold restoreBackup
  rw [kept]
  simp only
  rw [if_neg]
  rintro (directory | ⟨filled, missing⟩)
  · exact free directory
  · exact missing (parent filled)

variable {backup : Option String} {outcome : Outcome} {target : String}

theorem Changed.closed (changed : Changed tree target backup outcome) (closed : Closed tree)
    (apart : ∀ backup, outcome.2.2.backupPath = some backup → entryOf backup ≠ entryOf target) :
    Closed outcome.1 := by
  cases changed with
  | created placed absent =>
      apply closed.insert placed
      rw [absent]
      exact nofun
  | @overwritten old data backup _ _ placed present backupPlaced fresh =>
      have backed : Closed (tree.insert (entryOf backup) (.file old)) :=
        closed.insert backupPlaced (by rw [fresh]; exact nofun)
      have found : (tree.insert (entryOf backup) (.file old)).lookup (entryOf target) =
          some (.file old) := by
        rw [Finmap.lookup_insert_of_ne _ (Ne.symm (apart backup rfl)), present]
      apply backed.insert (backed _ (Finmap.mem_of_lookup_eq_some found))
      rw [found]
      exact nofun
  | @moved old backup _ _ placed present backupPlaced fresh =>
      have erased := closed.erase present
      apply erased.insert
      · refine ⟨backupPlaced.named, ?_⟩
        intro filled
        have parent := backupPlaced.parent filled
        have other : (entryOf backup).dropLast ≠ entryOf target := by
          intro same
          rw [same, present] at parent
          cases parent
        rw [Finmap.lookup_erase_ne other]
        exact parent
      · rw [Finmap.lookup_erase_ne (apart backup rfl), fresh]
        exact nofun

/-- Undoing a change gives the tree it was made on. -/
theorem Changed.undo_eq (changed : Changed tree target backup outcome) (closed : Closed tree)
    (apart : ∀ backup, outcome.2.2.backupPath = some backup → entryOf backup ≠ entryOf target) :
    undo outcome.1 target outcome.2.2 = some tree := by
  have closedAfter := changed.closed closed apart
  cases changed with
  | created placed absent => exact removeCreated_insert closed _ placed.named absent
  | @overwritten old data backup _ _ placed present backupPlaced fresh =>
      have other := apart backup rfl
      change restoreBackup _ (entryOf target) (entryOf backup) = some tree
      have kept : ((tree.insert (entryOf backup) (.file old)).insert (entryOf target)
          (.file data)).lookup (entryOf backup) = some (.file old) := by
        rw [Finmap.lookup_insert_of_ne _ other, Finmap.lookup_insert]
      have written : ((tree.insert (entryOf backup) (.file old)).insert (entryOf target)
          (.file data)).lookup (entryOf target) = some (.file data) := Finmap.lookup_insert _
      rw [restoreBackup_of kept (by rw [written]; exact nofun)
        (closedAfter _ (Finmap.mem_of_lookup_eq_some written)).parent]
      congr 1
      apply Finmap.ext_lookup
      intro entry
      by_cases isTarget : entry = entryOf target
      · rw [isTarget, Finmap.lookup_insert, present]
      · rw [Finmap.lookup_insert_of_ne _ isTarget]
        by_cases isBackup : entry = entryOf backup
        · rw [isBackup, Finmap.lookup_erase, fresh]
        · rw [Finmap.lookup_erase_ne isBackup, Finmap.lookup_insert_of_ne _ isTarget,
            Finmap.lookup_insert_of_ne _ isBackup]
  | @moved old backup _ _ placed present backupPlaced fresh =>
      have other := apart backup rfl
      change restoreBackup _ (entryOf target) (entryOf backup) = some tree
      have kept : ((tree.erase (entryOf target)).insert (entryOf backup)
          (.file old)).lookup (entryOf backup) = some (.file old) := Finmap.lookup_insert _
      have gone : ((tree.erase (entryOf target)).insert (entryOf backup)
          (.file old)).lookup (entryOf target) = none := by
        rw [Finmap.lookup_insert_of_ne _ (Ne.symm other), Finmap.lookup_erase]
      rw [restoreBackup_of kept (by rw [gone]; exact nofun) ?_]
      · congr 1
        apply Finmap.ext_lookup
        intro entry
        by_cases isTarget : entry = entryOf target
        · rw [isTarget, Finmap.lookup_insert, present]
        · rw [Finmap.lookup_insert_of_ne _ isTarget]
          by_cases isBackup : entry = entryOf backup
          · rw [isBackup, Finmap.lookup_erase, fresh]
          · rw [Finmap.lookup_erase_ne isBackup, Finmap.lookup_insert_of_ne _ isBackup,
              Finmap.lookup_erase_ne isTarget]
      · intro filled
        have parent := placed.parent filled
        have notTarget : (entryOf target).dropLast ≠ entryOf target := by
          intro same
          rw [same, present] at parent
          cases parent
        have notBackup : (entryOf target).dropLast ≠ entryOf backup := by
          intro same
          rw [same, fresh] at parent
          cases parent
        rw [Finmap.lookup_insert_of_ne _ notBackup, Finmap.lookup_erase_ne notTarget]
        exact parent

theorem Changed.backup_eq (changed : Changed tree target backup outcome) {path : String}
    (kept : outcome.2.2.backupPath = some path) : backup = some path := by
  cases changed with
  | created => cases kept
  | overwritten => exact kept
  | moved => exact kept

/-- A change is not made at a directory that is there. -/
theorem Changed.free (changed : Changed tree target backup outcome) :
    tree.lookup (entryOf target) ≠ some .directory ∧
      ∀ path, outcome.2.2.backupPath = some path → tree.lookup (entryOf path) = none := by
  cases changed with
  | created placed absent =>
      rw [absent]
      exact ⟨nofun, nofun⟩
  | overwritten placed present backupPlaced fresh =>
      rw [present]
      refine ⟨nofun, ?_⟩
      rintro path ⟨⟩
      exact fresh
  | moved placed present backupPlaced fresh =>
      rw [present]
      refine ⟨nofun, ?_⟩
      rintro path ⟨⟩
      exact fresh

/-- A change touches its target and its backup only. -/
theorem Changed.frame (changed : Changed tree target backup outcome)
    (notTarget : entry ≠ entryOf target)
    (notBackup : ∀ backup, outcome.2.2.backupPath = some backup → entry ≠ entryOf backup) :
    outcome.1.lookup entry = tree.lookup entry := by
  cases changed with
  | created placed absent => exact Finmap.lookup_insert_of_ne _ notTarget
  | @overwritten old data backup _ _ placed present backupPlaced fresh =>
      rw [Finmap.lookup_insert_of_ne _ notTarget,
        Finmap.lookup_insert_of_ne _ (notBackup backup rfl)]
  | @moved old backup _ _ placed present backupPlaced fresh =>
      rw [Finmap.lookup_insert_of_ne _ (notBackup backup rfl), Finmap.lookup_erase_ne notTarget]

end

/-! ### Validated paths -/

/-- A path as the executor accepted it: below its project, spelled as its parts. -/
structure Accepted (projectId path : String) : Prop where
  project : (entryOf path).head? = some projectId.toList
  no_parent : ['.', '.'] ∉ entryOf path
  spelled : path.toList = joined (entryOf path)

theorem normalisedRelative_eq_ok {path : String} (normal : normalisedRelative path = .ok path)
    (named : entryOf path ≠ []) :
    ['.', '.'] ∉ entryOf path ∧ path.toList = joined (entryOf path) := by
  unfold normalisedRelative at normal
  obtain ⟨kept, parted, spelled⟩ := (bind_eq_ok _ _ _).mp normal
  unfold relativeParts at parted
  obtain ⟨_, parted⟩ := (raiseIf_bind_eq_ok _ _ _ _).mp parted
  obtain ⟨_, parted⟩ := (raiseIf_bind_eq_ok _ _ _ _).mp parted
  obtain ⟨ordinary, parted⟩ := (raiseIf_bind_eq_ok _ _ _ _).mp parted
  obtain ⟨rooted, noParent⟩ := not_or.mp ordinary
  have relative : isAbsolute path.toList = false := Bool.eq_false_iff.mpr rooted
  have whole : ((parts path.toList).filter fun part => part ∉ [[], ['.']]) =
      parts path.toList := by
    apply List.filter_eq_self.mpr
    intro part member
    have ⟨_, filled, noDot⟩ := (mem_parts_of_relative relative).mp member
    apply decide_eq_true
    rw [List.mem_cons, List.mem_singleton]
    exact not_or.mpr ⟨filled, noDot⟩
  rw [whole] at parted
  cases parted
  refine ⟨noParent, ?_⟩
  have spelled := Except.ok.inj spelled
  by_cases blank : joined (parts path.toList) = []
  · rw [if_pos blank] at spelled
    rw [← spelled] at named
    exact absurd (by decide) named
  · rw [if_neg blank] at spelled
    calc path.toList = (String.ofList (joined (parts path.toList))).toList := by rw [spelled]
      _ = joined (entryOf path) := String.toList_ofList

theorem normaliseBoundPath_eq_ok {unicode : UnicodeText} {path projectId normalised : String}
    (passed : normaliseBoundPath unicode path projectId = .ok normalised) :
    normalised = path ∧ Accepted projectId path := by
  unfold normaliseBoundPath at passed
  obtain ⟨found, normal, passed⟩ := (bind_eq_ok _ _ _).mp passed
  obtain ⟨same, passed⟩ := (raiseIf_bind_eq_ok _ _ _ _).mp passed
  obtain ⟨inProject, passed⟩ := (raiseIf_bind_eq_ok _ _ _ _).mp passed
  obtain ⟨_, passed⟩ := (raiseIf_bind_eq_ok _ _ _ _).mp passed
  have output : found = normalised := Except.ok.inj passed
  have same := not_not.mp same
  have inProject := not_not.mp inProject
  rw [same] at normal inProject output
  have named : entryOf path ≠ [] := by
    intro empty
    unfold entryOf at empty
    rw [empty] at inProject
    cases inProject
  have ⟨noParent, spelled⟩ := normalisedRelative_eq_ok normal named
  exact ⟨output.symm, inProject, noParent, spelled⟩

theorem Accepted.entry_injective {projectId left right : String} (first : Accepted projectId left)
    (second : Accepted projectId right) (same : entryOf left = entryOf right) : left = right := by
  apply String.toList_inj.mp
  rw [first.spelled, second.spelled, same]

theorem validateProjectId_eq_ok {unicode : UnicodeText} {projectId project : String}
    (passed : validateProjectId unicode projectId = .ok project) :
    project = projectId ∧ entryOf projectId = [projectId.toList] := by
  unfold validateProjectId at passed
  obtain ⟨found, normal, passed⟩ := (bind_eq_ok _ _ _).mp passed
  obtain ⟨same, passed⟩ := (raiseIf_bind_eq_ok _ _ _ _).mp passed
  obtain ⟨_, passed⟩ := (raiseIf_bind_eq_ok _ _ _ _).mp passed
  have output : found = project := Except.ok.inj passed
  obtain ⟨same, single⟩ := not_or.mp same
  have same := not_not.mp same
  rw [same] at normal single output
  refine ⟨output.symm, ?_⟩
  obtain ⟨part, alone⟩ := List.length_eq_one_iff.mp (not_not.mp single)
  change entryOf projectId = [part] at alone
  have named : entryOf projectId ≠ [] := by
    rw [alone]
    exact List.cons_ne_nil _ _
  have spelled := (normalisedRelative_eq_ok normal named).2
  rw [alone] at spelled ⊢
  rw [spelled]
  rfl

section Run

variable {φ : Type} [FloatText φ] {unicode : UnicodeText} {sha256 : Bytes → Digest}
  {redactText : String → String}

theorem validateAuthority_eq_ok {effect : WorkspaceEffect} {paths : String × Option String}
    (passed : validateAuthority unicode φ sha256 redactText effect = .ok paths) :
    Accepted effect.projectId paths.1 ∧
      ∀ backup, paths.2 = some backup →
        Accepted effect.projectId backup ∧ backup ≠ paths.1 := by
  unfold validateAuthority at passed
  obtain ⟨actual, _, passed⟩ := (bind_eq_ok _ _ _).mp passed
  obtain ⟨_, passed⟩ := (raiseIf_bind_eq_ok _ _ _ _).mp passed
  obtain ⟨project, projectPassed, passed⟩ := (bind_eq_ok _ _ _).mp passed
  obtain ⟨target, targetPassed, passed⟩ := (bind_eq_ok _ _ _).mp passed
  obtain ⟨backup, backupPassed, passed⟩ := (bind_eq_ok _ _ _).mp passed
  obtain ⟨_, passed⟩ := (raiseIf_bind_eq_ok _ _ _ _).mp passed
  obtain ⟨_, _, passed⟩ := (bind_eq_ok _ _ _).mp passed
  cases passed
  rw [(validateProjectId_eq_ok projectPassed).1] at targetPassed backupPassed
  obtain ⟨rfl, accepted⟩ := normaliseBoundPath_eq_ok targetPassed
  refine ⟨accepted, ?_⟩
  rintro kept rfl
  cases bound : effect.recovery.backupPath with
  | none =>
      rw [bound] at backupPassed
      cases backupPassed
  | some path =>
      rw [bound] at backupPassed
      unfold validateBackup at backupPassed
      obtain ⟨found, normal, backupPassed⟩ := (bind_eq_ok _ _ _).mp backupPassed
      obtain ⟨apart, backupPassed⟩ := (raiseIf_bind_eq_ok _ _ _ _).mp backupPassed
      cases backupPassed
      obtain ⟨rfl, backupAccepted⟩ := normaliseBoundPath_eq_ok normal
      exact ⟨backupAccepted, apart⟩

/-- The project of a tree with a checkpoint is a directory of it. -/
theorem project_directory {tree : Tree} {projectId digest : String}
    (computed : workspaceCheckpointSha256 φ unicode sha256 tree projectId = .ok digest) :
    tree.lookup [projectId.toList] = some .directory := by
  unfold workspaceCheckpointSha256 at computed
  obtain ⟨project, passed, computed⟩ := (bind_eq_ok _ _ _).mp computed
  obtain ⟨⟨⟩, opened, _⟩ := (bind_eq_ok _ _ _).mp computed
  obtain ⟨rfl, single⟩ := validateProjectId_eq_ok passed
  unfold openDirectory at opened
  have directories := not_not.mp ((raiseIf_eq_ok _ _ _).mp opened)
  rw [single] at directories
  exact directories _ ((List.mem_inits _ _).mpr (List.prefix_refl _)) (List.cons_ne_nil _ _)

/-- A path strictly below its project's directory. -/
structure BelowProject (projectId path : String) : Prop where
  accepted : Accepted projectId path
  below : entryOf path ≠ [projectId.toList]

/-- An effect changes its target and its backup only, both below its project. -/
structure Touches (projectId : String) (before after : Tree) (receipt : Receipt) : Prop where
  target : BelowProject projectId receipt.target
  backup : ∀ backup, receipt.recovery.backupPath = some backup → BelowProject projectId backup
  frame : ∀ entry, entry ≠ entryOf receipt.target →
    (∀ backup, receipt.recovery.backupPath = some backup → entry ≠ entryOf backup) →
      after.lookup entry = before.lookup entry

variable (φ unicode sha256) in
/-- What a successful call did to the tree, and what its receipt says of it. -/
structure Executed (projectId : String) (before after : Tree) (receipt : Receipt) : Prop where
  touches : Touches projectId before after receipt
  closed : Closed after
  undone : undo after receipt.target receipt.recovery = some before
  before_checkpoint : workspaceCheckpointSha256 φ unicode sha256 before projectId =
    .ok receipt.beforeCheckpointSha256
  after_checkpoint : workspaceCheckpointSha256 φ unicode sha256 after projectId =
    .ok receipt.afterCheckpointSha256

theorem executed_of_ok {tree next : Tree} {call : ExecuteCall} {receipt : Receipt}
    (done : execute φ unicode sha256 redactText tree call = .ok (next, receipt))
    (closed : Closed tree) : Executed φ unicode sha256 call.effect.projectId tree next receipt := by
  unfold execute at done
  obtain ⟨verifier, _, done⟩ := (bind_eq_ok _ _ _).mp done
  obtain ⟨paths, validated, done⟩ := (bind_eq_ok _ _ _).mp done
  obtain ⟨_, _, done⟩ := (bind_eq_ok _ _ _).mp done
  obtain ⟨before, verified, done⟩ := (bind_eq_ok _ _ _).mp done
  obtain ⟨approval, _, done⟩ := (bind_eq_ok _ _ _).mp done
  obtain ⟨_, _, done⟩ := (bind_eq_ok _ _ _).mp done
  obtain ⟨outcome, operated, done⟩ := (bind_eq_ok _ _ _).mp done
  obtain ⟨after, checked, done⟩ := (bind_eq_ok _ _ _).mp done
  cases done
  unfold verifyCheckpoint at verified
  obtain ⟨actual, computed, verified⟩ := (bind_eq_ok _ _ _).mp verified
  obtain ⟨_, verified⟩ := (raiseIf_bind_eq_ok _ _ _ _).mp verified
  cases verified
  have changed := executeOperation_changed operated
  have ⟨target, backups⟩ := validateAuthority_eq_ok validated
  have apart : ∀ backup, outcome.2.2.backupPath = some backup →
      entryOf backup ≠ entryOf paths.1 := by
    intro backup kept same
    have ⟨accepted, differs⟩ := backups backup (changed.backup_eq kept)
    exact differs (accepted.entry_injective target same)
  have directory := project_directory computed
  have ⟨notDirectory, fresh⟩ := changed.free
  refine ⟨⟨⟨target, ?_⟩, ?_, fun _ notTarget notBackup => changed.frame notTarget notBackup⟩,
    changed.closed closed apart, changed.undo_eq closed apart, computed, checked⟩
  · intro same
    apply notDirectory
    rw [same]
    exact directory
  · intro backup kept
    refine ⟨(backups backup (changed.backup_eq kept)).1, ?_⟩
    intro same
    have absent := fresh backup kept
    rw [same, directory] at absent
    cases absent

/-! ### Runs -/

variable (φ unicode sha256 redactText) in
/-- Successful calls on one project, one after the other. -/
inductive Ran (projectId : String) : Tree → List Receipt → Tree → Prop where
  | done (tree : Tree) : Ran projectId tree [] tree
  | call {tree next last : Tree} {call : ExecuteCall} {receipt : Receipt} {receipts : List Receipt}
      (executed : execute φ unicode sha256 redactText tree call = .ok (next, receipt))
      (inProject : call.effect.projectId = projectId)
      (rest : Ran projectId next receipts last) : Ran projectId tree (receipt :: receipts) last

/-- Receipts undone in the order given. -/
def undoAll (tree : Tree) (receipts : List Receipt) : Option Tree :=
  receipts.foldlM (fun current receipt => undo current receipt.target receipt.recovery) tree

variable {receipts : List Receipt}

variable {projectId : String} {tree last : Tree}

theorem Ran.closed
    (ran : Ran φ unicode sha256 redactText projectId tree receipts last) (closed : Closed tree) :
    Closed last := by
  induction ran with
  | done tree => exact closed
  | call executed inProject rest ih => exact ih (executed_of_ok executed closed).closed

theorem Ran.undone
    (ran : Ran φ unicode sha256 redactText projectId tree receipts last) (closed : Closed tree) :
    undoAll last receipts.reverse = some tree := by
  induction ran with
  | done tree => rfl
  | @call tree next last call receipt receipts executed inProject rest ih =>
      have step := executed_of_ok executed closed
      have later := ih step.closed
      unfold undoAll at later ⊢
      rw [List.reverse_cons, List.foldlM_append, later]
      change (undo next receipt.target receipt.recovery).bind some = some tree
      rw [step.undone]
      rfl

/-- The first receipt of a run starts at the checkpoint of its tree. -/
theorem Ran.starts {receipt : Receipt}
    (ran : Ran φ unicode sha256 redactText projectId tree (receipt :: receipts) last)
    (closed : Closed tree) : workspaceCheckpointSha256 φ unicode sha256 tree projectId =
      .ok receipt.beforeCheckpointSha256 := by
  cases ran with
  | call executed inProject rest =>
      subst inProject
      exact (executed_of_ok executed closed).before_checkpoint

theorem Ran.chained
    (ran : Ran φ unicode sha256 redactText projectId tree receipts last) (closed : Closed tree) :
    receipts.IsChain fun earlier later =>
      later.beforeCheckpointSha256 = earlier.afterCheckpointSha256 := by
  induction ran with
  | done tree => exact List.isChain_nil
  | @call tree next last call receipt receipts executed inProject rest ih =>
      subst inProject
      have step := executed_of_ok executed closed
      have chain := ih step.closed
      cases receipts with
      | nil => exact List.isChain_singleton _
      | cons later receipts =>
          have starts := rest.starts step.closed
          rw [step.after_checkpoint] at starts
          exact List.isChain_cons_cons.mpr ⟨(Except.ok.inj starts).symm, chain⟩

end Run

/-! ### A directory made and removed -/

namespace Sample

open EgoAgent.Bridge.Sample EgoAgent.SecureMemory

def project : Tree := Finmap.insert ["p".toList] .directory ∅

/-- The project with the new directory. -/
def made : Tree := project.insert (entryOf "p/docs") .directory

end Sample

end EgoAgent.Gateway
