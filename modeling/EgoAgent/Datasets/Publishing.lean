import EgoAgent.Datasets.ManifestService

/-!
What publishing a manifest does to the directory, for every pattern of failing calls.
-/

namespace EgoAgent.Datasets

open EgoAgent.Api Effect

/-! ### Directories below the root -/

theorem set_of_found {directory : Entries} {name : Name} {node : Node}
    (found : Dict.get? directory name = some node) : Dict.set directory name node = directory := by
  induction directory with
  | nil => cases found
  | cons entry rest ih =>
      obtain ⟨other, old⟩ := entry
      by_cases same : other = name
      · rw [Dict.get?, if_pos same] at found
        rw [Dict.set, if_pos same, Option.some.inj found]
      · rw [Dict.get?, if_neg same] at found
        rw [Dict.set, if_neg same, ih found]

section

variable {faults : Faults}

theorem openPart_found {path name : Name} {entries children : Entries}
    (opened : openPart faults path name entries = .ok children) :
    Dict.get? entries name = some (.directory children) := by
  unfold openPart at opened
  obtain ⟨_, opened⟩ := (raiseIf_bind_eq_ok _ _ _ _).mp opened
  obtain ⟨_, _, opened⟩ := (bind_eq_ok _ _ _).mp opened
  split at opened
  · rename_i found
    obtain ⟨_, _, opened⟩ := (bind_eq_ok _ _ _).mp opened
    obtain ⟨_, _, opened⟩ := (bind_eq_ok _ _ _).mp opened
    cases opened
    exact found
  · cases opened
  · cases opened

/-- What was opened can be opened again, without failing calls, after it was replaced. -/
theorem openParts_replaceAt (directory : Entries) :
    ∀ {parts : List Name} {path : Name} {root opened : Entries},
      openParts faults path parts root = .ok opened →
      openParts .none path parts (replaceAt directory parts root) = .ok directory
  | [], _, _, _, _ => rfl
  | name :: rest, path, root, opened, found => by
      obtain ⟨children, first, later⟩ := (bind_eq_ok _ _ _).mp found
      have entry := openPart_found first
      have again : openPart .none (below path name) name
          (Dict.set root name (.directory (replaceAt directory rest children))) =
            .ok (replaceAt directory rest children) := by
        unfold openPart at first ⊢
        obtain ⟨plain, _⟩ := (raiseIf_bind_eq_ok _ _ _ _).mp first
        rw [raiseIf_bind_of_not plain, Dict.get?_set_self]
        rfl
      rw [replaceAt, entry]
      dsimp only
      rw [openParts, again, ok_bind]
      exact openParts_replaceAt directory later

theorem replaceAt_opened :
    ∀ {parts : List Name} {path : Name} {root opened : Entries},
      openParts faults path parts root = .ok opened → replaceAt opened parts root = root
  | [], _, _, _, found => by
      cases found
      rfl
  | name :: rest, path, root, opened, found => by
      obtain ⟨children, first, later⟩ := (bind_eq_ok _ _ _).mp found
      have entry := openPart_found first
      rw [replaceAt, entry]
      dsimp only
      rw [replaceAt_opened later, set_of_found entry]

/-- The root is unchanged just when the opened directory is. -/
theorem replaceAt_eq_iff {parts : List Name} {path : Name}
    {root opened directory : Entries} (found : openParts faults path parts root = .ok opened) :
    replaceAt directory parts root = root ↔ directory = opened := by
  constructor
  · intro same
    have first := openParts_replaceAt directory found
    have second := openParts_replaceAt opened found
    rw [same] at first
    rw [replaceAt_opened found, first] at second
    exact Except.ok.inj second
  · rintro rfl
    exact replaceAt_opened found

end

/-! ### One new manifest -/

section Writing

variable {φ : Type} [FloatText φ] {platform : DatasetPlatform φ} {faults : Faults}
  {directory : Entries} {temporary : Name} {content : Bytes}

theorem remove_set (absent : Dict.get? directory temporary = none) (node : Node) :
    remove temporary (Dict.set directory temporary node) = directory := by
  rw [Dict.set_of_absent node absent]
  unfold remove
  rw [List.filter_append, List.filter_cons_of_neg (by simp), List.filter_nil, List.append_nil,
    List.filter_eq_self]
  intro entry present
  have different : entry.1 ≠ temporary := by
    rintro rfl
    exact (Dict.get?_eq_none_iff directory entry.1).mp absent (List.mem_map_of_mem present)
  simpa using different

theorem remove_set_set {name : Name} (different : temporary ≠ name)
    (absent : Dict.get? directory temporary = none) (noName : Dict.get? directory name = none)
    (node other : Node) :
    remove temporary (Dict.set (Dict.set directory temporary node) name other) =
      Dict.set directory name other := by
  have later : Dict.get? (Dict.set directory temporary node) name = none :=
    (Dict.get?_set_ne directory node different.symm).trans noName
  have removed := remove_set absent node
  rw [Dict.set_of_absent other later, Dict.set_of_absent other noName]
  unfold remove at removed ⊢
  rw [List.filter_append, removed, List.filter_cons_of_pos (by simpa using different.symm),
    List.filter_nil]

theorem set_ne_self (absent : Dict.get? directory temporary = none) (node : Node) :
    Dict.set directory temporary node ≠ directory := by
  intro same
  have length := congrArg List.length same
  rw [Dict.set_of_absent node absent, List.length_append, List.length_singleton] at length
  omega

variable (faults) in
/-- Whether `os.link` fails, by itself or because there is a manifest. -/
def linkFails (directory : Entries) : Prop :=
  faults.fails .link ≠ none ∨ Dict.get? directory manifestName ≠ none

variable (faults) in
/-- Whether the manifest that stands in the way is the one to be published. -/
def sameWins (directory : Entries) (content : Bytes) : Prop :=
  (faults.fails .link = some .fileExists ∨
    (faults.fails .link = none ∧ Dict.get? directory manifestName ≠ none)) ∧
  existingManifest faults true directory = .ok (some content)

variable (faults) in
/-- The failing calls behind the creation of the temporary file that leave it, or the manifest,
behind when `create` raises. -/
def leavesBehind (directory : Entries) (content : Bytes) : Prop :=
  (faults.fails .fchmod ≠ none ∨ faults.fails .write ≠ none ∨ faults.fails .fsync ≠ none ∨
    faults.fails .closeTemporary ≠ none) ∨
  (linkFails faults directory ∧ faults.fails .unlink ≠ none ∧
    (faults.fails .unlink ≠ some .fileNotFound ∨ faults.fails .closeDataset ≠ none ∨
      ¬ sameWins faults directory content)) ∨
  (¬ linkFails faults directory ∧ (faults.fails .fsyncDirectory ≠ none ∨
    (faults.fails .unlink ≠ none ∧ faults.fails .unlink ≠ some .fileNotFound) ∨
      faults.fails .closeDataset ≠ none))

/-! ### The steps of a publication -/

theorem existingManifest_congr {left right : Entries} (again : Bool)
    (same : Dict.get? left manifestName = Dict.get? right manifestName) :
    existingManifest faults again left = existingManifest faults again right := by
  unfold existingManifest
  rw [same]

theorem call_eq (call : Call) : faults.call call =
    match faults.fails call with
    | some error => .error (.os error)
    | none => .ok () := rfl

theorem call_of_none {call : Call} (passes : faults.fails call = none) :
    faults.call call = .ok () := by
  rw [call_eq, passes]

theorem call_of_some {call : Call} {error : OsError} (fails : faults.fails call = some error) :
    faults.call call = .error (.os error) := by
  rw [call_eq, fails]

variable (faults temporary content) in
/-- The first `try` of `_atomic_write`. -/
def filling : Effect Entries Raised Unit :=
  ensure (do
      check (faults.call .fchmod)
      writeAll faults temporary content
      check (faults.call .fsync))
    (check (faults.call .closeTemporary))

/-- Without a failing call the temporary file holds the content. -/
theorem filling_of_none (fchmod : faults.fails .fchmod = none)
    (written : faults.fails .write = none) (fsync : faults.fails .fsync = none)
    (closed : faults.fails .closeTemporary = none) (state : Entries) :
    filling faults temporary content state =
      (.ok (), Dict.set state temporary (.file content)) := by
  unfold filling ensure writeAll
  rw [call_of_none fchmod, call_of_none fsync, call_of_none closed, written]
  rfl

variable (directory temporary content) in
/-- With a failing call it raises, and has changed the temporary file at most. -/
theorem filling_of_some (fails : faults.fails .fchmod ≠ none ∨ faults.fails .write ≠ none ∨
      faults.fails .fsync ≠ none ∨ faults.fails .closeTemporary ≠ none)
    (before : Bytes) :
    ∃ raised bytes, filling faults temporary content
        (Dict.set directory temporary (.file before)) =
      (.error raised, Dict.set directory temporary (.file bytes)) := by
  have body : ∃ result bytes, (do
      check (faults.call .fchmod)
      writeAll faults temporary content
      check (faults.call .fsync) : Effect Entries Raised Unit)
        (Dict.set directory temporary (.file before)) =
          (result, Dict.set directory temporary (.file bytes)) ∧
      (result = .ok () → faults.fails .fchmod = none ∧ faults.fails .write = none ∧
        faults.fails .fsync = none) := by
    cases fchmod : faults.fails .fchmod with
    | some error =>
        rw [call_of_some fchmod]
        exact ⟨_, _, rfl, nofun⟩
    | none =>
        rw [call_of_none fchmod]
        unfold writeAll
        cases written : faults.fails .write with
        | some error =>
            refine ⟨.error (.os error), content.take faults.written, ?_, nofun⟩
            rw [← Dict.set_set directory temporary (.file before)
              (.file (content.take faults.written))]
            rfl
        | none =>
            cases fsync : faults.fails .fsync with
            | some error =>
                rw [call_of_some fsync]
                refine ⟨.error (.os error), content, ?_, nofun⟩
                rw [← Dict.set_set directory temporary (.file before) (.file content)]
                rfl
            | none =>
                rw [call_of_none fsync]
                refine ⟨.ok (), content, ?_, fun _ => ⟨rfl, rfl, rfl⟩⟩
                rw [← Dict.set_set directory temporary (.file before) (.file content)]
                rfl
  obtain ⟨result, bytes, ran, passed⟩ := body
  unfold filling ensure
  rw [ran]
  dsimp only
  cases closed : faults.fails .closeTemporary with
  | some error =>
      rw [call_of_some closed]
      exact ⟨_, bytes, rfl⟩
  | none =>
      rw [call_of_none closed]
      cases result with
      | error raised => exact ⟨raised, bytes, rfl⟩
      | ok item =>
          obtain ⟨noFchmod, noWrite, noFsync⟩ := passed rfl
          rcases fails with bad | bad | bad | bad
          · exact absurd noFchmod bad
          · exact absurd noWrite bad
          · exact absurd noFsync bad
          · exact absurd closed bad

variable (content) in
/-- When `os.link` fails the directory stays as it is. -/
theorem publish_of_linkFails (different : temporary ≠ manifestName)
    (fails : linkFails faults directory) (node : Node) :
    ∃ result, publish faults temporary content (Dict.set directory temporary node) =
        (result, Dict.set directory temporary node) ∧
      ((∃ raised, result = .error raised) ↔ ¬ sameWins faults directory content) := by
  have manifest : Dict.get? (Dict.set directory temporary node) manifestName =
      Dict.get? directory manifestName := Dict.get?_set_ne directory node different.symm
  have loses : ∃ result, lost faults content (Dict.set directory temporary node) =
        (result, Dict.set directory temporary node) ∧
      ((∃ raised, result = .error raised) ↔
        existingManifest faults true directory ≠ .ok (some content)) := by
    unfold lost
    rw [Effect.read_bind, existingManifest_congr true manifest]
    cases found : existingManifest faults true directory with
    | error raised => exact ⟨.error raised, rfl, by simp⟩
    | ok winner =>
        rw [Effect.check_ok_bind]
        by_cases same : winner = some content
        · rw [if_pos same]
          exact ⟨.ok .unchanged, rfl, by simp [same]⟩
        · rw [if_neg same]
          exact ⟨_, rfl, by simp [same]⟩
  unfold publish sameWins
  rw [Effect.read_bind, manifest]
  cases link : faults.fails .link with
  | some error =>
      cases error with
      | fileExists =>
          obtain ⟨result, ran, raises⟩ := loses
          exact ⟨result, ran, by rw [raises]; simp⟩
      | fileNotFound => exact ⟨_, rfl, by simp⟩
      | other => exact ⟨_, rfl, by simp⟩
  | none =>
      cases present : Dict.get? directory manifestName with
      | none =>
          rcases fails with bad | bad
          · exact absurd link bad
          · exact absurd present bad
      | some old =>
          obtain ⟨result, ran, raises⟩ := loses
          exact ⟨result, ran, by rw [raises]; simp⟩

variable (content) in
/-- When `os.link` succeeds the manifest is there, whatever comes after. -/
theorem publish_of_linked (different : temporary ≠ manifestName)
    (links : ¬ linkFails faults directory) (node : Node) :
    publish faults temporary content (Dict.set directory temporary node) =
      ((faults.call .fsyncDirectory).map fun _ => .created,
        Dict.set (Dict.set directory temporary node) manifestName node) := by
  have link : faults.fails .link = none := by
    by_contra bad
    exact links (.inl bad)
  have absent : Dict.get? directory manifestName = none := by
    by_contra bad
    exact links (.inr bad)
  have manifest : Dict.get? (Dict.set directory temporary node) manifestName = none :=
    (Dict.get?_set_ne directory node different.symm).trans absent
  unfold publish
  rw [Effect.read_bind, link, manifest, Dict.get?_set_self]
  cases fsync : faults.fails .fsyncDirectory with
  | some error =>
      rw [call_of_some fsync]
      rfl
  | none =>
      rw [call_of_none fsync]
      rfl

/-! ### What is left behind -/

theorem unlink_of_none (unlinks : faults.fails .unlink = none) (state : Entries) :
    unlink faults temporary state = (.ok (), remove temporary state) := by
  unfold unlink
  rw [unlinks]
  rfl

theorem unlink_of_gone (unlinks : faults.fails .unlink = some .fileNotFound) (state : Entries) :
    unlink faults temporary state = (.ok (), state) := by
  unfold unlink
  rw [unlinks]
  rfl

theorem unlink_of_some {error : OsError} (fails : faults.fails .unlink = some error)
    (different : error ≠ .fileNotFound) (state : Entries) :
    unlink faults temporary state = (.error (.os error), state) := by
  unfold unlink
  rw [fails]
  cases error with
  | fileNotFound => exact absurd rfl different
  | fileExists => rfl
  | other => rfl

theorem createTemporary_of_absent (created : faults.fails .createTemporary = none)
    (absent : Dict.get? directory temporary = none) :
    createTemporary faults temporary directory =
      (.ok (), Dict.set directory temporary (.file [])) := by
  unfold createTemporary
  rw [call_of_none created, Effect.check_ok_bind, Effect.read_bind, absent]
  rfl

/-- A temporary file that is created is filled, and then published. -/
theorem writeNew_eq (created : faults.fails .createTemporary = none)
    (absent : Dict.get? directory temporary = none) :
    writeNew faults temporary content directory =
      (filling faults temporary content >>= fun _ =>
        ensure (publish faults temporary content) (unlink faults temporary))
        (Dict.set directory temporary (.file [])) := by
  unfold writeNew
  rw [Effect.bind_apply, createTemporary_of_absent created absent]
  rfl

/-- Whether the result of a call is that it raises. -/
def Raises {α : Type} (result : Except Raised α) : Prop := ∃ raised, result = .error raised

/-- What is left behind when the temporary file could not be filled or published: exactly under
the failing calls of `leavesBehind`. -/
theorem writeNew_leaves (different : temporary ≠ manifestName)
    (created : faults.fails .createTemporary = none)
    (absent : Dict.get? directory temporary = none) :
    ((Raises (writeNew faults temporary content directory).1 ∨
        faults.fails .closeDataset ≠ none) ∧
      (writeNew faults temporary content directory).2 ≠ directory) ↔
    leavesBehind faults directory content := by
  rw [writeNew_eq created absent, Effect.bind_apply]
  by_cases fails : faults.fails .fchmod ≠ none ∨ faults.fails .write ≠ none ∨
      faults.fails .fsync ≠ none ∨ faults.fails .closeTemporary ≠ none
  · obtain ⟨raised, bytes, ran⟩ := filling_of_some directory temporary content fails []
    rw [ran]
    exact ⟨fun _ => .inl fails, fun _ => ⟨.inl ⟨raised, rfl⟩, set_ne_self absent _⟩⟩
  · obtain ⟨fchmod, written, fsync, closed⟩ : faults.fails .fchmod = none ∧
        faults.fails .write = none ∧ faults.fails .fsync = none ∧
        faults.fails .closeTemporary = none := by
      simpa only [ne_eq, not_or, not_not] using fails
    rw [filling_of_none fchmod written fsync closed, Dict.set_set]
    dsimp only
    unfold ensure leavesBehind
    by_cases links : linkFails faults directory
    · obtain ⟨result, ran, raises⟩ :=
        publish_of_linkFails content different links (.file content)
      rw [ran]
      dsimp only
      cases unlinks : faults.fails .unlink with
      | none =>
          rw [unlink_of_none unlinks, remove_set absent]
          simp [fails, links]
      | some error =>
          by_cases gone : error = .fileNotFound
          · rw [gone] at unlinks ⊢
            rw [unlink_of_gone unlinks]
            have changed := set_ne_self absent (.file content)
            simp only [Raises, raises, fails, links]
            simp
            tauto
          · rw [unlink_of_some unlinks gone]
            have changed := set_ne_self absent (.file content)
            simp [Raises, fails, links, changed, gone]
    · rw [publish_of_linked content different links]
      dsimp only
      have noManifest : Dict.get? directory manifestName = none := by
        by_contra bad
        exact links (.inr bad)
      have raises : Raises ((faults.call .fsyncDirectory).map fun _ => WriteStatus.created) ↔
          faults.fails .fsyncDirectory ≠ none := by
        cases synced : faults.fails .fsyncDirectory with
        | some error =>
            rw [call_of_some synced]
            exact ⟨fun _ => Option.some_ne_none _, fun _ => ⟨_, rfl⟩⟩
        | none =>
            rw [call_of_none synced]
            exact ⟨nofun, fun bad => absurd rfl bad⟩
      have both : Dict.set (Dict.set directory temporary (.file content)) manifestName
          (.file content) ≠ directory := by
        intro same
        have length := congrArg List.length same
        have later : Dict.get? (Dict.set directory temporary (.file content)) manifestName = none :=
          (Dict.get?_set_ne directory _ different.symm).trans noManifest
        rw [Dict.set_of_absent _ later, Dict.set_of_absent _ absent] at length
        simp at length
      cases unlinks : faults.fails .unlink with
      | none =>
          rw [unlink_of_none unlinks, remove_set_set different absent noManifest]
          have changed := set_ne_self noManifest (.file content)
          simp only [raises, fails, links]
          simp [changed]
      | some error =>
          by_cases gone : error = .fileNotFound
          · rw [gone] at unlinks ⊢
            rw [unlink_of_gone unlinks]
            simp only [raises, fails, links]
            simp [both]
          · rw [unlink_of_some unlinks gone]
            simp [Raises, fails, links, both, gone]

end Writing

end EgoAgent.Datasets
