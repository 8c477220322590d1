import EgoAgent.Datasets.Publishing

/-!
`create` under failing calls: what it leaves behind when it raises.
-/

namespace EgoAgent.Datasets

open EgoAgent.Api Effect

section Creating

variable {φ : Type} [FloatText φ] {platform : DatasetPlatform φ} {faults : Faults}
  {maxFiles : Nat} {token relative datasetId : String} {normalised : Name}
  {root directory : Entries} {manifest : Manifest}

theorem temporaryName_ne (token : String) : temporaryName token ≠ manifestName := by
  intro same
  have length := congrArg List.length same
  simp [temporaryName] at length
  omega

/-! ### In the opened directory -/

theorem createIn_eq (prepared :
      prepare platform faults maxFiles datasetId normalised directory = .ok manifest) :
    createIn platform faults maxFiles token datasetId normalised directory =
      ((atomicWrite platform faults (temporaryName token) (encoded φ manifest) directory).1.map
          fun writeStatus => ⟨writeStatus, manifestPath normalised, manifest⟩,
        (atomicWrite platform faults (temporaryName token) (encoded φ manifest) directory).2) := by
  unfold createIn
  rw [Effect.read_bind, prepared, Effect.check_ok_bind, Effect.bind_apply]
  rcases atomicWrite platform faults (temporaryName token) (encoded φ manifest) directory
    with ⟨raised | writeStatus, later⟩ <;> rfl

variable {temporary : Name}

/-- Without a manifest in the way a new one is written. -/
theorem atomicWrite_of_none {content : Bytes}
    (absent : existingManifest faults false directory = .ok none) :
    atomicWrite platform faults temporary content directory =
      writeNew faults temporary content directory := by
  unfold atomicWrite
  rw [Effect.read_bind, absent, Effect.check_ok_bind]

variable (platform) in
/-- A manifest in the way stays as it is. -/
theorem atomicWrite_of_some (temporary : Name) (content : Bytes) {found : Bytes}
    (present : existingManifest faults false directory = .ok (some found)) :
    (atomicWrite platform faults temporary content directory).2 = directory ∧
      (∀ status, (atomicWrite platform faults temporary content directory).1 = .ok status →
        found = content ∧ status = .unchanged) ∧
      (found = content →
        atomicWrite platform faults temporary content directory = (.ok .unchanged, directory)) := by
  unfold atomicWrite
  rw [Effect.read_bind, present, Effect.check_ok_bind]
  dsimp only
  by_cases same : found = content
  · rw [if_pos same]
    exact ⟨rfl, fun status ended => ⟨same, (Except.ok.inj ended).symm⟩, fun _ => rfl⟩
  · rw [if_neg same]
    split
    · exact ⟨rfl, nofun, fun equal => absurd equal same⟩
    · exact ⟨rfl, nofun, fun equal => absurd equal same⟩

theorem atomicWrite_of_error {content : Bytes} {raised : Raised}
    (unreadable : existingManifest faults false directory = .error raised) :
    atomicWrite platform faults temporary content directory = (.error raised, directory) := by
  unfold atomicWrite
  rw [Effect.read_bind, unreadable]
  rfl

/-- A temporary file that is not created changes nothing. -/
theorem writeNew_of_not_created (content : Bytes)
    (fails : faults.fails .createTemporary ≠ none ∨ Dict.get? directory temporary ≠ none) :
    ∃ raised, writeNew faults temporary content directory = (.error raised, directory) := by
  have ran : ∃ raised, createTemporary faults temporary directory = (.error raised, directory) := by
    unfold createTemporary
    cases created : faults.fails .createTemporary with
    | some error =>
        rw [call_of_some created]
        exact ⟨_, rfl⟩
    | none =>
        rw [call_of_none created, Effect.check_ok_bind, Effect.read_bind]
        cases found : Dict.get? directory temporary with
        | some node => exact ⟨.os .fileExists, rfl⟩
        | none =>
            rcases fails with bad | bad
            · exact absurd created bad
            · exact absurd found bad
  obtain ⟨raised, ran⟩ := ran
  refine ⟨raised, ?_⟩
  unfold writeNew
  rw [Effect.bind_apply, ran]

/-! ### From the root -/

variable (platform faults maxFiles token relative datasetId root) in
/-- The call gets as far as creating its temporary file, for this manifest of the directory. -/
structure Creates (directory : Entries) (manifest : Manifest) : Prop where
  idShort : ¬ (datasetId = "" ∨ 128 < datasetId.length)
  idPlain : isDatasetId datasetId = true
  opens : ∃ parts, relativeParts relative = .ok parts ∧ faults.fails .openRoot = none ∧
    openParts faults [] parts root = .ok directory ∧
    prepare platform faults maxFiles datasetId (normalisedOf parts) directory = .ok manifest
  absent : existingManifest faults false directory = .ok none
  created : faults.fails .createTemporary = none
  unused : Dict.get? directory (temporaryName token) = none

variable (faults) in
theorem leave_raises {α : Type} (result : Except Raised α) :
    Raises (leave faults result) ↔ Raises result ∨ faults.fails .closeDataset ≠ none := by
  unfold leave Raises
  cases closed : faults.fails .closeDataset with
  | some error => simp
  | none => cases result <;> simp

theorem map_raises {α β : Type} (f : α → β) (result : Except Raised α) :
    Raises (result.map f) ↔ Raises result := by
  unfold Raises
  cases result with
  | error raised => exact ⟨fun _ => ⟨raised, rfl⟩, fun _ => ⟨raised, rfl⟩⟩
  | ok item => exact ⟨nofun, nofun⟩

theorem withDirectory_eq {α : Type} {parts : List Name} (body : Name → Effect Entries Raised α)
    (relativeOk : relativeParts relative = .ok parts) (opensRoot : faults.fails .openRoot = none)
    (opened : openParts faults [] parts root = .ok directory) :
    withDirectory faults relative body root =
      (leave faults (body (normalisedOf parts) directory).1,
        replaceAt (body (normalisedOf parts) directory).2 parts root) := by
  unfold withDirectory
  rw [relativeOk]
  dsimp only
  rw [call_of_none opensRoot, ok_bind, opened]

/-- A directory that is not opened leaves the root as it is. -/
theorem withDirectory_cases {α : Type} (faults : Faults) (relative : String)
    (body : Name → Effect Entries Raised α) (root : Entries) :
    ((∃ raised, withDirectory faults relative body root = (.error raised, root)) ∨
      ∃ parts directory, relativeParts relative = .ok parts ∧ faults.fails .openRoot = none ∧
        openParts faults [] parts root = .ok directory) := by
  unfold withDirectory
  cases relativeOk : relativeParts relative with
  | error raised => exact .inl ⟨raised, rfl⟩
  | ok parts =>
      dsimp only
      cases opensRoot : faults.fails .openRoot with
      | some error =>
          rw [call_of_some opensRoot]
          obtain ⟨raised, raises⟩ :=
            (leave_raises faults (.error (.os error) : Except Raised α)).mpr
              (.inl ⟨_, rfl⟩)
          exact .inl ⟨raised, Prod.ext raises rfl⟩
      | none =>
          rw [call_of_none opensRoot, ok_bind]
          cases opened : openParts faults [] parts root with
          | error error =>
              obtain ⟨raised, raises⟩ :=
                (leave_raises faults (.error error : Except Raised α)).mpr
                  (.inl ⟨_, rfl⟩)
              exact .inl ⟨raised, Prod.ext raises rfl⟩
          | ok directory => exact .inr ⟨parts, directory, rfl, rfl, opened⟩

theorem create_of_id (idShort : ¬ (datasetId = "" ∨ 128 < datasetId.length))
    (idPlain : isDatasetId datasetId = true) :
    create platform faults maxFiles token relative datasetId root =
      withDirectory faults relative (createIn platform faults maxFiles token datasetId) root := by
  have notWrong : ¬ (isDatasetId datasetId = false) := by
    rw [idPlain]
    exact Bool.noConfusion
  unfold create
  rw [(raiseIf_eq_ok _ _ ()).mpr idShort, Effect.check_ok_bind,
    (raiseIf_eq_ok _ _ ()).mpr notWrong, Effect.check_ok_bind]

/-- A dataset id that is refused leaves the root as it is. -/
theorem create_cases (platform : DatasetPlatform φ) (faults : Faults) (maxFiles : Nat)
    (token relative datasetId : String) (root : Entries) :
    (∃ raised, create platform faults maxFiles token relative datasetId root =
        (.error raised, root)) ∨
      (¬ (datasetId = "" ∨ 128 < datasetId.length) ∧ isDatasetId datasetId = true) := by
  by_cases idShort : datasetId = "" ∨ 128 < datasetId.length
  · left
    unfold create
    rw [raiseIf, if_pos idShort]
    exact ⟨_, rfl⟩
  · cases idPlain : isDatasetId datasetId with
    | true => exact .inr ⟨idShort, rfl⟩
    | false =>
        left
        unfold create
        rw [(raiseIf_eq_ok _ _ ()).mpr idShort, Effect.check_ok_bind, raiseIf, if_pos idPlain]
        exact ⟨_, rfl⟩

/-- A call that raises leaves the root as it was just when, having created its temporary file,
it does not meet one of the failing calls that leave something behind. -/
theorem create_leaves (platform : DatasetPlatform φ) (faults : Faults) (maxFiles : Nat)
    (token relative datasetId : String) (root : Entries) :
    (∀ raised later, create platform faults maxFiles token relative datasetId root =
        (.error raised, later) → later = root) ↔
      ¬ ∃ directory manifest,
        Creates platform faults maxFiles token relative datasetId root directory manifest ∧
          leavesBehind faults directory (encoded φ manifest) := by
  constructor
  · rintro kept ⟨directory, manifest, creates, behind⟩
    obtain ⟨parts, relativeOk, opensRoot, opened, prepared⟩ := creates.opens
    obtain ⟨raises, changed⟩ := (writeNew_leaves (temporaryName_ne token) creates.created
      creates.unused).mpr behind
    have ran := withDirectory_eq (createIn platform faults maxFiles token datasetId)
      relativeOk opensRoot opened
    rw [← create_of_id creates.idShort creates.idPlain, createIn_eq prepared,
      atomicWrite_of_none creates.absent] at ran
    have raised := (leave_raises faults _).mpr (raises.imp_left (map_raises
      (fun writeStatus => Created.mk writeStatus (manifestPath (normalisedOf parts)) manifest)
      _).mpr)
    obtain ⟨error, isError⟩ := raised
    rw [isError] at ran
    exact changed ((replaceAt_eq_iff opened).mp (kept _ _ ran))
  · intro nothing raised later ran
    rcases create_cases platform faults maxFiles token relative datasetId root with
      ⟨error, refused⟩ | ⟨idShort, idPlain⟩
    · rw [refused] at ran
      exact (Prod.mk.inj ran).2.symm
    · rw [create_of_id idShort idPlain] at ran
      rcases withDirectory_cases faults relative
        (createIn platform faults maxFiles token datasetId) root with ⟨error, closed⟩ |
        ⟨parts, directory, relativeOk, opensRoot, opened⟩
      · rw [closed] at ran
        exact (Prod.mk.inj ran).2.symm
      · rw [withDirectory_eq _ relativeOk opensRoot opened] at ran
        obtain ⟨failed, same⟩ := Prod.mk.inj ran
        rw [← same, replaceAt_eq_iff opened]
        cases prepared : prepare platform faults maxFiles datasetId (normalisedOf parts)
            directory with
        | error error =>
            unfold createIn
            rw [Effect.read_bind, prepared]
            rfl
        | ok manifest =>
            rw [createIn_eq prepared] at failed ⊢
            dsimp only at failed ⊢
            cases existing : existingManifest faults false directory with
            | error error => rw [atomicWrite_of_error existing]
            | ok found =>
                cases found with
                | some found => exact (atomicWrite_of_some platform _ _ existing).1
                | none =>
                    rw [atomicWrite_of_none existing] at failed ⊢
                    by_cases creates : faults.fails .createTemporary = none ∧
                        Dict.get? directory (temporaryName token) = none
                    · obtain ⟨created, unused⟩ := creates
                      have raises := ((leave_raises faults _).mp ⟨raised, failed⟩).imp_left
                        (map_raises _ _).mp
                      by_contra changed
                      exact nothing ⟨directory, manifest,
                        ⟨idShort, idPlain, ⟨parts, relativeOk, opensRoot, opened, prepared⟩,
                          existing, created, unused⟩,
                        (writeNew_leaves (temporaryName_ne token) created unused).mp
                          ⟨raises, changed⟩⟩
                    · obtain ⟨_, kept⟩ := writeNew_of_not_created
                        (encoded φ manifest) (not_and_or.mp creates)
                      rw [kept]

end Creating

end EgoAgent.Datasets
