import EgoAgent.Datasets.DatasetRoundTrip

/-!
What `create` publishes, and what `verify` then says of the dataset and of a changed one.
-/

namespace EgoAgent.Datasets

open EgoAgent.Api Effect

section Published

variable {φ : Type} [FloatText φ] {platform : DatasetPlatform φ} {maxFiles : Nat}
  {token relative datasetId : String} {parts : List Name} {root directory : Entries}
  {manifest : Manifest} {content : Bytes}

/-! ### Without failing calls -/

theorem existingManifest_none (again : Bool) (directory : Entries) :
    existingManifest .none again directory =
      match Dict.get? directory manifestName with
      | none => .ok none
      | some (.file content) =>
          if maxManifestBytes < content.length then
            .error (.tool "file_too_large" "The requested file exceeds the read limit")
          else .ok (some content)
      | some .symlink => .error (.tool "manifest_symlink_rejected"
          "The canonical manifest path must not be a symlink")
      | some _ => .error (.tool "not_regular_file" "Only regular files are allowed") := by
  unfold existingManifest
  dsimp only [Faults.none]
  cases Dict.get? directory manifestName with
  | none => rfl
  | some node =>
      cases node with
      | file content =>
          dsimp only
          by_cases large : maxManifestBytes < content.length
          · rw [if_pos large]
            simp only [raiseIf, if_pos large]
            rfl
          · rw [if_neg large]
            simp only [raiseIf, if_neg large]
            rfl
      | directory entries => rfl
      | symlink => rfl
      | special => rfl

theorem existingManifest_eq_none (again : Bool) :
    existingManifest .none again directory = .ok none ↔
      Dict.get? directory manifestName = none := by
  rw [existingManifest_none]
  cases Dict.get? directory manifestName with
  | none => simp
  | some node =>
      cases node with
      | file content =>
          dsimp only
          split <;> simp
      | _ => simp

theorem existingManifest_eq_some (again : Bool) :
    existingManifest .none again directory = .ok (some content) ↔
      Dict.get? directory manifestName = some (.file content) ∧
        content.length ≤ maxManifestBytes := by
  rw [existingManifest_none]
  cases Dict.get? directory manifestName with
  | none => simp
  | some node =>
      cases node with
      | file found =>
          dsimp only
          split
          · rename_i large
            constructor
            · exact nofun
            · rintro ⟨same, small⟩
              cases same
              omega
          · rename_i small
            constructor
            · intro same
              cases same
              exact ⟨rfl, Nat.le_of_not_lt small⟩
            · rintro ⟨same, _⟩
              cases same
              rfl
      | _ => simp

variable {temporary : Name}

/-- A manifest is written, and nothing else. -/
theorem writeNew_none (different : temporary ≠ manifestName)
    (unused : Dict.get? directory temporary = none)
    (noManifest : Dict.get? directory manifestName = none) :
    writeNew .none temporary content directory =
      (.ok .created, Dict.set directory manifestName (.file content)) := by
  have linked : ¬ linkFails .none directory := by
    rintro (bad | bad)
    · exact bad rfl
    · exact bad noManifest
  have ran := publish_of_linked content different linked (.file content)
  rw [writeNew_eq rfl unused, Effect.bind_apply, filling_of_none rfl rfl rfl rfl, Dict.set_set]
  dsimp only [ensure]
  rw [ran, unlink_of_none rfl, remove_set_set different unused noManifest]
  rfl

variable {later : Entries}

/-- A publication that succeeds found the manifest, or wrote it. -/
theorem atomicWrite_eq_ok {status : WriteStatus} (different : temporary ≠ manifestName)
    (written : atomicWrite platform .none temporary content directory = (.ok status, later)) :
    (existingManifest .none false directory = .ok (some content) ∧ later = directory) ∨
      (existingManifest .none false directory = .ok none ∧
        Dict.get? directory temporary = none ∧
          later = Dict.set directory manifestName (.file content)) := by
  cases existing : existingManifest .none false directory with
  | error raised =>
      rw [atomicWrite_of_error existing] at written
      cases written
  | ok found =>
      cases found with
      | some found =>
          obtain ⟨kept, unchanged, _⟩ := atomicWrite_of_some platform temporary content existing
          rw [written] at kept unchanged
          obtain ⟨rfl, _⟩ := unchanged status rfl
          exact .inl ⟨rfl, kept⟩
      | none =>
          rw [atomicWrite_of_none existing] at written
          have unused : Dict.get? directory temporary = none := by
            by_contra used
            obtain ⟨raised, refused⟩ :
                ∃ raised, writeNew .none temporary content directory = (.error raised, directory) :=
              writeNew_of_not_created content (.inr used)
            rw [refused] at written
            cases written
          rw [writeNew_none different unused ((existingManifest_eq_none false).mp existing)]
            at written
          exact .inr ⟨rfl, unused, (Prod.mk.inj written).2.symm⟩

/-- It has changed nothing but the manifest. -/
theorem atomicWrite_keeps {status : WriteStatus} (different : temporary ≠ manifestName)
    (written : atomicWrite platform .none temporary content directory = (.ok status, later)) :
    Dict.get? later manifestName = some (.file content) ∧
      (directory.filter notManifest).Perm (later.filter notManifest) := by
  rcases atomicWrite_eq_ok different written with ⟨existing, rfl⟩ | ⟨existing, _, rfl⟩
  · exact ⟨((existingManifest_eq_some false).mp existing).1, .refl _⟩
  · refine ⟨Dict.get?_set_self directory _ _, ?_⟩
    rw [Dict.set_of_absent _ ((existingManifest_eq_none false).mp existing), List.filter_append,
      List.filter_cons_of_neg (by simp [notManifest]), List.filter_nil, List.append_nil]

/-- What a `create` that succeeds has opened, scanned and written. -/
theorem create_eq_ok {created : Created}
    (ended : create platform .none maxFiles token relative datasetId root =
      (.ok created, later)) :
    (¬ (datasetId = "" ∨ 128 < datasetId.length) ∧ isDatasetId datasetId = true) ∧
      ∃ parts directory after, relativeParts relative = .ok parts ∧
        openParts .none [] parts root = .ok directory ∧
        prepare platform .none maxFiles datasetId (normalisedOf parts) directory =
          .ok created.manifest ∧
        atomicWrite platform .none (temporaryName token) (encoded φ created.manifest) directory =
          (.ok created.writeStatus, after) ∧
        later = replaceAt after parts root := by
  rcases create_cases platform .none maxFiles token relative datasetId root with
    ⟨raised, refused⟩ | ⟨idShort, idPlain⟩
  · rw [refused] at ended
    cases ended
  rw [create_of_id idShort idPlain] at ended
  rcases withDirectory_cases .none relative (createIn platform .none maxFiles token datasetId) root
    with ⟨raised, closed⟩ | ⟨parts, directory, relativeOk, _, opened⟩
  · rw [closed] at ended
    cases ended
  rw [withDirectory_eq _ relativeOk rfl opened] at ended
  obtain ⟨inside, isLater⟩ := Prod.mk.inj ended
  have inside := leave_none_eq_ok.mp inside
  cases prepared : prepare platform .none maxFiles datasetId (normalisedOf parts) directory with
  | error raised =>
      unfold createIn at inside
      rw [Effect.read_bind, prepared] at inside
      cases inside
  | ok manifest =>
      rw [createIn_eq prepared] at inside isLater
      dsimp only at inside isLater
      rcases ran : atomicWrite platform .none (temporaryName token) (encoded φ manifest) directory
        with ⟨raised | status, after⟩
      · rw [ran] at inside
        cases inside
      · rw [ran] at inside isLater
        cases inside
        exact ⟨⟨idShort, idPlain⟩, parts, directory, after, relativeOk, opened, prepared, ran,
          isLater.symm⟩

/-! ### A published manifest -/

variable (platform maxFiles relative datasetId root) in
/-- The dataset holds the manifest of its own files, which JSON writes and reads. -/
structure Published (parts : List Name) (directory : Entries) (manifest : Manifest) : Prop where
  idShort : ¬ (datasetId = "" ∨ 128 < datasetId.length)
  idPlain : isDatasetId datasetId = true
  relativeOk : relativeParts relative = .ok parts
  opened : openParts .none [] parts root = .ok directory
  prepared :
    prepare platform .none maxFiles datasetId (normalisedOf parts) directory = .ok manifest
  present : Dict.get? directory manifestName = some (.file (encoded φ manifest))
  readable : legible (.dict manifest.dump : Json φ) = true

theorem create_publishes {created : Created} (proper : (Node.directory root).proper = true)
    (ended : create platform .none maxFiles token relative datasetId root =
      (.ok created, later)) :
    ∃ parts directory,
      Published platform maxFiles relative datasetId later parts directory created.manifest := by
  obtain ⟨⟨idShort, idPlain⟩, parts, directory, after, relativeOk, opened, prepared, written,
    rfl⟩ := create_eq_ok ended
  have properHere := openParts_proper proper opened
  obtain ⟨present, same⟩ := atomicWrite_keeps (temporaryName_ne token) written
  obtain ⟨records, scanned, built, _, few⟩ := prepare_eq_ok prepared
  refine ⟨parts, after, idShort, idPlain, relativeOk, openParts_replaceAt after opened, ?_,
    present, manifest_legible properHere scanned built few⟩
  rw [prepare_congr ((proper_directory_iff directory).mp properHere).1 same, prepared]

/-- `verify` finds it valid just when it is not larger than what is read. -/
theorem Published.verifies_iff
    (published : Published platform maxFiles relative datasetId root parts directory manifest) :
    (∃ report, verify platform maxFiles relative root = .ok report ∧ report.valid = true) ↔
      (encoded φ manifest).length ≤ maxManifestBytes := by
  constructor
  · rintro ⟨report, verified, _⟩
    obtain ⟨raw, _, _, _, found, _⟩ :=
      (verify_eq_ok published.relativeOk published.opened).mp verified
    obtain ⟨present, small⟩ := (existingManifest_eq_some false).mp found
    rw [published.present] at present
    cases present
    exact small
  · intro small
    obtain ⟨records, scanned, built, valid, _⟩ := prepare_eq_ok published.prepared
    have sameId := (manifestOf_eq_ok built).2.1
    refine ⟨_, (verify_eq_ok published.relativeOk published.opened).mpr
      ⟨encoded φ manifest, manifest, records, manifest,
        (existingManifest_eq_some false).mpr ⟨published.present, small⟩,
        parseManifest_encoded published.readable valid, scanned, ?_, rfl⟩, ?_⟩
    · rw [sameId, built]
    · have none : mismatches (decide (encoded φ manifest = encoded φ manifest)) manifest manifest =
          [] := mismatches_eq_nil_iff.mpr ⟨decide_eq_true rfl, rfl⟩
      unfold Report.valid
      rw [none]
      rfl

/-- So does a second `create` leave it unchanged. -/
theorem Published.create_unchanged
    (published : Published platform maxFiles relative datasetId root parts directory manifest)
    (small : (encoded φ manifest).length ≤ maxManifestBytes) (token : String) :
    create platform .none maxFiles token relative datasetId root =
      (.ok ⟨.unchanged, manifestPath (normalisedOf parts), manifest⟩, root) := by
  have existing := (existingManifest_eq_some false).mpr ⟨published.present, small⟩
  rw [create_of_id published.idShort published.idPlain,
    withDirectory_eq _ published.relativeOk rfl published.opened, createIn_eq published.prepared,
    (atomicWrite_of_some platform _ _ existing).2.2 rfl]
  dsimp only
  rw [replaceAt_opened published.opened]
  rfl

/-- Records of different files differ, unless two contents have one digest. -/
theorem map_recordOf_inj {left right : List (Name × Bytes)}
    (collisionFree : Set.InjOn platform.sha256
      {content | ∃ path, (path, content) ∈ left ∨ (path, content) ∈ right})
    (same : left.map (recordOf platform) = right.map (recordOf platform)) : left = right := by
  induction left generalizing right with
  | nil => exact (List.map_eq_nil_iff.mp same.symm).symm
  | cons file rest ih =>
      obtain ⟨other, others, rfl, first, later⟩ := List.map_eq_cons_iff.mp same.symm
      obtain ⟨path, content⟩ := file
      obtain ⟨otherPath, otherContent⟩ := other
      injection first with samePath _ sameText
      have sameContent := collisionFree ⟨otherPath, .inr (List.mem_cons_self ..)⟩
        ⟨path, .inl (List.mem_cons_self ..)⟩ (Digest.labelled_injective "" sameText)
      have sameRest := ih (collisionFree.mono fun content ⟨path, inside⟩ =>
        ⟨path, inside.imp (List.mem_cons_of_mem _) (List.mem_cons_of_mem _)⟩) later.symm
      rw [show path = otherPath from samePath.symm, ← sameContent, sameRest]

/-- A dataset with this manifest that verifies has the files the manifest was published for. -/
theorem Published.files_of_valid {other otherDirectory : Entries} {report : Report}
    (published : Published platform maxFiles relative datasetId root parts directory manifest)
    (opened : openParts .none [] parts other = .ok otherDirectory)
    (kept : Dict.get? otherDirectory manifestName = Dict.get? directory manifestName)
    (collisionFree : Set.InjOn platform.sha256 {content | ∃ path,
      (path, content) ∈ datasetFiles directory ∨ (path, content) ∈ datasetFiles otherDirectory})
    (verified : verify platform maxFiles relative other = .ok report)
    (valid : report.valid = true) :
    (datasetFiles otherDirectory).Perm (datasetFiles directory) := by
  obtain ⟨records, scanned, built, isManifest, _⟩ := prepare_eq_ok published.prepared
  obtain ⟨raw, read, others, expected, found, parsed, rescanned, rebuilt, rfl⟩ :=
    (verify_eq_ok published.relativeOk opened).mp verified
  -- the bytes that are read are those that were written
  obtain ⟨present, _⟩ := (existingManifest_eq_some false).mp found
  rw [kept, published.present] at present
  cases present
  rw [parseManifest_encoded published.readable isManifest] at parsed
  cases parsed
  obtain ⟨_, rfl⟩ := mismatches_eq_nil_iff.mp (List.isEmpty_iff.mp valid)
  have sameRecords : others = records := by
    rw [encodable_eq_ok (manifestOf_eq_ok rebuilt).1, encodable_eq_ok (manifestOf_eq_ok built).1]
  obtain ⟨files, perm, isRecords⟩ := scan_records scanned
  obtain ⟨otherFiles, otherPerm, isOthers⟩ := scan_records rescanned
  have sameFiles : otherFiles = files := by
    refine map_recordOf_inj (collisionFree.mono ?_) (isOthers.symm.trans
      (sameRecords.trans isRecords))
    rintro content ⟨path, inside | inside⟩
    · exact ⟨path, .inr (otherPerm.mem_iff.mp inside)⟩
    · exact ⟨path, .inl (perm.mem_iff.mp inside)⟩
  rw [sameFiles] at otherPerm
  exact otherPerm.symm.trans perm

end Published

end EgoAgent.Datasets
