import EgoAgent.Datasets.Creating

/-!
A created manifest verifies while the dataset stays as it is, and only then.
-/

namespace EgoAgent.Datasets

open EgoAgent.Api Effect

/-! ### Proper trees -/

theorem properEntries_iff (entries : List (Name × Node)) :
    properEntries entries = true ↔ ∀ entry ∈ entries, entry.2.proper = true := by
  induction entries with
  | nil => simp [properEntries]
  | cons entry rest ih =>
      obtain ⟨name, node⟩ := entry
      simp [properEntries, ih]

theorem proper_directory_iff (entries : List (Name × Node)) :
    (Node.directory entries).proper = true ↔
      (Dict.keys entries).Nodup ∧ properEntries entries = true := by
  rw [Node.proper, Bool.and_eq_true, decide_eq_true_iff]

theorem openParts_proper {faults : Faults} :
    ∀ {parts : List Name} {path : Name} {root opened : Entries},
      (Node.directory root).proper = true → openParts faults path parts root = .ok opened →
      (Node.directory opened).proper = true
  | [], _, _, _, proper, found => by
      cases found
      exact proper
  | name :: rest, _, root, _, proper, found => by
      obtain ⟨children, first, later⟩ := (bind_eq_ok _ _ _).mp found
      have inside := Dict.mem_of_get? root (openPart_found first)
      exact openParts_proper ((properEntries_iff root).mp
        ((proper_directory_iff root).mp proper).2 _ inside) later

mutual

theorem files_sizes : ∀ (node : Node) (path : Name), node.proper = true →
    ∀ file ∈ node.files path, file.2.length < 2 ^ 63
  | .file content, path, proper, file, present => by
      rw [Node.files, List.mem_singleton] at present
      rw [present]
      exact of_decide_eq_true proper
  | .symlink, _, _, _, present => nomatch present
  | .special, _, _, _, present => nomatch present
  | .directory entries, path, proper, file, present =>
      filesOf_sizes entries path ((proper_directory_iff entries).mp proper).2 file present

theorem filesOf_sizes : ∀ (entries : List (Name × Node)) (path : Name),
    properEntries entries = true → ∀ file ∈ filesOf path entries, file.2.length < 2 ^ 63
  | [], _, _, _, present => nomatch present
  | (name, node) :: rest, path, proper, file, present => by
      rw [properEntries, Bool.and_eq_true] at proper
      rw [filesOf] at present
      split at present
      · exact filesOf_sizes rest path proper.2 file present
      · rcases List.mem_append.mp present with here | later
        · exact files_sizes node (below path name) proper.1 file here
        · exact filesOf_sizes rest path proper.2 file later

end

/-! ### Manifests of scans -/

section Manifests

variable {φ : Type} [FloatText φ] {platform : DatasetPlatform φ} {faults : Faults}
  {maxFiles : Nat} {datasetId : String} {normalised : Name} {directory : Entries}
  {records : List (FileRecord Name)} {manifest : Manifest}

/-- The encoded records give the scanned ones back. -/
theorem encodable_eq_ok : ∀ {records : List (FileRecord Name)} {files : List (FileRecord String)},
    encodable records = .ok files →
      records = files.map fun file => ⟨nameOf file.path, file.sizeBytes, file.sha256⟩ := by
  intro records
  unfold encodable
  induction records with
  | nil =>
      intro files encoded
      cases (expect_eq_ok _ _ _).mp encoded
      rfl
  | cons record rest ih =>
      intro files encoded
      have encoded := (expect_eq_ok _ _ _).mp encoded
      rw [List.mapM_cons] at encoded
      obtain ⟨first, here, encoded⟩ := Option.bind_eq_some_iff.mp encoded
      obtain ⟨others, later, encoded⟩ := Option.bind_eq_some_iff.mp encoded
      cases encoded
      obtain ⟨path, isPath, rfl⟩ := Option.map_eq_some_iff.mp here
      rw [List.map_cons, ← ih ((expect_eq_ok _ _ _).mpr later), nameOf_textOf? isPath]

theorem manifestOf_eq_ok (built : manifestOf platform datasetId normalised records = .ok manifest) :
    encodable records = .ok manifest.files ∧ manifest.datasetId = datasetId ∧
      manifest.fileCount = manifest.files.length ∧
      manifest.totalBytes = (manifest.files.map FileRecord.sizeBytes).sum := by
  obtain ⟨files, isFiles, built⟩ := (bind_eq_ok _ _ _).mp built
  obtain ⟨path, _, built⟩ := (bind_eq_ok _ _ _).mp built
  cases built
  exact ⟨isFiles, rfl, rfl, rfl⟩

theorem prepare_eq_ok (prepared :
      prepare platform faults maxFiles datasetId normalised directory = .ok manifest) :
    ∃ records, scan platform faults maxFiles directory = .ok records ∧
      manifestOf platform datasetId normalised records = .ok manifest ∧
      readManifest (.dict manifest.dump : Json φ) = some manifest ∧
      manifest.files.length ≤ 100000 := by
  obtain ⟨records, scanned, prepared⟩ := (bind_eq_ok _ _ _).mp prepared
  obtain ⟨built, isManifest, prepared⟩ := (bind_eq_ok _ _ _).mp prepared
  obtain ⟨valid, prepared⟩ := (raiseIf_bind_eq_ok _ _ _ _).mp prepared
  cases prepared
  obtain ⟨read, isRead⟩ := Option.isSome_iff_exists.mp (Bool.eq_true_of_not_eq_false valid)
  obtain ⟨same, few⟩ := readManifest_dump isRead
  exact ⟨records, scanned, isManifest, by rw [isRead, same], few⟩

/-- A directory with the same files gives the same manifest. -/
theorem prepare_congr {other : Entries} (distinct : (Dict.keys directory).Nodup)
    (same : (directory.filter notManifest).Perm (other.filter notManifest)) :
    prepare platform faults maxFiles datasetId normalised other =
      prepare platform faults maxFiles datasetId normalised directory := by
  unfold prepare
  rw [scan_congr distinct same]

theorem sum_sizes {files : List (FileRecord String)} {bound : Nat}
    (sizes : ∀ file ∈ files, ∃ size : Nat, size < bound ∧ file.sizeBytes = size) :
    ∃ total : Nat, total ≤ files.length * bound ∧
      (files.map FileRecord.sizeBytes).sum = (total : Int) := by
  induction files with
  | nil => exact ⟨0, Nat.zero_le _, rfl⟩
  | cons file rest ih =>
      obtain ⟨⟨size, small, isSize⟩, later⟩ := List.forall_mem_cons.mp sizes
      obtain ⟨total, bounded, isTotal⟩ := ih later
      refine ⟨size + total, ?_, ?_⟩
      · rw [List.length_cons, Nat.succ_mul]
        omega
      · rw [List.map_cons, List.sum_cons, isSize, isTotal]
        exact (Int.natCast_add size total).symm

/-- The manifest of a scan is a document that JSON writes and reads. -/
theorem manifest_legible (proper : (Node.directory directory).proper = true)
    (scanned : scan platform faults maxFiles directory = .ok records)
    (built : manifestOf platform datasetId normalised records = .ok manifest)
    (few : manifest.files.length ≤ 100000) :
    legible (.dict manifest.dump : Json φ) = true := by
  obtain ⟨encoded, _, count, total⟩ := manifestOf_eq_ok built
  obtain ⟨files, perm, isRecords⟩ := scan_records scanned
  have sizes : ∀ file ∈ manifest.files, ∃ size : Nat, size < 2 ^ 63 ∧ file.sizeBytes = size := by
    intro file present
    have recorded : (⟨nameOf file.path, file.sizeBytes, file.sha256⟩ : FileRecord Name) ∈
        records := by
      rw [encodable_eq_ok encoded]
      exact List.mem_map.mpr ⟨file, present, rfl⟩
    rw [isRecords] at recorded
    obtain ⟨source, inFiles, isSource⟩ := List.mem_map.mp recorded
    refine ⟨source.2.length, ?_, ?_⟩
    · exact filesOf_sizes directory [] ((proper_directory_iff directory).mp proper).2 source
        (perm.mem_iff.mp inFiles)
    · exact (congrArg FileRecord.sizeBytes isSource).symm
  obtain ⟨sum, bounded, isSum⟩ := sum_sizes sizes
  refine dump_legible ?_ ?_ ?_
  · rw [count]
    exact convertible_of_small (by omega)
  · rw [total, isSum]
    exact convertible_of_small (by omega)
  · intro file present
    obtain ⟨size, small, isSize⟩ := sizes file present
    rw [isSize]
    exact convertible_of_small (by omega)

/-- The written manifest is read back. -/
theorem parseManifest_encoded (readable : legible (.dict manifest.dump : Json φ) = true)
    (valid : readManifest (.dict manifest.dump : Json φ) = some manifest) :
    parseManifest platform (encoded φ manifest) = .ok manifest := by
  have unique := uniqueKeys_of_legible _ (legible_sorted _ readable)
  unfold parseManifest encoded
  dsimp only
  rw [platform.reads_back _ (dump_finite manifest) readable, (expect_eq_ok _ _ _).mpr rfl, ok_bind,
    raiseIf_bind_of_not (by rw [unique]; exact Bool.noConfusion), readManifest_sorted readable,
    (expect_eq_ok _ _ _).mpr valid]

theorem mismatches_eq_nil_iff {canonical : Bool} {actual expected : Manifest} :
    mismatches canonical actual expected = [] ↔ canonical = true ∧ actual = expected := by
  obtain ⟨id, path, files, count, total, tree, digest⟩ := actual
  obtain ⟨id', path', files', count', total', tree', digest'⟩ := expected
  simp only [mismatches, List.filterMap_eq_nil_iff, List.forall_mem_cons, List.not_mem_nil,
    false_imp_iff, implies_true, and_true, Manifest.mk.injEq]
  simp
  tauto

end Manifests

/-! ### Verifying -/

section Verifying

variable {φ : Type} [FloatText φ] {platform : DatasetPlatform φ} {maxFiles : Nat}
  {token relative datasetId : String} {parts : List Name} {root directory : Entries}

theorem leave_none_eq_ok {α : Type} {result : Except Raised α} {item : α} :
    leave .none result = .ok item ↔ result = .ok item := by
  cases result with
  | error raised => exact ⟨nofun, nofun⟩
  | ok other => exact Iff.rfl

/-- What `verify` reads of the dataset, and reports. -/
theorem verify_eq_ok {report : Report} (relativeOk : relativeParts relative = .ok parts)
    (opened : openParts .none [] parts root = .ok directory) :
    verify platform maxFiles relative root = .ok report ↔ ∃ raw manifest records expected,
      existingManifest .none false directory = .ok (some raw) ∧
      parseManifest platform raw = .ok manifest ∧
      scan platform .none maxFiles directory = .ok records ∧
      manifestOf platform manifest.datasetId (normalisedOf parts) records = .ok expected ∧
      report = { mismatches := mismatches (decide (raw = encoded φ manifest)) manifest expected
                 manifestPath := manifestPath (normalisedOf parts)
                 expectedManifestSha256 := expected.manifestSha256
                 actualManifestSha256 := manifest.manifestSha256
                 fileCount := records.length } := by
  unfold verify
  rw [withDirectory_eq _ relativeOk rfl opened, bind_eq_ok]
  constructor
  · rintro ⟨⟨raw, normalised⟩, first, verified⟩
    have first := leave_none_eq_ok.mp first
    dsimp only at first verified
    obtain ⟨manifest, parsed, verified⟩ := (bind_eq_ok _ _ _).mp verified
    obtain ⟨records, second, verified⟩ := (bind_eq_ok _ _ _).mp verified
    obtain ⟨expected, rebuilt, verified⟩ := (bind_eq_ok _ _ _).mp verified
    cases verified
    rw [Effect.read_bind] at first
    cases found : existingManifest .none false directory with
    | error raised =>
        rw [found] at first
        cases first
    | ok content =>
        rw [found, Effect.check_ok_bind] at first
        cases content with
        | none => cases first
        | some content =>
            cases first
            rw [withDirectory_eq _ relativeOk rfl opened] at second
            have second := leave_none_eq_ok.mp second
            rw [(raiseIf_eq_ok _ _ ()).mpr (by simp), Effect.check_ok_bind] at second
            exact ⟨_, _, _, _, rfl, parsed, second, rebuilt, rfl⟩
  · rintro ⟨raw, manifest, records, expected, found, parsed, scanned, rebuilt, rfl⟩
    refine ⟨(raw, normalisedOf parts), ?_, ?_⟩
    · rw [leave_none_eq_ok, Effect.read_bind, found]
      rfl
    · dsimp only
      rw [parsed, ok_bind, withDirectory_eq _ relativeOk rfl opened,
        (raiseIf_eq_ok _ _ ()).mpr (by simp), Effect.check_ok_bind, Effect.read_bind, scanned]
      dsimp only [check, leave, Faults.none]
      rw [ok_bind, rebuilt, ok_bind]

end Verifying

end EgoAgent.Datasets
