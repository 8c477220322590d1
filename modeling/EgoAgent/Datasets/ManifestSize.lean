import EgoAgent.Api.WireLength
import EgoAgent.Datasets.Published

/-!
How many bytes a manifest takes, from the files of its dataset alone.
-/

namespace EgoAgent.Datasets

open EgoAgent.Api Effect

/-! ### The manifest of a dataset -/

/-- A path as the text that stands for it, where there is one. -/
def pathText (name : Name) : String := (textOf? name).getD ""

/-- What a file takes in the manifest, with the mark behind it. -/
def fileSize (file : Name × Bytes) : Nat :=
  100 + wireLength (quoted (pathText file.1)) + wireLength (numeral file.2.length)

/-- How many bytes the manifest of these files takes. -/
def manifestSize (datasetId : String) (normalised : Name) (files : List (Name × Bytes)) : Nat :=
  279 + wireLength (quoted datasetId) + wireLength (quoted (pathText normalised)) +
    wireLength (numeral files.length) +
    wireLength (numeral ((files.map fun file => file.2.length).sum : Nat)) +
    (if files = [] then 1 else 0) + (files.map fileSize).sum

section Manifests

variable {φ : Type} [FloatText φ] {platform : DatasetPlatform φ} {faults : Faults}
  {maxFiles : Nat} {datasetId : String} {normalised : Name} {directory : Entries}
  {manifest : Manifest}

theorem wireLength_file (file : Name × Bytes) :
    wireLength (Json.dict (FileRecord.dump ⟨pathText file.1, file.2.length,
      (platform.sha256 file.2).labelled ""⟩) : Json φ).sorted.text + 1 = fileSize file := by
  have path : wireLength (quoted "path") = 6 := by decide
  have size : wireLength (quoted "size_bytes") = 12 := by decide
  have digest : wireLength (quoted "sha256") = 8 := by decide
  rw [FileRecord.dump, wireLength_sorted_dict (List.cons_ne_nil _ _)]
  simp only [List.map_cons, List.map_nil, List.sum_cons, List.sum_nil, Json.sorted, Json.text,
    path, size, digest, wireLength_quoted_digest, fileSize]
  omega

variable (platform) in
def recordText (file : Name × Bytes) : FileRecord String :=
  ⟨pathText file.1, file.2.length, (platform.sha256 file.2).labelled ""⟩

theorem wireLength_files (files : List (Name × Bytes)) :
    wireLength (dumpFiles (files.map (recordText platform)) : Json φ).sorted.text =
      1 + (if files = [] then 1 else 0) + (files.map fileSize).sum := by
  have items : (fun item : Json φ => wireLength item.text + 1) ∘ (Json.sorted ∘
      fun file => Json.dict file.dump) ∘ recordText platform = fileSize := by
    funext file
    exact wireLength_file file
  rw [dumpFiles, Json.sorted, wireLength_list, sortedItems_eq_map, List.map_map, List.map_map,
    List.map_map, items]
  simp only [List.map_eq_nil_iff]

theorem sum_sizeBytes (files : List (Name × Bytes)) :
    ((files.map (recordText platform)).map FileRecord.sizeBytes).sum =
      ((files.map fun file => file.2.length).sum : Nat) := by
  induction files with
  | nil => rfl
  | cons file rest ih =>
      rw [List.map_cons, List.map_cons, List.map_cons, List.sum_cons, List.sum_cons, ih,
        Int.natCast_add]
      rfl

theorem manifestSize_perm {files others : List (Name × Bytes)} (perm : files.Perm others) :
    manifestSize datasetId normalised files = manifestSize datasetId normalised others := by
  have empty : (files = []) = (others = []) := by
    rw [← List.length_eq_zero_iff, ← List.length_eq_zero_iff, perm.length_eq]
  unfold manifestSize
  simp only [empty, perm.length_eq, (perm.map fun file => file.2.length).sum_nat,
    (perm.map fileSize).sum_nat]

theorem dump_length (datasetId path : String) (files : List (Name × Bytes))
    (tree whole : Digest) :
    (encoded φ ⟨datasetId, path, files.map (recordText platform),
        (files.map (recordText platform)).length,
        ((files.map (recordText platform)).map FileRecord.sizeBytes).sum,
        tree.labelled "", whole.labelled ""⟩).length =
      279 + wireLength (quoted datasetId) + wireLength (quoted path) +
        wireLength (numeral files.length) +
        wireLength (numeral ((files.map fun file => file.2.length).sum : Nat)) +
        (if files = [] then 1 else 0) + (files.map fileSize).sum := by
  have newline : wireLength ['\n'] = 1 := by decide
  have schema : wireLength (quoted "schema") = 8 := by decide
  have schemaName : wireLength (quoted "egoagentos.dataset-manifest.v1") = 32 := by decide
  have idKey : wireLength (quoted "dataset_id") = 12 := by decide
  have pathKey : wireLength (quoted "dataset_path") = 14 := by decide
  have filesKey : wireLength (quoted "files") = 7 := by decide
  have countKey : wireLength (quoted "file_count") = 12 := by decide
  have totalKey : wireLength (quoted "total_bytes") = 13 := by decide
  have treeKey : wireLength (quoted "tree_sha256") = 13 := by decide
  have digestKey : wireLength (quoted "manifest_sha256") = 17 := by decide
  unfold encoded
  change wireLength _ = _
  rw [wireLength_append, newline, Manifest.dump, wireLength_sorted_dict (List.cons_ne_nil _ _)]
  simp only [List.map_cons, List.map_nil, List.sum_cons, List.sum_nil, schema, idKey,
    pathKey, filesKey, countKey, totalKey, treeKey, digestKey, wireLength_files]
  simp only [Json.sorted, Json.text, schemaName, wireLength_quoted_digest, sum_sizeBytes,
    List.length_map]
  omega

/-- The records as they stand in the manifest. -/
theorem encodable_texts {records : List (FileRecord Name)} {files : List (FileRecord String)}
    (encoded : encodable records = .ok files) :
    files = records.map fun record => ⟨pathText record.path, record.sizeBytes, record.sha256⟩ := by
  have read := (expect_eq_ok _ _ _).mp encoded
  clear encoded
  induction records generalizing files with
  | nil =>
      cases read
      rfl
  | cons record rest ih =>
      rw [List.mapM_cons] at read
      obtain ⟨first, here, read⟩ := Option.bind_eq_some_iff.mp read
      obtain ⟨others, later, read⟩ := Option.bind_eq_some_iff.mp read
      cases read
      obtain ⟨path, isPath, rfl⟩ := Option.map_eq_some_iff.mp here
      have isText : pathText record.path = path := by
        unfold pathText
        rw [isPath, Option.getD_some]
      rw [List.map_cons, ← ih later, isText]

/-- The length of a manifest is a matter of the files of its dataset. -/
theorem encoded_length
    (prepared : prepare platform faults maxFiles datasetId normalised directory = .ok manifest) :
    (encoded φ manifest).length =
      manifestSize datasetId normalised (datasetFiles directory) := by
  obtain ⟨records, scanned, built, _⟩ := prepare_eq_ok prepared
  obtain ⟨files, perm, rfl⟩ := scan_records scanned
  obtain ⟨recorded, isRecorded, built⟩ := (bind_eq_ok _ _ _).mp built
  obtain ⟨path, isPath, built⟩ := (bind_eq_ok _ _ _).mp built
  have isPath : pathText normalised = path := by
    unfold pathText
    rw [(expect_eq_ok _ _ _).mp isPath, Option.getD_some]
  cases built
  have isRecorded := encodable_texts isRecorded
  rw [List.map_map] at isRecorded
  change recorded = files.map (recordText platform) at isRecorded
  rw [manifestSize_perm perm.symm, isRecorded, ← isPath]
  exact dump_length datasetId (pathText normalised) files _ _

end Manifests

end EgoAgent.Datasets
