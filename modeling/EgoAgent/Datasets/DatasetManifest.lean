import EgoAgent.Datasets.Scan

/-!
The dataset manifest: its document, its strict model, and that what is written is read back.
-/

namespace EgoAgent.Datasets

open EgoAgent.Api

section Manifest

variable {φ : Type}

def maxManifestBytes : Nat := 16 * 1024 * 1024

/-- `DatasetManifest`. -/
structure Manifest where
  datasetId : String
  datasetPath : String
  files : List (FileRecord String)
  fileCount : Int
  totalBytes : Int
  treeSha256 : String
  manifestSha256 : String
  deriving DecidableEq

def FileRecord.dump (file : FileRecord String) : List (String × Json φ) :=
  [("path", .str file.path), ("size_bytes", .int file.sizeBytes), ("sha256", .str file.sha256)]

def dumpFiles (files : List (FileRecord String)) : Json φ :=
  .list (files.map fun file => .dict file.dump)

/-- `_manifest_core`, under its tree digest. -/
def coreDump (datasetId datasetPath : String) (files : List (FileRecord String))
    (treeSha256 : String) : List (String × Json φ) :=
  [("schema", .str "egoagentos.dataset-manifest.v1"), ("dataset_id", .str datasetId),
    ("dataset_path", .str datasetPath), ("files", dumpFiles files),
    ("file_count", .int files.length), ("total_bytes", .int (files.map FileRecord.sizeBytes).sum),
    ("tree_sha256", .str treeSha256)]

/-- `model_dump(mode="json", by_alias=True)`. -/
def Manifest.dump (manifest : Manifest) : List (String × Json φ) :=
  [("schema", .str "egoagentos.dataset-manifest.v1"), ("dataset_id", .str manifest.datasetId),
    ("dataset_path", .str manifest.datasetPath), ("files", dumpFiles manifest.files),
    ("file_count", .int manifest.fileCount), ("total_bytes", .int manifest.totalBytes),
    ("tree_sha256", .str manifest.treeSha256), ("manifest_sha256", .str manifest.manifestSha256)]

/-! ### The strict model -/

def field (members : List (String × Json φ)) (key : String) : Json φ :=
  (Dict.get? members key).getD .null

def textField (allowed : String → Bool) : Json φ → Option String
  | .str text => if allowed text then some text else none
  | _ => none

def countField : Json φ → Option Int
  | .int number => if 0 ≤ number then some number else none
  | _ => none

def boundedText (longest : Nat) (text : String) : Bool := text ≠ "" ∧ text.length ≤ longest

def idChar (c : Char) : Bool :=
  ('A' ≤ c ∧ c ≤ 'Z') ∨ ('a' ≤ c ∧ c ≤ 'z') ∨ ('0' ≤ c ∧ c ≤ '9')

/-- `[A-Za-z0-9][A-Za-z0-9._-]{0,127}`. -/
def isDatasetId (text : String) : Bool :=
  match text.toList with
  | [] => false
  | first :: rest => idChar first && decide (rest.length ≤ 127) &&
      rest.all fun c => idChar c || c ∈ ['.', '_', '-']

/-- Whether an object has these keys and no other. -/
def hasOnly (members : List (String × Json φ)) (keys : List String) : Bool :=
  (Dict.keys members).all fun key => key ∈ keys

def readFile : Json φ → Option (FileRecord String)
  | .dict members =>
      if hasOnly members ["path", "size_bytes", "sha256"] then do
        let path ← textField (boundedText 2048) (field members "path")
        let sizeBytes ← countField (field members "size_bytes")
        let sha256 ← textField Gateway.isSha256 (field members "sha256")
        some ⟨path, sizeBytes, sha256⟩
      else none
  | _ => none

def readFiles : Json φ → Option (List (FileRecord String))
  | .list items => if items.length ≤ 100000 then items.mapM readFile else none
  | _ => none

/-- `DatasetManifest.model_validate`; the schema may come under its alias or its name. -/
def readManifest : Json φ → Option Manifest
  | .dict members =>
      let schemaKey := if (Dict.get? members "schema").isSome then "schema" else "schema_name"
      if hasOnly members [schemaKey, "dataset_id", "dataset_path", "files", "file_count",
          "total_bytes", "tree_sha256", "manifest_sha256"] then do
        let _ ← textField (fun text => text = "egoagentos.dataset-manifest.v1")
          (field members schemaKey)
        let datasetId ← textField isDatasetId (field members "dataset_id")
        let datasetPath ← textField (boundedText 1024) (field members "dataset_path")
        let files ← readFiles (field members "files")
        let fileCount ← countField (field members "file_count")
        let totalBytes ← countField (field members "total_bytes")
        let treeSha256 ← textField Gateway.isSha256 (field members "tree_sha256")
        let manifestSha256 ← textField Gateway.isSha256 (field members "manifest_sha256")
        some ⟨datasetId, datasetPath, files, fileCount, totalBytes, treeSha256, manifestSha256⟩
      else none
  | _ => none

/-! ### Sorted documents -/

theorem textField_sorted (allowed : String → Bool) (value : Json φ) :
    textField allowed value.sorted = textField allowed value := by
  cases value <;> rfl

theorem countField_sorted (value : Json φ) : countField value.sorted = countField value := by
  cases value <;> rfl

variable {members : List (String × Json φ)}

theorem field_sorted (distinct : (Dict.keys members).Nodup)
    (key : String) : field (sortMembers (sortedMembers members)) key =
      (field members key).sorted := by
  unfold field
  rw [get?_sorted_eq_map distinct]
  cases Dict.get? members key <;> rfl

theorem hasOnly_sorted (members : List (String × Json φ)) (keys : List String) :
    hasOnly (sortMembers (sortedMembers members)) keys = hasOnly members keys := by
  unfold hasOnly
  rw [(sorted_keys_perm members).all_eq]

variable {value : Json φ}

theorem readFile_sorted (readable : legible value = true) :
    readFile value.sorted = readFile value := by
  cases value with
  | dict members =>
      have distinct := ((legible_dict_iff members).mp readable).1
      simp only [Json.sorted, readFile, hasOnly_sorted, field_sorted distinct, textField_sorted,
        countField_sorted]
  | _ => rfl

theorem mapM_readFile_sorted {items : List (Json φ)} (readable : legibleItems items = true) :
    (sortedItems items).mapM readFile = items.mapM readFile := by
  induction items with
  | nil => rfl
  | cons item rest ih =>
      rw [legibleItems, Bool.and_eq_true] at readable
      rw [sortedItems, List.mapM_cons, List.mapM_cons, readFile_sorted readable.1, ih readable.2]

theorem readFiles_sorted (readable : legible value = true) :
    readFiles value.sorted = readFiles value := by
  cases value with
  | list items =>
      rw [legible] at readable
      simp only [Json.sorted, readFiles, mapM_readFile_sorted readable]
      rw [sortedItems_eq_map, List.length_map]
  | _ => rfl

theorem legible_field (readable : legible (.dict members) = true)
    (key : String) : legible (field members key) = true := by
  unfold field
  cases found : Dict.get? members key with
  | none => rfl
  | some value =>
      exact ((legible_dict_iff members).mp readable).2 _ (Dict.mem_of_get? members found)

/-- The model does not look at the order of members. -/
theorem readManifest_sorted (readable : legible value = true) :
    readManifest value.sorted = readManifest value := by
  cases value with
  | dict members =>
      have distinct := ((legible_dict_iff members).mp readable).1
      have schema : (Dict.get? (sortMembers (sortedMembers members)) "schema").isSome =
          (Dict.get? members "schema").isSome := by
        rw [get?_sorted_eq_map distinct, Option.isSome_map]
      simp only [Json.sorted, readManifest, hasOnly_sorted, field_sorted distinct,
        textField_sorted, countField_sorted, readFiles_sorted (legible_field readable "files"),
        schema]
  | _ => rfl

/-! ### The manifest reads itself back -/

theorem textField_eq_some {allowed : String → Bool} {text : String}
    (read : textField allowed value = some text) : value = .str text := by
  cases value with
  | str other =>
      rw [textField] at read
      split at read
      · cases read
        rfl
      · cases read
  | _ => cases read

theorem countField_eq_some {number : Int}
    (read : countField value = some number) : value = .int number := by
  cases value with
  | int other =>
      rw [countField] at read
      split at read
      · cases read
        rfl
      · cases read
  | _ => cases read

theorem readFile_dump {file read : FileRecord String}
    (valid : readFile (.dict file.dump : Json φ) = some read) : read = file := by
  rw [readFile] at valid
  split at valid
  · obtain ⟨path, isPath, valid⟩ := Option.bind_eq_some_iff.mp valid
    obtain ⟨size, isSize, valid⟩ := Option.bind_eq_some_iff.mp valid
    obtain ⟨digest, isDigest, valid⟩ := Option.bind_eq_some_iff.mp valid
    cases valid
    have samePath : (.str file.path : Json φ) = .str path := textField_eq_some isPath
    have sameSize : (.int file.sizeBytes : Json φ) = .int size := countField_eq_some isSize
    have sameDigest : (.str file.sha256 : Json φ) = .str digest := textField_eq_some isDigest
    rw [← Json.str.inj samePath, ← Json.int.inj sameSize, ← Json.str.inj sameDigest]
  · cases valid

theorem mapM_readFile_dump : ∀ {files read : List (FileRecord String)},
    (files.map fun file => (.dict file.dump : Json φ)).mapM readFile = some read → read = files
  | [], _, valid => by
      cases valid
      rfl
  | file :: rest, _, valid => by
      rw [List.map_cons, List.mapM_cons] at valid
      obtain ⟨first, here, valid⟩ := Option.bind_eq_some_iff.mp valid
      obtain ⟨others, later, valid⟩ := Option.bind_eq_some_iff.mp valid
      cases valid
      rw [readFile_dump here, mapM_readFile_dump later]

theorem readFiles_dump {files read : List (FileRecord String)}
    (valid : readFiles (dumpFiles files : Json φ) = some read) :
    read = files ∧ files.length ≤ 100000 := by
  rw [dumpFiles, readFiles] at valid
  split at valid
  · rename_i few
    rw [List.length_map] at few
    exact ⟨mapM_readFile_dump valid, few⟩
  · cases valid

/-- A manifest that is valid is the one that is written. -/
theorem readManifest_dump {manifest read : Manifest}
    (valid : readManifest (.dict manifest.dump : Json φ) = some read) :
    read = manifest ∧ manifest.files.length ≤ 100000 := by
  have named : (Dict.get? (manifest.dump : List (String × Json φ)) "schema").isSome = true := rfl
  rw [readManifest, if_pos named] at valid
  split at valid
  · obtain ⟨_, _, valid⟩ := Option.bind_eq_some_iff.mp valid
    obtain ⟨datasetId, isId, valid⟩ := Option.bind_eq_some_iff.mp valid
    obtain ⟨datasetPath, isPath, valid⟩ := Option.bind_eq_some_iff.mp valid
    obtain ⟨files, isFiles, valid⟩ := Option.bind_eq_some_iff.mp valid
    obtain ⟨fileCount, isCount, valid⟩ := Option.bind_eq_some_iff.mp valid
    obtain ⟨totalBytes, isTotal, valid⟩ := Option.bind_eq_some_iff.mp valid
    obtain ⟨tree, isTree, valid⟩ := Option.bind_eq_some_iff.mp valid
    obtain ⟨digest, isDigest, valid⟩ := Option.bind_eq_some_iff.mp valid
    cases valid
    have sameId : (.str manifest.datasetId : Json φ) = .str datasetId := textField_eq_some isId
    have samePath : (.str manifest.datasetPath : Json φ) = .str datasetPath :=
      textField_eq_some isPath
    have sameCount : (.int manifest.fileCount : Json φ) = .int fileCount :=
      countField_eq_some isCount
    have sameTotal : (.int manifest.totalBytes : Json φ) = .int totalBytes :=
      countField_eq_some isTotal
    have sameTree : (.str manifest.treeSha256 : Json φ) = .str tree := textField_eq_some isTree
    have sameDigest : (.str manifest.manifestSha256 : Json φ) = .str digest :=
      textField_eq_some isDigest
    obtain ⟨sameFiles, few⟩ := readFiles_dump (φ := φ) isFiles
    refine ⟨?_, few⟩
    rw [← Json.str.inj sameId, ← Json.str.inj samePath, sameFiles, ← Json.int.inj sameCount,
      ← Json.int.inj sameTotal, ← Json.str.inj sameTree, ← Json.str.inj sameDigest]
  · cases valid

/-! ### The manifest can be written -/

theorem dumpFiles_legible {files : List (FileRecord String)}
    (sizes : ∀ file ∈ files, convertible file.sizeBytes = true) :
    legible (dumpFiles files : Json φ) = true := by
  rw [dumpFiles, legible]
  induction files with
  | nil => rfl
  | cons file rest ih =>
      obtain ⟨here, later⟩ := List.forall_mem_cons.mp sizes
      rw [List.map_cons, legibleItems, ih later, Bool.and_true]
      refine (legible_dict_iff _).mpr ⟨by simp [FileRecord.dump, Dict.keys], ?_⟩
      simp [FileRecord.dump, legible, here]

theorem dump_legible {manifest : Manifest} (count : convertible manifest.fileCount = true)
    (total : convertible manifest.totalBytes = true)
    (sizes : ∀ file ∈ manifest.files, convertible file.sizeBytes = true) :
    legible (.dict manifest.dump : Json φ) = true := by
  refine (legible_dict_iff _).mpr ⟨by simp [Manifest.dump, Dict.keys], ?_⟩
  simp [Manifest.dump, legible, count, total, dumpFiles_legible sizes]

variable [FloatText φ]

theorem dumpFiles_finite (files : List (FileRecord String)) :
    (dumpFiles files : Json φ).finite = true := by
  rw [dumpFiles, Json.finite]
  induction files with
  | nil => rfl
  | cons file rest ih =>
      rw [List.map_cons, finiteItems, ih, Bool.and_true]
      simp [FileRecord.dump, Json.finite, finiteMembers]

theorem dump_finite (manifest : Manifest) : (.dict manifest.dump : Json φ).finite = true := by
  have files := dumpFiles_finite (φ := φ) manifest.files
  simp [Manifest.dump, Json.finite, finiteMembers, files]

end Manifest

end EgoAgent.Datasets
