import EgoAgent.Datasets.DatasetManifest

/-!
`DatasetManifestService`: publishing a manifest, and verifying it against the dataset.
-/

namespace EgoAgent.Datasets

open EgoAgent.Api Effect

section Service

variable {φ : Type} [FloatText φ] (platform : DatasetPlatform φ) (faults : Faults) (maxFiles : Nat)

/-! ### Building a manifest -/

/-- `canonical_sha256` of a document without floats. -/
def canonicalSha256 (value : Json φ) : String :=
  (platform.sha256 (utf8Encode value.sorted.text)).labelled ""

/-- The records with their paths as texts; a lone surrogate cannot be encoded. -/
def encodable (records : List (FileRecord Name)) : Except Raised (List (FileRecord String)) :=
  expect (.value "UnicodeEncodeError") (records.mapM fun record =>
    (textOf? record.path).map fun path => ⟨path, record.sizeBytes, record.sha256⟩)

/-- `{**core, "manifest_sha256": canonical_sha256(core)}` of the scanned files. -/
def manifestOf (datasetId : String) (normalised : Name) (records : List (FileRecord Name)) :
    Except Raised Manifest := do
  let files ← encodable records
  let datasetPath ← expect (.value "UnicodeEncodeError") (textOf? normalised)
  let treeSha256 := canonicalSha256 platform (dumpFiles files)
  .ok { datasetId, datasetPath, files
        fileCount := files.length
        totalBytes := (files.map FileRecord.sizeBytes).sum
        treeSha256
        manifestSha256 := canonicalSha256 platform
          (.dict (coreDump datasetId datasetPath files treeSha256)) }

/-- `(canonical_json(manifest) + "\n").encode("utf-8")`. -/
def encoded (φ : Type) [FloatText φ] (manifest : Manifest) : Bytes :=
  utf8Encode ((Json.dict manifest.dump : Json φ).sorted.text ++ ['\n'])

/-! ### The existing manifest -/

/-- `_existing_manifest`. -/
def existingManifest (again : Bool) (directory : Entries) : Except Raised (Option Bytes) :=
  match faults.fails (.statManifest again), directory.get? manifestName with
  | some .fileNotFound, _ => .ok none
  | some error, _ => .error (.os error)
  | none, none => .ok none
  | none, some .symlink => .error (.tool "manifest_symlink_rejected"
      "The canonical manifest path must not be a symlink")
  | none, some node => do
      faults.tooled (.openManifest again) "filesystem_race_detected"
        "A filesystem entry changed or could not be opened safely"
      match node with
      | .file content => do
          faults.call (.readManifest again)
          raiseIf (maxManifestBytes < content.length)
            (.tool "file_too_large" "The requested file exceeds the read limit")
          faults.call (.closeManifest again)
          .ok (some content)
      | _ => .error (.tool "not_regular_file" "Only regular files are allowed")

/-! ### Publishing -/

inductive WriteStatus where
  | created
  | unchanged
  deriving DecidableEq

/-- `try … finally`: what the cleanup raises replaces the result. -/
def ensure {α : Type} (body : Effect Entries Raised α) (cleanup : Effect Entries Raised Unit) :
    Effect Entries Raised α := fun directory =>
  match cleanup (body directory).2 with
  | (.ok (), later) => ((body directory).1, later)
  | (.error raised, later) => (.error raised, later)

def remove (name : Name) (directory : Entries) : Entries :=
  directory.filter fun entry => entry.1 ≠ name

/-- `os.open(temporary_name, O_WRONLY | O_CREAT | O_EXCL | O_NOFOLLOW)`. -/
def createTemporary (temporary : Name) : Effect Entries Raised Unit := do
  check (faults.call .createTemporary)
  let directory ← read
  check (raiseIf ((Dict.get? directory temporary).isSome = true) (.os .fileExists))
  write fun directory => Dict.set directory temporary (.file [])

/-- The loop of `os.write`: when a call fails, some bytes have been written. -/
def writeAll (temporary : Name) (content : Bytes) : Effect Entries Raised Unit :=
  match faults.fails .write with
  | some error => do
      write fun directory => Dict.set directory temporary (.file (content.take faults.written))
      check (.error (.os error))
  | none => write fun directory => Dict.set directory temporary (.file content)

def immutable (message : String) : Raised := .tool "manifest_immutable" message

/-- `except FileExistsError` behind `os.link`. -/
def lost (content : Bytes) : Effect Entries Raised WriteStatus := do
  let directory ← read
  let winner ← check (existingManifest faults true directory)
  if winner = some content then pure .unchanged
  else check (.error (immutable
    "A different manifest was published concurrently; use a new versioned dataset path"))

/-- `os.link`, and the synchronisation of the directory. -/
def publish (temporary : Name) (content : Bytes) : Effect Entries Raised WriteStatus := do
  let directory ← read
  match faults.fails .link, directory.get? manifestName, directory.get? temporary with
  | some .fileExists, _, _ => lost faults content
  | some error, _, _ => check (.error (.os error))
  | none, some _, _ => lost faults content
  | none, none, none => check (.error (.os .fileNotFound))
  | none, none, some node => do
      write fun directory => Dict.set directory manifestName node
      check (faults.call .fsyncDirectory)
      pure .created

/-- `os.unlink` of the temporary file, which may be gone. -/
def unlink (temporary : Name) : Effect Entries Raised Unit :=
  match faults.fails .unlink with
  | some .fileNotFound => pure ()
  | some error => check (.error (.os error))
  | none => write (remove temporary)

/-- `_atomic_write` of a content that is not there yet, under a temporary name. -/
def writeNew (temporary : Name) (content : Bytes) : Effect Entries Raised WriteStatus := do
  createTemporary faults temporary
  ensure (do
      check (faults.call .fchmod)
      writeAll faults temporary content
      check (faults.call .fsync))
    (check (faults.call .closeTemporary))
  ensure (publish faults temporary content) (unlink faults temporary)

/-- `_atomic_write`. -/
def atomicWrite (temporary : Name) (content : Bytes) : Effect Entries Raised WriteStatus := do
  let directory ← read
  let existing ← check (existingManifest faults false directory)
  match existing with
  | none => writeNew faults temporary content
  | some found =>
      if found = content then pure .unchanged
      else if ((platform.loads found).bind readManifest).isSome = true then
        check (.error (immutable
          "A published dataset manifest is immutable; use a new versioned dataset path"))
      else check (.error (.tool "manifest_overwrite_rejected"
        "Refusing to overwrite a file that is not an EgoAgentOS dataset manifest"))

/-! ### The service -/

/-- `".%s.%s.tmp" % (MANIFEST_NAME, secrets.token_hex(12))`. -/
def temporaryName (token : String) : Name :=
  46 :: manifestName ++ 46 :: nameOf token ++ nameOf ".tmp"

def manifestPath (normalised : Name) : Name :=
  if normalised = [46] then manifestName else normalised ++ 47 :: manifestName

structure Created where
  writeStatus : WriteStatus
  manifestPath : Name
  manifest : Manifest
  deriving DecidableEq

/-- The scan of the opened directory, as a manifest that passes its own model. -/
def prepare (datasetId : String) (normalised : Name) (directory : Entries) :
    Except Raised Manifest := do
  let records ← scan platform faults maxFiles directory
  let manifest ← manifestOf platform datasetId normalised records
  raiseIf ((readManifest (.dict manifest.dump : Json φ)).isSome = false) (.value "ValidationError")
  .ok manifest

/-- What `create` does in the opened directory. -/
def createIn (token datasetId : String) (normalised : Name) : Effect Entries Raised Created := do
  let directory ← read
  let manifest ← check (prepare platform faults maxFiles datasetId normalised directory)
  let writeStatus ← atomicWrite platform faults (temporaryName token) (encoded φ manifest)
  pure ⟨writeStatus, manifestPath normalised, manifest⟩

/-- `DatasetManifestService.create`, under the token it draws. -/
def create (token relative datasetId : String) : Effect Entries Raised Created := do
  check (raiseIf (datasetId = "" ∨ 128 < datasetId.length)
    (.tool "invalid_dataset_id" "dataset_id is missing or too long"))
  check (raiseIf (isDatasetId datasetId = false) (.tool "invalid_dataset_id"
    "dataset_id may contain only letters, digits, dot, dash, underscore"))
  withDirectory faults relative (createIn platform faults maxFiles token datasetId)

structure Report where
  mismatches : List String
  manifestPath : Name
  expectedManifestSha256 : String
  actualManifestSha256 : String
  fileCount : Nat
  deriving DecidableEq

def Report.valid (report : Report) : Bool := report.mismatches.isEmpty

/-- The names of what differs, in their order. -/
def mismatches (canonical : Bool) (actual expected : Manifest) : List String :=
  [("dataset_id", decide (actual.datasetId = expected.datasetId)),
    ("dataset_path", decide (actual.datasetPath = expected.datasetPath)),
    ("file_count", decide (actual.fileCount = expected.fileCount)),
    ("files", decide (actual.files = expected.files)),
    ("manifest_sha256", decide (actual.manifestSha256 = expected.manifestSha256)),
    ("non_canonical_encoding", canonical),
    ("total_bytes", decide (actual.totalBytes = expected.totalBytes)),
    ("tree_sha256", decide (actual.treeSha256 = expected.treeSha256))].filterMap
      fun (name, same) => if same then none else some name

/-- `json.loads` with `reject_duplicate_keys`, and the strict model. -/
def parseManifest (raw : Bytes) : Except Raised Manifest := do
  let rejected := .tool "invalid_manifest" "The dataset manifest is not valid strict UTF-8 JSON"
  let payload ← expect rejected (platform.loadsPairs raw)
  raiseIf (uniqueKeys payload = false) rejected
  expect rejected (readManifest payload)

/-- `DatasetManifestService.verify`. -/
def verify (relative : String) (root : Entries) : Except Raised Report := do
  let (raw, normalised) ← (withDirectory .none relative (fun normalised => do
    let directory ← read
    let raw ← check (existingManifest .none false directory)
    let raw ← check (expect
      (.tool "manifest_not_found" "No canonical dataset manifest exists") raw)
    pure (raw, normalised)) root).1
  let manifest ← parseManifest platform raw
  let records ← (withDirectory .none relative (fun scanned => do
    check (raiseIf (scanned ≠ normalised)
      (.tool "filesystem_race_detected" "Dataset path changed during verification"))
    let directory ← read
    check (scan platform .none maxFiles directory)) root).1
  let expected ← manifestOf platform manifest.datasetId normalised records
  .ok { mismatches := mismatches (decide (raw = encoded φ manifest)) manifest expected
        manifestPath := manifestPath normalised
        expectedManifestSha256 := expected.manifestSha256
        actualManifestSha256 := manifest.manifestSha256
        fileCount := records.length }

end Service

end EgoAgent.Datasets
