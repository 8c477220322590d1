import EgoAgent.Acceptance.Documents
import EgoAgent.Gateway.RelativePaths
import EgoAgent.ResearchOs.AgentMemory

/-!
`build_bundle` and `verify_bundle`: a source tree becomes a directory with its
files, a manifest and a checksum, and is replayed from there.
-/

namespace EgoAgent.Acceptance

open EgoAgent.Api EgoAgent.Bridge EgoAgent.Gateway

/-! ### Directories -/

/-- A path below a directory, as the file system gives it.  A name that is not
UTF-8 stands as a text of its own; it cannot be encoded again. -/
structure RelPath where
  names : List (List Char)
  encodable : Bool
  nonempty : names ≠ []
  plain : PlainSegments names
  noSlash : ∀ name ∈ names, '/' ∉ name

def RelPath.text (path : RelPath) : String := String.ofList (joined path.names)

/-- A regular file, or a link with the content of the file it leads to. -/
inductive Entry where
  | file (content : Bytes)
  | symlink (target : Option Bytes)

/-- `path.is_file()` and `path.read_bytes()`, which follow links. -/
def Entry.read : Entry → Option Bytes
  | .file content => some content
  | .symlink target => target

def Entry.isSymlink : Entry → Bool
  | .file _ => false
  | .symlink _ => true

/-- What `rglob("*")` yields, in its order; directories and special files are
passed over everywhere. -/
structure Tree where
  entries : List (RelPath × Entry)
  distinct : (entries.map fun entry => entry.1.names).Nodup

def Tree.find (tree : Tree) (names : List (List Char)) : Option Entry :=
  Dict.get? (tree.entries.map fun entry => (entry.1.names, entry.2)) names

inductive Failure where
  | acceptance (message : String)
  | other (name message : String)

/-! ### Documents -/

/-- `_SourceReport`. -/
structure SourceReport (φ : Type) where
  descriptor : List (String × Json φ)
  traceRoot : String
  matrixEventsRoot : String
  evidenceRoot : String
  benchmarkEvidenceRoot : String
  rxpLedgerRoot : String
  scenarioRoots : List (List (String × Json φ))
  mvpScenarios : List String

/-- What the bundle takes from elsewhere.  `secret` is the first pattern of
`SECRET_PATTERNS` that is found; `replay` is `_validate_source` after its scan,
which reads files by their paths. -/
structure Platform (φ : Type) [FloatText φ] where
  sha256 : Bytes → Digest
  unicode : Unicode
  reader : JsonReader φ
  lower : List Char → List Char
  secret : Bytes → Option String
  replay : (List (List Char) → Option Bytes) → Except Failure (SourceReport φ)

section Reading

variable {φ : Type} [FloatText φ] (platform : Platform φ)

def parseJsonBytes (payload : Bytes) (label : String) : Except Failure (Json φ) := do
  let value ← expect (.acceptance (label ++ " is invalid JSON")) (platform.reader.loads payload)
  raiseIf (uniqueKeys value = false) (.acceptance "JSON contains duplicate key")
  .ok value

def object (label : String) : Option (Json φ) → Except Failure (List (String × Json φ))
  | some (.dict members) => .ok members
  | _ => .error (.acceptance (label ++ " must be an object"))

def array (label : String) : Option (Json φ) → Except Failure (List (Json φ))
  | some (.list items) => .ok items
  | _ => .error (.acceptance (label ++ " must be an array"))

/-- `_text`. -/
def isTrimmed (text : String) : Bool :=
  ResearchOs.strip text.toList ≠ [] && ResearchOs.strip text.toList == text.toList

def trimmedText (label : String) : Option (Json φ) → Except Failure String
  | some (.str text) => do
      raiseIf (isTrimmed text = false)
        (.acceptance (label ++ " must be a non-empty trimmed string"))
      .ok text
  | _ => .error (.acceptance (label ++ " must be a non-empty trimmed string"))

def naturalNumber (label : String) : Option (Json φ) → Except Failure Nat
  | some (.int number) => do
      raiseIf (number < 0) (.acceptance (label ++ " must be >= 0"))
      .ok number.toNat
  | _ => .error (.acceptance (label ++ " must be an integer"))

/-- `SHA256_PATTERN`. -/
def isSha256Label (text : String) : Bool :=
  "sha256:".toList.isPrefixOf text.toList && isSha256 (String.ofList (text.toList.drop 7))

def sha256Text (label : String) (value : Option (Json φ)) : Except Failure String := do
  let text ← trimmedText label value
  raiseIf (isSha256Label text = false)
    (.acceptance (label ++ " must be sha256:<64 lowercase hex>"))
  .ok text

/-- `_safe_relative`: the parts of a relative path in normal spelling. -/
def safeRelative (label : String) (value : Option (Json φ)) :
    Except Failure (List (List Char)) := do
  let text ← trimmedText label value
  let chars := text.toList
  raiseIf (isAbsolute chars = true ∨ parts chars = [] ∨ ['.', '.'] ∈ parts chars)
    (.acceptance (label ++ " must be a safe relative path"))
  raiseIf (asPosix chars ≠ chars) (.acceptance (label ++ " must use normalized POSIX separators"))
  .ok (parts chars)

def digestBytes (payload : Bytes) : String := (platform.sha256 payload).labelled "sha256:"

/-- What `_domain_digest` hashes. -/
def domainBytes (domain : String) (canonical : Bytes) : Bytes :=
  utf8Encode domain.toList ++ 0 :: canonical

def domainDigest (domain : String) (value : Json φ) : Except Failure String := do
  let canonical ← expect (.other "ValueError" "value has no RXP canonical form")
    (canonicalBytes platform.unicode value)
  .ok (digestBytes platform (domainBytes domain canonical))

/-! ### Sources -/

def sensitiveFilenames : List (List Char) :=
  [".env".toList, "id_rsa".toList, "id_ed25519".toList, "credentials.json".toList]

def RelPath.name (path : RelPath) : List Char := path.names.getLast path.nonempty

/-- `path.suffix`: the text from the last dot of a name that neither begins nor
ends with it. -/
def suffix (name : List Char) : List Char :=
  let tail := (name.reverse.takeWhile (· ≠ '.')).reverse
  if tail = [] ∨ name.length ≤ tail.length + 1 then [] else '.' :: tail

def byteLines : Bytes → List Bytes
  | [] => []
  | byte :: rest =>
      if byte = 10 ∨ byte = 13 then
        [] :: byteLines (if byte = 13 ∧ rest.head? = some 10 then rest.tail else rest)
      else
        match byteLines rest with
        | [] => [[byte]]
        | line :: lines => (byte :: line) :: lines
termination_by bytes => bytes.length
decreasing_by
  · split
    · rw [List.length_tail, List.length_cons]
      omega
    · exact Nat.lt_succ_self _
  · exact Nat.lt_succ_self _

def isBlank (line : Bytes) : Bool := line.all fun byte => byte = 32 || (9 ≤ byte && byte ≤ 13)

/-- `_load_jsonl`. -/
def loadJsonl (payload : Bytes) (label : String) : Except Failure Unit := do
  (byteLines payload).forM fun line => do
    raiseIf (isBlank line = true) (.acceptance (label ++ " line is empty"))
    let value ← parseJsonBytes platform line label
    let _ ← object label (some value)
  raiseIf (byteLines payload = []) (.acceptance (label ++ " must contain at least one record"))

/-- The checks of one file. -/
def checkSourceFile (path : RelPath) (payload : Bytes) : Except Failure Unit := do
  let kind := platform.lower (suffix path.name)
  raiseIf (path.name ∈ sensitiveFilenames ∨ kind ∈ [".pem".toList, ".key".toList, ".p12".toList])
    (.acceptance ("source contains a sensitive filename: " ++ path.text))
  match platform.secret payload with
  | some name => .error (.acceptance ("source contains possible " ++ name ++ " in " ++ path.text))
  | none =>
      if kind = ".json".toList then do
        let _ ← parseJsonBytes platform payload path.text
      else if kind = ".jsonl".toList then loadJsonl platform payload path.text
      else .ok ()

def scanEntries : List (RelPath × Entry) → Except Failure (List (RelPath × Bytes))
  | [] => .ok []
  | (path, .symlink _) :: _ =>
      .error (.acceptance ("source contains a symlink: " ++ path.text))
  | (path, .file payload) :: rest => do
      checkSourceFile platform path payload
      let files ← scanEntries rest
      .ok ((path, payload) :: files)

/-- `sorted(root.rglob("*"))`. -/
def Tree.sorted (tree : Tree) : List (RelPath × Entry) :=
  tree.entries.insertionSort fun left right => left.1.names ≤ right.1.names

def scanSourceFiles (tree : Tree) : Except Failure (List (RelPath × Bytes)) := do
  let files ← scanEntries platform tree.sorted
  raiseIf (files = []) (.acceptance "source directory is empty")
  .ok files

def validateSource (tree : Tree) : Except Failure (SourceReport φ) := do
  let files ← scanSourceFiles platform tree
  platform.replay fun names =>
    Dict.get? (files.map fun file => (file.1.names, file.2)) names

/-! ### Manifests -/

def acceptanceSchemaVersion : String := "egoagentos.semifinal-acceptance/v1"

def bundleDomain : String := "EgoAgentOS/semifinal-acceptance-bundle/v1"

/-- One record of `_file_records`. -/
def fileRecord (file : RelPath × Bytes) : Json φ :=
  .dict
    [("path", .str ("artifacts/" ++ file.1.text)), ("sha256", .str (digestBytes platform file.2)),
      ("bytes", .int file.2.length)]

def keyError (key : String) : Failure := .other "KeyError" key

/-- `manifest[key]`. -/
def item (members : List (String × Json φ)) (key : String) : Except Failure (Json φ) :=
  expect (keyError key) (Dict.get? members key)

/-- A value that can be indexed by a text. -/
def mapping : Json φ → Except Failure (List (String × Json φ))
  | .dict members => .ok members
  | _ => .error (.other "TypeError" "indices must be integers")

def rootKeys : List String :=
  ["trace_root", "matrix_events_root", "evidence_root", "benchmark_evidence_root",
    "rxp_ledger_root"]

/-- The values of some keys, in order. -/
def itemsOf (members : List (String × Json φ)) :
    List String → Except Failure (List (String × Json φ))
  | [] => .ok []
  | key :: rest => do
      let value ← item members key
      let others ← itemsOf members rest
      .ok ((key, value) :: others)

def commitmentKeys : List String :=
  ["schema_version", "acceptance_id", "created_at", "truth_boundary", "gate", "scenarios", "files"]

/-- `_bundle_commitment`. -/
def bundleCommitment (manifest : List (String × Json φ)) : Except Failure (Json φ) := do
  let fields ← itemsOf manifest commitmentKeys
  let roots ← item manifest "roots"
  let committed ← itemsOf (← mapping roots) rootKeys
  .ok (.dict (("roots", .dict committed) :: fields))

def contentHashLimit : String :=
  "The bundle proves byte integrity and cross-artifact consistency; content " ++
    "hashes alone are not a third-party signature of an external service."

def fullReleaseReason : String :=
  "The full gate requires all 14 scenarios at the configured repetitions; " ++
    "an MVP bundle can never promote itself to full PASS."

def truthBoundary (declared : List (String × Json φ)) : List (String × Json φ) :=
  Dict.set (Dict.set (Dict.set declared "source_authenticity_status" (.str "UNVERIFIED"))
    "live_claim_allowed" (.bool false)) "content_hash_limit" (.str contentHashLimit)

def gate (report : SourceReport φ) : List (String × Json φ) :=
  [("profile", .str "mvp-8-contract"), ("mvp_contract_status", .str "PASS"),
    ("source_authenticity_status", .str "UNVERIFIED"),
    ("live_claim_status", .str "NOT_VERIFIED"),
    ("passed_scenarios", .list (report.mvpScenarios.map .str)), ("passed_count", .int 8),
    ("corpus_count", .int 14), ("coverage_fraction", .str "8/14"),
    ("full_release_status", .str "NOT_EVALUATED"),
    ("full_release_reason", .str fullReleaseReason)]

def roots (report : SourceReport φ) (bundleRoot : String) : List (String × Json φ) :=
  [("trace_root", .str report.traceRoot), ("matrix_events_root", .str report.matrixEventsRoot),
    ("evidence_root", .str report.evidenceRoot),
    ("benchmark_evidence_root", .str report.benchmarkEvidenceRoot),
    ("rxp_ledger_root", .str report.rxpLedgerRoot), ("bundle_root", .str bundleRoot)]

/-- The manifest with a given `bundle_root`. -/
def manifestWith (acceptanceId createdAt : Json φ) (declared : List (String × Json φ))
    (report : SourceReport φ) (files : List (RelPath × Bytes)) (bundleRoot : String) :
    List (String × Json φ) :=
  [("schema_version", .str acceptanceSchemaVersion), ("acceptance_id", acceptanceId),
    ("created_at", createdAt), ("truth_boundary", .dict (truthBoundary declared)),
    ("gate", .dict (gate report)), ("roots", .dict (roots report bundleRoot)),
    ("scenarios", .list (report.scenarioRoots.map .dict)),
    ("files", .list (files.map (fileRecord platform)))]

/-- `_manifest_for_source`. -/
def manifestForSource (tree : Tree) (report : SourceReport φ) :
    Except Failure (List (String × Json φ)) := do
  let acceptanceId ← item report.descriptor "acceptance_id"
  let createdAt ← item report.descriptor "created_at"
  let declared ← object "truth_boundary" (Dict.get? report.descriptor "truth_boundary")
  let files ← scanSourceFiles platform tree
  raiseIf (∃ file ∈ files, file.1.encodable = false)
    (.other "UnicodeEncodeError" "surrogates not allowed")
  let commitment ← bundleCommitment
    (manifestWith platform acceptanceId createdAt declared report files "")
  let bundleRoot ← domainDigest platform bundleDomain commitment
  .ok (manifestWith platform acceptanceId createdAt declared report files bundleRoot)

end Reading

/-! ### Building -/

/-- What is at the place of the output. -/
inductive Output where
  | absent
  | emptyDirectory
  | occupied
  | written (tree : Tree)

structure BundleReport where
  bundle : List (List Char)
  bundleRoot : String
  deriving DecidableEq

def artifacts : List Char := "artifacts".toList

theorem artifacts_plain : artifacts ≠ [] ∧ artifacts ≠ ['.'] ∧ artifacts ≠ ['.', '.'] ∧
    '/' ∉ artifacts := by
  decide

/-- The place of a source file in the bundle. -/
def RelPath.under (path : RelPath) : RelPath where
  names := artifacts :: path.names
  encodable := path.encodable
  nonempty := List.cons_ne_nil _ _
  plain :=
    { no_empty := by simp [artifacts_plain.1.symm, path.plain.no_empty]
      no_dot := by simp [artifacts_plain.2.1.symm, path.plain.no_dot]
      no_parent := by simp [artifacts_plain.2.2.1.symm, path.plain.no_parent] }
  noSlash := by
    intro name present
    rcases List.mem_cons.mp present with rfl | inside
    · exact artifacts_plain.2.2.2
    · exact path.noSlash name inside

def manifestName : List Char := "manifest.json".toList

def checksumName : List Char := "manifest.sha256".toList

def topLevel (name : List Char) (plain : name ≠ [] ∧ name ≠ ['.'] ∧ name ≠ ['.', '.'] ∧
    '/' ∉ name) : RelPath where
  names := [name]
  encodable := true
  nonempty := List.cons_ne_nil _ _
  plain := ⟨by simp [plain.1.symm], by simp [plain.2.1.symm], by simp [plain.2.2.1.symm]⟩
  noSlash := by
    intro other present
    rw [List.mem_singleton.mp present]
    exact plain.2.2.2

def manifestPath : RelPath := topLevel manifestName (by decide)

def checksumPath : RelPath := topLevel checksumName (by decide)

/-- The directory that `build_bundle` leaves. -/
def bundleTree (files : List (RelPath × Bytes))
    (distinct : (files.map fun file => file.1.names).Nodup) (manifest checksum : Bytes) : Tree where
  entries := files.map (fun file => (file.1.under, Entry.file file.2)) ++
    [(manifestPath, .file manifest), (checksumPath, .file checksum)]
  distinct := by
    have names : (files.map fun file => (file.1.under, Entry.file file.2)).map
        (fun entry => entry.1.names) =
          (files.map fun file => file.1.names).map (artifacts :: ·) := by
      simp [RelPath.under, Function.comp_def]
    rw [List.map_append, names, List.nodup_append]
    have tops : [[manifestName], [checksumName]].Nodup := by decide
    refine ⟨distinct.map (List.cons_injective), tops, ?_⟩
    intro inside present other top same
    obtain ⟨path, _, rfl⟩ := List.mem_map.mp present
    simp only [List.map_cons, List.map_nil, List.mem_cons, List.not_mem_nil, or_false] at top
    rcases top with rfl | rfl
    · exact absurd (List.cons.inj same).1 (by decide)
    · exact absurd (List.cons.inj same).1 (by decide)

section Bundles

variable {φ : Type} [FloatText φ] (platform : Platform φ)

/-- `canonical_json(manifest) + "\n"` of `benchmarks.model`. -/
def manifestBytes (manifest : List (String × Json φ)) : Bytes :=
  utf8Encode ((Json.dict manifest).sorted.text ++ ['\n'])

/-- The line of `manifest.sha256`. -/
def checksumLine (manifest : Bytes) : List Char :=
  ((platform.sha256 manifest).labelled "").toList ++ "  manifest.json\n".toList

/-- `source == output or source in output.parents or output in source.parents`. -/
def overlap (source output : List (List Char)) : Bool :=
  source.isPrefixOf output || output.isPrefixOf source

variable {files : List (RelPath × Bytes)}

/-- The scanned files keep the distinct paths of their tree. -/
theorem scanEntries_names {entries : List (RelPath × Entry)}
    (scanned : scanEntries platform entries = .ok files) :
    entries = files.map fun file => (file.1, Entry.file file.2) := by
  induction entries generalizing files with
  | nil =>
      cases scanned
      rfl
  | cons entry rest ih =>
      obtain ⟨path, entry⟩ := entry
      cases entry with
      | symlink target => cases scanned
      | file payload =>
          obtain ⟨_, _, scanned⟩ := (bind_eq_ok _ _ _).mp scanned
          obtain ⟨others, scannedRest, scanned⟩ := (bind_eq_ok _ _ _).mp scanned
          cases scanned
          rw [List.map_cons, ih scannedRest]

theorem scanSourceFiles_entries {tree : Tree}
    (scanned : scanSourceFiles platform tree = .ok files) :
    tree.sorted = files.map (fun file => (file.1, Entry.file file.2)) ∧ files ≠ [] := by
  obtain ⟨others, entries, scanned⟩ := (bind_eq_ok _ _ _).mp scanned
  obtain ⟨some, scanned⟩ := (raiseIf_bind_eq_ok _ _ _ _).mp scanned
  cases scanned
  exact ⟨scanEntries_names platform entries, some⟩

theorem scanSourceFiles_distinct {tree : Tree}
    (scanned : scanSourceFiles platform tree = .ok files) :
    (files.map fun file => file.1.names).Nodup := by
  have entries := (scanSourceFiles_entries platform scanned).1
  have same : (tree.sorted.map fun entry => entry.1.names).Perm
      (tree.entries.map fun entry => entry.1.names) :=
    (List.perm_insertionSort _ tree.entries).map _
  rw [entries, List.map_map] at same
  exact same.nodup_iff.mpr tree.distinct

/-- `build_bundle`; it writes after everything that can raise. -/
def buildBundle (source output : List (List Char)) (tree : Tree) :
    Effect Output Failure BundleReport := do
  Effect.check (raiseIf (overlap source output = true)
    (.acceptance "source and output must be disjoint directories"))
  let found ← Effect.read
  match found with
  | .occupied | .written _ =>
      Effect.check (.error (.acceptance "output must not exist or must be empty"))
  | .absent | .emptyDirectory => do
      let report ← Effect.check (validateSource platform tree)
      let manifest ← Effect.check (manifestForSource platform tree report)
      let copied ← Effect.check (copyOf tree)
      let bytes := manifestBytes manifest
      Effect.write fun _ =>
        .written (bundleTree copied.1 copied.2 bytes (utf8Encode (checksumLine platform bytes)))
      pure ⟨output, bundleRootOf manifest⟩
where
  /-- `_scan_source_files` once more, for the copies. -/
  copyOf (tree : Tree) : Except Failure
      { files : List (RelPath × Bytes) // (files.map fun file => file.1.names).Nodup } :=
    match scanned : scanSourceFiles platform tree with
    | .ok files => .ok ⟨files, scanSourceFiles_distinct platform scanned⟩
    | .error failure => .error failure
  bundleRootOf (manifest : List (String × Json φ)) : String :=
    match Dict.get? manifest "roots" with
    | some (.dict members) =>
        match Dict.get? members "bundle_root" with
        | some (.str root) => root
        | _ => ""
    | _ => ""

/-! ### Verifying -/

/-- `read_text`: line ends become line feeds. -/
def universalNewlines : List Char → List Char
  | [] => []
  | '\r' :: '\n' :: rest => '\n' :: universalNewlines rest
  | '\r' :: rest => '\n' :: universalNewlines rest
  | c :: rest => c :: universalNewlines rest

def checkChecksum (bundle : Tree) (manifest : Bytes) : Except Failure Unit :=
  match (bundle.find [checksumName]).bind Entry.read with
  | none => .error (.acceptance "manifest.sha256 mismatch")
  | some bytes => do
      let text ← expect (.other "UnicodeDecodeError" "invalid start byte") (utf8Decode bytes)
      raiseIf (universalNewlines text ≠ checksumLine platform manifest)
        (.acceptance "manifest.sha256 mismatch")

/-- One entry of `files`: it must be on disk as it says. -/
def verifyFile (bundle : Tree) (seen : List (List (List Char)))
    (record : List (String × Json φ)) : Except Failure (List (List Char)) := do
  let relative ← safeRelative "manifest file path" (Dict.get? record "path")
  raiseIf (relative.head? ≠ some artifacts ∨ relative ∈ seen)
    (.acceptance "duplicate or non-artifact manifest path")
  match bundle.find relative with
  | some (.file payload) => do
      let claimed ← sha256Text "manifest file sha256" (Dict.get? record "sha256")
      raiseIf (digestBytes platform payload ≠ claimed) (.acceptance "artifact digest mismatch")
      let size ← naturalNumber "manifest file bytes" (Dict.get? record "bytes")
      raiseIf (payload.length ≠ size) (.acceptance "artifact size mismatch")
      .ok relative
  | _ => .error (.acceptance "manifest artifact is missing")

def verifyFiles (bundle : Tree) (seen : List (List (List Char))) :
    List (Json φ) → Except Failure (List (List (List Char)))
  | [] => .ok seen
  | record :: rest => do
      let members ← object "manifest file" (some record)
      let relative ← verifyFile platform bundle seen members
      verifyFiles bundle (seen ++ [relative]) rest

/-- The files of the bundle apart from the manifest and its checksum. -/
def actualPaths (bundle : Tree) : List RelPath :=
  (bundle.entries.filter fun entry => entry.2.read.isSome &&
    entry.1.names ≠ [manifestName] && entry.1.names ≠ [checksumName]).map Prod.fst

/-- The path below `artifacts`. -/
def RelPath.below (path : RelPath) : Option RelPath :=
  match shape : path.names with
  | first :: second :: rest =>
      if first = artifacts then
        some
          { names := second :: rest
            encodable := path.encodable
            nonempty := List.cons_ne_nil _ _
            plain := by
              have plain := path.plain
              rw [shape] at plain
              exact ⟨fun present => plain.no_empty (List.mem_cons_of_mem _ present),
                fun present => plain.no_dot (List.mem_cons_of_mem _ present),
                fun present => plain.no_parent (List.mem_cons_of_mem _ present)⟩
            noSlash := by
              intro name present
              exact path.noSlash name (by rw [shape]; exact List.mem_cons_of_mem _ present) }
      else none
  | _ => none

theorem RelPath.below_names {path inner : RelPath} (found : path.below = some inner) :
    path.names = artifacts :: inner.names ∧ path.encodable = inner.encodable := by
  unfold RelPath.below at found
  split at found
  · rename_i first second rest shape
    split at found
    · rename_i same
      cases found
      exact ⟨shape.trans (congrArg (fun name => name :: second :: rest) same), rfl⟩
    · cases found
  · cases found

/-- `bundle / "artifacts"`. -/
def artifactTree (bundle : Tree) : Tree where
  entries := bundle.entries.filterMap fun entry =>
    entry.1.below.map fun inner => (inner, entry.2)
  distinct := by
    have inner := bundle.distinct
    generalize bundle.entries = entries at inner
    induction entries with
    | nil => exact List.nodup_nil
    | cons entry rest ih =>
        rw [List.map_cons, List.nodup_cons] at inner
        cases found : entry.1.below with
        | none => simpa [found] using ih inner.2
        | some path =>
            simp only [List.filterMap_cons, found, Option.map_some, List.map_cons,
              List.nodup_cons]
            refine ⟨fun present => inner.1 ?_, ih inner.2⟩
            obtain ⟨⟨other, kept⟩, inRest, same⟩ := List.mem_map.mp present
            obtain ⟨source, inSource, mapped⟩ := List.mem_filterMap.mp inRest
            obtain ⟨below, belowIs, pair⟩ := Option.map_eq_some_iff.mp mapped
            cases pair
            have one := (RelPath.below_names found).1
            have two := (RelPath.below_names belowIs).1
            simp only at same
            rw [one, ← same, ← two]
            exact List.mem_map_of_mem inSource

def hasText (value : Option (Json φ)) (text : String) : Bool :=
  match value with
  | some (.str found) => found == text
  | _ => false

def checkGate (members : List (String × Json φ)) : Except Failure Unit := do
  raiseIf (¬ (hasText (Dict.get? members "mvp_contract_status") "PASS" ∧
      hasText (Dict.get? members "source_authenticity_status") "UNVERIFIED" ∧
      hasText (Dict.get? members "live_claim_status") "NOT_VERIFIED" ∧
      hasText (Dict.get? members "coverage_fraction") "8/14"))
    (.acceptance "bundle does not preserve the contract/origin truth boundary")
  raiseIf (¬ hasText (Dict.get? members "full_release_status") "NOT_EVALUATED")
    (.acceptance "MVP bundle illegally promotes the full release gate")

variable [FloatEq φ]

/-- `verify_bundle`, where `none` stands for what is not a directory. -/
def verifyBundle (directory : List (List Char)) (found : Option Tree) :
    Except Failure BundleReport := do
  let bundle ← expect (.acceptance "bundle must be a directory") found
  let bytes := ((bundle.find [manifestName]).bind Entry.read).getD []
  let value ← parseJsonBytes platform bytes "manifest.json"
  let manifest ← object "manifest" (some value)
  raiseIf (hasText (Dict.get? manifest "schema_version") acceptanceSchemaVersion = false)
    (.acceptance "unsupported acceptance manifest schema")
  checkChecksum platform bundle bytes
  let files ← array "manifest files" (Dict.get? manifest "files")
  let paths ← verifyFiles platform bundle [] files
  raiseIf (¬ ((∀ path ∈ actualPaths bundle, path.encodable = true ∧ path.names ∈ paths) ∧
      ∀ path ∈ paths, path ∈ (actualPaths bundle).map RelPath.names))
    (.acceptance "bundle contains missing or undeclared artifacts")
  let report ← validateSource platform (artifactTree bundle)
  let rebuilt ← manifestForSource platform (artifactTree bundle) report
  raiseIf (pyEq (.dict rebuilt) (.dict manifest) = false)
    (.acceptance "manifest does not match independently replayed evidence")
  let roots ← object "roots" (Dict.get? manifest "roots")
  let claimed ← sha256Text "bundle_root" (Dict.get? roots "bundle_root")
  let commitment ← bundleCommitment manifest
  let recomputed ← domainDigest platform bundleDomain commitment
  raiseIf (claimed ≠ recomputed) (.acceptance "bundle_root mismatch")
  let gate ← object "gate" (Dict.get? manifest "gate")
  checkGate gate
  .ok ⟨directory, claimed⟩

end Bundles

end EgoAgent.Acceptance
