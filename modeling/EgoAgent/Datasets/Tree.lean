import EgoAgent.Api.JsonReading
import EgoAgent.Gateway.WorkspaceContract
import EgoAgent.Lib.Frame

/-!
The trusted root of the dataset server as a tree of directory entries, how a
directory is opened below it, and how a dataset is scanned.
-/

namespace EgoAgent.Datasets

open EgoAgent.Api

/-! ### Names -/

/-- A file name as Python has it: code points, among them the lone surrogates
that stand for bytes outside UTF-8. -/
abbrev Name : Type := List Nat

def nameOf (text : String) : Name := text.toList.map Char.toNat

def charOf? (code : Nat) : Option Char :=
  if valid : code.isValidChar then some (Char.ofNatAux code valid) else none

/-- The name as a text, if UTF-8 can encode it. -/
def textOf? (name : Name) : Option String := (name.mapM charOf?).map String.ofList

theorem toNat_of_charOf? {code : Nat} {c : Char} (read : charOf? code = some c) :
    c.toNat = code := by
  unfold charOf? at read
  split at read
  · cases read
    rfl
  · cases read

theorem map_toNat_of_mapM {name : Name} :
    ∀ {chars : List Char}, name.mapM charOf? = some chars → chars.map Char.toNat = name := by
  induction name with
  | nil =>
      intro chars read
      cases read
      rfl
  | cons code rest ih =>
      intro chars read
      rw [List.mapM_cons, Option.bind_eq_bind, Option.bind_eq_some_iff] at read
      obtain ⟨c, here, read⟩ := read
      rw [Option.bind_eq_bind, Option.bind_eq_some_iff] at read
      obtain ⟨others, later, read⟩ := read
      cases read
      rw [List.map_cons, toNat_of_charOf? here, ih later]

theorem nameOf_textOf? {name : Name} {text : String} (read : textOf? name = some text) :
    nameOf text = name := by
  obtain ⟨chars, isChars, rfl⟩ := Option.map_eq_some_iff.mp read
  unfold nameOf
  rw [String.toList_ofList]
  exact map_toNat_of_mapM isChars

/-- `MANIFEST_NAME`. -/
def manifestName : Name := nameOf ".egoagentos-manifest.json"

/-- `"%s/%s" % (prefix, name) if prefix else name`. -/
def below (path name : Name) : Name := if path = [] then name else path ++ 47 :: name

/-! ### Trees -/

inductive Node where
  | file (content : Bytes)
  | directory (entries : List (Name × Node))
  | symlink
  | special

abbrev Entries : Type := Dict Name Node

mutual

/-- Names are distinct in every directory, and sizes are those of `stat`. -/
def Node.proper : Node → Bool
  | .file content => content.length < 2 ^ 63
  | .directory entries => decide (Dict.keys entries).Nodup && properEntries entries
  | .symlink | .special => true

def properEntries : List (Name × Node) → Bool
  | [] => true
  | (_, node) :: rest => node.proper && properEntries rest

end

/-- A directory of a file system. -/
structure Root where
  entries : Entries
  proper : (Node.directory entries).proper = true

/-- `sorted(scanner, key=lambda item: item.name)`. -/
def sortEntries (entries : List (Name × Node)) : List (Name × Node) :=
  entries.insertionSort fun left right => left.1 ≤ right.1

mutual

/-- The tree with each directory in the order of its names. -/
def Node.sorted : Node → Node
  | .directory entries => .directory (sortEntries (sortedEntries entries))
  | node => node

def sortedEntries : List (Name × Node) → List (Name × Node)
  | [] => []
  | (name, node) :: rest => (name, node.sorted) :: sortedEntries rest

end

/-! ### Errors and calls -/

inductive OsError where
  | fileExists
  | fileNotFound
  | other
  deriving DecidableEq

/-- What is raised: an `OSError`, a `StructuredToolError` (without its details), or a
`ValueError` of the model or the encoder. -/
inductive Raised where
  | os (error : OsError)
  | tool (code message : String)
  | value (type : String)
  deriving DecidableEq

/-- The calls `create` makes on the file system.  Those on an entry carry its path; the
manifest is looked up first, and again when another one won. -/
inductive Call where
  | openRoot
  | openPart (path : Name)
  | fstatPart (path : Name)
  | closePart (path : Name)
  | scandir (path : Name)
  | isSymlink (path : Name)
  | stat (path : Name)
  | openEntry (path : Name)
  | fstatEntry (path : Name)
  | readEntry (path : Name)
  | closeEntry (path : Name)
  | statManifest (again : Bool)
  | openManifest (again : Bool)
  | readManifest (again : Bool)
  | closeManifest (again : Bool)
  | createTemporary
  | fchmod
  | write
  | fsync
  | closeTemporary
  | link
  | fsyncDirectory
  | unlink
  | closeDataset
  deriving DecidableEq

/-- Which calls fail, and how many bytes a failing `write` has written before. -/
structure Faults where
  fails : Call → Option OsError
  written : Nat

def Faults.none : Faults := ⟨fun _ => Option.none, 0⟩

/-- A call that fails raises its error. -/
def Faults.call (faults : Faults) (call : Call) : Except Raised Unit :=
  match faults.fails call with
  | some error => .error (.os error)
  | Option.none => .ok ()

/-- A call whose error becomes a `StructuredToolError`. -/
def Faults.tooled (faults : Faults) (call : Call) (code message : String) : Except Raised Unit :=
  raiseIf ((faults.fails call).isSome = true) (.tool code message)

/-! ### Opening a directory -/

/-- `_relative_parts`. -/
def relativeParts (relative : String) : Except Raised (List Name) := do
  raiseIf (relative = "" ∨ 1024 < relative.length)
    (.tool "invalid_path" "A non-empty bounded relative path is required")
  raiseIf (0 ∈ nameOf relative ∨ 92 ∈ nameOf relative)
    (.tool "invalid_path" "NUL and backslash path syntax are forbidden")
  let parts := (nameOf relative).splitOn 47
  raiseIf (parts.head? = some [] ∨ [46, 46] ∈ parts)
    (.tool "path_outside_trusted_root" "Absolute paths and parent traversal are forbidden")
  pure (parts.filter fun part => part ≠ [] ∧ part ≠ [46])

/-- `"/".join(parts)`. -/
def joinParts : List Name → Name
  | [] => []
  | [part] => part
  | part :: rest => part ++ 47 :: joinParts rest

/-- `open_child_descriptor` of a path component, below the directories opened before. -/
def openPart (faults : Faults) (path name : Name) (entries : Entries) : Except Raised Entries := do
  raiseIf (name = [] ∨ name = [46] ∨ name = [46, 46] ∨ 47 ∈ name ∨ 92 ∈ name ∨ 0 ∈ name)
    (.tool "invalid_path" "Invalid descriptor-relative child name")
  faults.tooled (.openPart path) "path_open_failed"
    "A filesystem entry changed or could not be opened safely"
  match entries.get? name with
  | some (.directory children) => do
      faults.call (.fstatPart path)
      faults.call (.closePart path)
      .ok children
  | some .symlink => .error (.tool "symlink_rejected"
      "A filesystem entry changed or could not be opened safely")
  | _ => .error (.tool "path_open_failed"
      "A filesystem entry changed or could not be opened safely")

def openParts (faults : Faults) : Name → List Name → Entries → Except Raised Entries
  | _, [], entries => .ok entries
  | path, name :: rest, entries => do
      let children ← openPart faults (below path name) name entries
      openParts faults (below path name) rest children

/-- The root with another directory at the path. -/
def replaceAt (directory : Entries) : List Name → Entries → Entries
  | [], _ => directory
  | name :: rest, entries =>
      match entries.get? name with
      | some (.directory children) =>
          Dict.set entries name (.directory (replaceAt directory rest children))
      | _ => entries

/-- `except OSError` of `open_directory_descriptor`. -/
def outside : Raised → Raised
  | .os _ => .tool "path_open_failed"
      "The requested directory could not be opened without following symlinks"
  | raised => raised

/-- `finally: os.close(descriptor)`. -/
def leave {α : Type} (faults : Faults) (result : Except Raised α) : Except Raised α :=
  match faults.fails .closeDataset, result with
  | some error, _ => .error (.os error)
  | Option.none, .error raised => .error (outside raised)
  | Option.none, .ok item => .ok item

/-- `"/".join(parts) or "."`. -/
def normalisedOf (parts : List Name) : Name := if parts = [] then [46] else joinParts parts

/-- `with self.root.open_directory_descriptor(relative) as (descriptor, normalised)`, of a body
that changes the directory. -/
def withDirectory {α : Type} (faults : Faults) (relative : String)
    (body : Name → Effect Entries Raised α) : Effect Entries Raised α := fun root =>
  match relativeParts relative with
  | .error raised => (.error raised, root)
  | .ok parts =>
      match faults.call .openRoot >>= fun _ => openParts faults [] parts root with
      | .error raised => (leave faults (.error raised), root)
      | .ok directory =>
          (leave faults (body (normalisedOf parts) directory).1,
            replaceAt (body (normalisedOf parts) directory).2 parts root)

/-! ### Scanning -/

/-- What the service uses of its libraries: SHA-256, lower case, `json.loads`, and its view of
the pairs of every object.  JSON constants are floats, which no field of a manifest takes. -/
structure DatasetPlatform (φ : Type) [FloatText φ] where
  sha256 : Bytes → Digest
  lower : Name → Name
  loads : Bytes → Option (Json φ)
  loadsPairs : Bytes → Option (Json φ)
  reads_back : ∀ value : Json φ, value.finite = true → legible value = true →
    loadsPairs (utf8Encode (value.sorted.text ++ ['\n'])) = some value.sorted

section Scan

variable {φ : Type} [FloatText φ] (platform : DatasetPlatform φ) (faults : Faults) (maxFiles : Nat)

def sensitiveDirectories : List Name := [".git", ".ssh", ".aws", ".gnupg"].map nameOf

def sensitiveNames : List Name :=
  [".env", ".npmrc", ".pypirc", "credentials.json", "id_dsa", "id_ecdsa", "id_ed25519", "id_rsa",
    "known_hosts", "netrc", "secrets.json"].map nameOf

/-- `is_sensitive_path`. -/
def isSensitivePath (path : Name) : Bool :=
  let parts := ((path.splitOn 47).filter fun part => part ≠ [] ∧ part ≠ [46]).map platform.lower
  let name := parts.getLast?.getD []
  (parts.any fun part => part ∈ sensitiveDirectories) || name ∈ sensitiveNames ||
    ([".env.", "credentials.", "secrets."].any fun front => (nameOf front).isPrefixOf name) ||
    [".key", ".p12", ".pfx", ".pem"].any fun back => (nameOf back).isSuffixOf name

/-- A record of `_scan`. -/
structure FileRecord (π : Type) where
  path : π
  sizeBytes : Int
  sha256 : String
  deriving DecidableEq

/-- `open_child_descriptor` of an entry that was enumerated before. -/
def openEntry (path name : Name) : Except Raised Unit := do
  raiseIf (name = [] ∨ name = [46] ∨ name = [46, 46] ∨ 47 ∈ name ∨ 92 ∈ name ∨ 0 ∈ name)
    (.tool "invalid_path" "Invalid descriptor-relative child name")
  faults.tooled (.openEntry path) "filesystem_race_detected"
    "A filesystem entry changed or could not be opened safely"
  faults.call (.fstatEntry path)

-- a close that fails after another error only changes which error is raised, and is left out
mutual

/-- An entry of a directory, at its path below the dataset. -/
def walkNode (path name : Name) (records : List (FileRecord Name)) :
    Node → Except Raised (List (FileRecord Name))
  | .symlink => .error (.tool "symlink_rejected"
      "Symlinks are not permitted in deterministic manifests")
  | .special => do
      faults.tooled (.stat path) "filesystem_race_detected"
        "A dataset entry changed while the manifest was built"
      .error (.tool "special_file_rejected"
        "Only regular files and directories are permitted in deterministic manifests")
  | .directory entries => do
      faults.tooled (.stat path) "filesystem_race_detected"
        "A dataset entry changed while the manifest was built"
      openEntry faults path name
      faults.tooled (.scandir path) "directory_read_failed"
        "A dataset directory could not be read safely"
      let records ← walkEntries path records entries
      faults.call (.closeEntry path)
      .ok records
  | .file content => do
      faults.tooled (.stat path) "filesystem_race_detected"
        "A dataset entry changed while the manifest was built"
      raiseIf (isSensitivePath platform path = true) (.tool "dataset_sensitive_path"
        "Credential-like files cannot be included in a dataset manifest")
      raiseIf (maxFiles ≤ records.length) (.tool "dataset_file_limit"
        "The dataset exceeds the configured manifest file limit")
      openEntry faults path name
      faults.call (.readEntry path)
      faults.call (.closeEntry path)
      .ok (records ++ [⟨path, content.length, (platform.sha256 content).labelled ""⟩])

def walkEntries (path : Name) (records : List (FileRecord Name)) :
    List (Name × Node) → Except Raised (List (FileRecord Name))
  | [] => .ok records
  | (name, node) :: rest =>
      -- the manifest itself, at the top only
      if path = [] ∧ name = manifestName then walkEntries path records rest
      else do
        faults.call (.isSymlink (below path name))
        let records ← walkNode (below path name) name records node
        walkEntries path records rest

end

/-- `_scan`. -/
def scan (directory : Entries) : Except Raised (List (FileRecord Name)) := do
  faults.tooled (.scandir []) "directory_read_failed"
    "A dataset directory could not be read safely"
  walkEntries platform faults maxFiles [] [] (sortEntries (sortedEntries directory))

end Scan

end EgoAgent.Datasets
