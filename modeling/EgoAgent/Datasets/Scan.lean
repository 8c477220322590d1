import EgoAgent.Datasets.Tree

/-!
What a scan records: every file of the dataset, in an order that only depends on the names.
-/

namespace EgoAgent.Datasets

open EgoAgent.Api

/-! ### The files of a dataset -/

mutual

/-- The regular files at a path or below it. -/
def Node.files (path : Name) : Node → List (Name × Bytes)
  | .file content => [(path, content)]
  | .directory entries => filesOf path entries
  | .symlink | .special => []

def filesOf (path : Name) : List (Name × Node) → List (Name × Bytes)
  | [] => []
  | (name, node) :: rest =>
      if path = [] ∧ name = manifestName then filesOf path rest
      else node.files (below path name) ++ filesOf path rest

end

/-- The files of a dataset, without its manifest. -/
def datasetFiles (directory : Entries) : List (Name × Bytes) := filesOf [] directory

theorem filesOf_eq_flatMap (path : Name) (entries : List (Name × Node)) :
    filesOf path entries = entries.flatMap fun entry =>
      if path = [] ∧ entry.1 = manifestName then [] else entry.2.files (below path entry.1) := by
  induction entries with
  | nil => rfl
  | cons entry rest ih =>
      obtain ⟨name, node⟩ := entry
      rw [filesOf, List.flatMap_cons, ih]
      by_cases top : path = [] ∧ name = manifestName
      · rw [if_pos top, if_pos top, List.nil_append]
      · rw [if_neg top, if_neg top]

theorem filesOf_perm (path : Name) {left right : List (Name × Node)} (same : left.Perm right) :
    (filesOf path left).Perm (filesOf path right) := by
  rw [filesOf_eq_flatMap, filesOf_eq_flatMap]
  exact same.flatMap_right _

theorem sortEntries_perm (entries : List (Name × Node)) : (sortEntries entries).Perm entries :=
  List.perm_insertionSort _ entries

mutual

/-- Sorting moves no file. -/
theorem files_sorted_perm : ∀ (node : Node) (path : Name),
    (node.sorted.files path).Perm (node.files path)
  | .file _, _ => .refl _
  | .symlink, _ => .refl _
  | .special, _ => .refl _
  | .directory entries, path =>
      (filesOf_perm path (sortEntries_perm (sortedEntries entries))).trans
        (filesOf_sorted_perm entries path)

theorem filesOf_sorted_perm : ∀ (entries : List (Name × Node)) (path : Name),
    (filesOf path (sortedEntries entries)).Perm (filesOf path entries)
  | [], _ => .refl _
  | (name, node) :: rest, path => by
      rw [sortedEntries, filesOf, filesOf]
      split
      · exact filesOf_sorted_perm rest path
      · exact (files_sorted_perm node (below path name)).append (filesOf_sorted_perm rest path)

end

/-! ### What is recorded -/

section Scan

variable {φ : Type} [FloatText φ] (platform : DatasetPlatform φ) (faults : Faults) (maxFiles : Nat)

def recordOf (file : Name × Bytes) : FileRecord Name :=
  ⟨file.1, file.2.length, (platform.sha256 file.2).labelled ""⟩

variable {platform faults maxFiles}

mutual

theorem walkNode_records : ∀ (node : Node) (path name : Name)
    {records later : List (FileRecord Name)},
    walkNode platform faults maxFiles path name records node = .ok later →
      later = records ++ (node.files path).map (recordOf platform)
  | .symlink, _, _, _, _, walked => by
      rw [walkNode] at walked
      cases walked
  | .special, _, _, _, _, walked => by
      rw [walkNode] at walked
      obtain ⟨_, _, walked⟩ := (bind_eq_ok _ _ _).mp walked
      cases walked
  | .directory entries, path, name, records, later, walked => by
      rw [walkNode] at walked
      iterate 3 obtain ⟨_, _, walked⟩ := (bind_eq_ok _ _ _).mp walked
      obtain ⟨inner, inside, walked⟩ := (bind_eq_ok _ _ _).mp walked
      obtain ⟨_, _, walked⟩ := (bind_eq_ok _ _ _).mp walked
      cases walked
      exact walkEntries_records entries path inside
  | .file content, path, name, records, later, walked => by
      rw [walkNode] at walked
      obtain ⟨_, _, walked⟩ := (bind_eq_ok _ _ _).mp walked
      obtain ⟨_, walked⟩ := (raiseIf_bind_eq_ok _ _ _ _).mp walked
      obtain ⟨_, walked⟩ := (raiseIf_bind_eq_ok _ _ _ _).mp walked
      iterate 3 obtain ⟨_, _, walked⟩ := (bind_eq_ok _ _ _).mp walked
      cases walked
      rfl

theorem walkEntries_records : ∀ (entries : List (Name × Node)) (path : Name)
    {records later : List (FileRecord Name)},
    walkEntries platform faults maxFiles path records entries = .ok later →
      later = records ++ (filesOf path entries).map (recordOf platform)
  | [], _, records, later, walked => by
      rw [walkEntries] at walked
      cases walked
      rw [filesOf, List.map_nil, List.append_nil]
  | (name, node) :: rest, path, records, later, walked => by
      rw [walkEntries] at walked
      rw [filesOf]
      split at walked
      · rename_i top
        rw [if_pos top]
        exact walkEntries_records rest path walked
      · rename_i notTop
        rw [if_neg notTop]
        obtain ⟨_, _, walked⟩ := (bind_eq_ok _ _ _).mp walked
        obtain ⟨middle, here, walked⟩ := (bind_eq_ok _ _ _).mp walked
        rw [walkEntries_records rest path walked, walkNode_records node (below path name) name here,
          List.map_append, List.append_assoc]

end

/-- A scan records the files of the dataset in some order. -/
theorem scan_records {directory : Entries} {records : List (FileRecord Name)}
    (scanned : scan platform faults maxFiles directory = .ok records) :
    ∃ files : List (Name × Bytes), files.Perm (datasetFiles directory) ∧
      records = files.map (recordOf platform) := by
  obtain ⟨_, _, walked⟩ := (bind_eq_ok _ _ _).mp scanned
  refine ⟨_, ?_, walkEntries_records _ [] walked⟩
  exact (filesOf_perm [] (sortEntries_perm _)).trans (filesOf_sorted_perm directory [])

/-! ### The manifest is not scanned -/

/-- Whether an entry is not the manifest. -/
def notManifest (entry : Name × Node) : Bool := decide (entry.1 ≠ manifestName)

theorem walkEntries_skips : ∀ (entries : List (Name × Node)) (records : List (FileRecord Name)),
    walkEntries platform faults maxFiles [] records entries =
      walkEntries platform faults maxFiles [] records (entries.filter notManifest)
  | [], _ => rfl
  | (name, node) :: rest, records => by
      by_cases top : name = manifestName
      · rw [walkEntries, if_pos ⟨rfl, top⟩, List.filter_cons_of_neg (by simp [notManifest, top])]
        exact walkEntries_skips rest records
      · have notTop : ¬ (([] : Name) = [] ∧ name = manifestName) := fun both => top both.2
        rw [List.filter_cons_of_pos (by simp [notManifest, top]), walkEntries, walkEntries,
          if_neg notTop, if_neg notTop]
        simp only [fun records => walkEntries_skips rest records]

theorem sortedEntries_eq_map (entries : List (Name × Node)) :
    sortedEntries entries = entries.map fun entry => (entry.1, entry.2.sorted) := by
  induction entries with
  | nil => rfl
  | cons entry rest ih =>
      obtain ⟨name, node⟩ := entry
      rw [sortedEntries, ih]
      rfl

/-- Sorted entries with distinct names are determined by what they hold. -/
theorem sortEntries_filter {left right : List (Name × Node)}
    (leftDistinct : (Dict.keys left).Nodup)
    (same : (left.filter notManifest).Perm (right.filter notManifest)) :
    (sortEntries left).filter notManifest = (sortEntries right).filter notManifest := by
  have perm : ((sortEntries left).filter notManifest).Perm
      ((sortEntries right).filter notManifest) :=
    ((sortEntries_perm left).filter _).trans (same.trans ((sortEntries_perm right).filter _).symm)
  have sorted : ∀ entries : List (Name × Node), ((sortEntries entries).filter notManifest).Pairwise
      fun first second => first.1 ≤ second.1 := by
    intro entries
    exact (List.pairwise_insertionSort _ entries).filter _
  refine perm.eq_of_pairwise ?_ (sorted left) (sorted right)
  intro one other inLeft inRight up down
  have oneIn := (sortEntries_perm left).mem_iff.mp (List.mem_of_mem_filter inLeft)
  have otherIn := (sortEntries_perm left).mem_iff.mp
    (List.mem_of_mem_filter (perm.mem_iff.mpr inRight))
  exact List.inj_on_of_nodup_map leftDistinct oneIn otherIn (le_antisymm up down)

/-- Directories that differ in their manifest only are scanned alike. -/
theorem scan_congr {left right : Entries} (leftDistinct : (Dict.keys left).Nodup)
    (same : (left.filter notManifest).Perm (right.filter notManifest)) :
    scan platform faults maxFiles left = scan platform faults maxFiles right := by
  have moved : ∀ entries : List (Name × Node), (sortedEntries entries).filter notManifest =
      (entries.filter notManifest).map fun entry => (entry.1, entry.2.sorted) := by
    intro entries
    rw [sortedEntries_eq_map, List.filter_map]
    rfl
  have sortedDistinct : (Dict.keys (sortedEntries left)).Nodup := by
    rw [sortedEntries_eq_map]
    unfold Dict.keys at leftDistinct ⊢
    rw [List.map_map]
    exact leftDistinct
  have inOrder : (sortEntries (sortedEntries left)).filter notManifest =
      (sortEntries (sortedEntries right)).filter notManifest := by
    refine sortEntries_filter sortedDistinct ?_
    rw [moved, moved]
    exact same.map _
  unfold scan
  rw [walkEntries_skips, inOrder, ← walkEntries_skips]

end Scan

end EgoAgent.Datasets
