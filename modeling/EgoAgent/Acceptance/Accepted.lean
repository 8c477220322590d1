import EgoAgent.Acceptance.Bundle
import EgoAgent.Lib.Codec

/-!
What an accepted bundle holds: the files that its manifest lists, and the root
of what its manifest says.
-/

namespace EgoAgent.Acceptance

open EgoAgent.Api EgoAgent.Bridge EgoAgent.Gateway

section Accepted

variable {φ : Type} [FloatText φ] (platform : Platform φ)

/-! ### What is there -/

/-- The manifest as `verify_bundle` reads it. -/
def readManifest (bundle : Tree) : Option (Json φ) :=
  platform.reader.loads (((bundle.find [manifestName]).bind Entry.read).getD [])

/-- The files of a bundle apart from the manifest and its checksum. -/
def Tree.contents (bundle : Tree) : List (RelPath × Bytes) :=
  bundle.entries.filterMap fun entry =>
    if entry.1.names ≠ [manifestName] ∧ entry.1.names ≠ [checksumName] then
      entry.2.read.map fun payload => (entry.1, payload)
    else none

/-! ### Checked values -/

variable {found : Option (Json φ)}

variable {label : String}

variable {members : List (String × Json φ)}

omit [FloatText φ] in
theorem object_eq_ok
    (checked : object label found = .ok members) : found = some (.dict members) := by
  unfold object at checked
  split at checked
  · cases checked
    rfl
  · cases checked

omit [FloatText φ] in
theorem array_eq_ok {items : List (Json φ)}
    (checked : array label found = .ok items) : found = some (.list items) := by
  unfold array at checked
  split at checked
  · cases checked
    rfl
  · cases checked

omit [FloatText φ] in
theorem trimmedText_eq_ok {text : String} (checked : trimmedText label found = .ok text) :
    found = some (.str text) ∧ isTrimmed text = true := by
  unfold trimmedText at checked
  split at checked
  · obtain ⟨trimmed, checked⟩ := (raiseIf_bind_eq_ok _ _ _ _).mp checked
    cases checked
    exact ⟨rfl, by simpa using trimmed⟩
  · cases checked

omit [FloatText φ] in
theorem sha256Text_eq_ok {text : String}
    (checked : sha256Text label found = .ok text) : found = some (.str text) := by
  obtain ⟨_, trimmed, checked⟩ := (bind_eq_ok _ _ _).mp checked
  obtain ⟨_, checked⟩ := (raiseIf_bind_eq_ok _ _ _ _).mp checked
  cases checked
  exact (trimmedText_eq_ok trimmed).1

omit [FloatText φ] in
/-- A safe relative path is written with its own parts. -/
theorem safeRelative_eq_ok {names : List (List Char)}
    (checked : safeRelative label found = .ok names) :
    found = some (.str (String.ofList (joined names))) ∧
      isTrimmed (String.ofList (joined names)) = true := by
  obtain ⟨text, trimmed, checked⟩ := (bind_eq_ok _ _ _).mp checked
  obtain ⟨safe, checked⟩ := (raiseIf_bind_eq_ok _ _ _ _).mp checked
  obtain ⟨posix, checked⟩ := (raiseIf_bind_eq_ok _ _ _ _).mp checked
  cases checked
  push Not at safe posix
  have relative : isAbsolute text.toList = false := by simpa using safe.1
  have spelled : asPosix text.toList = joined (parts text.toList) := by
    obtain ⟨root, rest, split⟩ := List.exists_cons_of_ne_nil safe.2.1
    unfold asPosix
    rw [split]
    simp [relative]
  rw [(trimmedText_eq_ok trimmed).1, ← spelled, posix, String.ofList_toList]
  exact ⟨rfl, (trimmedText_eq_ok trimmed).2⟩

/-! ### Files -/

/-- A record of the manifest and the file that it is about. -/
structure RecordOf (bundle : Tree) (record : Json φ) (file : List (List Char) × Bytes) : Prop where
  members : ∃ members, record = .dict members ∧
    Dict.get? members "path" = some (.str (String.ofList (joined file.1))) ∧
    Dict.get? members "sha256" = some (.str (digestBytes platform file.2))
  trimmed : isTrimmed (String.ofList (joined file.1)) = true
  inside : file.1.head? = some artifacts
  stored : bundle.find file.1 = some (.file file.2)

variable {platform}

variable {bundle : Tree}

theorem verifyFile_eq_ok {seen : List (List (List Char))}
    {record : List (String × Json φ)} {relative : List (List Char)}
    (checked : verifyFile platform bundle seen record = .ok relative) :
    relative ∉ seen ∧ ∃ payload, RecordOf platform bundle (.dict record) (relative, payload) := by
  obtain ⟨names, path, checked⟩ := (bind_eq_ok _ _ _).mp checked
  obtain ⟨fresh, checked⟩ := (raiseIf_bind_eq_ok _ _ _ _).mp checked
  push Not at fresh
  split at checked
  · rename_i payload stored
    obtain ⟨claimed, digest, checked⟩ := (bind_eq_ok _ _ _).mp checked
    obtain ⟨sameDigest, checked⟩ := (raiseIf_bind_eq_ok _ _ _ _).mp checked
    obtain ⟨_, _, checked⟩ := (bind_eq_ok _ _ _).mp checked
    obtain ⟨_, checked⟩ := (raiseIf_bind_eq_ok _ _ _ _).mp checked
    cases checked
    push Not at sameDigest
    have ⟨pathOf, trimmed⟩ := safeRelative_eq_ok path
    refine ⟨fresh.2, payload, ⟨record, rfl, pathOf, ?_⟩, trimmed, fresh.1, stored⟩
    rw [sha256Text_eq_ok digest, sameDigest]
  · cases checked

/-- Every record is about a file of its own. -/
theorem verifyFiles_eq_ok {seen paths : List (List (List Char))}
    {files : List (Json φ)} (checked : verifyFiles platform bundle seen files = .ok paths)
    (distinct : seen.Nodup) :
    paths.Nodup ∧ ∃ listed, paths = seen ++ listed.map Prod.fst ∧
      List.Forall₂ (RecordOf platform bundle) files listed := by
  induction files generalizing seen with
  | nil =>
      cases checked
      exact ⟨distinct, [], by simp, .nil⟩
  | cons record rest ih =>
      obtain ⟨members, isObject, afterObject⟩ := (bind_eq_ok _ _ _).mp checked
      obtain ⟨relative, verified, afterFile⟩ := (bind_eq_ok _ _ _).mp afterObject
      obtain ⟨fresh, payload, recorded⟩ := verifyFile_eq_ok verified
      cases object_eq_ok isObject
      have more : (seen ++ [relative]).Nodup := by
        rw [List.nodup_append]
        refine ⟨distinct, List.nodup_singleton relative, ?_⟩
        intro name inSeen other isRelative same
        rw [List.mem_singleton.mp isRelative] at same
        exact fresh (same ▸ inSeen)
      obtain ⟨pathsDistinct, listed, pathsEq, records⟩ := ih afterFile more
      exact ⟨pathsDistinct, (relative, payload) :: listed, by simp [pathsEq],
        .cons recorded records⟩

theorem mem_contents {path : RelPath} {payload : Bytes} :
    (path, payload) ∈ bundle.contents ↔
      ∃ entry, (path, entry) ∈ bundle.entries ∧ path.names ≠ [manifestName] ∧
        path.names ≠ [checksumName] ∧ entry.read = some payload := by
  unfold Tree.contents
  rw [List.mem_filterMap]
  constructor
  · rintro ⟨⟨other, entry⟩, present, kept⟩
    split at kept
    · rename_i apart
      obtain ⟨found, read, pair⟩ := Option.map_eq_some_iff.mp kept
      cases pair
      exact ⟨entry, present, apart.1, apart.2, read⟩
    · cases kept
  · rintro ⟨entry, present, notManifest, notChecksum, read⟩
    exact ⟨(path, entry), present, by simp [notManifest, notChecksum, read]⟩

theorem Tree.find_of_mem {path : RelPath} {entry : Entry}
    (present : (path, entry) ∈ bundle.entries) : bundle.find path.names = some entry := by
  apply Dict.get?_of_mem
  · have distinct := bundle.distinct
    simpa [Dict.keys, Function.comp_def] using distinct
  · exact List.mem_map.mpr ⟨(path, entry), present, rfl⟩

theorem Tree.mem_of_find {names : List (List Char)} {entry : Entry}
    (found : bundle.find names = some entry) :
    ∃ path, path.names = names ∧ (path, entry) ∈ bundle.entries := by
  obtain ⟨⟨path, other⟩, present, pair⟩ := List.mem_map.mp (Dict.mem_of_get? _ found)
  cases pair
  exact ⟨path, rfl, present⟩

/-- What is listed is what is there. -/
theorem contents_perm {files : List (Json φ)} {listed : List (List (List Char) × Bytes)}
    (records : List.Forall₂ (RecordOf platform bundle) files listed)
    (distinct : (listed.map Prod.fst).Nodup)
    (declared : ∀ path ∈ actualPaths bundle, path.names ∈ listed.map Prod.fst) :
    (bundle.contents.map fun file => (file.1.names, file.2)).Perm listed := by
  have names : ((bundle.contents.map fun file => (file.1.names, file.2)).map Prod.fst).Nodup := by
    have sub : ((bundle.contents.map fun file => (file.1.names, file.2)).map Prod.fst).Sublist
        (bundle.entries.map fun entry => entry.1.names) := by
      unfold Tree.contents
      generalize bundle.entries = entries
      induction entries with
      | nil => exact List.Sublist.refl _
      | cons entry rest ih =>
          simp only [List.filterMap_cons]
          split
          · exact ih.cons _
          · rename_i file kept
            split at kept
            · obtain ⟨payload, _, pair⟩ := Option.map_eq_some_iff.mp kept
              cases pair
              exact ih.cons_cons _
            · cases kept
    exact bundle.distinct.sublist sub
  rw [List.perm_ext_iff_of_nodup (List.Nodup.of_map _ names) (List.Nodup.of_map _ distinct)]
  rintro ⟨path, payload⟩
  constructor
  · intro present
    obtain ⟨⟨found, content⟩, inBundle, pair⟩ := List.mem_map.mp present
    cases pair
    obtain ⟨entry, inEntries, notManifest, notChecksum, read⟩ := mem_contents.mp inBundle
    have actual : found ∈ actualPaths bundle := by
      refine List.mem_map.mpr ⟨(found, entry), List.mem_filter.mpr ⟨inEntries, ?_⟩, rfl⟩
      simp [read, notManifest, notChecksum]
    obtain ⟨⟨name, kept⟩, inListed, same⟩ := List.mem_map.mp (declared found actual)
    obtain ⟨_, _, recorded⟩ := Related.partner_of_right records _ inListed
    have stored := recorded.stored
    simp only at same stored
    subst same
    rw [Tree.find_of_mem inEntries] at stored
    cases stored
    cases read
    exact inListed
  · intro present
    obtain ⟨_, _, recorded⟩ := Related.partner_of_right records _ present
    obtain ⟨found, same, inEntries⟩ := Tree.mem_of_find recorded.stored
    simp only at same
    have inside := recorded.inside
    have notManifest : found.names ≠ [manifestName] := by
      intro isManifest
      rw [same] at isManifest
      subst isManifest
      exact absurd (Option.some.inj inside) (by decide)
    have notChecksum : found.names ≠ [checksumName] := by
      intro isChecksum
      rw [same] at isChecksum
      subst isChecksum
      exact absurd (Option.some.inj inside) (by decide)
    refine List.mem_map.mpr ⟨(found, payload), ?_, by rw [same]⟩
    exact mem_contents.mpr ⟨_, inEntries, notManifest, notChecksum, rfl⟩

/-! ### The commitment -/

omit [FloatText φ] in
theorem item_eq_ok {key : String} {value : Json φ}
    (found : item members key = .ok value) : Dict.get? members key = some value :=
  (expect_eq_ok _ _ _).mp found

omit [FloatText φ] in
/-- The chosen values are those of the source. -/
theorem itemsOf_get? {members chosen : List (String × Json φ)} {keys : List String}
    (all : itemsOf members keys = .ok chosen) {key : String} (wanted : key ∈ keys) :
    ∃ value, Dict.get? members key = some value ∧ Dict.get? chosen key = some value := by
  induction keys generalizing chosen with
  | nil => cases wanted
  | cons first rest ih =>
      obtain ⟨value, found, later⟩ := (bind_eq_ok _ _ _).mp all
      obtain ⟨others, remaining, done⟩ := (bind_eq_ok _ _ _).mp later
      cases done
      by_cases same : first = key
      · subst same
        exact ⟨value, item_eq_ok found, by simp [Dict.get?]⟩
      · have inRest := (List.mem_cons.mp wanted).resolve_left (Ne.symm same)
        obtain ⟨other, inMembers, inOthers⟩ := ih remaining inRest
        exact ⟨other, inMembers, by simp [Dict.get?, same, inOthers]⟩

omit [FloatText φ] in
/-- What the commitment takes from the manifest. -/
theorem bundleCommitment_eq_ok {manifest roots : List (String × Json φ)} {commitment : Json φ}
    (computed : bundleCommitment manifest = .ok commitment)
    (rootsOf : Dict.get? manifest "roots" = some (.dict roots)) :
    ∃ members committed, commitment = .dict members ∧
      Dict.get? members "roots" = some (.dict committed) ∧
      (∀ key ∈ commitmentKeys, ∃ value, Dict.get? manifest key = some value ∧
        Dict.get? members key = some value) ∧
      ∀ key ∈ rootKeys, ∃ value, Dict.get? roots key = some value ∧
        Dict.get? committed key = some value := by
  obtain ⟨fields, fieldsEq, afterFields⟩ := (bind_eq_ok _ _ _).mp computed
  obtain ⟨found, foundEq, afterRoots⟩ := (bind_eq_ok _ _ _).mp afterFields
  obtain ⟨mapped, mappedEq, afterMapping⟩ := (bind_eq_ok _ _ _).mp afterRoots
  obtain ⟨committed, committedEq, done⟩ := (bind_eq_ok _ _ _).mp afterMapping
  cases done
  rw [item_eq_ok foundEq] at rootsOf
  cases rootsOf
  cases mappedEq
  refine ⟨_, committed, rfl, by simp [Dict.get?], ?_, fun key wanted =>
    itemsOf_get? committedEq wanted⟩
  intro key wanted
  obtain ⟨value, inManifest, inFields⟩ := itemsOf_get? fieldsEq wanted
  have other : "roots" ≠ key := by
    rintro rfl
    exact absurd wanted (by decide)
  exact ⟨value, inManifest, by simp [Dict.get?, other, inFields]⟩

/-! ### Accepted bundles -/

def manifestKeys : List String :=
  ["schema_version", "acceptance_id", "created_at", "truth_boundary", "gate", "roots",
    "scenarios", "files"]

theorem manifestForSource_eq_ok {tree : Tree} {report : SourceReport φ}
    {manifest : List (String × Json φ)}
    (built : manifestForSource platform tree report = .ok manifest) :
    ∃ acceptanceId createdAt declared files commitment bundleRoot,
      scanSourceFiles platform tree = .ok files ∧
      (∀ file ∈ files, file.1.encodable = true) ∧
      bundleCommitment (manifestWith platform acceptanceId createdAt declared report files "") =
        .ok commitment ∧
      domainDigest platform bundleDomain commitment = .ok bundleRoot ∧
      manifest = manifestWith platform acceptanceId createdAt declared report files bundleRoot := by
  obtain ⟨acceptanceId, _, afterId⟩ := (bind_eq_ok _ _ _).mp built
  obtain ⟨createdAt, _, afterTime⟩ := (bind_eq_ok _ _ _).mp afterId
  obtain ⟨declared, _, afterBoundary⟩ := (bind_eq_ok _ _ _).mp afterTime
  obtain ⟨files, scanned, afterScan⟩ := (bind_eq_ok _ _ _).mp afterBoundary
  obtain ⟨encodable, afterNames⟩ := (raiseIf_bind_eq_ok _ _ _ _).mp afterScan
  obtain ⟨commitment, committed, afterCommitment⟩ := (bind_eq_ok _ _ _).mp afterNames
  obtain ⟨bundleRoot, digest, done⟩ := (bind_eq_ok _ _ _).mp afterCommitment
  cases done
  push Not at encodable
  exact ⟨acceptanceId, createdAt, declared, files, commitment, bundleRoot, scanned,
    fun file present => by simpa using encodable file present, committed, digest, rfl⟩

/-- What an accepted bundle holds. -/
structure Accepted (platform : Platform φ) (bundle : Tree) (bundleRoot : String)
    (manifest roots : List (String × Json φ)) (files : List (Json φ))
    (listed : List (List (List Char) × Bytes)) : Prop where
  read : readManifest platform bundle = some (.dict manifest)
  keys : (Dict.keys manifest).Perm manifestKeys
  filesOf : Dict.get? manifest "files" = some (.list files)
  records : List.Forall₂ (RecordOf platform bundle) files listed
  contents : (bundle.contents.map fun file => (file.1.names, file.2)).Perm listed
  rootsOf : Dict.get? manifest "roots" = some (.dict roots)
  rootsKeys : (Dict.keys roots).Perm (rootKeys ++ ["bundle_root"])
  rootOf : Dict.get? roots "bundle_root" = some (.str bundleRoot)
  committed : ∃ commitment canonical, bundleCommitment manifest = .ok commitment ∧
    canonicalBytes platform.unicode commitment = some canonical ∧
    bundleRoot = digestBytes platform (domainBytes bundleDomain canonical)

/-! ### Verified bundles -/

variable [FloatEq φ]

theorem verifyBundle_eq_ok {directory : List (List Char)} {report : BundleReport}
    (accepted : verifyBundle platform directory (some bundle) = .ok report) :
    ∃ manifest roots files listed,
      Accepted platform bundle report.bundleRoot manifest roots files listed := by
  obtain ⟨_, isDirectory, afterTree⟩ := (bind_eq_ok _ _ _).mp accepted
  cases isDirectory
  obtain ⟨value, parsed, afterParse⟩ := (bind_eq_ok _ _ _).mp afterTree
  obtain ⟨manifest, isObject, afterObject⟩ := (bind_eq_ok _ _ _).mp afterParse
  obtain ⟨_, afterSchema⟩ := (raiseIf_bind_eq_ok _ _ _ _).mp afterObject
  obtain ⟨_, _, afterChecksum⟩ := (bind_eq_ok _ _ _).mp afterSchema
  obtain ⟨files, isArray, afterFiles⟩ := (bind_eq_ok _ _ _).mp afterChecksum
  obtain ⟨paths, verified, afterVerified⟩ := (bind_eq_ok _ _ _).mp afterFiles
  obtain ⟨declared, afterDeclared⟩ := (raiseIf_bind_eq_ok _ _ _ _).mp afterVerified
  obtain ⟨source, _, afterSource⟩ := (bind_eq_ok _ _ _).mp afterDeclared
  obtain ⟨rebuilt, built, afterBuilt⟩ := (bind_eq_ok _ _ _).mp afterSource
  obtain ⟨equal, afterEqual⟩ := (raiseIf_bind_eq_ok _ _ _ _).mp afterBuilt
  obtain ⟨roots, rootsObject, afterRoots⟩ := (bind_eq_ok _ _ _).mp afterEqual
  obtain ⟨claimed, rootText, afterClaimed⟩ := (bind_eq_ok _ _ _).mp afterRoots
  obtain ⟨commitment, committed, afterCommitment⟩ := (bind_eq_ok _ _ _).mp afterClaimed
  obtain ⟨recomputed, digest, afterDigest⟩ := (bind_eq_ok _ _ _).mp afterCommitment
  obtain ⟨sameRoot, afterRoot⟩ := (raiseIf_bind_eq_ok _ _ _ _).mp afterDigest
  obtain ⟨gate, _, afterGate⟩ := (bind_eq_ok _ _ _).mp afterRoot
  obtain ⟨_, _, done⟩ := (bind_eq_ok _ _ _).mp afterGate
  cases done
  push Not at declared equal sameRoot
  -- The text of the manifest.
  obtain ⟨read, loaded, afterLoad⟩ := (bind_eq_ok _ _ _).mp parsed
  obtain ⟨_, parsedDone⟩ := (raiseIf_bind_eq_ok _ _ _ _).mp afterLoad
  cases parsedDone
  cases object_eq_ok isObject
  have reading := (expect_eq_ok _ _ _).mp loaded
  -- The files.
  obtain ⟨distinct, listed, rfl, records⟩ := verifyFiles_eq_ok verified List.nodup_nil
  rw [List.nil_append] at distinct declared
  have contents := contents_perm records distinct fun path present =>
    (declared.1 path present).2
  -- The keys of the manifest and of its roots are those of the rebuilt one.
  obtain ⟨acceptanceId, createdAt, boundary, scanned, _, rebuiltRoot, _, _, _, _, rfl⟩ :=
    manifestForSource_eq_ok built
  rw [ne_eq, Bool.not_eq_false] at equal
  have keys := keys_of_pyEq equal (by simp [manifestWith, Dict.keys])
  have members := equal
  simp only [pyEq, Bool.and_eq_true] at members
  have inside : ("roots", Json.dict (Acceptance.roots source rebuiltRoot)) ∈
      manifestWith platform acceptanceId createdAt boundary source scanned rebuiltRoot := by
    simp [manifestWith]
  obtain ⟨other, otherFound, otherEqual⟩ := pyEqMembers_get? members.2 inside
  have rootsOf := object_eq_ok rootsObject
  rw [rootsOf] at otherFound
  cases otherFound
  have rootsKeys := keys_of_pyEq otherEqual (by simp [Acceptance.roots, Dict.keys])
  obtain ⟨canonical, canonicalEq, digestDone⟩ := (bind_eq_ok _ _ _).mp digest
  cases digestDone
  exact ⟨manifest, roots, files, listed,
    { read := reading
      keys := keys.symm
      filesOf := array_eq_ok isArray
      records := records
      contents := contents
      rootsOf := rootsOf
      rootsKeys := rootsKeys.symm
      rootOf := sha256Text_eq_ok rootText
      committed := ⟨commitment, canonical, committed, (expect_eq_ok _ _ _).mp canonicalEq,
        sameRoot⟩ }⟩

end Accepted

end EgoAgent.Acceptance
