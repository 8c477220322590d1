import EgoAgent.Acceptance.Accepted
import EgoAgent.Gateway.WireFormat

/-!
Bundles that were built, and whether they verify.

What is written is read back as it was, and the replay sees the files of the
source again.  One rule differs: a path may end in white space for the builder,
and may not for the verifier.
-/

namespace EgoAgent.Acceptance

open EgoAgent.Api EgoAgent.Bridge EgoAgent.Gateway

/-! ### Trimmed texts -/

theorem rstrip_eq_self_iff (chars : List Char) :
    ResearchOs.rstrip chars = chars ↔ chars.getLast?.any ResearchOs.isSpace = false := by
  unfold ResearchOs.rstrip
  rw [List.reverse_eq_iff, ← List.head?_reverse]
  cases chars.reverse with
  | nil => simp
  | cons c rest =>
      by_cases space : ResearchOs.isSpace c = true
      · have shorter : (rest.dropWhile ResearchOs.isSpace).length ≤ rest.length :=
          (List.dropWhile_suffix _).length_le
        simp only [List.dropWhile_cons, space, if_true, List.head?_cons, Option.any_some,
          Bool.true_eq_false, iff_false]
        intro same
        have lengths := congrArg List.length same
        rw [List.length_cons] at lengths
        omega
      · simp [space]

theorem isTrimmed_iff {text : String} {first : Char} {rest : List Char}
    (shape : text.toList = first :: rest) (plain : ResearchOs.isSpace first = false) :
    isTrimmed text = true ↔ text.toList.getLast?.any ResearchOs.isSpace = false := by
  have front : ResearchOs.strip text.toList = ResearchOs.rstrip text.toList := by
    unfold ResearchOs.strip
    rw [shape]
    simp [plain]
  rw [← rstrip_eq_self_iff, ← front]
  unfold isTrimmed
  constructor
  · intro both
    exact beq_iff_eq.mp ((Bool.and_eq_true _ _).mp both).2
  · intro same
    have some : ResearchOs.strip text.toList ≠ [] := by
      rw [same, shape]
      exact List.cons_ne_nil _ _
    exact (Bool.and_eq_true _ _).mpr ⟨decide_eq_true some, beq_iff_eq.mpr same⟩

theorem isTrimmed_of_plain {text : String} (some : text ≠ "")
    (plain : ∀ c ∈ text.toList, ResearchOs.isSpace c = false) : isTrimmed text = true := by
  cases shape : text.toList with
  | nil => exact absurd (String.toList_eq_nil_iff.mp shape) some
  | cons first rest =>
      refine (isTrimmed_iff shape (plain first (shape ▸ List.mem_cons_self))).mpr ?_
      cases last : text.toList.getLast? with
      | none => rfl
      | some c => exact plain c (List.mem_of_getLast? last)

theorem isSpace_of_hex {c : Char} (hex : ('0' ≤ c ∧ c ≤ '9') ∨ ('a' ≤ c ∧ c ≤ 'f')) :
    ResearchOs.isSpace c = false := by
  have range : (48 ≤ c.toNat ∧ c.toNat ≤ 57) ∨ (97 ≤ c.toNat ∧ c.toNat ≤ 102) := hex
  simp only [ResearchOs.isSpace, Bool.or_eq_false_iff, Bool.and_eq_false_iff,
    decide_eq_false_iff_not]
  omega

/-- The text of the path ends in white space. -/
def endsInSpace (path : RelPath) : Bool := path.text.toList.getLast?.any ResearchOs.isSpace

theorem RelPath.text_toList (path : RelPath) : path.text.toList = joined path.names :=
  String.toList_ofList

theorem under_text (path : RelPath) : path.under.text = "artifacts/" ++ path.text := by
  apply String.toList_injective
  rw [String.toList_append, RelPath.text_toList, RelPath.text_toList]
  exact joined_cons_of_ne_nil path.nonempty

theorem joined_ne_nil {names : List (List Char)} (some : names ≠ []) (plain : PlainSegments names) :
    joined names ≠ [] := by
  cases names with
  | nil => exact absurd rfl some
  | cons first rest =>
      cases rest with
      | nil =>
          intro none
          exact plain.no_empty (List.mem_singleton.mpr none.symm)
      | cons second rest =>
          rw [joined_cons_of_ne_nil (List.cons_ne_nil _ _)]
          simp

theorem isTrimmed_under (path : RelPath) :
    isTrimmed path.under.text = true ↔ endsInSpace path = false := by
  have shape : path.under.text.toList = 'a' :: ("rtifacts/".toList ++ path.text.toList) := by
    rw [under_text, String.toList_append]
    rfl
  rw [isTrimmed_iff shape (by decide), shape]
  unfold endsInSpace
  have some : path.text.toList ≠ [] := by
    rw [RelPath.text_toList]
    exact joined_ne_nil path.nonempty path.plain
  have last : ('a' :: ("rtifacts/".toList ++ path.text.toList)).getLast? =
      path.text.toList.getLast? := by
    rw [← List.cons_append, List.getLast?_append_of_ne_nil _ some]
  rw [last]

section RoundTrip

variable {φ : Type} [FloatText φ] {platform : Platform φ}

/-! ### Records -/

omit [FloatText φ] in
/-- A path that is trimmed is read as it was written. -/
theorem safeRelative_under {label : String} (path : RelPath) (trimmed : endsInSpace path = false) :
    safeRelative label (some (.str path.under.text : Json φ)) = .ok path.under.names := by
  have chars : path.under.text.toList = joined path.under.names := path.under.text_toList
  have segmentsEq : segments path.under.text.toList = path.under.names := by
    rw [chars]
    exact segments_joined path.under.nonempty path.under.noSlash
  have relative : isAbsolute path.under.text.toList = false := by
    rw [under_text, String.toList_append]
    rfl
  have partsEq : parts path.under.text.toList = path.under.names := by
    rw [parts_of_plain relative (segmentsEq ▸ path.under.plain), segmentsEq]
  have posix : asPosix path.under.text.toList = path.under.text.toList := by
    unfold asPosix
    rw [partsEq, chars]
    change (if isAbsolute (joined path.under.names) = true then _ else
      joined path.under.names) = _
    rw [chars] at relative
    rw [relative]
    rfl
  have safe : ¬ (isAbsolute path.under.text.toList = true ∨ parts path.under.text.toList = [] ∨
      ['.', '.'] ∈ parts path.under.text.toList) := by
    rw [relative, partsEq]
    rintro (absolute | none | inside)
    · cases absolute
    · exact path.under.nonempty none
    · exact path.under.plain.no_parent inside
  have isText : trimmedText label (some (.str path.under.text : Json φ)) = .ok path.under.text := by
    simp only [trimmedText]
    rw [raiseIf_bind_of_not]
    rw [(isTrimmed_under path).mpr trimmed]
    exact Bool.true_eq_false_eq_False.elim
  unfold safeRelative
  rw [isText, ok_bind]
  simp only
  rw [raiseIf_bind_of_not safe, raiseIf_bind_of_not (not_not.mpr posix), partsEq]

omit [FloatText φ] in
theorem sha256Text_digest (label : String) (digest : Digest) :
    sha256Text label (some (.str (digest.labelled "sha256:") : Json φ)) =
      .ok (digest.labelled "sha256:") := by
  have chars := Digest.labelled_toList "sha256:" digest
  have trimmed : isTrimmed (digest.labelled "sha256:") = true := by
    have shape : (digest.labelled "sha256:").toList =
        's' :: ("ha256:".toList ++ digest.hex) := chars
    refine isTrimmed_of_plain ?_ ?_
    · intro empty
      rw [empty] at shape
      cases shape
    · intro c present
      rw [chars, List.mem_append] at present
      rcases present with inLabel | inHex
      · have plain : "sha256:".toList.all (fun c => !ResearchOs.isSpace c) = true := by decide
        simpa using List.all_eq_true.mp plain c inLabel
      · exact isSpace_of_hex (hexDigits_lower 64 _ c inHex)
  have isLabel : isSha256Label (digest.labelled "sha256:") = true := by
    have rest : ((digest.labelled "sha256:").toList.drop 7) = digest.hex := by
      rw [chars]
      exact List.drop_left' (by decide)
    have hex : String.ofList digest.hex = digest.labelled "" := by simp [Digest.labelled]
    unfold isSha256Label
    rw [rest, hex, isSha256_digest, Bool.and_true, List.isPrefixOf_iff_prefix, chars]
    exact List.prefix_append _ _
  unfold sha256Text
  simp only [trimmedText]
  rw [raiseIf_bind_of_not (by rw [trimmed]; simp), ok_bind,
    raiseIf_bind_of_not (by rw [isLabel]; simp)]

theorem fileRecord_sorted (platform : Platform φ) (file : RelPath × Bytes) :
    ∃ members, (fileRecord platform file).sorted = .dict members ∧
      Dict.get? members "path" = some (.str file.1.under.text) ∧
      Dict.get? members "sha256" = some (.str (digestBytes platform file.2)) ∧
      Dict.get? members "bytes" = some (.int file.2.length) := by
  rw [under_text]
  let members : List (String × Json φ) :=
    [("path", .str ("artifacts/" ++ file.1.text)), ("sha256", .str (digestBytes platform file.2)),
      ("bytes", .int file.2.length)]
  have distinct : (Dict.keys members).Nodup := by simp [members, Dict.keys]
  have pathOf : Dict.get? members "path" = some (.str ("artifacts/" ++ file.1.text)) := rfl
  have digestOf : Dict.get? members "sha256" = some (.str (digestBytes platform file.2)) := rfl
  have sizeOf : Dict.get? members "bytes" = some (.int file.2.length) := rfl
  exact ⟨_, rfl, get?_sorted distinct pathOf, get?_sorted distinct digestOf,
    get?_sorted distinct sizeOf⟩

theorem verifyFile_fileRecord {bundle : Tree} {seen : List (List (List Char))}
    {file : RelPath × Bytes} {members : List (String × Json φ)}
    (pathOf : Dict.get? members "path" = some (.str file.1.under.text))
    (digestOf : Dict.get? members "sha256" = some (.str (digestBytes platform file.2)))
    (sizeOf : Dict.get? members "bytes" = some (.int file.2.length))
    (trimmed : endsInSpace file.1 = false) (fresh : file.1.under.names ∉ seen)
    (stored : bundle.find file.1.under.names = some (.file file.2)) :
    verifyFile platform bundle seen members = .ok file.1.under.names := by
  have apart : ¬ (file.1.under.names.head? ≠ some artifacts ∨ file.1.under.names ∈ seen) := by
    rintro (other | again)
    · exact other rfl
    · exact fresh again
  have size : naturalNumber "manifest file bytes" (some (.int file.2.length : Json φ)) =
      .ok file.2.length := by
    simp only [naturalNumber]
    rw [raiseIf_bind_of_not (by omega)]
    rfl
  unfold verifyFile
  rw [pathOf, safeRelative_under file.1 trimmed, ok_bind, raiseIf_bind_of_not apart, stored]
  simp only
  rw [digestOf, digestBytes, sha256Text_digest, ok_bind, raiseIf_bind_of_not (by simp), sizeOf,
    size, ok_bind, raiseIf_bind_of_not (by simp)]

/-- Every file that was copied passes, in the order of the manifest. -/
theorem verifyFiles_fileRecords {bundle : Tree} {files : List (RelPath × Bytes)}
    {seen : List (List (List Char))}
    (trimmed : ∀ file ∈ files, endsInSpace file.1 = false)
    (distinct : (files.map fun file => file.1.under.names).Nodup)
    (fresh : ∀ file ∈ files, file.1.under.names ∉ seen)
    (stored : ∀ file ∈ files, bundle.find file.1.under.names = some (.file file.2)) :
    verifyFiles platform bundle seen (sortedItems (files.map (fileRecord platform))) =
      .ok (seen ++ files.map fun file => file.1.under.names) := by
  induction files generalizing seen with
  | nil => simp [sortedItems, verifyFiles]
  | cons file rest ih =>
      obtain ⟨members, record, pathOf, digestOf, sizeOf⟩ := fileRecord_sorted platform file
      have here := verifyFile_fileRecord pathOf digestOf sizeOf (trimmed file List.mem_cons_self)
        (fresh file List.mem_cons_self) (stored file List.mem_cons_self)
      rw [List.map_cons, List.nodup_cons] at distinct
      have freshRest : ∀ other ∈ rest, other.1.under.names ∉ seen ++ [file.1.under.names] := by
        intro other present inside
        rcases List.mem_append.mp inside with inSeen | same
        · exact fresh other (List.mem_cons_of_mem _ present) inSeen
        · rw [List.mem_singleton] at same
          exact distinct.1 (List.mem_map.mpr ⟨other, present, same⟩)
      have later := ih (fun other present => trimmed other (List.mem_cons_of_mem _ present))
        distinct.2 freshRest (fun other present => stored other (List.mem_cons_of_mem _ present))
      rw [List.map_cons, sortedItems, verifyFiles, record, object, ok_bind, here, ok_bind, later]
      simp

/-! ### Orders -/

theorem Tree.sorted_eq_of_perm {left right : Tree} (same : left.entries.Perm right.entries) :
    left.sorted = right.sorted := by
  have distinct : (right.entries.map fun entry => entry.1.names).Nodup := right.distinct
  exact sortedByKey_congr (fun entry => entry.1.names) same fun one inOne other inOther =>
    List.inj_on_of_nodup_map distinct inOne inOther

/-- The scan sees the sorted entries only. -/
theorem scanSourceFiles_of_sorted {left right : Tree} (same : left.sorted = right.sorted) :
    scanSourceFiles platform left = scanSourceFiles platform right := by
  unfold scanSourceFiles
  rw [same]

theorem validateSource_of_sorted {left right : Tree} (same : left.sorted = right.sorted) :
    validateSource platform left = validateSource platform right := by
  unfold validateSource
  rw [scanSourceFiles_of_sorted same]

theorem manifestForSource_of_sorted {left right : Tree} {report : SourceReport φ}
    (same : left.sorted = right.sorted) :
    manifestForSource platform left report = manifestForSource platform right report := by
  unfold manifestForSource
  rw [scanSourceFiles_of_sorted same]

theorem below_under (path : RelPath) : path.under.below = some path := by
  obtain ⟨names, encodable, nonempty, plain, noSlash⟩ := path
  cases names with
  | nil => exact absurd rfl nonempty
  | cons first rest => rfl

/-- The copies in the bundle are the files of the source. -/
theorem artifactTree_entries {files : List (RelPath × Bytes)} {found : Tree}
    {distinct : (files.map fun file => file.1.names).Nodup} {manifest checksum : Bytes}
    (same : found.entries.Perm (bundleTree files distinct manifest checksum).entries) :
    (artifactTree found).entries.Perm (files.map fun file => (file.1, Entry.file file.2)) := by
  refine (same.filterMap _).trans ?_
  have copies : (files.map fun file => (file.1.under, Entry.file file.2)).filterMap
      (fun entry => entry.1.below.map fun inner => (inner, entry.2)) =
        files.map fun file => (file.1, Entry.file file.2) := by
    rw [List.filterMap_map]
    have each : ((fun entry : RelPath × Entry => entry.1.below.map fun inner => (inner, entry.2)) ∘
        fun file : RelPath × Bytes => (file.1.under, Entry.file file.2)) =
          fun file => some (file.1, Entry.file file.2) := by
      funext file
      simp [below_under]
    rw [each, ← List.filterMap_eq_map]
    rfl
  have whole : (bundleTree files distinct manifest checksum).entries =
      (files.map fun file => (file.1.under, Entry.file file.2)) ++
        [(manifestPath, .file manifest), (checksumPath, .file checksum)] := rfl
  rw [whole, List.filterMap_append, copies]
  have tops : [(manifestPath, Entry.file manifest), (checksumPath, .file checksum)].filterMap
      (fun entry => entry.1.below.map fun inner => (inner, entry.2)) = [] := rfl
  rw [tops, List.append_nil]

/-! ### The manifest -/

section Manifest

variable (acceptanceId createdAt : Json φ) (declared : List (String × Json φ))
  (report : SourceReport φ) (files : List (RelPath × Bytes))

/-- The members of the commitment. -/
def commitmentOf (platform : Platform φ) : List (String × Json φ) :=
  [("roots", .dict
      [("trace_root", .str report.traceRoot), ("matrix_events_root", .str report.matrixEventsRoot),
        ("evidence_root", .str report.evidenceRoot),
        ("benchmark_evidence_root", .str report.benchmarkEvidenceRoot),
        ("rxp_ledger_root", .str report.rxpLedgerRoot)]),
    ("schema_version", .str acceptanceSchemaVersion), ("acceptance_id", acceptanceId),
    ("created_at", createdAt), ("truth_boundary", .dict (truthBoundary declared)),
    ("gate", .dict (gate report)), ("scenarios", .list (report.scenarioRoots.map .dict)),
    ("files", .list (files.map (fileRecord platform)))]

variable (bundleRoot : String)

/-- The root itself is left out. -/
theorem bundleCommitment_manifestWith :
    bundleCommitment
      (manifestWith platform acceptanceId createdAt declared report files bundleRoot) =
        .ok (.dict (commitmentOf acceptanceId createdAt declared report files platform)) := by
  rfl

theorem manifestWith_distinct :
    (Dict.keys (manifestWith platform acceptanceId createdAt declared report files
      bundleRoot)).Nodup := by
  simp [manifestWith, Dict.keys]

omit [FloatText φ] in
theorem roots_distinct : (Dict.keys (roots report bundleRoot)).Nodup := by
  simp [roots, Dict.keys]

theorem manifestWith_roots :
    Dict.get? (manifestWith platform acceptanceId createdAt declared report files bundleRoot)
      "roots" = some (.dict (roots report bundleRoot)) := by
  rfl

omit [FloatText φ] in
/-- The roots are texts. -/
theorem roots_normal (u : Unicode) (bundleRoot : String) :
    ∃ target, normalise u (.dict (roots report bundleRoot)) = some target := by
  have ascii : ∀ key ∈ rootKeys ++ ["bundle_root"], isAscii key := by decide
  have keys : Dict.keys (roots report bundleRoot) = rootKeys ++ ["bundle_root"] := rfl
  have areTexts : ∀ member ∈ roots report bundleRoot, ∃ text, member.2 = .str text := by
    simp [roots]
  have texts : ∀ key ∈ rootKeys ++ ["bundle_root"], ∃ text,
      Dict.get? (roots report bundleRoot) key = some (.str text) := by
    intro key wanted
    obtain ⟨value, found⟩ := (Dict.mem_keys_iff _ key).mp (keys ▸ wanted)
    obtain ⟨text, rfl⟩ := areTexts _ (Dict.mem_of_get? _ found)
    exact ⟨text, found⟩
  obtain ⟨target, computed, _⟩ := normalise_dict_of_agree u
    (fun key wanted => u.nfc_ascii (ascii key wanted)) (by decide) (.of_eq keys) (.of_eq keys)
    fun key wanted => by
      obtain ⟨text, found⟩ := texts key wanted
      exact ⟨_, _, _, found, found, rfl, rfl⟩
  exact ⟨target, computed⟩

/-- What can be committed to can be written. -/
theorem manifest_normal (u : Unicode) {normal : Value} (bundleRoot : String)
    (computed : normalise u
      (.dict (commitmentOf acceptanceId createdAt declared report files platform)) = some normal) :
    ∃ target, normalise u (.dict (manifestWith platform acceptanceId createdAt declared report files
      bundleRoot)) = some target := by
  have ascii : ∀ key ∈ manifestKeys, isAscii key := by decide
  have keys : Dict.keys (manifestWith platform acceptanceId createdAt declared report files
      bundleRoot) = manifestKeys := rfl
  obtain ⟨members, _, same, _, fields, _⟩ := bundleCommitment_eq_ok
    (bundleCommitment_manifestWith acceptanceId createdAt declared report files bundleRoot)
    (manifestWith_roots acceptanceId createdAt declared report files bundleRoot)
  cases same
  obtain ⟨target, written, _⟩ := normalise_dict_of_agree u
    (fun key wanted => u.nfc_ascii (ascii key wanted)) (by decide) (.of_eq keys) (.of_eq keys)
    fun key wanted => by
      by_cases isRoots : key = "roots"
      · obtain ⟨target, computed⟩ := roots_normal report u bundleRoot
        rw [isRoots, manifestWith_roots]
        exact ⟨_, _, target, rfl, rfl, computed, computed⟩
      · have others : ∀ name ∈ manifestKeys, name ≠ "roots" → name ∈ commitmentKeys := by decide
        obtain ⟨value, inManifest, inCommitment⟩ := fields key (others key wanted isRoots)
        obtain ⟨_, target, _, _, _, valueNormal⟩ := normalise_dict_get u computed inCommitment
          (u.nfc_ascii (ascii key wanted))
        exact ⟨value, value, target, inManifest, inManifest, valueNormal, valueNormal⟩
  exact ⟨target, written⟩

end Manifest

/-! ### The manifest as it is read -/

omit [FloatText φ] in
theorem itemsOf_sorted {members chosen : List (String × Json φ)} {keys : List String}
    (distinct : (Dict.keys members).Nodup) (all : itemsOf members keys = .ok chosen) :
    itemsOf (sortMembers (sortedMembers members)) keys = .ok (sortedMembers chosen) := by
  induction keys generalizing chosen with
  | nil =>
      cases all
      rfl
  | cons first rest ih =>
      obtain ⟨value, found, later⟩ := (bind_eq_ok _ _ _).mp all
      obtain ⟨others, remaining, done⟩ := (bind_eq_ok _ _ _).mp later
      cases done
      have here : item (sortMembers (sortedMembers members)) first = .ok value.sorted :=
        (expect_eq_ok _ _ _).mpr (get?_sorted distinct (item_eq_ok found))
      rw [itemsOf, here, ok_bind, ih remaining, ok_bind, sortedMembers]

omit [FloatText φ] in
/-- Sorting the manifest does not change what is committed to. -/
theorem bundleCommitment_sorted (u : Unicode) {manifest manifestRoots : List (String × Json φ)}
    {commitment : Json φ} {normal : Value} (distinct : (Dict.keys manifest).Nodup)
    (rootsOf : Dict.get? manifest "roots" = some (.dict manifestRoots))
    (rootsDistinct : (Dict.keys manifestRoots).Nodup)
    (computed : bundleCommitment manifest = .ok commitment)
    (commitmentNormal : normalise u commitment = some normal) :
    ∃ sorted, bundleCommitment (sortMembers (sortedMembers manifest)) = .ok sorted ∧
      normalise u sorted = some normal := by
  obtain ⟨fields, fieldsEq, afterFields⟩ := (bind_eq_ok _ _ _).mp computed
  obtain ⟨found, foundEq, afterRoots⟩ := (bind_eq_ok _ _ _).mp afterFields
  obtain ⟨mapped, mappedEq, afterMapping⟩ := (bind_eq_ok _ _ _).mp afterRoots
  obtain ⟨committed, committedEq, done⟩ := (bind_eq_ok _ _ _).mp afterMapping
  cases done
  have foundRoots := item_eq_ok foundEq
  rw [rootsOf] at foundRoots
  cases foundRoots
  cases mappedEq
  have sortedRoots : item (sortMembers (sortedMembers manifest)) "roots" =
      .ok (.dict (sortMembers (sortedMembers manifestRoots))) :=
    (expect_eq_ok _ _ _).mpr (get?_sorted distinct rootsOf)
  refine ⟨.dict (("roots", .dict (sortedMembers committed)) :: sortedMembers fields), ?_, ?_⟩
  · unfold bundleCommitment
    rw [itemsOf_sorted distinct fieldsEq, ok_bind, sortedRoots, ok_bind, mapping, ok_bind,
      itemsOf_sorted rootsDistinct committedEq, ok_bind]
  · simp only [normalise, normaliseMembers, Option.bind_eq_some_iff, Option.map_eq_some_iff]
      at commitmentNormal
    obtain ⟨all, ⟨head, ⟨inner, innerEq, checked⟩, tail, tailEq, rfl⟩, done⟩ := commitmentNormal
    have committedNormal : normalise u (.dict committed) = some head := by
      simp only [normalise, innerEq, Option.bind_some]
      exact checked
    rw [normalise, normaliseMembers, normalise_sortedMembers u committedNormal,
      normaliseMembers_sorted u fields tail tailEq]
    exact done

/-! ### The checksum -/

theorem universalNewlines_of_not_mem {text : List Char} (plain : '\r' ∉ text) :
    universalNewlines text = text := by
  induction text with
  | nil => rfl
  | cons c rest ih =>
      obtain ⟨here, later⟩ := not_or.mp (mt List.mem_cons.mpr plain)
      unfold universalNewlines
      split
      · rename_i same
        cases same
      · rename_i same
        exact absurd (List.cons.inj same).1.symm here
      · rename_i same
        exact absurd (List.cons.inj same).1.symm here
      · rename_i same
        cases same
        rw [ih later]

theorem checksumLine_plain (manifest : Bytes) : '\r' ∉ checksumLine platform manifest := by
  unfold checksumLine
  rw [Digest.labelled_toList]
  intro present
  simp only [List.mem_append] at present
  rcases present with (inLabel | inHex) | inName
  · cases inLabel
  · have hex := hexDigits_lower 64 _ _ inHex
    revert hex
    decide
  · revert inName
    decide

theorem checkChecksum_written {bundle : Tree} {manifest : Bytes}
    (stored : bundle.find [checksumName] =
      some (.file (utf8Encode (checksumLine platform manifest)))) :
    checkChecksum platform bundle manifest = .ok () := by
  unfold checkChecksum
  rw [stored]
  simp only [Option.bind_some, Entry.read]
  rw [utf8Decode_utf8Encode, expect, ok_bind,
    universalNewlines_of_not_mem (checksumLine_plain manifest)]
  exact (raiseIf_eq_ok _ _ ()).mpr (not_not.mpr rfl)

omit [FloatText φ] in
theorem checkGate_gate (report : SourceReport φ) :
    checkGate (sortMembers (sortedMembers (gate report))) = .ok () := by
  have distinct : (Dict.keys (gate report)).Nodup := by simp [gate, Dict.keys]
  have shown : ∀ key text, Dict.get? (gate report) key = some (.str text) →
      hasText (Dict.get? (sortMembers (sortedMembers (gate report))) key) text = true := by
    intro key text found
    rw [get?_sorted distinct found]
    simp [hasText, Json.sorted]
  unfold checkGate
  rw [shown "mvp_contract_status" "PASS" rfl, shown "source_authenticity_status" "UNVERIFIED" rfl,
    shown "live_claim_status" "NOT_VERIFIED" rfl, shown "coverage_fraction" "8/14" rfl,
    shown "full_release_status" "NOT_EVALUATED" rfl, raiseIf_bind_of_not (by simp)]
  exact (raiseIf_eq_ok _ _ ()).mpr (by simp)

/-! ### What was built verifies -/

theorem find_written {files : List (RelPath × Bytes)} {found : Tree}
    {distinct : (files.map fun file => file.1.names).Nodup} {manifest checksum : Bytes}
    (same : found.entries.Perm (bundleTree files distinct manifest checksum).entries) :
    found.find [manifestName] = some (.file manifest) ∧
      found.find [checksumName] = some (.file checksum) ∧
      ∀ file ∈ files, found.find file.1.under.names = some (.file file.2) := by
  have manifestIn : (manifestPath, Entry.file manifest) ∈ found.entries :=
    same.mem_iff.mpr (List.mem_append_right _ List.mem_cons_self)
  have checksumIn : (checksumPath, Entry.file checksum) ∈ found.entries :=
    same.mem_iff.mpr (List.mem_append_right _ (List.mem_cons_of_mem _ List.mem_cons_self))
  refine ⟨Tree.find_of_mem manifestIn, Tree.find_of_mem checksumIn, fun file present => ?_⟩
  have fileIn : (file.1.under, Entry.file file.2) ∈ found.entries :=
    same.mem_iff.mpr (List.mem_append_left _ (List.mem_map.mpr ⟨file, present, rfl⟩))
  exact Tree.find_of_mem fileIn

/-- The files of the bundle are the copies. -/
theorem actualPaths_written {files : List (RelPath × Bytes)} {found : Tree}
    {distinct : (files.map fun file => file.1.names).Nodup} {manifest checksum : Bytes}
    (same : found.entries.Perm (bundleTree files distinct manifest checksum).entries)
    {path : RelPath} : path ∈ actualPaths found ↔ ∃ file ∈ files, path = file.1.under := by
  unfold actualPaths
  rw [List.mem_map]
  constructor
  · rintro ⟨⟨other, entry⟩, present, rfl⟩
    obtain ⟨inFound, kept⟩ := List.mem_filter.mp present
    simp only [Bool.and_eq_true, decide_eq_true_eq] at kept
    rcases List.mem_append.mp (same.mem_iff.mp inFound) with copied | top
    · obtain ⟨file, inFiles, pair⟩ := List.mem_map.mp copied
      cases pair
      exact ⟨file, inFiles, rfl⟩
    · rcases List.mem_cons.mp top with pair | top
      · cases pair
        exact absurd rfl kept.1.2
      · cases List.mem_singleton.mp top
        exact absurd rfl kept.2
  · rintro ⟨file, inFiles, rfl⟩
    refine ⟨(file.1.under, .file file.2), List.mem_filter.mpr
      ⟨same.mem_iff.mpr (List.mem_append_left _ (List.mem_map.mpr ⟨file, inFiles, rfl⟩)), ?_⟩, rfl⟩
    have notManifest : file.1.under.names ≠ [manifestName] := fun shape =>
      absurd (List.cons.inj shape).1 (by decide)
    have notChecksum : file.1.under.names ≠ [checksumName] := fun shape =>
      absurd (List.cons.inj shape).1 (by decide)
    simp [Entry.read, notManifest, notChecksum]

/-- What the builder computes before it writes. -/
structure Planned (platform : Platform φ) (tree : Tree) (report : SourceReport φ)
    (manifest : List (String × Json φ)) (files : List (RelPath × Bytes)) : Prop where
  validated : validateSource platform tree = .ok report
  described : manifestForSource platform tree report = .ok manifest
  scanned : scanSourceFiles platform tree = .ok files

variable {tree found : Tree} {report : SourceReport φ} {manifest : List (String × Json φ)}
  {files : List (RelPath × Bytes)} {distinct : (files.map fun file => file.1.names).Nodup}

def checksumBytes (platform : Platform φ) (manifest : List (String × Json φ)) : Bytes :=
  utf8Encode (checksumLine platform (manifestBytes manifest))

/-- The verifier scans the files of the source again. -/
theorem Planned.rescanned (planned : Planned platform tree report manifest files)
    {checksum : Bytes}
    (same : found.entries.Perm
      (bundleTree files distinct (manifestBytes manifest) checksum).entries) :
    (artifactTree found).sorted = tree.sorted := by
  have sorted := (scanSourceFiles_entries platform planned.scanned).1
  have entries : (artifactTree found).entries.Perm tree.entries := by
    have copies := artifactTree_entries same
    rw [← sorted] at copies
    exact copies.trans (List.perm_insertionSort _ _)
  exact Tree.sorted_eq_of_perm entries

/-- The manifest of a plan, and the normal form of what it commits to. -/
theorem Planned.described_as (planned : Planned platform tree report manifest files) :
    ∃ acceptanceId createdAt declared preimage normal,
      (∀ file ∈ files, file.1.encodable = true) ∧
      manifest = manifestWith platform acceptanceId createdAt declared report files
        (digestBytes platform preimage) ∧
      normalise platform.unicode
        (.dict (commitmentOf acceptanceId createdAt declared report files platform)) =
          some normal ∧
      domainDigest platform bundleDomain
        (.dict (commitmentOf acceptanceId createdAt declared report files platform)) =
          .ok (digestBytes platform preimage) := by
  obtain ⟨acceptanceId, createdAt, declared, _, _, bundleRoot, scanned, encodable, committed,
    digest, manifestEq⟩ := manifestForSource_eq_ok planned.described
  rw [planned.scanned] at scanned
  cases scanned
  rw [bundleCommitment_manifestWith] at committed
  cases committed
  obtain ⟨canonical, canonicalEq, rootEq⟩ := (bind_eq_ok _ _ _).mp digest
  cases rootEq
  obtain ⟨normal, commitmentNormal, _⟩ :=
    Option.map_eq_some_iff.mp ((expect_eq_ok _ _ _).mp canonicalEq)
  exact ⟨acceptanceId, createdAt, declared, domainBytes bundleDomain canonical, normal, encodable,
    manifestEq, commitmentNormal, digest⟩

/-- The manifest is read back with its members sorted. -/
theorem parse_written {normal : Value}
    (computed : normalise platform.unicode (.dict manifest) = some normal) :
    parseJsonBytes platform (manifestBytes manifest) "manifest.json" =
      .ok (.dict (sortMembers (sortedMembers manifest))) := by
  have read := platform.reader.reads_back platform.unicode (.dict manifest) (by rw [computed]; rfl)
  have unique := uniqueKeys_of_normalise platform.unicode _ _
    (normalise_sorted platform.unicode _ _ computed)
  unfold parseJsonBytes manifestBytes
  rw [read, expect, ok_bind, raiseIf_bind_of_not (by rw [unique]; simp), Json.sorted]

/-- What is listed is what was copied. -/
theorem declared_written
    {manifest checksum : Bytes} (encodable : ∀ file ∈ files, file.1.encodable = true)
    (same : found.entries.Perm (bundleTree files distinct manifest checksum).entries) :
    (∀ path ∈ actualPaths found, path.encodable = true ∧
      path.names ∈ files.map fun file => file.1.under.names) ∧
      ∀ path ∈ files.map fun file => file.1.under.names,
        path ∈ (actualPaths found).map RelPath.names := by
  constructor
  · intro path present
    obtain ⟨file, inFiles, rfl⟩ := (actualPaths_written same).mp present
    exact ⟨encodable file inFiles, List.mem_map.mpr ⟨file, inFiles, rfl⟩⟩
  · intro path present
    obtain ⟨file, inFiles, rfl⟩ := List.mem_map.mp present
    exact List.mem_map.mpr
      ⟨file.1.under, (actualPaths_written same).mpr ⟨file, inFiles, rfl⟩, rfl⟩

omit [FloatText φ] in
theorem under_distinct (distinct : (files.map fun file => file.1.names).Nodup) :
    (files.map fun file => file.1.under.names).Nodup := by
  have names : files.map (fun file => file.1.under.names) =
      (files.map fun file => file.1.names).map (artifacts :: ·) := by
    simp [RelPath.under, Function.comp_def]
  rw [names]
  exact distinct.map List.cons_injective

/-- The digest depends on the normal form only. -/
theorem domainDigest_congr {domain root : String} {left right : Json φ} {normal : Value}
    (leftNormal : normalise platform.unicode left = some normal)
    (rightNormal : normalise platform.unicode right = some normal)
    (digest : domainDigest platform domain left = .ok root) :
    domainDigest platform domain right = .ok root := by
  unfold domainDigest canonicalBytes at digest ⊢
  rw [leftNormal] at digest
  rw [rightNormal]
  exact digest

variable [FloatEq φ]

/-- Without a path that ends in white space, what was built is accepted. -/
theorem Planned.verifies (planned : Planned platform tree report manifest files)
    (same : found.entries.Perm (bundleTree files distinct (manifestBytes manifest)
      (checksumBytes platform manifest)).entries)
    (trimmed : ∀ file ∈ files, endsInSpace file.1 = false) (directory : List (List Char)) :
    verifyBundle platform directory (some found) =
      .ok ⟨directory, buildBundle.bundleRootOf manifest⟩ := by
  have rescanned := planned.rescanned same
  have revalidated := (validateSource_of_sorted rescanned).trans planned.validated
  have redescribed : manifestForSource platform (artifactTree found) report = .ok manifest :=
    (manifestForSource_of_sorted rescanned).trans planned.described
  obtain ⟨manifestStored, checksumStored, filesStored⟩ := find_written same
  obtain ⟨acceptanceId, createdAt, declared, preimage, normal, encodable, manifestEq,
    commitmentNormal, digest⟩ := planned.described_as
  -- What the manifest says, and how it is read.
  have manifestDistinct : (Dict.keys manifest).Nodup := by
    rw [manifestEq]
    exact manifestWith_distinct acceptanceId createdAt declared report files _
  have schemaOf : Dict.get? manifest "schema_version" = some (.str acceptanceSchemaVersion) := by
    rw [manifestEq]
    rfl
  have filesOf : Dict.get? manifest "files" = some (.list (files.map (fileRecord platform))) := by
    rw [manifestEq]
    rfl
  have rootsOf : Dict.get? manifest "roots" =
      some (.dict (roots report (digestBytes platform preimage))) := by
    rw [manifestEq]
    rfl
  have rootOf : Dict.get? (roots report (digestBytes platform preimage)) "bundle_root" =
      some (.str (digestBytes platform preimage)) := rfl
  have rootSorted : (Json.str (digestBytes platform preimage) : Json φ).sorted =
      .str (digestBytes platform preimage) := by
    rw [Json.sorted] <;> simp
  have gateOf : Dict.get? manifest "gate" = some (.dict (gate report)) := by
    rw [manifestEq]
    rfl
  obtain ⟨manifestNormal, normalEq⟩ := manifest_normal acceptanceId createdAt declared report files
    platform.unicode (digestBytes platform preimage) commitmentNormal
  rw [← manifestEq] at normalEq
  have equal := pyEq_sorted platform.unicode (.dict manifest) manifestNormal normalEq
  rw [Json.sorted] at equal
  have commitmentEq : bundleCommitment manifest =
      .ok (.dict (commitmentOf acceptanceId createdAt declared report files platform)) := by
    rw [manifestEq]
    exact bundleCommitment_manifestWith acceptanceId createdAt declared report files _
  obtain ⟨sortedCommitment, sortedEq, sortedNormal⟩ := bundleCommitment_sorted platform.unicode
    manifestDistinct rootsOf (roots_distinct report _) commitmentEq commitmentNormal
  have sortedDigest := domainDigest_congr commitmentNormal sortedNormal digest
  have rootText : buildBundle.bundleRootOf manifest = digestBytes platform preimage := by
    unfold buildBundle.bundleRootOf
    rw [rootsOf]
    rfl
  -- The checks, one after the other.
  have verified : verifyFiles platform found [] (sortedItems (files.map (fileRecord platform))) =
      .ok (files.map fun file => file.1.under.names) :=
    verifyFiles_fileRecords trimmed (under_distinct distinct) (fun _ _ => List.not_mem_nil)
      filesStored
  unfold verifyBundle
  simp only [expect, ok_bind, manifestStored, Option.bind_some, Entry.read, Option.getD_some]
  rw [parse_written normalEq, ok_bind, object, ok_bind, get?_sorted manifestDistinct schemaOf,
    raiseIf_bind_of_not (by simp [hasText, Json.sorted]), checkChecksum_written checksumStored,
    ok_bind, get?_sorted manifestDistinct filesOf, Json.sorted, array, ok_bind, verified, ok_bind,
    raiseIf_bind_of_not (not_not.mpr (declared_written encodable same)), revalidated, ok_bind,
    redescribed, ok_bind, raiseIf_bind_of_not (by rw [equal]; simp),
    get?_sorted manifestDistinct rootsOf, Json.sorted, object, ok_bind,
    get?_sorted (roots_distinct report _) rootOf, rootSorted, digestBytes, sha256Text_digest,
    ok_bind, sortedEq, ok_bind, sortedDigest, ok_bind, raiseIf_bind_of_not (by simp [digestBytes]),
    get?_sorted manifestDistinct gateOf, Json.sorted, object, ok_bind, checkGate_gate, ok_bind,
    rootText, digestBytes]

/-- Only with such paths everywhere is it accepted. -/
theorem Planned.verified_trimmed {bundleReport : BundleReport} {manifest checksum : Bytes}
    (same : found.entries.Perm (bundleTree files distinct manifest checksum).entries)
    {directory : List (List Char)}
    (verified : verifyBundle platform directory (some found) = .ok bundleReport) :
    ∀ file ∈ files, endsInSpace file.1 = false := by
  intro file present
  obtain ⟨_, _, _, listed, accepted⟩ := verifyBundle_eq_ok verified
  have inContents : (file.1.under, file.2) ∈ found.contents := by
    refine mem_contents.mpr ⟨.file file.2, same.mem_iff.mpr (List.mem_append_left _
      (List.mem_map.mpr ⟨file, present, rfl⟩)), ?_, ?_, rfl⟩
    · exact fun shape => absurd (List.cons.inj shape).1 (by decide)
    · exact fun shape => absurd (List.cons.inj shape).1 (by decide)
  have inListed : (file.1.under.names, file.2) ∈ listed :=
    accepted.contents.mem_iff.mp (List.mem_map.mpr ⟨_, inContents, rfl⟩)
  obtain ⟨_, _, recorded⟩ := Related.partner_of_right accepted.records _ inListed
  exact (isTrimmed_under file.1).mp recorded.trimmed

omit [FloatEq φ]

/-! ### Building -/

def emptyOutput : Output → Bool
  | .absent | .emptyDirectory => true
  | .occupied | .written _ => false

theorem copyOf_of_scanned (scanned : scanSourceFiles platform tree = .ok files) :
    buildBundle.copyOf platform tree =
      .ok ⟨files, scanSourceFiles_distinct platform scanned⟩ := by
  unfold buildBundle.copyOf
  split
  · rename_i others same
    rw [scanned] at same
    cases same
    rfl
  · rename_i failure same
    rw [scanned] at same
    cases same

theorem Planned.builds (planned : Planned platform tree report manifest files)
    {source output : List (List Char)} {state : Output}
    (disjoint : overlap source output = false) (isEmpty : emptyOutput state = true) :
    buildBundle platform source output tree state =
      (.ok ⟨output, buildBundle.bundleRootOf manifest⟩,
        .written (bundleTree files (scanSourceFiles_distinct platform planned.scanned)
          (manifestBytes manifest) (checksumBytes platform manifest))) := by
  unfold buildBundle
  rw [disjoint]
  cases state with
  | absent =>
      simp only [Effect.check_bind_apply, Effect.read_bind, raiseIf, Bool.false_eq_true, if_false,
        planned.validated, planned.described, copyOf_of_scanned planned.scanned]
      rfl
  | emptyDirectory =>
      simp only [Effect.check_bind_apply, Effect.read_bind, raiseIf, Bool.false_eq_true, if_false,
        planned.validated, planned.described, copyOf_of_scanned planned.scanned]
      rfl
  | occupied => cases isEmpty
  | written bundle => cases isEmpty

/-- The builder raises before it writes, or had a plan. -/
theorem buildBundle_cases (platform : Platform φ) (source output : List (List Char)) (tree : Tree) (state : Output) :
    (∃ failure, buildBundle platform source output tree state = (.error failure, state)) ∨
      ∃ report manifest files, Planned platform tree report manifest files ∧
        overlap source output = false ∧ emptyOutput state = true := by
  by_cases disjoint : overlap source output = true
  · left
    unfold buildBundle
    simp [Effect.check_bind_apply, raiseIf, disjoint]
  rw [Bool.not_eq_true] at disjoint
  by_cases isEmpty : emptyOutput state = true
  · have raised : ∀ failure : Failure,
        (validateSource platform tree = .error failure ∨ ∃ report,
          validateSource platform tree = .ok report ∧
            manifestForSource platform tree report = .error failure) →
        buildBundle platform source output tree state = (.error failure, state) := by
      intro failure early
      unfold buildBundle
      rw [disjoint]
      rcases early with early | ⟨report, validated, early⟩
      · cases state with
        | absent | emptyDirectory =>
            simp [Effect.check_bind_apply, Effect.read_bind, raiseIf, early]
        | occupied | written _ => cases isEmpty
      · cases state with
        | absent | emptyDirectory =>
            simp [Effect.check_bind_apply, Effect.read_bind, raiseIf, validated, early]
        | occupied | written _ => cases isEmpty
    cases validated : validateSource platform tree with
    | error failure => exact .inl ⟨failure, raised failure (.inl validated)⟩
    | ok report =>
        cases described : manifestForSource platform tree report with
        | error failure =>
            exact .inl ⟨failure, raised failure (.inr ⟨report, validated, described⟩)⟩
        | ok manifest =>
            obtain ⟨_, _, _, files, _, _, scanned, _⟩ := manifestForSource_eq_ok described
            exact .inr ⟨report, manifest, files, ⟨validated, described, scanned⟩, disjoint, isEmpty⟩
  · left
    unfold buildBundle
    cases state with
    | absent | emptyDirectory => exact absurd rfl isEmpty
    | occupied | written _ =>
        simp [Effect.check_bind_apply, Effect.read_bind, raiseIf, disjoint, Effect.check]

/-- A bundle that is built verifies, with its own root and however it is enumerated, just when no
path of the source ends in white space; its root depends on the files only. -/
theorem built_bundles_verify [FloatEq φ] (platform : Platform φ) (source output : List (List Char))
    (tree : Tree) (state : Output) :
    match buildBundle platform source output tree state with
    | (.error _, later) => later = state
    | (.ok report, later) => ∃ bundle, later = .written bundle ∧
        (∀ found : Tree, found.entries.Perm bundle.entries →
          (verifyBundle platform output (some found) = .ok report ↔
            ∀ entry ∈ tree.entries, endsInSpace entry.1 = false)) ∧
        ∀ elsewhere place : List (List Char), ∀ copy : Tree, ∀ other : Output,
          copy.entries.Perm tree.entries → overlap elsewhere place = false →
          emptyOutput other = true →
            buildBundle platform elsewhere place copy other =
              (.ok ⟨place, report.bundleRoot⟩, .written bundle) := by
  rcases buildBundle_cases platform source output tree state with
    ⟨failure, raised⟩ | ⟨report, manifest, files, planned, disjoint, isEmpty⟩
  · rw [raised]
  · rw [planned.builds disjoint isEmpty]
    have entries := (scanSourceFiles_entries platform planned.scanned).1
    have paths : (∀ entry ∈ tree.entries, endsInSpace entry.1 = false) ↔
        ∀ file ∈ files, endsInSpace file.1 = false := by
      have same : ∀ entry, entry ∈ tree.entries ↔
          entry ∈ files.map fun file => (file.1, Entry.file file.2) := by
        intro entry
        rw [← entries]
        exact (List.perm_insertionSort _ tree.entries).mem_iff.symm
      constructor
      · intro all file present
        exact all (file.1, .file file.2) ((same _).mpr (List.mem_map.mpr ⟨file, present, rfl⟩))
      · intro all entry present
        obtain ⟨file, inFiles, rfl⟩ := List.mem_map.mp ((same entry).mp present)
        exact all file inFiles
    refine ⟨_, rfl, fun found same => ?_, fun elsewhere place copy other perm apart isFree => ?_⟩
    · rw [paths]
      exact ⟨fun verified => Planned.verified_trimmed same verified,
        fun trimmed => planned.verifies same trimmed output⟩
    · have sorted := Tree.sorted_eq_of_perm perm
      have copied : Planned platform copy report manifest files :=
        { validated := (validateSource_of_sorted sorted).trans planned.validated
          described := (manifestForSource_of_sorted sorted).trans planned.described
          scanned := (scanSourceFiles_of_sorted sorted).trans planned.scanned }
      exact copied.builds apart isFree

/-- A plan exists when everything has a canonical form. -/
theorem exists_planned {acceptanceId createdAt : Json φ} {declared : List (String × Json φ)}
    (validated : validateSource platform tree = .ok report)
    (scanned : scanSourceFiles platform tree = .ok files)
    (idOf : item report.descriptor "acceptance_id" = .ok acceptanceId)
    (timeOf : item report.descriptor "created_at" = .ok createdAt)
    (boundaryOf : object "truth_boundary" (Dict.get? report.descriptor "truth_boundary") =
      .ok declared)
    (encodable : ∀ file ∈ files, file.1.encodable = true)
    (canonical : (normalise platform.unicode
      (.dict (commitmentOf acceptanceId createdAt declared report files platform))).isSome = true) :
    ∃ manifest, Planned platform tree report manifest files := by
  obtain ⟨normal, computed⟩ := Option.isSome_iff_exists.mp canonical
  have names : ¬ ∃ file ∈ files, file.1.encodable = false := by
    rintro ⟨file, present, lost⟩
    rw [encodable file present] at lost
    cases lost
  refine ⟨manifestWith platform acceptanceId createdAt declared report files
    (digestBytes platform (domainBytes bundleDomain (utf8Encode normal.text))), validated, ?_,
    scanned⟩
  unfold manifestForSource
  rw [idOf, ok_bind, timeOf, ok_bind, boundaryOf, ok_bind, scanned, ok_bind,
    raiseIf_bind_of_not names, bundleCommitment_manifestWith, ok_bind]
  unfold domainDigest canonicalBytes
  rw [computed]
  rfl

end RoundTrip

/-! ### A bundle -/

namespace BundleSample

def unicode : Unicode where
  nfc text := text
  decimal c := if c.isDigit then some (c.toNat - 48) else none
  nfc_idem _ := rfl
  nfc_plain _ _ := rfl
  decimal_ascii := ascii_decimal

def report : SourceReport Empty where
  descriptor :=
    [("acceptance_id", .str "acc-1"), ("created_at", .str "2026-08-29T00:00:00Z"),
      ("truth_boundary", .dict [("origin", .str "local")])]
  traceRoot := "sha256:01"
  matrixEventsRoot := "sha256:02"
  evidenceRoot := "sha256:03"
  benchmarkEvidenceRoot := "sha256:04"
  rxpLedgerRoot := "sha256:05"
  scenarioRoots := []
  mvpScenarios := ["happy_path"]

/-- A digest of the first byte, and a replay that every source passes. -/
def platform : Platform Empty where
  sha256 bytes := BitVec.ofNat 256 (bytes.headD 0).toNat
  unicode := unicode
  reader := compactReader
  lower name := name
  secret _ := none
  replay _ := .ok report

/-- A source with one file. -/
def source (path : RelPath) : Tree where
  entries := [(path, .file [104, 105])]
  distinct := List.nodup_singleton _

def plainPath : RelPath := topLevel "log".toList (by decide)

def spacedPath : RelPath := topLevel "log ".toList (by decide)

theorem planned_plain : ∃ manifest,
    Planned platform (source plainPath) report manifest [(plainPath, [104, 105])] :=
  exists_planned rfl rfl rfl rfl rfl (by simp [plainPath, topLevel]) (by decide +kernel)

theorem planned_spaced : ∃ manifest,
    Planned platform (source spacedPath) report manifest [(spacedPath, [104, 105])] :=
  exists_planned rfl rfl rfl rfl rfl (by simp [spacedPath, topLevel]) (by decide +kernel)

/-- A file whose name ends in a blank is copied and listed, and the bundle is refused. -/
theorem spaced_bundle_refused : ∃ built bundle,
    buildBundle platform [['s']] [['o']] (source spacedPath) .absent =
      (.ok built, .written bundle) ∧
      ∀ verified, verifyBundle platform [['o']] (some bundle) ≠ .ok verified := by
  obtain ⟨manifest, planned⟩ := planned_spaced
  refine ⟨_, _, planned.builds rfl rfl, fun verified accepted => ?_⟩
  have trimmed := Planned.verified_trimmed (.refl _) accepted _ List.mem_cons_self
  revert trimmed
  decide

end BundleSample

end EgoAgent.Acceptance
