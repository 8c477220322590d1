import EgoAgent.Datasets.ManifestSize

/-!
What the dataset manifests promise, and for which datasets and failing calls they keep it.
-/

namespace EgoAgent.Datasets

open EgoAgent.Api Effect

section Guarantees

variable {φ : Type} [FloatText φ] (platform : DatasetPlatform φ) (faults : Faults) (maxFiles : Nat)
  (token relative datasetId : String) (root : Root)

/-- The directory of the dataset. -/
def datasetAt (relative : String) (root : Entries) : Except Raised Entries :=
  (withDirectory .none relative (fun _ => Effect.read) root).1

/-- What was created verifies, and is created again without a change. -/
def RoundTrips : Prop :=
  ∀ created later,
    create platform .none maxFiles token relative datasetId root.entries = (.ok created, later) →
    (∃ report, verify platform maxFiles relative later = .ok report ∧ report.valid = true) ∧
      ∀ token, ∃ again,
        create platform .none maxFiles token relative datasetId later = (.ok again, later) ∧
          again.writeStatus = .unchanged

/-- With its manifest kept, no other set of files verifies. -/
def DetectsChanges : Prop :=
  ∀ created later,
    create platform .none maxFiles token relative datasetId root.entries = (.ok created, later) →
    ∀ before changed after, datasetAt relative later = .ok before →
      datasetAt relative changed = .ok after →
      Dict.get? after manifestName = Dict.get? before manifestName →
      Set.InjOn platform.sha256 {content | ∃ path,
        (path, content) ∈ datasetFiles before ∨ (path, content) ∈ datasetFiles after} →
      ¬ (datasetFiles after).Perm (datasetFiles before) →
      ∀ report, verify platform maxFiles relative changed = .ok report → report.valid = false

/-- A call that raises has changed nothing. -/
def LeavesNothing : Prop :=
  ∀ raised later,
    create platform faults maxFiles token relative datasetId root.entries = (.error raised, later) →
    later = root.entries

/-- A new manifest of the dataset is not larger than a manifest may be when it is read. -/
def FitsLimit : Prop :=
  ∀ parts directory manifest, relativeParts relative = .ok parts →
    Creates platform .none maxFiles token relative datasetId root.entries directory manifest →
    manifestSize datasetId (normalisedOf parts) (datasetFiles directory) ≤ maxManifestBytes

/-- No call fails that leaves something behind once the temporary file is there. -/
def CleansUp : Prop :=
  ∀ directory manifest,
    Creates platform faults maxFiles token relative datasetId root.entries directory manifest →
    ¬ leavesBehind faults directory (encoded φ manifest)

variable {platform faults maxFiles token relative datasetId root}

variable {entries directory : Entries}

theorem datasetAt_eq_ok {parts : List Name} (relativeOk : relativeParts relative = .ok parts) :
    datasetAt relative entries = .ok directory ↔
      openParts .none [] parts entries = .ok directory := by
  unfold datasetAt withDirectory
  rw [relativeOk]
  dsimp only
  rw [call_of_none rfl, ok_bind]
  cases openParts .none [] parts entries with
  | error raised => exact ⟨nofun, nofun⟩
  | ok opened => exact Iff.rfl

/-- Without failing calls a call that creates its temporary file succeeds. -/
theorem Creates.succeeds {manifest : Manifest} (creates :
      Creates platform .none maxFiles token relative datasetId entries directory manifest) :
    ∃ created later, created.manifest = manifest ∧
      create platform .none maxFiles token relative datasetId entries = (.ok created, later) := by
  obtain ⟨parts, relativeOk, _, opened, prepared⟩ := creates.opens
  refine ⟨⟨.created, manifestPath (normalisedOf parts), manifest⟩,
    replaceAt (Dict.set directory manifestName (.file (encoded φ manifest))) parts entries, rfl, ?_⟩
  rw [create_of_id creates.idShort creates.idPlain, withDirectory_eq _ relativeOk rfl opened,
    createIn_eq prepared, atomicWrite_of_none creates.absent,
    writeNew_none (temporaryName_ne token) creates.unused
      ((existingManifest_eq_none false).mp creates.absent)]
  rfl

theorem roundTrips_iff : RoundTrips platform maxFiles token relative datasetId root ↔
    FitsLimit platform maxFiles token relative datasetId root := by
  constructor
  · intro roundTrips parts directory manifest relativeOk creates
    obtain ⟨created, later, rfl, ended⟩ := creates.succeeds
    obtain ⟨_, _, published⟩ := create_publishes root.proper ended
    obtain ⟨others, othersOk, _, _, prepared⟩ := creates.opens
    rw [relativeOk] at othersOk
    cases othersOk
    rw [← encoded_length prepared]
    exact published.verifies_iff.mp (roundTrips created later ended).1
  · intro fits created later ended
    have small : (encoded φ created.manifest).length ≤ maxManifestBytes := by
      obtain ⟨⟨idShort, idPlain⟩, parts, directory, after, relativeOk, opened, prepared, written,
        _⟩ := create_eq_ok ended
      rcases atomicWrite_eq_ok (temporaryName_ne token) written with
        ⟨existing, _⟩ | ⟨absent, unused, _⟩
      · exact ((existingManifest_eq_some false).mp existing).2
      · rw [encoded_length prepared]
        exact fits parts directory created.manifest relativeOk
          ⟨idShort, idPlain, ⟨parts, relativeOk, rfl, opened, prepared⟩, absent, rfl, unused⟩
    obtain ⟨_, _, published⟩ := create_publishes root.proper ended
    exact ⟨published.verifies_iff.mpr small,
      fun token => ⟨_, published.create_unchanged small token, rfl⟩⟩

theorem detectsChanges : DetectsChanges platform maxFiles token relative datasetId root := by
  intro created later ended before changed after isBefore isAfter kept collisionFree different
    report verified
  obtain ⟨parts, directory, published⟩ := create_publishes root.proper ended
  rw [datasetAt_eq_ok published.relativeOk] at isBefore isAfter
  rw [published.opened] at isBefore
  cases isBefore
  by_contra valid
  exact different (published.files_of_valid isAfter kept collisionFree verified
    (Bool.eq_true_of_not_eq_false valid))

theorem leavesNothing_iff :
    LeavesNothing platform faults maxFiles token relative datasetId root ↔
      CleansUp platform faults maxFiles token relative datasetId root := by
  unfold LeavesNothing CleansUp
  rw [create_leaves]
  push Not
  exact Iff.rfl

/-- Manifests keep all of this just when what they write can be read again, and no call fails that
leaves a file behind. -/
theorem manifest_promises_iff (platform : DatasetPlatform φ) (faults : Faults) (maxFiles : Nat)
    (token relative datasetId : String) (root : Root) :
    (RoundTrips platform maxFiles token relative datasetId root ∧
      DetectsChanges platform maxFiles token relative datasetId root ∧
      LeavesNothing platform faults maxFiles token relative datasetId root) ↔
    FitsLimit platform maxFiles token relative datasetId root ∧
      CleansUp platform faults maxFiles token relative datasetId root := by
  rw [roundTrips_iff, leavesNothing_iff]
  exact and_congr_right fun _ => and_iff_right detectsChanges

end Guarantees

/-! ### A dataset of one file -/

namespace ManifestSample

theorem readLine (value : Json Empty) :
    readCompact (utf8Encode (value.sorted.text ++ ['\n'])).dropLast = some value.sorted := by
  have newline : utf8Encode ['\n'] = [10] := by decide
  have split : utf8Encode (value.sorted.text ++ ['\n']) =
      utf8Encode value.sorted.text ++ utf8Encode ['\n'] := List.flatMap_append
  rw [split, newline, List.dropLast_concat, readCompact_text]

/-- A digest that counts the bytes. -/
abbrev platform : DatasetPlatform Empty where
  sha256 content := BitVec.ofNat 256 content.length
  lower name := name
  loads content := readCompact content.dropLast
  loadsPairs content := readCompact content.dropLast
  reads_back value _ _ := readLine value

abbrev root : Root := ⟨[(nameOf "a.txt", .file [104, 105])], by decide +kernel⟩

/-- The directory cannot be synchronised once the manifest is linked. -/
abbrev unsynced : Faults := ⟨fun call => if call = .fsyncDirectory then some .other else none, 0⟩

theorem published_though_raised :
    ¬ (RoundTrips platform 10 "00" "." "demo" root ∧
      DetectsChanges platform 10 "00" "." "demo" root ∧
      LeavesNothing platform unsynced 10 "00" "." "demo" root) := by
  rintro ⟨_, _, leaves⟩
  have raises : (create platform unsynced 10 "00" "." "demo" root.entries).1 =
      .error (outside (.os .other)) := by decide +kernel
  have changed : (Dict.get? (create platform unsynced 10 "00" "." "demo" root.entries).2
      manifestName).isSome = true := by decide +kernel
  rcases ran : create platform unsynced 10 "00" "." "demo" root.entries with ⟨result, later⟩
  rw [ran] at raises changed
  dsimp only at raises changed
  rw [raises] at ran
  rw [leaves _ later ran] at changed
  exact absurd changed (by decide +kernel)

end ManifestSample

end EgoAgent.Datasets
