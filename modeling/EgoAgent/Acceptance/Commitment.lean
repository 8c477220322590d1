import EgoAgent.Acceptance.RoundTrip

/-!
What `bundle_root` commits to.

The root is taken over the manifest without itself, and the manifest lists every
file with its digest: with one root, and no collision among the hashed bytes,
two accepted bundles hold the same files and the same manifest.
-/

namespace EgoAgent.Acceptance

open EgoAgent.Api EgoAgent.Bridge EgoAgent.Gateway

section Commitment

variable {φ : Type} [FloatText φ] (platform : Platform φ)

/-- The byte strings that `verify_bundle` hashes for the files and for the root. -/
def hashedBy (bundle : Tree) : Set Bytes :=
  {bytes | (∃ file ∈ bundle.contents, bytes = file.2) ∨
    ∃ manifest commitment canonical, readManifest platform bundle = some (.dict manifest) ∧
      bundleCommitment manifest = .ok commitment ∧
      canonicalBytes platform.unicode commitment = some canonical ∧
      bytes = domainBytes bundleDomain canonical}

/-- The same files at the same paths, and one manifest, up to NFC. -/
structure SameEvidence (left right : Tree) : Prop where
  artifacts :
    (left.contents.map fun file => (platform.unicode.nfc file.1.text, file.2)).Perm
      (right.contents.map fun file => (platform.unicode.nfc file.1.text, file.2))
  manifests : ∃ leftManifest rightManifest normal,
    readManifest platform left = some leftManifest ∧
      readManifest platform right = some rightManifest ∧
      normalise platform.unicode leftManifest = some normal ∧
      normalise platform.unicode rightManifest = some normal

variable {platform}

/-! ### One root, one evidence tree -/

section OneRoot

variable {left right : Tree} {bundleRoot : String}
  {leftManifest leftRoots rightManifest rightRoots : List (String × Json φ)}
  {leftFiles rightFiles : List (Json φ)}
  {leftListed rightListed : List (List (List Char) × Bytes)}

theorem digestBytes_ascii (payload : Bytes) : isAscii (digestBytes platform payload) :=
  have label : isAscii "sha256:" := by decide
  Digest.labelled_ascii _ _ label

/-- With one root the commitments have one normal form. -/
theorem Accepted.one_commitment
    (first : Accepted platform left bundleRoot leftManifest leftRoots leftFiles leftListed)
    (second : Accepted platform right bundleRoot rightManifest rightRoots rightFiles rightListed)
    (collisionFree : Set.InjOn platform.sha256 (hashedBy platform left ∪ hashedBy platform right)) :
    ∃ leftCommitment rightCommitment normal,
      bundleCommitment leftManifest = .ok leftCommitment ∧
      bundleCommitment rightManifest = .ok rightCommitment ∧
      normalise platform.unicode leftCommitment = some normal ∧
      normalise platform.unicode rightCommitment = some normal := by
  obtain ⟨leftCommitment, leftCanonical, leftEq, leftBytes, leftRoot⟩ := first.committed
  obtain ⟨rightCommitment, rightCanonical, rightEq, rightBytes, rightRoot⟩ := second.committed
  have digests := Digest.labelled_injective "sha256:" (leftRoot.symm.trans rightRoot)
  have preimages : domainBytes bundleDomain leftCanonical =
      domainBytes bundleDomain rightCanonical :=
    collisionFree
      (.inl (.inr ⟨leftManifest, leftCommitment, leftCanonical, first.read, leftEq, leftBytes,
        rfl⟩))
      (.inr (.inr ⟨rightManifest, rightCommitment, rightCanonical, second.read, rightEq,
        rightBytes, rfl⟩))
      digests
  have canonical : leftCanonical = rightCanonical :=
    (List.cons.inj (List.append_cancel_left preimages)).2
  obtain ⟨normal, leftNormal, rightNormal⟩ :=
    normalise_eq_of_canonicalBytes platform.unicode leftBytes (canonical ▸ rightBytes)
  exact ⟨leftCommitment, rightCommitment, normal, leftEq, rightEq, leftNormal, rightNormal⟩

/-- Records with one normal form are about one path and one content. -/
theorem RecordOf.same_file {leftRecord rightRecord : Json φ}
    {leftFile rightFile : List (List Char) × Bytes} {normal : Value}
    (first : RecordOf platform left leftRecord leftFile)
    (second : RecordOf platform right rightRecord rightFile)
    (leftNormal : normalise platform.unicode leftRecord = some normal)
    (rightNormal : normalise platform.unicode rightRecord = some normal)
    (injective : platform.sha256 leftFile.2 = platform.sha256 rightFile.2 →
      leftFile.2 = rightFile.2) :
    platform.unicode.nfc (String.ofList (joined leftFile.1)) =
      platform.unicode.nfc (String.ofList (joined rightFile.1)) ∧ leftFile.2 = rightFile.2 := by
  obtain ⟨leftMembers, rfl, leftPath, leftDigest⟩ := first.members
  obtain ⟨rightMembers, rfl, rightPath, rightDigest⟩ := second.members
  obtain ⟨path, leftText, rightText⟩ := normalise_dict_congr platform.unicode leftNormal
    rightNormal leftPath rightPath (platform.unicode.nfc_ascii (by decide))
  obtain ⟨digest, leftHash, rightHash⟩ := normalise_dict_congr platform.unicode leftNormal
    rightNormal leftDigest rightDigest (platform.unicode.nfc_ascii (by decide))
  simp only [normalise, Option.some.injEq] at leftText rightText leftHash rightHash
  refine ⟨Value.str.inj (leftText.trans rightText.symm), injective ?_⟩
  have texts := Value.str.inj (leftHash.trans rightHash.symm)
  rw [platform.unicode.nfc_ascii (digestBytes_ascii _),
    platform.unicode.nfc_ascii (digestBytes_ascii _)] at texts
  exact Digest.labelled_injective "sha256:" texts

/-- A file under the normal form of its path. -/
def spelled (u : Unicode) (file : List (List Char) × Bytes) : String × Bytes :=
  (u.nfc (String.ofList (joined file.1)), file.2)

theorem listed_eq {targets : List Value}
    (leftRecords : List.Forall₂ (RecordOf platform left) leftFiles leftListed)
    (rightRecords : List.Forall₂ (RecordOf platform right) rightFiles rightListed)
    (leftItems : List.Forall₂ (fun item target => normalise platform.unicode item = some target)
      leftFiles targets)
    (rightItems : List.Forall₂ (fun item target => normalise platform.unicode item = some target)
      rightFiles targets)
    (injective : ∀ file ∈ leftListed, ∀ other ∈ rightListed,
      platform.sha256 file.2 = platform.sha256 other.2 → file.2 = other.2) :
    leftListed.map (spelled platform.unicode) = rightListed.map (spelled platform.unicode) := by
  induction leftItems generalizing leftListed rightFiles rightListed with
  | nil =>
      cases leftRecords
      cases rightItems
      cases rightRecords
      rfl
  | cons leftHere _ ih =>
      cases leftRecords with
      | cons leftRecord leftRecords =>
          cases rightItems with
          | cons rightHere rightItems =>
              cases rightRecords with
              | cons rightRecord rightRecords =>
                  have file := leftRecord.same_file rightRecord leftHere rightHere
                    (injective _ List.mem_cons_self _ List.mem_cons_self)
                  have others := ih leftRecords rightRecords rightItems
                    fun file present other presentOther =>
                      injective file (List.mem_cons_of_mem _ present) other
                        (List.mem_cons_of_mem _ presentOther)
                  rw [List.map_cons, List.map_cons, others]
                  exact congrArg (· :: _) (Prod.ext file.1 file.2)

theorem Accepted.same_artifacts
    (first : Accepted platform left bundleRoot leftManifest leftRoots leftFiles leftListed)
    (second : Accepted platform right bundleRoot rightManifest rightRoots rightFiles rightListed)
    (collisionFree : Set.InjOn platform.sha256 (hashedBy platform left ∪ hashedBy platform right)) :
    (left.contents.map fun file => (platform.unicode.nfc file.1.text, file.2)).Perm
      (right.contents.map fun file => (platform.unicode.nfc file.1.text, file.2)) := by
  obtain ⟨leftCommitment, rightCommitment, normal, leftEq, rightEq, leftNormal, rightNormal⟩ :=
    first.one_commitment second collisionFree
  obtain ⟨leftMembers, _, rfl, _, leftFields, _⟩ := bundleCommitment_eq_ok leftEq first.rootsOf
  obtain ⟨rightMembers, _, rfl, _, rightFields, _⟩ := bundleCommitment_eq_ok rightEq second.rootsOf
  obtain ⟨_, leftFound, leftCommitted⟩ := leftFields "files" (by decide)
  obtain ⟨_, rightFound, rightCommitted⟩ := rightFields "files" (by decide)
  rw [first.filesOf] at leftFound
  rw [second.filesOf] at rightFound
  cases leftFound
  cases rightFound
  obtain ⟨target, leftTarget, rightTarget⟩ := normalise_dict_congr platform.unicode leftNormal
    rightNormal leftCommitted rightCommitted (platform.unicode.nfc_ascii (by decide))
  simp only [normalise, Option.map_eq_some_iff] at leftTarget rightTarget
  obtain ⟨targets, leftItems, rfl⟩ := leftTarget
  obtain ⟨_, rightItems, same⟩ := rightTarget
  cases same
  rw [normaliseItems_iff] at leftItems rightItems
  have inLeft : ∀ file ∈ leftListed, file.2 ∈ hashedBy platform left := by
    intro file present
    obtain ⟨content, inBundle, rfl⟩ := List.mem_map.mp (first.contents.mem_iff.mpr present)
    exact .inl ⟨content, inBundle, rfl⟩
  have inRight : ∀ file ∈ rightListed, file.2 ∈ hashedBy platform right := by
    intro file present
    obtain ⟨content, inBundle, rfl⟩ := List.mem_map.mp (second.contents.mem_iff.mpr present)
    exact .inl ⟨content, inBundle, rfl⟩
  have listed := listed_eq first.records second.records leftItems rightItems
    fun file present other presentOther =>
      collisionFree (.inl (inLeft file present)) (.inr (inRight other presentOther))
  have leftSpelled := first.contents.map (spelled platform.unicode)
  have rightSpelled := second.contents.map (spelled platform.unicode)
  rw [List.map_map] at leftSpelled rightSpelled
  exact leftSpelled.trans (listed ▸ rightSpelled.symm)

theorem Accepted.same_manifests
    (first : Accepted platform left bundleRoot leftManifest leftRoots leftFiles leftListed)
    (second : Accepted platform right bundleRoot rightManifest rightRoots rightFiles rightListed)
    (collisionFree : Set.InjOn platform.sha256 (hashedBy platform left ∪ hashedBy platform right)) :
    ∃ normal, normalise platform.unicode (.dict leftManifest) = some normal ∧
      normalise platform.unicode (.dict rightManifest) = some normal := by
  obtain ⟨leftCommitment, rightCommitment, normal, leftEq, rightEq, leftNormal, rightNormal⟩ :=
    first.one_commitment second collisionFree
  obtain ⟨leftMembers, leftCommitted, rfl, leftInside, leftFields, leftOthers⟩ :=
    bundleCommitment_eq_ok leftEq first.rootsOf
  obtain ⟨rightMembers, rightCommitted, rfl, rightInside, rightFields, rightOthers⟩ :=
    bundleCommitment_eq_ok rightEq second.rootsOf
  obtain ⟨_, leftRootsNormal, rightRootsNormal⟩ := normalise_dict_congr platform.unicode leftNormal
    rightNormal leftInside rightInside (platform.unicode.nfc_ascii (by decide))
  -- The roots agree under the committed keys, and both name the one root.
  have rootsAscii : ∀ key ∈ rootKeys ++ ["bundle_root"], isAscii key := by decide
  obtain ⟨roots, leftRootsEq, rightRootsEq⟩ := normalise_dict_of_agree platform.unicode
    (fun key wanted => platform.unicode.nfc_ascii (rootsAscii key wanted)) (by decide)
    first.rootsKeys second.rootsKeys fun key wanted => by
      rcases List.mem_append.mp wanted with isCommitted | isRoot
      · obtain ⟨value, inLeft, leftValue⟩ := leftOthers key isCommitted
        obtain ⟨other, inRight, rightValue⟩ := rightOthers key isCommitted
        obtain ⟨target, leftTarget, rightTarget⟩ := normalise_dict_congr platform.unicode
          leftRootsNormal rightRootsNormal leftValue rightValue
          (platform.unicode.nfc_ascii (rootsAscii key wanted))
        exact ⟨value, other, target, inLeft, inRight, leftTarget, rightTarget⟩
      · rw [List.mem_singleton.mp isRoot]
        exact ⟨_, _, _, first.rootOf, second.rootOf, rfl, rfl⟩
  have keysAscii : ∀ key ∈ manifestKeys, isAscii key := by decide
  refine normalise_dict_of_agree platform.unicode
    (fun key wanted => platform.unicode.nfc_ascii (keysAscii key wanted)) (by decide)
    first.keys second.keys fun key wanted => ?_
  by_cases isRoots : key = "roots"
  · rw [isRoots]
    exact ⟨_, _, roots, first.rootsOf, second.rootsOf, leftRootsEq, rightRootsEq⟩
  · have others : ∀ name ∈ manifestKeys, name ≠ "roots" → name ∈ commitmentKeys := by decide
    have isField := others key wanted isRoots
    obtain ⟨value, inLeft, leftValue⟩ := leftFields key isField
    obtain ⟨other, inRight, rightValue⟩ := rightFields key isField
    obtain ⟨target, leftTarget, rightTarget⟩ := normalise_dict_congr platform.unicode leftNormal
      rightNormal leftValue rightValue (platform.unicode.nfc_ascii (keysAscii key wanted))
    exact ⟨value, other, target, inLeft, inRight, leftTarget, rightTarget⟩

end OneRoot


variable [FloatEq φ]

/-- Two accepted bundles with one `bundle_root` hold the same evidence, if SHA-256 has no
collision among the byte strings that verifying them hashes. -/
theorem bundle_root_commits {leftDirectory rightDirectory : List (List Char)} {left right : Tree}
    {leftReport rightReport : BundleReport}
    (leftAccepted : verifyBundle platform leftDirectory (some left) = .ok leftReport)
    (rightAccepted : verifyBundle platform rightDirectory (some right) = .ok rightReport)
    (oneRoot : leftReport.bundleRoot = rightReport.bundleRoot)
    (collisionFree : Set.InjOn platform.sha256 (hashedBy platform left ∪ hashedBy platform right)) :
    SameEvidence platform left right := by
  obtain ⟨leftManifest, _, _, _, first⟩ := verifyBundle_eq_ok leftAccepted
  obtain ⟨rightManifest, _, _, _, second⟩ := verifyBundle_eq_ok rightAccepted
  rw [← oneRoot] at second
  obtain ⟨normal, leftNormal, rightNormal⟩ := first.same_manifests second collisionFree
  exact
    { artifacts := first.same_artifacts second collisionFree
      manifests := ⟨.dict leftManifest, .dict rightManifest, normal, first.read, second.read,
        leftNormal, rightNormal⟩ }

end Commitment

/-! ### One bundle in two orders -/

namespace BundleSample

theorem reversed_distinct (tree : Tree) :
    (tree.entries.reverse.map fun entry => entry.1.names).Nodup := by
  rw [List.map_reverse, List.nodup_reverse]
  exact tree.distinct

def reversed (tree : Tree) : Tree := ⟨tree.entries.reverse, reversed_distinct tree⟩

def bundleWith (manifest : List (String × Json Empty)) : Tree :=
  bundleTree [(plainPath, [104, 105])] (List.nodup_singleton _) (manifestBytes manifest)
    (checksumBytes platform manifest)

/-- The one file begins with an h and what the root is taken over with an E. -/
theorem hashed_bytes {manifest : List (String × Json Empty)} {tree : Tree} {normal : Value}
    (same : tree.entries.Perm (bundleWith manifest).entries)
    (computed : normalise unicode (.dict manifest) = some normal) {bytes : Bytes}
    (isHashed : bytes ∈ hashedBy platform tree) :
    bytes = [104, 105] ∨ ∃ commitment canonical,
      bundleCommitment (sortMembers (sortedMembers manifest)) = .ok commitment ∧
      canonicalBytes unicode commitment = some canonical ∧
      bytes = domainBytes bundleDomain canonical := by
  rcases isHashed with ⟨file, present, rfl⟩ | ⟨read, commitment, canonical, readEq, made, text, rfl⟩
  · left
    obtain ⟨path, payload⟩ := file
    obtain ⟨entry, inTree, notManifest, notChecksum, content⟩ := mem_contents.mp present
    rcases List.mem_cons.mp (same.mem_iff.mp inTree) with pair | top
    · cases pair
      exact (Option.some.inj content).symm
    · rcases List.mem_cons.mp top with pair | top
      · cases pair
        exact absurd rfl notManifest
      · cases List.mem_singleton.mp top
        exact absurd rfl notChecksum
  · right
    have stored := (find_written same).1
    have reading := platform.reader.reads_back unicode (.dict manifest) (by rw [computed]; rfl)
    unfold readManifest at readEq
    rw [stored] at readEq
    simp only [Option.bind_some, Entry.read, Option.getD_some] at readEq
    rw [manifestBytes, reading, Json.sorted] at readEq
    cases readEq
    exact ⟨commitment, canonical, made, text, rfl⟩

theorem hashed_injective {manifest : List (String × Json Empty)} {left right : Tree}
    {normal : Value} (leftSame : left.entries.Perm (bundleWith manifest).entries)
    (rightSame : right.entries.Perm (bundleWith manifest).entries)
    (computed : normalise unicode (.dict manifest) = some normal) :
    Set.InjOn platform.sha256 (hashedBy platform left ∪ hashedBy platform right) := by
  have all : ∀ bytes ∈ hashedBy platform left ∪ hashedBy platform right,
      bytes = [104, 105] ∨ ∃ commitment canonical,
        bundleCommitment (sortMembers (sortedMembers manifest)) = .ok commitment ∧
        canonicalBytes unicode commitment = some canonical ∧
        bytes = domainBytes bundleDomain canonical := by
    intro bytes present
    rcases present with inLeft | inRight
    · exact hashed_bytes leftSame computed inLeft
    · exact hashed_bytes rightSame computed inRight
  have apart : ∀ canonical, platform.sha256 (domainBytes bundleDomain canonical) ≠
      platform.sha256 [104, 105] := by
    intro canonical same
    have first : (domainBytes bundleDomain canonical).headD 0 = 69 := rfl
    simp only [platform] at same
    rw [first] at same
    revert same
    decide
  intro bytes present other presentOther same
  rcases all bytes present with rfl | ⟨commitment, canonical, made, text, rfl⟩
  · rcases all other presentOther with rfl | ⟨_, canonical, _, _, rfl⟩
    · rfl
    · exact absurd same.symm (apart canonical)
  · rcases all other presentOther with rfl | ⟨again, canonical', made', text', rfl⟩
    · exact absurd same (apart canonical)
    · rw [made] at made'
      cases made'
      rw [text] at text'
      cases text'
      rfl

theorem bundle_root_commits_reversed : ∃ manifest report other,
    verifyBundle platform [['o']] (some (bundleWith manifest)) = .ok report ∧
      verifyBundle platform [['o']] (some (reversed (bundleWith manifest))) = .ok other ∧
      report.bundleRoot = other.bundleRoot ∧
      SameEvidence platform (bundleWith manifest) (reversed (bundleWith manifest)) := by
  obtain ⟨manifest, planned⟩ := planned_plain
  have trimmed : ∀ file ∈ [(plainPath, ([104, 105] : Bytes))], endsInSpace file.1 = false := by
    intro file present
    rw [List.mem_singleton.mp present]
    decide
  have same : (reversed (bundleWith manifest)).entries.Perm (bundleWith manifest).entries :=
    List.reverse_perm _
  have first := planned.verifies (.refl (bundleWith manifest).entries) trimmed [['o']]
  have second := planned.verifies same trimmed [['o']]
  obtain ⟨normal, computed⟩ : ∃ normal, normalise unicode (.dict manifest) = some normal := by
    obtain ⟨acceptanceId, createdAt, declared, preimage, normal, _, rfl, commitmentNormal, _⟩ :=
      planned.described_as
    exact manifest_normal acceptanceId createdAt declared report _ unicode _ commitmentNormal
  exact ⟨manifest, _, _, first, second, rfl,
    bundle_root_commits first second rfl (hashed_injective (.refl _) same computed)⟩

end BundleSample

end EgoAgent.Acceptance
