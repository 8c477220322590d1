import EgoAgent.Lib.Merkle
import EgoAgent.Rxp.Sample

/-!
The Merkle root as a commitment to a set of digests.

Leaves, nodes and the empty root are hashed from byte strings of different lengths, so a hash
without collisions on the strings a root hashes separates them.
-/

namespace EgoAgent.Rxp

open Platform

/-! ### What is hashed -/

def emptyRootPayload : Bytes := asciiBytes "RXP/1/merkle/empty"

def leafPayload (digest : Digest) : Bytes := merkleLeafDomain ++ digest.bytes

def nodePayload (pair : Digest × Digest) : Bytes :=
  merkleNodeDomain ++ (pair.1.bytes ++ pair.2.bytes)

theorem emptyRootPayload_length : emptyRootPayload.length = 18 := by decide

theorem leafPayload_length (digest : Digest) : (leafPayload digest).length = 50 := by
  rw [leafPayload, List.length_append, digest.bytes_length]
  decide

theorem nodePayload_length (pair : Digest × Digest) : (nodePayload pair).length = 82 := by
  rw [nodePayload, List.length_append, List.length_append, pair.1.bytes_length,
    pair.2.bytes_length]
  decide

theorem leafPayload_injective {left right : Digest} (same : leafPayload left = leafPayload right) :
    left = right :=
  Digest.bytes_injective (List.append_cancel_left same)

theorem nodePayload_injective {left right : Digest × Digest}
    (same : nodePayload left = nodePayload right) : left = right := by
  have split := List.append_inj (List.append_cancel_left same)
    (left.1.bytes_length.trans right.1.bytes_length.symm)
  exact Prod.ext (Digest.bytes_injective split.1) (Digest.bytes_injective split.2)

section Root

variable [Platform]

def merkleNode (left right : Digest) : Digest :=
  domainDigest merkleNodeDomain (left.bytes ++ right.bytes)

/-- The first level: the hashes of the sorted digests. -/
def merkleLeaves (digests : List Digest) : List Digest :=
  (sortDigests digests).map fun item => domainDigest merkleLeafDomain item.bytes

/-- The byte strings hashed for the root of these digests. -/
inductive MerkleHashed (digests : List Digest) : Bytes → Prop where
  | empty : MerkleHashed digests emptyRootPayload
  | leaf {digest : Digest} (member : digest ∈ digests) : MerkleHashed digests (leafPayload digest)
  | node {pair : Digest × Digest}
      (hashed : Merkle.Hashed merkleNode (merkleLeaves digests) pair) :
      MerkleHashed digests (nodePayload pair)

/-! ### The fold -/

theorem merkleLevel_eq (level : List Digest) :
    merkleLevel level = Merkle.pairUp merkleNode level := by
  fun_induction merkleLevel level with
  | case1 => rfl
  | case2 last => rfl
  | case3 left right rest ih =>
      rw [ih]
      rfl

theorem merkleFold_eq (fuel : Nat) (level : List Digest) :
    merkleFold fuel level = Merkle.root merkleNode merkleEmptyRoot fuel level := by
  fun_induction merkleFold fuel level with
  | case1 => simp [Merkle.root]
  | case2 => simp [Merkle.root]
  | case3 first rest more =>
      cases rest with
      | nil => exact absurd rfl more
      | cons second others => rfl
  | case4 fuel level nonempty single ih =>
      rw [ih, merkleLevel_eq, Merkle.root]
      · exact nonempty
      · exact single

variable {digests : List Digest}

theorem merkleRoot_eq (distinct : digests.Nodup) :
    merkleRoot digests =
      .ok (merkleFold (merkleLeaves digests).length (merkleLeaves digests)) := by
  unfold merkleRoot
  cases digests with
  | nil => rfl
  | cons first rest =>
      have passed : raiseIf (¬ (first :: rest).Nodup)
          (PyError.value "RXP Merkle sets cannot contain duplicate digests") = .ok () :=
        (raiseIf_eq_ok _ _ ()).mpr (not_not_intro distinct)
      simp only [List.isEmpty_cons, Bool.false_eq_true, if_false, passed]
      rfl

theorem merkleLeaves_ne_nil (nonempty : digests ≠ []) :
    merkleLeaves digests ≠ [] := by
  intro nothing
  have sorted := List.map_eq_nil_iff.mp nothing
  have perm := sortDigests_perm digests
  rw [sorted] at perm
  exact nonempty perm.nil_eq.symm

/-- The root of some digests is the hash of a leaf or of a node. -/
theorem merkleRoot_hashed (nonempty : digests ≠ []) :
    ∃ payload, MerkleHashed digests payload ∧ payload ≠ emptyRootPayload ∧
      merkleFold (merkleLeaves digests).length (merkleLeaves digests) = sha256 payload := by
  have reached := Merkle.reaches_root merkleNode merkleEmptyRoot _ (merkleLeaves digests)
    (Nat.le_refl _) (merkleLeaves_ne_nil nonempty)
  rw [← merkleFold_eq] at reached
  rcases Relation.ReflTransGen.cases_tail reached with same | ⟨level, before, large, same⟩
  · have member : merkleFold (merkleLeaves digests).length (merkleLeaves digests) ∈
        merkleLeaves digests := same ▸ List.mem_singleton_self _
    obtain ⟨digest, isSorted, hashed⟩ := List.mem_map.mp member
    refine ⟨leafPayload digest, .leaf ((sortDigests_perm digests).mem_iff.mp isSorted),
      fun equal => ?_, hashed.symm⟩
    have lengths := congrArg List.length equal
    rw [leafPayload_length, emptyRootPayload_length] at lengths
    exact absurd lengths (by decide)
  · have member : merkleFold (merkleLeaves digests).length (merkleLeaves digests) ∈
        Merkle.pairUp merkleNode level := same ▸ List.mem_singleton_self _
    obtain ⟨pair, isPair, hashed⟩ := List.mem_map.mp member
    refine ⟨nodePayload pair, .node ⟨level, before, large, isPair⟩, fun equal => ?_,
      hashed.symm⟩
    have lengths := congrArg List.length equal
    rw [nodePayload_length, emptyRootPayload_length] at lengths
    exact absurd lengths (by decide)

/-! ### Commitment -/

omit [Platform] in
theorem sortDigests_congr {left right : List Digest} (perm : left.Perm right) :
    sortDigests left = sortDigests right :=
  (((sortDigests_perm left).trans perm).trans (sortDigests_perm right).symm).eq_of_pairwise
    (fun _ _ _ _ up down => Std.Antisymm.antisymm _ _ up down) (sortDigests_sorted left)
    (sortDigests_sorted right)

theorem merkleRoot_congr {left right : List Digest} (leftDistinct : left.Nodup)
    (rightDistinct : right.Nodup) (same : ∀ digest, digest ∈ left ↔ digest ∈ right) :
    merkleRoot left = merkleRoot right := by
  have perm : left.Perm right :=
    (List.perm_ext_iff_of_nodup leftDistinct rightDistinct).mpr fun digest => same digest
  have leaves : merkleLeaves left = merkleLeaves right := by
    unfold merkleLeaves
    rw [sortDigests_congr perm]
  rw [merkleRoot_eq leftDistinct, merkleRoot_eq rightDistinct, leaves]

section Collisions

variable {left right : List Digest}
  (free : Set.InjOn sha256 {payload | MerkleHashed left payload ∨ MerkleHashed right payload})

include free

/-- The leaves determine the digests. -/
theorem mem_of_merkleLeaves_eq (same : merkleLeaves left = merkleLeaves right) (digest : Digest) :
    digest ∈ left ↔ digest ∈ right := by
  have apart : Set.InjOn (fun item : Digest => domainDigest merkleLeafDomain item.bytes)
      {item | item ∈ left ∨ item ∈ right} := by
    intro one oneIn other otherIn equal
    refine leafPayload_injective (free ?_ ?_ equal)
    · exact oneIn.imp .leaf .leaf
    · exact otherIn.imp .leaf .leaf
  have sorted : sortDigests left = sortDigests right :=
    Merkle.map_injOn apart (fun item member => .inl ((sortDigests_perm left).mem_iff.mp member))
      (fun item member => .inr ((sortDigests_perm right).mem_iff.mp member)) same
  rw [← (sortDigests_perm left).mem_iff, sorted, (sortDigests_perm right).mem_iff]

theorem merkleNode_injOn : Set.InjOn (fun pair : Digest × Digest => merkleNode pair.1 pair.2)
    {pair | Merkle.Hashed merkleNode (merkleLeaves left) pair ∨
      Merkle.Hashed merkleNode (merkleLeaves right) pair} := by
  intro pair pairIn other otherIn equal
  refine nodePayload_injective (free ?_ ?_ equal)
  · exact pairIn.imp .node .node
  · exact otherIn.imp .node .node

theorem merkleLeaf_ne_node {leaf : Digest}
    (isLeaf : leaf ∈ merkleLeaves left ++ merkleLeaves right) {pair : Digest × Digest}
    (hashed : Merkle.Hashed merkleNode (merkleLeaves left) pair ∨
      Merkle.Hashed merkleNode (merkleLeaves right) pair) :
    leaf ≠ merkleNode pair.1 pair.2 := by
  have hashedLeaf : ∃ digest, (MerkleHashed left (leafPayload digest) ∨
      MerkleHashed right (leafPayload digest)) ∧ leaf = sha256 (leafPayload digest) := by
    rcases List.mem_append.mp isLeaf with member | member
    · obtain ⟨digest, isSorted, rfl⟩ := List.mem_map.mp member
      exact ⟨digest, .inl (.leaf ((sortDigests_perm left).mem_iff.mp isSorted)), rfl⟩
    · obtain ⟨digest, isSorted, rfl⟩ := List.mem_map.mp member
      exact ⟨digest, .inr (.leaf ((sortDigests_perm right).mem_iff.mp isSorted)), rfl⟩
  obtain ⟨digest, isHashed, rfl⟩ := hashedLeaf
  intro equal
  have payloads : leafPayload digest = nodePayload pair :=
    free isHashed (hashed.imp .node .node) equal
  have lengths := congrArg List.length payloads
  rw [leafPayload_length, nodePayload_length] at lengths
  exact absurd lengths (by decide)

theorem merkleLeaves_nodup_left (distinct : left.Nodup) : (merkleLeaves left).Nodup := by
  refine List.Nodup.map_on (fun one oneIn other otherIn equal => ?_)
    ((sortDigests_perm left).nodup_iff.mpr distinct)
  refine leafPayload_injective (free (.inl (.leaf ?_)) (.inl (.leaf ?_)) equal)
  · exact (sortDigests_perm left).mem_iff.mp oneIn
  · exact (sortDigests_perm left).mem_iff.mp otherIn

/-- The root of no digests is not the root of some. -/
theorem merkleRoot_ne_empty (nonempty : left ≠ []) :
    merkleFold (merkleLeaves left).length (merkleLeaves left) ≠ merkleEmptyRoot := by
  obtain ⟨payload, hashed, different, rootEq⟩ := merkleRoot_hashed nonempty
  rw [rootEq]
  intro equal
  exact different (free (.inl hashed) (.inl .empty) equal)

end Collisions

/-- Roots of duplicate-free digests agree exactly when the digests are the same set. -/
theorem merkle_root_commits (left right : List Digest) (leftDistinct : left.Nodup)
    (rightDistinct : right.Nodup)
    (free : Set.InjOn sha256 {payload | MerkleHashed left payload ∨ MerkleHashed right payload}) :
    merkleRoot left = merkleRoot right ↔ ∀ digest, digest ∈ left ↔ digest ∈ right := by
  refine ⟨fun equal => ?_, merkleRoot_congr leftDistinct rightDistinct⟩
  have flipped : Set.InjOn sha256
      {payload | MerkleHashed right payload ∨ MerkleHashed left payload} :=
    free.mono fun payload => Or.symm
  rw [merkleRoot_eq leftDistinct, merkleRoot_eq rightDistinct] at equal
  have roots := Except.ok.inj equal
  by_cases leftEmpty : left = []
  · by_cases rightEmpty : right = []
    · rw [leftEmpty, rightEmpty]
      exact fun _ => Iff.rfl
    · rw [leftEmpty] at roots
      exact absurd roots.symm (merkleRoot_ne_empty flipped rightEmpty)
  · by_cases rightEmpty : right = []
    · rw [rightEmpty] at roots
      exact absurd roots (merkleRoot_ne_empty free leftEmpty)
    · have leftReaches := Merkle.reaches_root merkleNode merkleEmptyRoot _ (merkleLeaves left)
        (Nat.le_refl _) (merkleLeaves_ne_nil leftEmpty)
      have rightReaches := Merkle.reaches_root merkleNode merkleEmptyRoot _ (merkleLeaves right)
        (Nat.le_refl _) (merkleLeaves_ne_nil rightEmpty)
      rw [← merkleFold_eq, roots] at leftReaches
      rw [← merkleFold_eq] at rightReaches
      refine mem_of_merkleLeaves_eq free (Merkle.leaves_eq_of_top_eq
        (merkleLeaves_nodup_left free leftDistinct) (merkleLeaves_nodup_left flipped rightDistinct)
        (merkleLeaves_ne_nil leftEmpty) (merkleLeaves_ne_nil rightEmpty) (merkleNode_injOn free)
        (fun leaf isLeaf pair hashed => merkleLeaf_ne_node free isLeaf hashed) leftReaches
        rightReaches)

end Root

/-! ### One digest and two -/

section

variable {node : Digest → Digest → Digest}

theorem not_hashed_single {leaf : Digest}
    {pair : Digest × Digest} : ¬ Merkle.Hashed node [leaf] pair := by
  rintro ⟨level, reached, large, _⟩
  rcases Relation.ReflTransGen.cases_head reached with rfl | ⟨_, ⟨two, _⟩, _⟩
  · exact absurd large (by simp)
  · exact absurd two (by simp)

theorem hashed_of_two {left right : Digest}
    {pair : Digest × Digest} (hashed : Merkle.Hashed node [left, right] pair) :
    pair = (left, right) := by
  obtain ⟨level, reached, large, member⟩ := hashed
  rcases Relation.ReflTransGen.cases_head reached with rfl | ⟨_, ⟨_, rfl⟩, above⟩
  · exact List.mem_singleton.mp member
  · exact absurd ⟨level, above, large, member⟩ not_hashed_single

end

namespace Sample

def firstDigest : Digest := BitVec.ofNat 256 (2 ^ 150)

def secondDigest : Digest := BitVec.ofNat 256 (2 ^ 151)

/-- The hashed byte strings for the sets of the first digest and of both. -/
def hashedPayloads : List Bytes :=
  [emptyRootPayload, leafPayload firstDigest, leafPayload secondDigest,
    nodePayload (windowHash (leafPayload firstDigest), windowHash (leafPayload secondDigest))]

theorem leaves_two : merkleLeaves [firstDigest, secondDigest] =
    [windowHash (leafPayload firstDigest), windowHash (leafPayload secondDigest)] := by
  decide +kernel

theorem leaves_one : merkleLeaves [firstDigest] = [windowHash (leafPayload firstDigest)] := by
  decide +kernel

theorem hashedPayloads_free : Set.InjOn sha256 {payload | payload ∈ hashedPayloads} :=
  fun _ member _ other => List.inj_on_of_nodup_map (by decide +kernel) member other

theorem merkle_root_commits_two : merkleRoot [firstDigest, secondDigest] ≠
    merkleRoot [firstDigest] := by
  have hashed : ∀ payload, MerkleHashed [firstDigest, secondDigest] payload ∨
      MerkleHashed [firstDigest] payload → payload ∈ hashedPayloads := by
    rintro payload (both | one)
    · cases both with
      | empty => exact List.mem_cons_self
      | leaf member =>
          rcases List.mem_pair.mp member with rfl | rfl
          · exact .tail _ (.head _)
          · exact .tail _ (.tail _ (.head _))
      | node hashed =>
          rw [leaves_two] at hashed
          rw [hashed_of_two hashed]
          exact .tail _ (.tail _ (.tail _ (.head _)))
    · cases one with
      | empty => exact List.mem_cons_self
      | leaf member =>
          rw [List.mem_singleton.mp member]
          exact .tail _ (.head _)
      | node hashed =>
          rw [leaves_one] at hashed
          exact absurd hashed not_hashed_single
  intro equal
  have same := (merkle_root_commits _ _ (by decide) (by decide)
    (hashedPayloads_free.mono hashed)).mp equal secondDigest
  exact absurd (same.mp (.tail _ (.head _))) (by decide)

end Sample

end EgoAgent.Rxp
