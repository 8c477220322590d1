import EgoAgent.Lib.Prefixes
import EgoAgent.Api.JsonReading
import EgoAgent.Api.WireLength
import EgoAgent.SecureMemory.Canonical

/-!
Evidence capsules: the items of a retrieval that fit a budget of bytes.
-/

namespace EgoAgent.TrustedMemory

open EgoAgent.Api
open EgoAgent.SecureMemory (domainDigest digestText)

/-- What a capsule takes from an item of a retrieval, with the rest of the item. -/
structure RetrievalItem where
  revisionId : String
  lineageId : String
  factDigest : Digest
  statement : String
  outcome : String
  origin : String
  evidenceIds : List String
  evidenceDigests : List Digest
  closureDigest : Digest
  provenanceDigest : Digest

/-- A retrieval without its query, which no capsule reads. -/
structure RetrievalResult where
  items : List RetrievalItem
  retrievalDigest : Digest

structure CapsuleItem where
  revisionId : String
  factDigest : Digest
  statement : String
  evidenceIds : List String
  evidenceDigests : List Digest
  closureDigest : Digest
  provenanceDigest : Digest

def CapsuleItem.ofRetrieval (item : RetrievalItem) : CapsuleItem where
  revisionId := item.revisionId
  factDigest := item.factDigest
  statement := item.statement
  evidenceIds := item.evidenceIds
  evidenceDigests := item.evidenceDigests
  closureDigest := item.closureDigest
  provenanceDigest := item.provenanceDigest

def CapsuleItem.json (item : CapsuleItem) : Json Empty := .dict
  [("revision_id", .str item.revisionId), ("fact_digest", digestText item.factDigest),
    ("statement", .str item.statement),
    ("evidence_ids", .list (item.evidenceIds.map .str)),
    ("evidence_digests", .list (item.evidenceDigests.map digestText)),
    ("closure_digest", digestText item.closureDigest),
    ("provenance_digest", digestText item.provenanceDigest)]

/-- The members that the root digest covers. -/
def capsuleCore (retrievalDigest : Digest) (items : List CapsuleItem) (truncated : Bool) :
    List (String × Json Empty) :=
  [("schema_version", .str "egoagentos-evidence-capsule/v1"),
    ("retrieval_digest", digestText retrievalDigest),
    ("items", .list (items.map CapsuleItem.json)), ("truncated", .bool truncated)]

section Capsules

variable (sha256 : Bytes → Digest)

def capsuleRoot (retrievalDigest : Digest) (items : List CapsuleItem) (truncated : Bool) : Digest :=
  domainDigest sha256 "trusted-memory-evidence-capsule"
    (.dict (capsuleCore retrievalDigest items truncated))

structure EvidenceCapsule where
  retrievalDigest : Digest
  items : List CapsuleItem
  truncated : Bool
  rootDigest : Digest
  /-- `validate_root`. -/
  rooted : rootDigest = capsuleRoot sha256 retrievalDigest items truncated

variable {sha256} in
def EvidenceCapsule.json (capsule : EvidenceCapsule sha256) : Json Empty :=
  .dict (capsuleCore capsule.retrievalDigest capsule.items capsule.truncated ++
    [("root_digest", digestText capsule.rootDigest)])

/-- `_capsule`. -/
def capsule (items : List CapsuleItem) (result : RetrievalResult) : EvidenceCapsule sha256 where
  retrievalDigest := result.retrievalDigest
  items
  truncated := items.length < result.items.length
  rootDigest := capsuleRoot sha256 result.retrievalDigest items (items.length < result.items.length)
  rooted := rfl

variable {sha256} in
def EvidenceCapsule.size (capsule : EvidenceCapsule sha256) : Nat :=
  (SecureMemory.canonicalBytes capsule.json).length

def capsuleFits (result : RetrievalResult) (maxBytes : Int) (items : List CapsuleItem) : Bool :=
  decide (((capsule sha256 items result).size : Int) ≤ maxBytes)

/-- `build_evidence_capsule`; what it raises are the texts of its `ValueError`s. -/
def buildEvidenceCapsule (result : RetrievalResult) (maxBytes maxItems : Int) :
    Except String (EvidenceCapsule sha256) := do
  raiseIf (maxBytes < 256) "max_bytes must be at least 256"
  raiseIf (maxItems < 0) "max_items must be non-negative"
  raiseIf (maxBytes < (capsule sha256 [] result).size) "max_bytes cannot hold an empty capsule"
  let selected := growWhile (capsuleFits sha256 result maxBytes) []
    ((result.items.take maxItems.toNat).map CapsuleItem.ofRetrieval)
  return capsule sha256 selected result

end Capsules

/-! ### Sizes -/

section Sizes

variable {sha256 : Bytes → Digest}

/-- The length of the list of items as it is written. -/
def itemsLength (items : List CapsuleItem) : Nat :=
  wireLength (Json.list (items.map CapsuleItem.json)).sorted.text

def flagLength (truncated : Bool) : Nat := if truncated then 4 else 5

theorem wireLength_digestText (digest : Digest) :
    wireLength (digestText digest : Json Empty).sorted.text = 66 := wireLength_quoted_digest digest

theorem capsule_size (capsule : EvidenceCapsule sha256) :
    capsule.size = 240 + itemsLength capsule.items + flagLength capsule.truncated := by
  have members : capsuleCore capsule.retrievalDigest capsule.items capsule.truncated ++
      [("root_digest", digestText capsule.rootDigest)] ≠ [] :=
    List.append_ne_nil_of_right_ne_nil _ (List.cons_ne_nil _ _)
  have flag : wireLength (Json.bool capsule.truncated : Json Empty).sorted.text =
      flagLength capsule.truncated := by
    cases capsule.truncated <;> rfl
  have schema : wireLength (quoted "schema_version") = 16 := by decide
  have retrieval : wireLength (quoted "retrieval_digest") = 18 := by decide
  have items : wireLength (quoted "items") = 7 := by decide
  have truncated : wireLength (quoted "truncated") = 11 := by decide
  have root : wireLength (quoted "root_digest") = 13 := by decide
  have version : wireLength
      (Json.str "egoagentos-evidence-capsule/v1" : Json Empty).sorted.text = 32 := by decide
  change wireLength (Json.dict _).sorted.text = _
  rw [wireLength_sorted_dict members]
  simp only [capsuleCore, List.cons_append, List.nil_append, List.map_cons, List.map_nil,
    List.sum_cons, List.sum_nil, wireLength_digestText, flag, schema, retrieval, items, truncated,
    root, version]
  change _ = 240 + wireLength (Json.list _).sorted.text + _
  omega

theorem itemsLength_eq (items : List CapsuleItem) :
    itemsLength items = 1 + (if items = [] then 1 else 0) +
      (items.map fun item => wireLength item.json.sorted.text + 1).sum := by
  rw [itemsLength, Json.sorted, sortedItems_eq_map, wireLength_list, List.map_map, List.map_map]
  simp only [List.map_eq_nil_iff]
  rfl

/-- A longer list of items is written longer. -/
theorem itemsLength_lt (items : List CapsuleItem) (item : CapsuleItem) (rest : List CapsuleItem) :
    itemsLength items < itemsLength (items ++ item :: rest) := by
  have length : wireLength item.json.sorted.text = 1 + _ :=
    wireLength_sorted_dict (List.cons_ne_nil _ _)
  rw [itemsLength_eq, itemsLength_eq, List.map_append, List.sum_append, List.map_cons,
    List.sum_cons, if_neg (List.append_ne_nil_of_right_ne_nil _ (List.cons_ne_nil _ _))]
  split <;> omega

variable (sha256) in
theorem capsule_size_le (result : RetrievalResult) (some more : List CapsuleItem) :
    (capsule sha256 some result).size ≤ (capsule sha256 (some ++ more) result).size := by
  rw [capsule_size, capsule_size]
  change 240 + itemsLength some + flagLength (some.length < result.items.length) ≤
    240 + itemsLength (some ++ more) + flagLength ((some ++ more).length < result.items.length)
  have length : (some ++ more).length = some.length + more.length := List.length_append
  have flag : flagLength (some.length < result.items.length) ≤
      flagLength ((some ++ more).length < result.items.length) := by
    unfold flagLength
    by_cases few : (some ++ more).length < result.items.length
    · rw [decide_eq_true few, decide_eq_true (by omega : some.length < result.items.length)]
    · rw [decide_eq_false few]
      split <;> decide
  have items : itemsLength some ≤ itemsLength (some ++ more) := by
    cases more with
    | nil => rw [List.append_nil]
    | cons item rest => exact (itemsLength_lt some item rest).le
  omega

variable (sha256) in
theorem emptyCapsule_size (result : RetrievalResult) : (capsule sha256 [] result).size ≤ 247 := by
  rw [capsule_size]
  change 240 + itemsLength [] + flagLength (([] : List CapsuleItem).length < result.items.length) ≤
    247
  have empty : itemsLength [] = 2 := rfl
  have flag : flagLength (([] : List CapsuleItem).length < result.items.length) ≤ 5 := by
    unfold flagLength
    split <;> decide
  omega

end Sizes

/-! ### What is returned -/

section Returned

variable {sha256 : Bytes → Digest}

/-- A capsule with a longest prefix of the items that fits. -/
structure EvidenceCapsule.Longest (capsule' : EvidenceCapsule sha256) (result : RetrievalResult)
    (maxBytes maxItems : Int) (kept : List RetrievalItem) : Prop where
  items : capsule'.items = kept.map CapsuleItem.ofRetrieval
  isPrefix : kept <+: result.items
  few : (kept.length : Int) ≤ maxItems
  size : (capsule'.size : Int) ≤ maxBytes
  longest : ∀ longer, longer <+: result.items → kept.length < longer.length →
    (longer.length : Int) ≤ maxItems →
      maxBytes < (capsule sha256 (longer.map CapsuleItem.ofRetrieval) result).size
  truncated : capsule'.truncated = true ↔ kept ≠ result.items

variable (sha256) in
theorem growWhile_longest_of (result : RetrievalResult) {maxBytes maxItems : Int}
    (bytes : 256 ≤ maxBytes) (some : 0 ≤ maxItems) :
    ∃ kept, (capsule sha256 (growWhile (capsuleFits sha256 result maxBytes) []
        ((result.items.take maxItems.toNat).map CapsuleItem.ofRetrieval)) result).Longest
      result maxBytes maxItems kept := by
  have empty : capsuleFits sha256 result maxBytes [] = true := by
    have size := emptyCapsule_size sha256 result
    exact decide_eq_true (by omega)
  have shorter : ∀ {some more : List CapsuleItem},
      capsuleFits sha256 result maxBytes (some ++ more) = true →
        capsuleFits sha256 result maxBytes some = true := by
    intro some more fits
    have size := capsule_size_le sha256 result some more
    have bound := of_decide_eq_true fits
    exact decide_eq_true (by omega)
  obtain ⟨isPrefix, fits, stops⟩ := growWhile_longest (capsuleFits sha256 result maxBytes)
    ((result.items.take maxItems.toNat).map CapsuleItem.ofRetrieval) empty shorter
  obtain ⟨kept, keptPrefix, keptEq⟩ := List.prefix_map_iff.mp isPrefix
  rw [keptEq] at fits stops ⊢
  have within := keptPrefix.trans (List.take_prefix _ _)
  refine ⟨kept, rfl, within, ?_, of_decide_eq_true fits, fun longer isLonger length few => ?_, ?_⟩
  · have bound := keptPrefix.length_le
    rw [List.length_take] at bound
    omega
  · have taken : longer <+: result.items.take maxItems.toNat :=
      List.prefix_take_iff.mpr ⟨isLonger, by omega⟩
    have stopped := stops (longer.map CapsuleItem.ofRetrieval) (taken.map _) (by simpa using length)
    exact not_le.mp (of_decide_eq_false stopped)
  · change decide ((kept.map CapsuleItem.ofRetrieval).length < result.items.length) = true ↔ _
    rw [decide_eq_true_iff, List.length_map]
    constructor
    · rintro less rfl
      exact absurd less (lt_irrefl _)
    · intro different
      refine lt_of_le_of_ne within.length_le fun same => different ?_
      exact within.eq_of_length same

variable (sha256) in
/-- A capsule holds the longest prefix of the items, of at most `maxItems`, that fits `maxBytes`;
smaller budgets than 256 bytes and negative numbers of items are refused. -/
theorem evidence_capsule_longest (result : RetrievalResult) (maxBytes maxItems : Int) :
    (256 ≤ maxBytes ∧ 0 ≤ maxItems → ∃ capsule kept,
      buildEvidenceCapsule sha256 result maxBytes maxItems = .ok capsule ∧
        capsule.Longest result maxBytes maxItems kept) ∧
    (¬ (256 ≤ maxBytes ∧ 0 ≤ maxItems) → ∃ message,
      buildEvidenceCapsule sha256 result maxBytes maxItems = .error message) := by
  constructor
  · rintro ⟨bytes, some⟩
    obtain ⟨kept, longest⟩ := growWhile_longest_of sha256 result bytes some
    have size := emptyCapsule_size sha256 result
    refine ⟨_, kept, ?_, longest⟩
    unfold buildEvidenceCapsule
    rw [raiseIf_bind_of_not (by omega), raiseIf_bind_of_not (by omega),
      raiseIf_bind_of_not (by omega)]
    rfl
  · intro refused
    unfold buildEvidenceCapsule
    by_cases bytes : maxBytes < 256
    · refine ⟨"max_bytes must be at least 256", ?_⟩
      rw [raiseIf, if_pos bytes]
      rfl
    · refine ⟨"max_items must be non-negative", ?_⟩
      rw [raiseIf_bind_of_not bytes, raiseIf, if_pos (by omega)]
      rfl

end Returned

namespace CapsuleSample

def noHash (_ : Bytes) : Digest := 0

def nothing : RetrievalResult := ⟨[], 0⟩

theorem evidence_capsule_longest_sample : ∃ capsule kept,
    buildEvidenceCapsule noHash nothing 256 0 = .ok capsule ∧
      capsule.Longest nothing 256 0 kept :=
  (evidence_capsule_longest noHash nothing 256 0).1 ⟨by decide, by decide⟩

/-- An empty capsule takes 247 bytes, and a budget of 250 is refused. -/
theorem empty_capsule_refused : (capsule noHash [] nothing).size = 247 ∧
    buildEvidenceCapsule noHash nothing 250 0 = .error "max_bytes must be at least 256" := by
  constructor
  · rw [capsule_size]
    rfl
  · rfl

end CapsuleSample

end EgoAgent.TrustedMemory
