import EgoAgent.Rxp.Codecs

/-!
Deterministic evidence completeness and independence assessment.

The gate reads the claims of a record as the caller built them: a sequence
that is a tuple is not a list, so it covers no producer.
-/

namespace EgoAgent.Rxp

open Platform

def requiredEvidenceTypes : List String :=
  ["code", "config", "dataset_manifest", "log", "metric", "trace", "review"]

private theorem text_mem_required (evidenceType : EvidenceType) :
    evidenceType.text ∈ requiredEvidenceTypes := by
  cases evidenceType <;> decide

private theorem text_injective {left right : EvidenceType} (same : left.text = right.text) :
    left = right := by
  revert same
  cases left <;> cases right <;> decide

private theorem append_eq_nil_five {α : Type} (a b c d e : List α) :
    a ++ b ++ c ++ d ++ e = [] ↔ a = [] ∧ b = [] ∧ c = [] ∧ d = [] ∧ e = [] := by
  simp only [List.append_eq_nil_iff, and_assoc]

private theorem ite_nil_iff {wrong : Prop} [Decidable wrong] (reason : String) :
    (if wrong then [reason] else []) = [] ↔ ¬ wrong := by
  by_cases holds : wrong <;> simp [holds]

private theorem ite_nil_iff' {right : Prop} [Decidable right] (reason : String) :
    (if right then [] else [reason]) = [] ↔ right := by
  by_cases holds : right <;> simp [holds]

variable [Platform]

def Evidence.value (evidence : Evidence) : Value := Evidence.codec.dump evidence

def Evidence.claim (evidence : Evidence) (name : String) : Option Value :=
  Dict.get? evidence.claims.members name

private def textOf : Value → Option String
  | .str text => some text
  | _ => none

/-- The texts of a list of texts, and nothing for any other value. -/
def stringSet : Option Value → List String
  | some (.list items) => (Codec.traverse textOf items).getD []
  | _ => []

private def isTrue : Option Value → Bool
  | some (.bool true) => true
  | _ => false

private def isFalse : Option Value → Bool
  | some (.bool false) => true
  | _ => false

private def isText (wanted : String) : Option Value → Bool
  | some (.str text) => text == wanted
  | _ => false

private def isDigestText : Option Value → Bool
  | some (.str text) => (Digest.ofLabelled "sha256:" text).isSome
  | _ => false

/-- A metric record with deterministic raw data. -/
def Evidence.validMetric (evidence : Evidence) : Bool :=
  isTrue (evidence.claim "deterministic") && isFalse (evidence.claim "summary_only") &&
    isDigestText (evidence.claim "raw_data_digest")

/-- A review that passes and names its own producer as independent reviewer. -/
def Evidence.independentPass (evidence : Evidence) : Bool :=
  isText evidence.producerId.val (evidence.claim "reviewer_id") &&
    isTrue (evidence.claim "independent") && isText "PASS" (evidence.claim "verdict")

def Evidence.reviewedProducers (evidence : Evidence) : List String :=
  stringSet (evidence.claim "reviewed_producers")

def ofType (evidenceType : EvidenceType) (records : List Evidence) : List Evidence :=
  records.filter fun record => record.evidenceType = evidenceType

/-- The producers of everything that is not a review. -/
def producers (records : List Evidence) : List String :=
  (records.filter fun record => record.evidenceType ≠ .review).map fun record =>
    record.producerId.val

/-- A passing review by someone who produced nothing else and reviewed every
producer. -/
def isIndependentReview (records : List Evidence) (review : Evidence) : Bool :=
  review.independentPass && decide (review.producerId.val ∉ producers records) &&
    !review.reviewedProducers.isEmpty &&
    (producers records).all fun producer => review.reviewedProducers.contains producer

def independentReviewer (records : List Evidence) : Option String :=
  ((ofType .review records).find? (isIndependentReview records)).map fun review =>
    review.producerId.val

def presentTypes (records : List Evidence) : List String :=
  sortedText (records.map fun record => record.evidenceType.text).dedup

def missingTypes (records : List Evidence) : List String :=
  sortedText (requiredEvidenceTypes.filter fun name => name ∉ presentTypes records)

/-- Why the gate fails, in the order the reasons are found. -/
def gateReasons (records : List Evidence) : List String :=
  (if missingTypes records = [] then []
    else ["missing required evidence: " ++ ", ".intercalate (missingTypes records)]) ++
  (if (records.map fun record => record.receiptDigest).dedup.length > 1 then
      ["evidence spans multiple receipts"] else []) ++
  (if (records.map fun record => record.evidenceId).Nodup then []
    else ["duplicate evidence_id"]) ++
  (if ofType .metric records ≠ [] ∧ (ofType .metric records).any Evidence.validMetric = false then
      ["metric evidence requires deterministic raw data"] else []) ++
  (if ofType .review records ≠ [] ∧ independentReviewer records = none then
      ["independent PASS review must cover all non-review producers"] else [])

def digestAll : List Evidence → Except PyError (List Digest)
  | [] => return []
  | record :: rest => do
      let digest ← digestDocument record.value
      let later ← digestAll rest
      return digest :: later

def evidenceGate (records : List Evidence) : Except PyError GateAssessment := do
  let digests ← digestAll records
  let evidenceRoot ← merkleRoot (sortDigests digests)
  return {
    status := if gateReasons records = [] then .pass else .fail
    requiredTypes := requiredEvidenceTypes
    presentTypes := presentTypes records
    missingTypes := missingTypes records
    evidenceDigests := sortDigests digests
    evidenceRoot := evidenceRoot
    independentReviewer := independentReviewer records
    reasons := gateReasons records }

/-! ### What the gate establishes -/

section

variable (records : List Evidence)

theorem evidenceGate_eq_ok (gate : GateAssessment) :
    evidenceGate records = .ok gate ↔
      ∃ digests evidenceRoot, digestAll records = .ok digests ∧
        merkleRoot (sortDigests digests) = .ok evidenceRoot ∧
        gate = {
          status := if gateReasons records = [] then .pass else .fail
          requiredTypes := requiredEvidenceTypes
          presentTypes := presentTypes records
          missingTypes := missingTypes records
          evidenceDigests := sortDigests digests
          evidenceRoot := evidenceRoot
          independentReviewer := independentReviewer records
          reasons := gateReasons records } := by
  unfold evidenceGate
  rw [bind_eq_ok]
  constructor
  · rintro ⟨digests, digested, computed⟩
    rw [bind_eq_ok] at computed
    obtain ⟨evidenceRoot, rooted, returned⟩ := computed
    cases returned
    exact ⟨digests, evidenceRoot, digested, rooted, rfl⟩
  · rintro ⟨digests, evidenceRoot, digested, rooted, rfl⟩
    refine ⟨digests, digested, ?_⟩
    rw [bind_eq_ok]
    exact ⟨evidenceRoot, rooted, rfl⟩

/-- The gate can be computed over records with distinct digests. -/
theorem evidenceGate_returns {records : List Evidence} {digests : List Digest}
    (digested : List.Forall₂ (fun (record : Evidence) digest =>
      digestDocument record.value = .ok digest) records digests)
    (distinct : digests.Nodup) : ∃ gate, evidenceGate records = .ok gate := by
  have computed : digestAll records = .ok digests := by
    clear distinct
    induction digested with
    | nil => rfl
    | cons first _ ih =>
        simp only [digestAll, first, ih]
        rfl
  obtain ⟨evidenceRoot, rooted⟩ := merkleRoot_returns (sortDigests digests)
    ((sortDigests_perm digests).nodup_iff.mpr distinct)
  exact ⟨_, (evidenceGate_eq_ok _ _).mpr ⟨digests, evidenceRoot, computed, rooted, rfl⟩⟩

/-- Nothing is missing exactly when every type has a record. -/
theorem missingTypes_eq_nil :
    missingTypes records = [] ↔
      ∀ evidenceType, ∃ record ∈ records, record.evidenceType = evidenceType := by
  unfold missingTypes presentTypes
  rw [sortedText_eq_nil, List.filter_eq_nil_iff]
  constructor
  · intro covered evidenceType
    have present := covered _ (text_mem_required evidenceType)
    simp only [decide_eq_true_eq, not_not, mem_sortedText, List.mem_dedup, List.mem_map] at present
    obtain ⟨record, inRecords, same⟩ := present
    exact ⟨record, inRecords, text_injective same⟩
  · intro covered name required
    have named : ∃ evidenceType : EvidenceType, evidenceType.text = name := by
      simp only [requiredEvidenceTypes, List.mem_cons, List.not_mem_nil, or_false] at required
      rcases required with rfl | rfl | rfl | rfl | rfl | rfl | rfl
      · exact ⟨.code, rfl⟩
      · exact ⟨.config, rfl⟩
      · exact ⟨.datasetManifest, rfl⟩
      · exact ⟨.log, rfl⟩
      · exact ⟨.metric, rfl⟩
      · exact ⟨.trace, rfl⟩
      · exact ⟨.review, rfl⟩
    obtain ⟨evidenceType, rfl⟩ := named
    obtain ⟨record, inRecords, same⟩ := covered evidenceType
    simp only [decide_eq_true_eq, not_not, mem_sortedText, List.mem_dedup, List.mem_map]
    exact ⟨record, inRecords, by rw [same]⟩

/-- What passing the gate means for the records. -/
structure GatePasses (records : List Evidence) : Prop where
  covered : ∀ evidenceType, ∃ record ∈ records, record.evidenceType = evidenceType
  oneReceipt : (records.map fun record => record.receiptDigest).dedup.length ≤ 1
  distinctIds : (records.map fun record => record.evidenceId).Nodup
  metric : ∃ record ∈ records, record.evidenceType = .metric ∧ record.validMetric = true
  review : ∃ record ∈ records, record.evidenceType = .review ∧
    isIndependentReview records record = true

theorem gateReasons_eq_nil :
    gateReasons records = [] ↔ GatePasses records := by
  unfold gateReasons
  rw [append_eq_nil_five, ite_nil_iff', ite_nil_iff, ite_nil_iff', ite_nil_iff, ite_nil_iff,
    missingTypes_eq_nil]
  have inType : ∀ (evidenceType : EvidenceType) (record : Evidence),
      record ∈ ofType evidenceType records ↔
        record ∈ records ∧ record.evidenceType = evidenceType := by
    intro evidenceType record
    simp [ofType]
  constructor
  · rintro ⟨covered, oneReceipt, distinctIds, metricFine, reviewFine⟩
    have nonempty : ∀ evidenceType, ofType evidenceType records ≠ [] := by
      intro evidenceType
      obtain ⟨record, inRecords, same⟩ := covered evidenceType
      exact List.ne_nil_of_mem ((inType evidenceType record).mpr ⟨inRecords, same⟩)
    refine ⟨covered, by omega, distinctIds, ?_, ?_⟩
    · have someValid : (ofType .metric records).any Evidence.validMetric = true := by
        by_contra noneValid
        exact metricFine ⟨nonempty .metric, by simpa using noneValid⟩
      obtain ⟨record, isMetric, valid⟩ := List.any_eq_true.mp someValid
      obtain ⟨inRecords, same⟩ := (inType .metric record).mp isMetric
      exact ⟨record, inRecords, same, valid⟩
    · have someReviewer : independentReviewer records ≠ none :=
        fun noReviewer => reviewFine ⟨nonempty .review, noReviewer⟩
      unfold independentReviewer at someReviewer
      rw [Ne, Option.map_eq_none_iff] at someReviewer
      obtain ⟨record, found⟩ := Option.ne_none_iff_exists'.mp someReviewer
      obtain ⟨inRecords, same⟩ := (inType .review record).mp (List.mem_of_find?_eq_some found)
      exact ⟨record, inRecords, same, List.find?_some found⟩
  · rintro ⟨covered, oneReceipt, distinctIds, ⟨metric, metricIn, isMetric, valid⟩,
      ⟨review, reviewIn, isReview, independent⟩⟩
    refine ⟨covered, by omega, distinctIds, ?_, ?_⟩
    · rintro ⟨_, noneValid⟩
      have someValid : (ofType .metric records).any Evidence.validMetric = true :=
        List.any_eq_true.mpr ⟨metric, (inType _ _).mpr ⟨metricIn, isMetric⟩, valid⟩
      rw [someValid] at noneValid
      cases noneValid
    · rintro ⟨_, noReviewer⟩
      unfold independentReviewer at noReviewer
      rw [Option.map_eq_none_iff, List.find?_eq_none] at noReviewer
      exact noReviewer review ((inType _ _).mpr ⟨reviewIn, isReview⟩) independent

theorem evidenceGate_pass (gate : GateAssessment)
    (computed : evidenceGate records = .ok gate) : gate.status = .pass ↔ GatePasses records := by
  obtain ⟨digests, evidenceRoot, _, _, rfl⟩ := (evidenceGate_eq_ok records gate).mp computed
  rw [← gateReasons_eq_nil]
  by_cases fine : gateReasons records = [] <;> simp [fine]

end

end EgoAgent.Rxp
