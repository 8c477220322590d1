import EgoAgent.Rxp.MerkleSet
import EgoAgent.Lib.KeySort

/-!
The order of the evidence.

Every list of an assessment is sorted, and every question but one asks whether some record or all
records have a property.  The independent reviewer is the first one found, so it is the same in
every order exactly when the qualifying reviews have one producer.
-/

namespace EgoAgent.Rxp

open Platform MatrixLedger

/-! ### Failures a computation does not raise -/

section Spared

variable {ε α β : Type} {error : ε}

theorem spares_bind {first : Except ε α} {next : α → Except ε β} (here : first ≠ .error error)
    (later : ∀ item, next item ≠ .error error) : (first >>= next) ≠ .error error := by
  cases first with
  | error failure =>
      intro same
      cases same
      exact here rfl
  | ok item => exact later item

theorem spares_raiseIf {wrong : Prop} [Decidable wrong] {failure : ε}
    (different : failure ≠ error) :
    (raiseIf wrong failure : Except ε Unit) ≠ .error error := by
  unfold raiseIf
  split
  · exact fun same => different (Except.error.inj same)
  · exact fun same => by cases same

theorem spares_expect {content : Option α} {failure : ε} (different : failure ≠ error) :
    expect failure content ≠ .error error := by
  cases content with
  | none => exact fun same => different (Except.error.inj same)
  | some item => exact fun same => by cases same

theorem spares_ok (item : α) : Except.ok item ≠ .error error := nofun

end Spared

section General

variable [Platform]

/-- The qualifying reviews have one producer. -/
def ReviewersAgree (records : List Evidence) : Prop :=
  ∀ one ∈ records, ∀ other ∈ records, one.evidenceType = .review → other.evidenceType = .review →
    isIndependentReview records one = true → isIndependentReview records other = true →
    one.producerId = other.producerId

/-- The records have digests, and no two the same. -/
def DigestsApart (records : List Evidence) : Prop :=
  ∃ digests, digestAll records = .ok digests ∧ digests.Nodup

/-- The refusal of a decision for its gate. -/
def gateMismatch : PyError :=
  rxpError "decision_gate_mismatch" "Decision embeds a stale or altered gate"

/-! ### Lists in another order -/

omit [Platform] in
theorem sortedText_congr {left right : List String} (perm : left.Perm right) :
    sortedText left = sortedText right :=
  sortedByKey_congr id perm fun _ _ _ _ same => same

variable {error : PyError}

variable {value : Value}

theorem encoded_error {digest : Bytes → Digest}
    (failed : (canonicalBytesOf value >>= fun payload => pure (digest payload)) = .error error) :
    error = .encoding := by
  unfold canonicalBytesOf at failed
  cases encoded : canonicalBytes unicode value with
  | none =>
      rw [encoded] at failed
      cases failed
      rfl
  | some payload =>
      rw [encoded] at failed
      cases failed

theorem digestDocument_error (failed : digestDocument value = .error error) : error = .encoding :=
  encoded_error failed

theorem digestLedgerEntry_error
    (failed : digestLedgerEntry value = .error error) : error = .encoding :=
  encoded_error failed

theorem digestAll_eq_ok (records : List Evidence) (digests : List Digest) :
    digestAll records = .ok digests ↔ List.Forall₂ (fun (record : Evidence) digest =>
      digestDocument record.value = .ok digest) records digests := by
  induction records generalizing digests with
  | nil =>
      rw [List.forall₂_nil_left_iff]
      exact ⟨fun same => (Except.ok.inj same).symm, fun same => congrArg Except.ok same.symm⟩
  | cons record rest ih =>
      rw [digestAll, bind_eq_ok, List.forall₂_cons_left_iff]
      constructor
      · rintro ⟨digest, digested, computed⟩
        obtain ⟨later, laterEq, ⟨⟩⟩ := (bind_eq_ok _ _ _).mp computed
        exact ⟨digest, later, digested, (ih later).mp laterEq, rfl⟩
      · rintro ⟨digest, later, digested, related, rfl⟩
        exact ⟨digest, digested, (bind_eq_ok _ _ _).mpr ⟨later, (ih later).mpr related, rfl⟩⟩

variable {records : List Evidence}

theorem digestAll_error (failed : digestAll records = .error error) : error = .encoding := by
  induction records with
  | nil => cases failed
  | cons record rest ih =>
      rw [digestAll] at failed
      cases digested : digestDocument record.value with
      | error failure =>
          rw [digested] at failed
          cases failed
          exact digestDocument_error digested
      | ok digest =>
          rw [digested] at failed
          cases computed : digestAll rest with
          | error failure =>
              rw [computed] at failed
              cases failed
              exact ih computed
          | ok later =>
              rw [computed] at failed
              cases failed

variable {left right : List Evidence}

/-- The digests of records in another order are the digests in another order. -/
theorem digestAll_perm (perm : left.Perm right) {digests : List Digest}
    (computed : digestAll right = .ok digests) :
    ∃ others, digestAll left = .ok others ∧ others.Perm digests := by
  obtain ⟨others, related, reordered⟩ :=
    List.perm_comp_forall₂ perm ((digestAll_eq_ok right digests).mp computed)
  exact ⟨others, (digestAll_eq_ok left others).mpr related, reordered⟩

/-! ### The parts of an assessment -/

section Reordered

variable {left right : List Evidence} (perm : left.Perm right)

include perm

theorem presentTypes_congr : presentTypes left = presentTypes right :=
  sortedText_congr (perm.map _).dedup

theorem missingTypes_congr : missingTypes left = missingTypes right := by
  unfold missingTypes
  rw [presentTypes_congr perm]

theorem isIndependentReview_congr (review : Evidence) :
    isIndependentReview left review = isIndependentReview right review := by
  have same : (producers left).Perm (producers right) := (perm.filter _).map _
  unfold isIndependentReview
  rw [same.all_eq, decide_eq_decide.mpr (not_congr same.mem_iff)]

theorem independentReviewer_eq_none_congr :
    independentReviewer left = none ↔ independentReviewer right = none := by
  unfold independentReviewer
  rw [Option.map_eq_none_iff, Option.map_eq_none_iff, List.find?_eq_none, List.find?_eq_none]
  simp only [ofType, (perm.filter _).mem_iff, isIndependentReview_congr perm]

theorem gateReasons_congr : gateReasons left = gateReasons right := by
  have receipts := (perm.map fun record => record.receiptDigest).dedup.length_eq
  have ids := (perm.map fun record => record.evidenceId).nodup_iff
  have ofTypes : ∀ evidenceType, (ofType evidenceType left).Perm (ofType evidenceType right) :=
    fun evidenceType => perm.filter _
  have isEmpty : ∀ evidenceType, ofType evidenceType left ≠ [] ↔ ofType evidenceType right ≠ [] :=
    fun evidenceType => by
      rw [← List.length_pos_iff, ← List.length_pos_iff, (ofTypes evidenceType).length_eq]
  unfold gateReasons
  simp only [missingTypes_congr perm, receipts, ids, isEmpty, (ofTypes .metric).any_eq,
    independentReviewer_eq_none_congr perm]

end Reordered

/-- Where the qualifying reviews agree, the reviewer is the producer of any of them. -/
theorem independentReviewer_eq_some (agree : ReviewersAgree records) (name : String) :
    independentReviewer records = some name ↔ ∃ review ∈ records, review.evidenceType = .review ∧
      isIndependentReview records review = true ∧ review.producerId.val = name := by
  have inReviews : ∀ review, review ∈ ofType .review records ↔
      review ∈ records ∧ review.evidenceType = .review := by
    intro review
    rw [ofType, List.mem_filter, decide_eq_true_eq]
  unfold independentReviewer
  rw [Option.map_eq_some_iff]
  constructor
  · rintro ⟨review, found, named⟩
    obtain ⟨member, isReview⟩ := (inReviews review).mp (List.mem_of_find?_eq_some found)
    exact ⟨review, member, isReview, List.find?_some found, named⟩
  · rintro ⟨review, member, isReview, qualifies, rfl⟩
    cases found : (ofType .review records).find? (isIndependentReview records) with
    | none =>
        exact absurd qualifies
          (List.find?_eq_none.mp found review ((inReviews review).mpr ⟨member, isReview⟩))
    | some first =>
        obtain ⟨firstMember, firstReview⟩ := (inReviews first).mp (List.mem_of_find?_eq_some found)
        refine ⟨first, rfl, congrArg Subtype.val ?_⟩
        exact agree first firstMember review member firstReview isReview (List.find?_some found)
          qualifies

theorem independentReviewer_congr (perm : left.Perm right)
    (agree : ReviewersAgree right) : independentReviewer left = independentReviewer right := by
  have leftAgree : ReviewersAgree left := by
    intro one oneIn other otherIn oneReview otherReview oneQualifies otherQualifies
    rw [isIndependentReview_congr perm] at oneQualifies otherQualifies
    exact agree one (perm.mem_iff.mp oneIn) other (perm.mem_iff.mp otherIn) oneReview otherReview
      oneQualifies otherQualifies
  apply Option.ext
  intro name
  rw [independentReviewer_eq_some leftAgree, independentReviewer_eq_some agree]
  simp only [perm.mem_iff, isIndependentReview_congr perm]

/-- A qualifying review that comes first is the one that is found. -/
theorem independentReviewer_of_first {review : Evidence} {rest : List Evidence}
    (isReview : review.evidenceType = .review)
    (qualifies : isIndependentReview (review :: rest) review = true) :
    independentReviewer (review :: rest) = some review.producerId.val := by
  have listed : ofType .review (review :: rest) = review :: ofType .review rest :=
    List.filter_cons_of_pos (by rw [isReview]; rfl)
  unfold independentReviewer
  rw [listed, List.find?_cons_of_pos qualifies]
  rfl

/-! ### The assessment -/

/-- Records without digests that tell them apart are refused in every order. -/
theorem evidenceGate_congr_of_refused (perm : left.Perm right)
    (refused : ¬ DigestsApart right) : evidenceGate left = evidenceGate right := by
  unfold evidenceGate
  cases computed : digestAll right with
  | error failure =>
      cases other : digestAll left with
      | error otherFailure => rw [digestAll_error computed, digestAll_error other]; rfl
      | ok digests =>
          obtain ⟨_, rightComputed, _⟩ := digestAll_perm perm.symm other
          cases computed.symm.trans rightComputed
  | ok digests =>
      obtain ⟨others, otherComputed, reordered⟩ := digestAll_perm perm computed
      have root : ∃ failure, merkleRoot (sortDigests digests) = .error failure := by
        cases rooted : merkleRoot (sortDigests digests) with
        | error failure => exact ⟨failure, rfl⟩
        | ok evidenceRoot =>
            have distinct := merkleRoot_distinct _ _ rooted
            exact absurd ⟨digests, computed, (sortDigests_perm digests).nodup_iff.mp distinct⟩
              refused
      obtain ⟨failure, rooted⟩ := root
      rw [otherComputed, ok_bind, ok_bind, sortDigests_congr reordered, rooted]
      rfl

theorem evidenceGate_congr (perm : left.Perm right)
    (agree : ReviewersAgree right) : evidenceGate left = evidenceGate right := by
  by_cases refused : DigestsApart right
  · obtain ⟨digests, computed, _⟩ := refused
    obtain ⟨others, otherComputed, reordered⟩ := digestAll_perm perm computed
    unfold evidenceGate
    rw [otherComputed, computed, ok_bind, ok_bind, sortDigests_congr reordered,
      presentTypes_congr perm, missingTypes_congr perm, gateReasons_congr perm,
      independentReviewer_congr perm agree]
  · exact evidenceGate_congr_of_refused perm refused

/-- An assessment that is the same in every order shows reviewers that agree. -/
theorem reviewersAgree_of_congr (assessed : DigestsApart records)
    (orderFree : ∀ other : List Evidence, other.Perm records →
      evidenceGate other = evidenceGate records) : ReviewersAgree records := by
  obtain ⟨digests, computed, distinct⟩ := assessed
  obtain ⟨gate, gateEq⟩ := evidenceGate_returns ((digestAll_eq_ok _ _).mp computed) distinct
  -- Any qualifying review can be moved to the front, where it is found.
  have reviewerIs : ∀ review ∈ records, review.evidenceType = .review →
      isIndependentReview records review = true →
        gate.independentReviewer = some review.producerId.val := by
    intro review member isReview qualifies
    obtain ⟨front, back, split⟩ := List.append_of_mem member
    have perm : (review :: (front ++ back)).Perm records := by
      rw [split]
      exact List.perm_middle.symm
    have same := (orderFree _ perm).trans gateEq
    obtain ⟨_, _, _, _, rfl⟩ := (evidenceGate_eq_ok _ gate).mp same
    exact independentReviewer_of_first isReview ((isIndependentReview_congr perm review).trans
      qualifies)
  intro one oneIn other otherIn oneReview otherReview oneQualifies otherQualifies
  have first := reviewerIs one oneIn oneReview oneQualifies
  have second := reviewerIs other otherIn otherReview otherQualifies
  exact Subtype.ext (Option.some.inj (first.symm.trans second))

/-! ### Recording a decision -/

omit [Platform] in
theorem encoding_ne_gateMismatch : PyError.encoding ≠ gateMismatch := by
  intro same
  cases same

omit [Platform] in
theorem validation_ne_gateMismatch (model : String) : PyError.validation model ≠ gateMismatch := by
  intro same
  cases same

omit [Platform] in
theorem rxp_ne_gateMismatch {code message : String} {details : Members Value}
    (different : code ≠ "decision_gate_mismatch") : .rxp code message details ≠ gateMismatch := by
  intro same
  cases same
  exact different rfl

theorem digestDocument_spares (value : Value) :
    digestDocument value ≠ .error gateMismatch :=
  fun failed => encoding_ne_gateMismatch (digestDocument_error failed).symm

theorem parseUtc_spares (text : String) : parseUtc text ≠ .error gateMismatch := by
  have different : timestampInvalid ≠ gateMismatch := rxp_ne_gateMismatch (by decide)
  unfold parseUtc
  split
  · exact spares_expect different
  · exact fun same => different (Except.error.inj same)

theorem evidenceGate_spares (records : List Evidence) :
    evidenceGate records ≠ .error gateMismatch := by
  unfold evidenceGate
  refine spares_bind (fun failed => ?_) fun digests => spares_bind (fun failed => ?_)
    fun _ => spares_ok _
  · exact encoding_ne_gateMismatch (digestAll_error failed).symm
  · have refused : raiseIf (¬ (sortDigests digests).Nodup)
        (PyError.value "RXP Merkle sets cannot contain duplicate digests") ≠
          .error gateMismatch := spares_raiseIf nofun
    unfold merkleRoot at failed
    split at failed
    · cases failed
    · exact spares_bind refused (fun _ => spares_ok _) failed

theorem append_spares (eventType : LedgerEventType) (document : Document)
    (causalParents : List Digest) (recordedAt : String) (ledger : MatrixLedger) :
    (append eventType document causalParents recordedAt ledger).1 ≠ .error gateMismatch := by
  have inOrder : ledger.assertAppendTime recordedAt ≠ .error gateMismatch := by
    unfold assertAppendTime
    split
    · exact nofun
    · exact spares_bind (parseUtc_spares _) fun _ => spares_bind (parseUtc_spares _) fun _ =>
        spares_raiseIf (rxp_ne_gateMismatch (by decide))
  rcases outcome : append eventType document causalParents recordedAt ledger with ⟨result, final⟩
  rintro rfl
  unfold append at outcome
  rw [Effect.read_bind, Effect.check_bind_eq_error] at outcome
  obtain ⟨failed, _⟩ | ⟨_, _, outcome⟩ := outcome
  · exact inOrder failed
  rw [Effect.check_bind_eq_error] at outcome
  obtain ⟨failed, _⟩ | ⟨object, _, outcome⟩ := outcome
  · exact spares_expect encoding_ne_gateMismatch failed
  rw [Effect.check_bind_eq_error] at outcome
  obtain ⟨failed, _⟩ | ⟨documentDigest, _, outcome⟩ := outcome
  · exact digestDocument_spares _ failed
  rw [Effect.check_bind_eq_error] at outcome
  obtain ⟨failed, _⟩ | ⟨instant, _, outcome⟩ := outcome
  · exact spares_expect (validation_ne_gateMismatch _) failed
  rw [Effect.check_bind_eq_error] at outcome
  obtain ⟨failed, _⟩ | ⟨entryDigest, _, outcome⟩ := outcome
  · exact encoding_ne_gateMismatch (digestLedgerEntry_error failed).symm
  · cases outcome

/-- A decision that embeds the assessment of its cell's evidence is not refused for it. -/
theorem recordDecision_spares {ledger : MatrixLedger} {decision : Decision} {cell : Cell}
    (known : ledger.requireCell decision.cellId = .ok cell)
    (embeds : evidenceGate cell.evidence = .ok decision.gate) :
    (recordDecision decision ledger).1 ≠ .error gateMismatch := by
  rcases outcome : recordDecision decision ledger with ⟨result, final⟩
  rintro rfl
  unfold recordDecision at outcome
  rw [Effect.read_bind, Effect.check_bind_eq_error] at outcome
  obtain ⟨failed, _⟩ | ⟨_, _, outcome⟩ := outcome
  · exact spares_raiseIf (rxp_ne_gateMismatch (by decide)) failed
  rw [Effect.check_bind_eq_error] at outcome
  obtain ⟨failed, _⟩ | ⟨held, same, outcome⟩ := outcome
  · exact spares_ok cell (known.symm.trans failed)
  cases known.symm.trans same
  rw [Effect.check_bind_eq_error] at outcome
  obtain ⟨failed, _⟩ | ⟨_, _, outcome⟩ := outcome
  · exact spares_raiseIf (rxp_ne_gateMismatch (by decide)) failed
  rw [Effect.check_bind_eq_error] at outcome
  obtain ⟨failed, _⟩ | ⟨⟨receipt, receiptDigest⟩, _, outcome⟩ := outcome
  · exact spares_expect (rxp_ne_gateMismatch (by decide)) failed
  rw [Effect.check_bind_eq_error] at outcome
  obtain ⟨failed, _⟩ | ⟨_, _, outcome⟩ := outcome
  · exact spares_raiseIf (rxp_ne_gateMismatch (by decide)) failed
  rw [Effect.check_bind_eq_error] at outcome
  obtain ⟨failed, _⟩ | ⟨gate, computed, outcome⟩ := outcome
  · exact evidenceGate_spares _ failed
  cases embeds.symm.trans computed
  rw [Effect.check_bind_eq_error] at outcome
  obtain ⟨failed, _⟩ | ⟨_, _, outcome⟩ := outcome
  · rw [raiseIf, if_neg (not_not_intro rfl)] at failed
    cases failed
  rw [Effect.check_bind_eq_error] at outcome
  obtain ⟨failed, _⟩ | ⟨_, _, outcome⟩ := outcome
  · exact spares_raiseIf (rxp_ne_gateMismatch (by decide)) failed
  rw [Effect.check_bind_eq_error] at outcome
  obtain ⟨failed, _⟩ | ⟨_, _, outcome⟩ := outcome
  · exact spares_raiseIf (rxp_ne_gateMismatch (by decide)) failed
  rw [Effect.check_bind_eq_error] at outcome
  obtain ⟨failed, _⟩ | ⟨digest, _, outcome⟩ := outcome
  · exact digestDocument_spares _ failed
  rw [Effect.bind_eq_error] at outcome
  obtain failed | ⟨_, _, _, outcome⟩ := outcome
  · exact append_spares _ _ _ _ _ (congrArg Prod.fst failed)
  · cases outcome

/-- The assessment does not depend on the order of the records. -/
def OrderFree (records : List Evidence) : Prop :=
  ∀ other : List Evidence, other.Perm records → evidenceGate other = evidenceGate records

/-- A decision over these records is not refused for a gate computed in another order. -/
def AcceptedInAnyOrder (records : List Evidence) : Prop :=
  ∀ other : List Evidence, other.Perm records → ∀ (ledger : MatrixLedger) (decision : Decision)
    (cell : Cell), ledger.requireCell decision.cellId = .ok cell → cell.evidence = records →
      evidenceGate other = .ok decision.gate →
        (recordDecision decision ledger).1 ≠ .error gateMismatch

/-- The order of the evidence matters only to qualifying reviews by several producers. -/
theorem evidence_gate_order_free (records : List Evidence) :
    (OrderFree records ∧ AcceptedInAnyOrder records) ↔
      ¬ DigestsApart records ∨ ReviewersAgree records := by
  constructor
  · rintro ⟨orderFree, _⟩
    by_cases assessed : DigestsApart records
    · exact .inr (reviewersAgree_of_congr assessed orderFree)
    · exact .inl assessed
  · intro condition
    have orderFree : OrderFree records := fun other perm =>
      condition.elim (evidenceGate_congr_of_refused perm) (evidenceGate_congr perm)
    refine ⟨orderFree, ?_⟩
    rintro other perm ledger decision cell known rfl embeds
    exact recordDecision_spares known ((orderFree other perm).symm.trans embeds)


end General

namespace Sample

def otherReviewClaims : JsonObject unicode where
  members := [("independent", .bool true), ("reviewed_producers", .list [.str "p"]),
    ("reviewer_id", .str "x"), ("verdict", .str "PASS")]
  valid := rfl

/-- A second passing review, by the operator. -/
def otherReview : Evidence × Digest :=
  (record ⟨"e8", by decide⟩ ⟨8, by decide⟩ .review operator otherReviewClaims, 0x16279746573223a38)

theorem otherReview_digested : digestDocument otherReview.1.value = .ok otherReview.2 := rfl

section

variable {items : List (Evidence × Digest)}

theorem reviewed_digested (perm : items.Perm (otherReview :: evidence)) :
    List.Forall₂ (fun (item : Evidence) digest => digestDocument item.value = .ok digest)
      (items.map Prod.fst) (items.map Prod.snd) := by
  rw [List.forall₂_map_left_iff, List.forall₂_map_right_iff, List.forall₂_same]
  intro item member
  rcases List.mem_cons.mp (perm.mem_iff.mp member) with rfl | earlier
  · exact otherReview_digested
  · exact evidence_digested item earlier

theorem reviewed_gate (perm : items.Perm (otherReview :: evidence)) :
    ∃ gate, evidenceGate (items.map Prod.fst) = .ok gate ∧
      gate.independentReviewer = independentReviewer (items.map Prod.fst) := by
  have distinct : (items.map Prod.snd).Nodup :=
    (perm.map Prod.snd).nodup_iff.mpr (by decide)
  obtain ⟨gate, computed⟩ := evidenceGate_returns (reviewed_digested perm) distinct
  refine ⟨gate, computed, ?_⟩
  obtain ⟨_, _, _, _, rfl⟩ := (evidenceGate_eq_ok _ gate).mp computed
  rfl

end

/-- Two passing reviews, and the same records with the second review first. -/
theorem reviewer_depends_on_order :
    ∃ gate otherGate, evidenceGate ((evidence ++ [otherReview]).map Prod.fst) = .ok gate ∧
      evidenceGate ((otherReview :: evidence).map Prod.fst) = .ok otherGate ∧
      ((otherReview :: evidence).map Prod.fst).Perm ((evidence ++ [otherReview]).map Prod.fst) ∧
      gate.independentReviewer = some "q" ∧ otherGate.independentReviewer = some "x" := by
  obtain ⟨gate, computed, reviewer⟩ := reviewed_gate (List.perm_append_singleton _ _)
  obtain ⟨otherGate, otherComputed, otherReviewer⟩ := reviewed_gate (List.Perm.refl _)
  refine ⟨gate, otherGate, computed, otherComputed,
    (List.perm_append_singleton _ _).symm.map _, reviewer.trans ?_, otherReviewer.trans ?_⟩
  · decide +kernel
  · decide +kernel

end Sample

end EgoAgent.Rxp
