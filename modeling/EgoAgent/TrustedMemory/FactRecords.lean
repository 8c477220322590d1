import EgoAgent.Lib.KeySort
import EgoAgent.TrustedMemory.Finalizer

/-!
What `_build_facts` returns, and that facts with two digests are stored as two texts.

The closure of permuted inputs is the same closure.
-/

namespace EgoAgent.TrustedMemory

open EgoAgent.Api

/-! ### Texts -/

theorem sortedTexts_perm {left right : List String} (perm : left.Perm right) :
    sortedTexts left = sortedTexts right := by
  have sorted := mergedByKey_ascending (id : String → String)
  have same : (sortedTexts left).Perm (sortedTexts right) :=
    (List.mergeSort_perm left _).trans (perm.trans (List.mergeSort_perm right _).symm)
  exact same.eq_of_pairwise (fun _ _ _ _ => le_antisymm) (sorted left) (sorted right)

theorem EvidenceBinding.precedes_iff {first second : EvidenceBinding} :
    first.precedes second = true ↔ toLex (first.evidenceId, first.evidenceDigest) ≤
      toLex (second.evidenceId, second.evidenceDigest) := by
  rw [Prod.Lex.toLex_le_toLex]
  exact decide_eq_true_iff

theorem EvidenceBinding.precedes_trans (first second third : EvidenceBinding)
    (before : first.precedes second = true) (after : second.precedes third = true) :
    first.precedes third = true :=
  precedes_iff.mpr (le_trans (precedes_iff.mp before) (precedes_iff.mp after))

theorem EvidenceBinding.precedes_total (first second : EvidenceBinding) :
    (first.precedes second || second.precedes first) = true := by
  rw [Bool.or_eq_true, precedes_iff, precedes_iff]
  exact le_total _ _

theorem EvidenceBinding.precedes_antisymm {first second : EvidenceBinding}
    (before : first.precedes second = true) (after : second.precedes first = true) :
    first = second := by
  have same := Prod.mk.inj (toLex.injective (le_antisymm (precedes_iff.mp before)
    (precedes_iff.mp after)))
  rcases first with ⟨firstId, firstDigest⟩
  exact congrArg₂ EvidenceBinding.mk same.1 same.2

theorem sortedEvidence_perm {left right : List EvidenceBinding} (perm : left.Perm right) :
    left.mergeSort EvidenceBinding.precedes = right.mergeSort EvidenceBinding.precedes := by
  have sorted := fun items => List.pairwise_mergeSort EvidenceBinding.precedes_trans
    EvidenceBinding.precedes_total items
  have same : (left.mergeSort EvidenceBinding.precedes).Perm
      (right.mergeSort EvidenceBinding.precedes) :=
    (List.mergeSort_perm left _).trans (perm.trans (List.mergeSort_perm right _).symm)
  exact same.eq_of_pairwise (fun _ _ _ _ => EvidenceBinding.precedes_antisymm) (sorted left)
    (sorted right)

/-! ### The order of the inputs -/

section Closing

variable (sha256 : Bytes → Digest)

/-- Inputs that differ in the order of the evidence and the receipts only. -/
structure ClosureInputs.Permuted (left right : ClosureInputs) : Prop where
  evidence : left.evidence.Perm right.evidence
  receipts : left.admissionReceipts.Perm right.admissionReceipts
  rest : right = { left with
    evidence := right.evidence
    admissionReceipts := right.admissionReceipts }

theorem closureCore_permuted {left right : ClosureInputs} (permuted : left.Permuted right) :
    closureCore sha256 left = closureCore sha256 right := by
  have evidence := sortedEvidence_perm permuted.evidence
  have receipts := sortedTexts_perm (permuted.receipts.map AdmissionReceipt.receiptSha256)
  rw [permuted.rest]
  unfold closureCore closureIdentity
  simp only [evidence, receipts]

theorem buildDecisionClosure_permuted {left right : ClosureInputs}
    (permuted : left.Permuted right) :
    buildDecisionClosure sha256 left = buildDecisionClosure sha256 right := by
  have core := closureCore_permuted sha256 permuted
  have noEvidence : left.evidence = [] ↔ right.evidence = [] := by
    rw [← List.length_eq_zero_iff, permuted.evidence.length_eq, List.length_eq_zero_iff]
  have noReceipts : left.admissionReceipts = [] ↔ right.admissionReceipts = [] := by
    rw [← List.length_eq_zero_iff, permuted.receipts.length_eq, List.length_eq_zero_iff]
  have mem := fun receipt => permuted.receipts.mem_iff (a := receipt)
  have ids := (permuted.evidence.map EvidenceBinding.evidenceId).nodup_iff
  have digests := (permuted.evidence.map EvidenceBinding.evidenceDigest).nodup_iff
  have decision : right.terminalDecision = left.terminalDecision := by rw [permuted.rest]
  have result : right.evaluatorResult = left.evaluatorResult := by rw [permuted.rest]
  unfold buildDecisionClosure
  simp only [core, noEvidence, noReceipts, mem, ids, digests, decision, result]

/-! ### What is closed -/

theorem closureId_bounded (inputs : ClosureInputs) :
    Bounded 200 (closureCore sha256 inputs).closureId := by
  have size : (closureCore sha256 inputs).closureId.length =
      8 + min 32 (closureIdentity sha256 inputs).toList.length := by
    unfold closureCore
    rw [String.length_append, String.length_ofList, String.length_ofList, List.length_take]
    rfl
  unfold Bounded
  rw [size]
  omega

/-- What `build_decision_closure` asks of its arguments. -/
structure ClosureInputs.Closable (inputs : ClosureInputs) : Prop where
  control : inputs.terminalDecision.authoritySource = .control
  terminal : inputs.terminalDecision.terminal = true
  signed : inputs.evaluatorResult.signatureVerified = true
  sourceAdmitted : inputs.evaluatorResult.sourceReceipt.admission.status = .admitted
  result : inputs.evaluatorResult.sourceReceipt.envelopeSha256 =
    some inputs.evaluatorResult.evaluatorResultDigest
  task : inputs.evaluatorResult.sourceReceipt.taskId = inputs.terminalDecision.taskId
  generation : inputs.evaluatorResult.sourceReceipt.generation =
    inputs.terminalDecision.generation
  received : inputs.admissionReceipts ≠ []
  admitted : ∀ receipt ∈ inputs.admissionReceipts, receipt.status = .admitted
  receiptScope : ∀ receipt ∈ inputs.admissionReceipts,
    receipt.taskId = inputs.terminalDecision.taskId ∧
      receipt.generation = inputs.terminalDecision.generation
  supported : inputs.evidence ≠ []
  idsDistinct : (inputs.evidence.map EvidenceBinding.evidenceId).Nodup
  digestsDistinct : (inputs.evidence.map EvidenceBinding.evidenceDigest).Nodup

theorem closeCore_eq_ok {core : DecisionClosureCore} {closure : DecisionClosure} :
    closeCore core = .ok closure ↔ core.Valid ∧ closure.core = core := by
  unfold closeCore
  constructor
  · intro computed
    split at computed
    · next valid =>
        cases computed
        exact ⟨valid, rfl⟩
    · cases computed
  · rintro ⟨valid, same⟩
    rw [dif_pos valid]
    rcases closure with ⟨core, _⟩
    cases same
    rfl

theorem buildDecisionClosure_eq_ok {inputs : ClosureInputs} {closure : DecisionClosure} :
    buildDecisionClosure sha256 inputs = .ok closure ↔
      inputs.Closable ∧ (closureCore sha256 inputs).Valid ∧
        closure.core = closureCore sha256 inputs := by
  unfold buildDecisionClosure
  simp only [raiseIf_bind_eq_ok, closeCore_eq_ok]
  constructor
  · rintro ⟨control, terminal, signed, admitted, result, scope, receipts, receiptScope, supported,
      distinct, valid, core⟩
    refine ⟨?_, valid, core⟩
    obtain ⟨received, allAdmitted⟩ := not_or.mp receipts
    obtain ⟨task, generation⟩ := not_or.mp scope
    obtain ⟨ids, digests⟩ := not_or.mp distinct
    constructor
    · exact not_not.mp control
    · exact Bool.eq_true_of_not_eq_false terminal
    · exact Bool.eq_true_of_not_eq_false signed
    · exact not_not.mp admitted
    · exact not_not.mp result
    · exact not_not.mp task
    · exact not_not.mp generation
    · exact received
    · intro receipt member
      by_contra different
      exact allAdmitted ⟨receipt, member, different⟩
    · intro receipt member
      by_contra different
      exact receiptScope ⟨receipt, member, not_and_or.mp different⟩
    · exact supported
    · exact not_not.mp ids
    · exact not_not.mp digests
  · rintro ⟨closable, valid, core⟩
    refine ⟨not_not.mpr closable.control, ?_, ?_, not_not.mpr closable.sourceAdmitted,
      not_not.mpr closable.result, ?_, ?_, ?_, closable.supported, ?_, valid, core⟩
    · rw [closable.terminal]
      exact Bool.noConfusion
    · rw [closable.signed]
      exact Bool.noConfusion
    · exact not_or.mpr ⟨not_not.mpr closable.task, not_not.mpr closable.generation⟩
    · rintro (none | ⟨receipt, member, different⟩)
      · exact closable.received none
      · exact different (closable.admitted receipt member)
    · rintro ⟨receipt, member, different⟩
      exact not_and_or.mpr different (closable.receiptScope receipt member)
    · exact not_or.mpr ⟨not_not.mpr closable.idsDistinct, not_not.mpr closable.digestsDistinct⟩

end Closing

/-! ### Stored texts -/

section Texts

variable {φ : Type} [FloatText φ]

theorem jsonTextMembers_concat (members : List (String × Json φ)) (key : String)
    (value : Json φ) : ∃ front, jsonTextMembers (members ++ [(key, value)]) =
      front ++ (quoted key ++ ':' :: (value.text ++ ['}'])) := by
  induction members with
  | nil => exact ⟨[','], rfl⟩
  | cons first rest ih =>
      obtain ⟨front, split⟩ := ih
      rw [List.cons_append, jsonTextMembers, split]
      exact ⟨',' :: (quoted first.1 ++ ':' :: (first.2.text ++ front)), by simp⟩

/-- The last member of a document ends its text. -/
theorem dictText_concat (members : List (String × Json φ)) (key : String) (value : Json φ) :
    ∃ front, (Json.dict (members ++ [(key, value)])).text =
      front ++ (quoted key ++ ':' :: (value.text ++ ['}'])) := by
  cases members with
  | nil => exact ⟨['{'], by rw [List.nil_append, Json.text, jsonTextMembers, List.cons_append,
      List.nil_append]⟩
  | cons first rest =>
      obtain ⟨front, split⟩ := jsonTextMembers_concat rest key value
      rw [List.cons_append, Json.text, split]
      exact ⟨'{' :: (quoted first.1 ++ ':' :: (first.2.text ++ front)), by simp⟩

end Texts

theorem utf8Encode_injective {left right : List Char} (same : utf8Encode left = utf8Encode right) :
    left = right := by
  have decoded := congrArg utf8Decode same
  rw [utf8Decode_utf8Encode, utf8Decode_utf8Encode] at decoded
  exact Option.some.inj decoded

private theorem escapeChar_hexDigit : ∀ value, value < 16 →
    escapeChar (hexDigit value) = [hexDigit value] := by
  decide

private theorem escaped_hexDigits (count value : Nat) :
    (hexDigits count value).flatMap escapeChar = hexDigits count value := by
  induction count generalizing value with
  | zero => rfl
  | succ count ih =>
      rw [hexDigits, List.flatMap_append, ih, List.flatMap_singleton,
        escapeChar_hexDigit _ (Nat.mod_lt _ (by decide))]

theorem quoted_digest (digest : Digest) :
    quoted (digest.labelled "") = '"' :: (digest.hex ++ ['"']) := by
  have chars : (digest.labelled "").toList = digest.hex := by simp [Digest.labelled]
  rw [quoted, chars, Digest.hex, escaped_hexDigits]

section Records

variable (sha256 : Bytes → Digest)

/-- `trusted_fact_digest` is the last key of a stored fact. -/
theorem factText (item : FactRevisionInput) (scope : Scope) (provenance : FactProvenance)
    (recordDigest : String) : ∃ front, (Json.dict (factValues sha256 item scope provenance ++
      [("record_digest", .str recordDigest)])).sorted.text =
        front ++ (quoted "trusted_fact_digest" ++ ':' ::
          (quoted (item.core.digest sha256) ++ ['}'])) := by
  have below : ∀ key ∈ ["schema_version", "revision_id", "lineage_id", "revision", "scope",
      "outcome", "origin", "state", "core", "provenance", "record_digest"],
      ¬ "trusted_fact_digest" ≤ key := by
    decide +kernel
  have last := @sortMembers_greatest (Json Empty)
    ("trusted_fact_digest", .str (item.core.digest sha256))
    (sortedMembers ((factValues sha256 item scope provenance).take 9))
    (sortedMembers [("provenance", provenance.document), ("record_digest", .str recordDigest)])
    (fun entry member => below entry.1 (List.mem_map_of_mem (f := Prod.fst) member))
  obtain ⟨front, split⟩ := dictText_concat (φ := Empty) (sortMembers _) "trusted_fact_digest"
    (.str (item.core.digest sha256))
  refine ⟨front, Eq.trans ?_ split⟩
  exact congrArg (fun members => (Json.dict members).text) last

theorem trustedFact_eq_ok {item : FactRevisionInput} {scope : Scope}
    {provenance : FactProvenance} {built : BuiltFact}
    (computed : trustedFact sha256 item scope provenance = .ok built) :
    built.fact.scope = scope ∧ built.fact.lineageId = item.lineageId ∧
      built.fact.revisionId = item.revisionId ∧
      built.fact.trustedFactDigest = item.core.digest sha256 ∧
      built.fact.provenance = provenance ∧
      ∃ recordDigest, built.document = .dict (factValues sha256 item scope provenance ++
        [("record_digest", .str recordDigest)]) := by
  unfold trustedFact at computed
  split at computed
  · rw [← Except.ok.inj computed]
    exact ⟨rfl, rfl, rfl, rfl, rfl, _, rfl⟩
  · cases computed

/-- What one round of `_build_facts` has checked and made. -/
structure Builds (closure : DecisionClosure) (item : FactRevisionInput) (built : BuiltFact) :
    Prop where
  tenant : built.fact.scope.tenantId = closure.core.tenantId
  project : built.fact.scope.projectId = closure.core.projectId
  lineage : built.fact.lineageId = item.lineageId
  revisionId : built.fact.revisionId = item.revisionId
  digest : built.fact.trustedFactDigest = item.core.digest sha256
  named : built.fact.provenance.decisionClosureDigest = closure.digest sha256
  text : ∃ front, built.document.sorted.text = front ++ (quoted "trusted_fact_digest" ++ ':' ::
    (quoted (item.core.digest sha256) ++ ['}']))

theorem buildFact_eq_ok {closure : DecisionClosure} {evidence : List EvidenceBinding}
    {item : FactRevisionInput} {built : BuiltFact}
    (computed : buildFact sha256 closure evidence item = .ok built) :
    Builds sha256 closure item built := by
  unfold buildFact at computed
  obtain ⟨_, computed⟩ := (raiseIf_bind_eq_ok _ _ _ _).mp computed
  obtain ⟨version, _, computed⟩ := (bind_eq_ok _ _ _).mp computed
  iterate 3 obtain ⟨_, computed⟩ := (raiseIf_bind_eq_ok _ _ _ _).mp computed
  obtain ⟨scope, formed, computed⟩ := (bind_eq_ok _ _ _).mp computed
  obtain ⟨provenance, proven, computed⟩ := (bind_eq_ok _ _ _).mp computed
  obtain ⟨scopeEq, lineage, revisionId, digest, provenanceEq, recordDigest, document⟩ :=
    trustedFact_eq_ok sha256 computed
  have scopes : scope.tenantId = closure.core.tenantId ∧
      scope.projectId = closure.core.projectId := by
    unfold memoryScope at formed
    split at formed
    · rw [← Except.ok.inj formed]
      exact ⟨rfl, rfl⟩
    · cases formed
  have naming : provenance.decisionClosureDigest = closure.digest sha256 := by
    unfold factProvenance at proven
    split at proven
    · rw [← Except.ok.inj proven]
    · cases proven
  constructor
  · rw [scopeEq]; exact scopes.1
  · rw [scopeEq]; exact scopes.2
  · exact lineage
  · exact revisionId
  · exact digest
  · rw [provenanceEq]; exact naming
  · rw [document]
    exact factText sha256 item scope provenance recordDigest

/-- Facts with two digests have two stored texts. -/
theorem Builds.bytes_ne {closure other : DecisionClosure} {first second : FactRevisionInput}
    {left right : BuiltFact} (leftBuilds : Builds sha256 closure first left)
    (rightBuilds : Builds sha256 other second right)
    (different : first.core.digest sha256 ≠ second.core.digest sha256) :
    left.record.bytes ≠ right.record.bytes := by
  intro same
  obtain ⟨front, leftText⟩ := leftBuilds.text
  obtain ⟨back, rightText⟩ := rightBuilds.text
  have texts : left.document.sorted.text = right.document.sorted.text :=
    utf8Encode_injective same
  rw [leftText, rightText] at texts
  unfold SubmittedCore.digest domainSha256 at texts different
  rw [quoted_digest, quoted_digest] at texts
  have lengths : ∀ digest : Digest, digest.hex.length = 64 := fun digest => hexDigits_length 64 _
  have ends := List.append_cancel_left (List.append_inj' texts (by simp [lengths])).2
  have digests := (List.cons.inj (List.cons.inj ends).2).2
  have hexes := List.append_cancel_right (List.append_cancel_right digests)
  apply different
  unfold Digest.labelled
  rw [hexes]

/-- Every input is built, in the order of the inputs. -/
theorem mapM_eq_ok {α β ε : Type} {build : α → Except ε β} {items : List α} {results : List β}
    (computed : items.mapM build = .ok results) :
    List.Forall₂ (fun item result => build item = .ok result) items results := by
  induction items generalizing results with
  | nil =>
      rw [List.mapM_nil] at computed
      cases computed
      exact .nil
  | cons item rest ih =>
      rw [List.mapM_cons] at computed
      obtain ⟨first, head, computed⟩ := (bind_eq_ok _ _ _).mp computed
      obtain ⟨later, tail, computed⟩ := (bind_eq_ok _ _ _).mp computed
      cases computed
      exact .cons head (ih tail)

theorem buildFacts_eq_ok {request : FinalizationRequest} {closure : DecisionClosure}
    {facts : List BuiltFact} (computed : buildFacts sha256 request closure = .ok facts) :
    sortedTexts (request.inputs.map fun item => item.core.digest sha256) =
        closure.core.verifiedFactDigests ∧
      List.Forall₂ (Builds sha256 closure) request.inputs facts := by
  unfold buildFacts at computed
  obtain ⟨exact, computed⟩ := (raiseIf_bind_eq_ok _ _ _ _).mp computed
  obtain ⟨_, computed⟩ := (raiseIf_bind_eq_ok _ _ _ _).mp computed
  refine ⟨not_not.mp exact, (mapM_eq_ok computed).imp ?_⟩
  intro item built madeOf
  exact buildFact_eq_ok sha256 madeOf

end Records

end EgoAgent.TrustedMemory
