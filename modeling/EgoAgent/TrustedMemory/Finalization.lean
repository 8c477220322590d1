import EgoAgent.TrustedMemory.FinalizerSteps

/-!
Finalization is atomic, exact and repeatable.

A repeated finalization finds each of its parts and writes nothing.  A key stands
for the text of a closure and for one record in each lineage it was used in, not
for a request.
-/

namespace EgoAgent.TrustedMemory

open EgoAgent.Api

section Law

variable (sha256 : Bytes → Digest)

/-! ### What is stored -/

variable {idempotencyKey : String} {request : FinalizationRequest} {memory middle later : Memory}
  {result : FinalizationResult} {row : ClosureRow}

/-- The facts of a finalization are the inputs it was given, each under its digest. -/
theorem Finalizes.entries
    (finalizes : Finalizes sha256 request idempotencyKey memory result row middle later) :
    (request.inputs.zip result.facts).map Prod.snd = result.facts := by
  have lengths := (buildFacts_eq_ok sha256 finalizes.facts).2.length_eq
  exact List.map_snd_zip (le_of_eq lengths.symm)

/-- Every lineage of a finalization holds its fact. -/
theorem Finalizes.held
    (finalizes : Finalizes sha256 request idempotencyKey memory result row middle later) :
    List.Forall₂ (fun built event =>
      later.tables.find built.key (factKey idempotencyKey built) = some event ∧
        event.record.bytes = built.record.bytes) result.facts result.events := by
  have ⟨held, _, _⟩ := appendFacts_holds sha256 _ finalizes.appended
  rw [← finalizes.entries, List.forall₂_map_left_iff]
  exact held.imp fun _ _ holds => ⟨holds.found, holds.bytes⟩

/-- Distinct digests are in distinct lineages: one key holds one text. -/
theorem Finalizes.distinct
    (finalizes : Finalizes sha256 request idempotencyKey memory result row middle later) :
    (result.facts.map BuiltFact.key).Nodup := by
  have ⟨exact, builds⟩ := buildFacts_eq_ok sha256 finalizes.facts
  have digests : (request.inputs.map fun item => item.core.digest sha256).Nodup := by
    have sorted := result.closure.valid.factsSorted
    rw [← exact] at sorted
    exact (List.mergeSort_perm _ _).nodup_iff.mp (sorted.imp ne_of_lt)
  rw [← Related.map_eq builds _ (fun built => built.fact.trustedFactDigest)
    (fun _ _ made => made.digest)] at digests
  have apart := List.pairwise_map.mp digests
  refine List.pairwise_map.mpr (apart.imp_of_mem ?_)
  intro left right inLeft inRight different sameKey
  obtain ⟨first, _, leftBuilds⟩ := Related.partner_of_right builds left inLeft
  obtain ⟨second, _, rightBuilds⟩ := Related.partner_of_right builds right inRight
  rw [leftBuilds.digest, rightBuilds.digest] at different
  obtain ⟨event, _, found, bytes⟩ := Related.partner_of_left finalizes.held left inLeft
  obtain ⟨other, _, alsoFound, otherBytes⟩ := Related.partner_of_left finalizes.held right inRight
  have lineages : left.fact.lineageId = right.fact.lineageId := congrArg Key.lineageId sameKey
  rw [factKey, sameKey, lineages, ← factKey, alsoFound] at found
  apply leftBuilds.bytes_ne sha256 rightBuilds different
  rw [← bytes, ← otherBytes, Option.some.inj found]

/-- The closure is not in the store under another key. -/
def Unclaimed (closure : DecisionClosure) (idempotencyKey : String) (memory : Memory) : Prop :=
  ∀ row ∈ memory.decisionClosures, row.inScope closure.core.tenantId closure.core.projectId →
    row.closureDigest = closure.digest sha256 → row.idempotencyKey = idempotencyKey ++ ":closure"

/-- What a finalization that returns has stored. -/
structure Finalized (request : FinalizationRequest) (idempotencyKey : String) (memory : Memory)
    (result : FinalizationResult) (later : Memory) : Prop where
  closed : ∃ row ∈ later.decisionClosures,
    row.inScope result.closure.core.tenantId result.closure.core.projectId ∧
      row.closureDigest = result.closure.digest sha256 ∧
      row.closureBytes = SecureMemory.canonicalBytes (result.closure.json sha256)
  closures : later.decisionClosures = memory.decisionClosures ∨
    ∃ row, later.decisionClosures = memory.decisionClosures ++ [row]
  submitted : (result.facts.map fun built =>
      (built.fact.lineageId, built.fact.revisionId, built.fact.trustedFactDigest)).Perm
    (request.facts.map fun item => (item.lineageId, item.revisionId, item.core.digest sha256))
  exact : sortedTexts (result.facts.map fun built => built.fact.trustedFactDigest) =
    result.closure.core.verifiedFactDigests
  naming : ∀ built ∈ result.facts,
    built.fact.scope.tenantId = result.closure.core.tenantId ∧
      built.fact.scope.projectId = result.closure.core.projectId ∧
      built.fact.provenance.decisionClosureDigest = result.closure.digest sha256
  distinct : (result.facts.map BuiltFact.key).Nodup
  stores : List.Forall₂ (Stores idempotencyKey memory later) result.facts result.events
  history : later.tables.history = memory.tables.history ++
    freshEvents idempotencyKey memory result.facts result.events
  others : ∀ key ∉ result.facts.map BuiltFact.key,
    later.tables.current.get? key = memory.tables.current.get? key

variable {sha256} in
theorem Finalizes.finalized
    (finalizes : Finalizes sha256 request idempotencyKey memory result row middle later) :
    Finalized sha256 request idempotencyKey memory result later := by
  have ⟨exact, builds⟩ := buildFacts_eq_ok sha256 finalizes.facts
  have ⟨_, _, closures⟩ := appendFacts_holds sha256 _ finalizes.appended
  have distinct := finalizes.distinct sha256
  have entries := finalizes.entries sha256
  have filed := finalizes.filed
  obtain ⟨stores, history, others⟩ := appendFacts_stores sha256 _
    (by rw [entries]; exact distinct) finalizes.appended
  rw [entries] at stores history others
  constructor
  · refine ⟨row, ?_, ⟨filed.tenant, filed.project⟩, filed.digest, filed.bytes⟩
    rw [closures]
    exact filed.member
  · rw [closures]
    rcases filed.cases with ⟨_, same⟩ | ⟨_, _, same⟩ | ⟨_, _, _, appended⟩
    · exact .inl (congrArg _ same)
    · exact .inl (congrArg _ same)
    · exact .inr ⟨row, congrArg _ appended⟩
  · rw [Related.map_eq builds (fun item =>
      (item.lineageId, item.revisionId, item.core.digest sha256)) _ ?_]
    · exact (List.mergeSort_perm request.facts _).map _
    · intro item built made
      rw [made.lineage, made.revisionId, made.digest]
  · rw [← exact, Related.map_eq builds (fun item => item.core.digest sha256) _
      (fun _ _ made => made.digest)]
  · intro built member
    obtain ⟨_, _, made⟩ := Related.partner_of_right builds built member
    exact ⟨made.tenant, made.project, made.named⟩
  · exact distinct
  · refine stores.imp fun built event stored => ?_
    have fresh := stored.fresh
    have replayed := stored.replayed
    rw [filed.tables] at fresh replayed
    exact ⟨stored.found, stored.bytes, fresh, replayed⟩
  · rw [history, filed.tables]
    congr 1
    apply freshEvents_congr
    intro _ _
    rw [filed.tables]
  · rw [filed.tables] at others
    exact others

variable {sha256} in
/-- A closure that no other key holds is held by the key of its finalization. -/
theorem Finalizes.claims
    (finalizes : Finalizes sha256 request idempotencyKey memory result row middle later)
    (unclaimed : Unclaimed sha256 result.closure idempotencyKey memory) :
    later.closureByKey result.closure.core.tenantId result.closure.core.projectId
      (idempotencyKey ++ ":closure") = some row := by
  have ⟨_, grows, _⟩ := appendFacts_holds sha256 _ finalizes.appended
  apply grows.closureByKey
  rcases finalizes.filed.cases with ⟨found, same⟩ | ⟨missing, found, _⟩ | ⟨missing, _, rowEq, same⟩
  · rw [same]
    exact found
  · have ⟨member, scope, digest⟩ := closureByDigest_spec found
    have keyed := unclaimed row member scope digest
    have unfound := List.find?_eq_none.mp missing row member
    exact absurd (decide_eq_true ⟨scope, keyed⟩) unfound
  · rw [same]
    unfold Memory.closureByKey at missing ⊢
    have keyed : row.inScope result.closure.core.tenantId result.closure.core.projectId ∧
        row.idempotencyKey = idempotencyKey ++ ":closure" := by
      rw [rowEq]
      exact ⟨⟨rfl, rfl⟩, rfl⟩
    refine List.find?_append.trans ?_
    rw [List.find?_singleton, if_pos (decide_eq_true keyed)]
    exact congrArg (fun found => Option.or found (some row)) missing

/-- The same finalization again returns the same result and writes nothing. -/
def Repeats (request : FinalizationRequest) (idempotencyKey : String)
    (result : FinalizationResult) (memory : Memory) : Prop :=
  finalize sha256 request idempotencyKey memory = (.ok result, memory)

variable {sha256} in
theorem Finalizes.repeats
    (finalizes : Finalizes sha256 request idempotencyKey memory result row middle later)
    (unclaimed : Unclaimed sha256 result.closure idempotencyKey memory) {final : Memory}
    (grows : later.Grows final) : Repeats sha256 request idempotencyKey result final := by
  have ⟨held, _, _⟩ := appendFacts_holds sha256 _ finalizes.appended
  have filed := finalizes.filed
  apply finalize_of sha256 finalizes.keyed finalizes.closure finalizes.facts
  · exact appendDecisionClosure_again sha256 filed.admissible
      (grows.closureByKey (finalizes.claims unclaimed)) filed.digest filed.bytes
  · exact appendFacts_again sha256 (held.imp fun _ _ holds => holds.later grows)

/-- What two finalizations under one key have in common when both return. -/
structure Agrees (first second : FinalizationResult) : Prop where
  digest : second.closure.digest sha256 = first.closure.digest sha256
  bytes : SecureMemory.canonicalBytes (second.closure.json sha256) =
    SecureMemory.canonicalBytes (first.closure.json sha256)

/-- In a lineage of both, the two store the same text. -/
def SameRecords (first second : FinalizationResult) : Prop :=
  ∀ left ∈ first.facts, ∀ right ∈ second.facts,
    right.fact.lineageId = left.fact.lineageId → right.record.bytes = left.record.bytes

variable {sha256} in
theorem Finalizes.agrees {request other : FinalizationRequest}
    {memory middle later start between final : Memory} {result again : FinalizationResult}
    {row found : ClosureRow}
    (finalizes : Finalizes sha256 request idempotencyKey memory result row middle later)
    (unclaimed : Unclaimed sha256 result.closure idempotencyKey memory)
    (grows : later.Grows start)
    (reuses : Finalizes sha256 other idempotencyKey start again found between final)
    (tenant : again.closure.core.tenantId = result.closure.core.tenantId)
    (project : again.closure.core.projectId = result.closure.core.projectId) :
    Agrees sha256 result again := by
  have held := grows.closureByKey (finalizes.claims unclaimed)
  rw [← tenant, ← project] at held
  have same : found = row := by
    rcases reuses.filed.cases with ⟨keyed, _⟩ | ⟨missing, _⟩ | ⟨missing, _⟩
    · exact Option.some.inj (keyed.symm.trans held)
    · cases missing.symm.trans held
    · cases missing.symm.trans held
  have digest := reuses.filed.digest
  have bytes := reuses.filed.bytes
  rw [same] at digest bytes
  exact ⟨digest.symm.trans finalizes.filed.digest, bytes.symm.trans finalizes.filed.bytes⟩

variable {sha256} in
theorem Finalizes.sameRecords {request other : FinalizationRequest}
    {memory middle later start between final : Memory} {result again : FinalizationResult}
    {row found : ClosureRow}
    (finalizes : Finalizes sha256 request idempotencyKey memory result row middle later)
    (grows : later.Grows start)
    (reuses : Finalizes sha256 other idempotencyKey start again found between final)
    (tenant : again.closure.core.tenantId = result.closure.core.tenantId)
    (project : again.closure.core.projectId = result.closure.core.projectId) :
    SameRecords result again := by
  intro left inLeft right inRight lineage
  obtain ⟨event, _, held, bytes⟩ :=
    Related.partner_of_left (finalizes.held sha256) left inLeft
  obtain ⟨later, _, stored, laterBytes⟩ :=
    Related.partner_of_left (reuses.held sha256) right inRight
  have leftNamed := finalizes.finalized.naming left inLeft
  have rightNamed := reuses.finalized.naming right inRight
  have keys : right.key = left.key := by
    unfold BuiltFact.key
    rw [leftNamed.1, leftNamed.2.1, rightNamed.1, rightNamed.2.1, tenant, project, lineage]
  have kept := (grows.trans reuses.grows).find held
  rw [factKey, keys, lineage, ← factKey, kept] at stored
  rw [← laterBytes, ← bytes, Option.some.inj stored]

/-- Whatever the store holds and whatever is finalized: a call that raises leaves
every table as it was.  A call that returns has stored its closure and, in each of
its lineages that did not hold its key, one new row that is the current fact there;
the digests are those the closure names.  The key then stands for the text of the
closure and of each record, whatever happens in between. -/
theorem finalization_settles (request : FinalizationRequest) (idempotencyKey : String)
    (memory : Memory) :
    (∀ error later, finalize sha256 request idempotencyKey memory = (.error error, later) →
      later = memory) ∧
    (∀ result later, finalize sha256 request idempotencyKey memory = (.ok result, later) →
      Finalized sha256 request idempotencyKey memory result later ∧
      ∀ operations,
        (Unclaimed sha256 result.closure idempotencyKey memory →
          Repeats sha256 request idempotencyKey result (afterAll sha256 later operations)) ∧
        ∀ other again final,
          finalize sha256 other idempotencyKey (afterAll sha256 later operations) =
            (.ok again, final) →
          again.closure.core.tenantId = result.closure.core.tenantId →
          again.closure.core.projectId = result.closure.core.projectId →
          (Unclaimed sha256 result.closure idempotencyKey memory → Agrees sha256 result again) ∧
            SameRecords result again) ∧
    ∀ other : FinalizationRequest, request.facts.Perm other.facts →
      request.toClosureInputs.Permuted other.toClosureInputs →
      buildDecisionClosure sha256 other.toClosureInputs =
        buildDecisionClosure sha256 request.toClosureInputs := by
  refine ⟨?_, ?_, ?_⟩
  · intro error later raised
    exact finalize_atomic sha256 request idempotencyKey memory error later raised
  · intro result later returned
    obtain ⟨row, middle, finalizes⟩ := finalize_eq_ok sha256 returned
    refine ⟨finalizes.finalized, fun operations => ⟨?_, ?_⟩⟩
    · intro unclaimed
      exact finalizes.repeats unclaimed (afterAll_grows sha256 operations later)
    · intro other again final reused tenant project
      obtain ⟨found, between, reuses⟩ := finalize_eq_ok sha256 reused
      have grows := afterAll_grows sha256 operations later
      exact ⟨fun unclaimed => finalizes.agrees unclaimed grows reuses tenant project,
        finalizes.sameRecords grows reuses tenant project⟩
  · intro other _ permuted
    exact (buildDecisionClosure_permuted sha256 permuted).symm

end Law

namespace Sample

def repeated (digit : Char) : String := String.ofList (List.replicate 64 digit)

theorem repeated_isDigest {digit : Char} (decimal : digit ∈ ['1', '2', '3', '4', '5', '6', '7']) :
    DigestText (repeated digit) := by
  have chars : (repeated digit).toList = List.replicate 64 digit := String.toList_ofList
  have lower : (['1', '2', '3', '4', '5', '6', '7'].all fun c =>
      decide (('0' ≤ c ∧ c ≤ '9') ∨ ('a' ≤ c ∧ c ≤ 'f'))) = true := by
    decide +kernel
  unfold DigestText Gateway.isSha256
  rw [chars]
  refine decide_eq_true ⟨List.length_replicate, List.all_eq_true.mpr ?_⟩
  intro c member
  rw [List.eq_of_mem_replicate member]
  exact List.all_eq_true.mp lower digit decimal

theorem quoted_repeated {digit : Char} (decimal : digit ∈ ['1', '2', '3', '4', '5', '6', '7']) :
    quoted (repeated digit) = '"' :: (List.replicate 64 digit ++ ['"']) := by
  have plain : (['1', '2', '3', '4', '5', '6', '7'].all fun c =>
      decide (escapeChar c = [c])) = true := by
    decide +kernel
  have chars : (repeated digit).toList = List.replicate 64 digit := String.toList_ofList
  have single := of_decide_eq_true (List.all_eq_true.mp plain digit decimal)
  rw [quoted, chars, List.flatMap_replicate, single, List.flatten_replicate_singleton]

/-- An admitted receipt of the task, under a digest. -/
def admittedReceipt (digit : Char) : AdmissionReceipt :=
  ⟨.admitted, "task-001", 1, some (repeated '1'), repeated digit, ⟨fun _ => rfl, fun _ => rfl⟩⟩

def evaluatorReceipt : EvaluatorSourceReceipt :=
  { issuerId := "sealed-evaluator"
    keyId := "eval-key-1"
    campaignId := "campaign-1"
    taskId := "task-001"
    generation := 1
    sequence := 1
    idempotencyKey := "eval-1"
    envelopeSha256 := some (repeated '3')
    admission := admittedReceipt '2'
    receiptSha256 := repeated '4' }

/-- A receipt that closes a decision of the task, with the digest of its frame. -/
structure Usable (source : EvaluatorSourceReceipt) : Prop where
  admitted : source.admission.status = .admitted
  digest : source.envelopeSha256 = some (source.envelopeSha256.getD "")
  isDigest : DigestText (source.envelopeSha256.getD "")
  receipt : DigestText source.receiptSha256
  task : source.taskId = "task-001"
  generation : source.generation = 1

theorem evaluatorReceipt_usable : Usable evaluatorReceipt :=
  ⟨rfl, rfl, repeated_isDigest (by decide), repeated_isDigest (by decide), rfl, rfl⟩

def verifiedCore (component : String) : SubmittedCore :=
  { factId := "fact-001"
    content := ⟨"procedural", "verified fact", by decide, by decide⟩
    statementUtf8Base64 := "dmVyaWZpZWQgZmFjdA=="
    outcome := .keep
    applicabilityScope := ⟨some "tenant-a", "project-a", component, some "v1", none⟩
    sourceRefs := [⟨"evidence", "evidence-001"⟩]
    supportDigests := [repeated '5'] }

section Request

variable (sha256 : Bytes → Digest)

/-- One verified fact for a lineage, with one admission receipt. -/
def finalizing (source : EvaluatorSourceReceipt) (component lineageId : String)
    (receipt : Char) : FinalizationRequest :=
  { terminalDecision :=
      { tenantId := "tenant-a"
        projectId := "project-a"
        taskId := "task-001"
        generation := 1
        taskVersion := 4
        decisionId := "decision-001"
        outcome := .keep
        terminal := true
        authoritySource := .control
        decisionDigest := repeated '6' }
    evaluatorResult :=
      { evaluatorId := "sealed-evaluator"
        sourceReceipt := source
        evaluatorResultDigest := source.envelopeSha256.getD ""
        signatureVerified := true
        verifiedFactDigests := [(verifiedCore component).digest sha256] }
    evidence := [⟨"evidence-001", repeated '5'⟩]
    admissionReceipts := [admittedReceipt receipt]
    policyVersion := "memory-policy-v1"
    ruleVersion := "memory-rule-v1"
    memoryWatermark := 7
    facts := [⟨"revision-001", lineageId, 1, verifiedCore component, none⟩] }

theorem finalizing_valid {source : EvaluatorSourceReceipt} (usable : Usable source)
    (component lineageId : String) {receipt : Char}
    (digit : receipt ∈ ['1', '2', '3', '4', '5', '6', '7']) :
    (closureCore sha256
      (finalizing sha256 source component lineageId receipt).toClosureInputs).Valid := by
  have evidence : (finalizing sha256 source component lineageId receipt).evidence.mergeSort
      EvidenceBinding.precedes = [⟨"evidence-001", repeated '5'⟩] := List.mergeSort_singleton _
  have digests : sortedTexts [repeated '5'] = [repeated '5'] := List.mergeSort_singleton _
  have receipts : sortedTexts ((finalizing sha256 source component lineageId
      receipt).admissionReceipts.map AdmissionReceipt.receiptSha256) = [repeated receipt] :=
    List.mergeSort_singleton _
  have bounded : ∀ text ∈ ["tenant-a", "project-a", "task-001", "decision-001",
      "sealed-evaluator"], Bounded 200 text := by
    decide +kernel
  have versions : ∀ text ∈ ["memory-policy-v1", "memory-rule-v1"], Bounded 120 text := by
    decide +kernel
  have isDigest : ∀ digit ∈ ['1', '2', '3', '4', '5', '6', '7'], DigestText (repeated digit) :=
    fun digit => repeated_isDigest
  have hashed : ∀ digest : Digest, DigestText (digest.labelled "") := Gateway.isSha256_digest
  have core : closureCore sha256
        (finalizing sha256 source component lineageId receipt).toClosureInputs =
      { closureCore sha256
          (finalizing sha256 source component lineageId receipt).toClosureInputs with
        evidenceIds := ["evidence-001"]
        evidenceDigests := [repeated '5']
        admissionReceiptDigests := [repeated receipt] } := by
    unfold closureCore
    simp only [evidence, receipts, List.map_cons, List.map_nil, digests]
  rw [core]
  constructor
  · exact List.forall_mem_cons.mpr ⟨closureId_bounded sha256 _, bounded⟩
  · exact versions
  · exact ⟨le_refl 1, Nat.le_add_left 1 3⟩
  · simp only [List.forall_mem_append, List.forall_mem_cons, List.not_mem_nil, false_implies,
      implies_true, and_true]
    exact ⟨⟨⟨⟨isDigest '6' (by decide), usable.receipt, usable.isDigest,
      hashed _⟩, List.forall_mem_singleton.mpr (hashed _)⟩, isDigest '5' (by decide)⟩,
      isDigest receipt digit⟩
  · exact ⟨List.cons_ne_nil _ _, List.cons_ne_nil _ _, List.cons_ne_nil _ _, List.cons_ne_nil _ _⟩
  · exact List.pairwise_singleton _ _
  · exact List.pairwise_singleton _ _
  · exact List.pairwise_singleton _ _
  · exact List.pairwise_singleton _ _
  · rfl

theorem finalizing_closes {source : EvaluatorSourceReceipt} (usable : Usable source)
    (component lineageId : String) {receipt : Char}
    (digit : receipt ∈ ['1', '2', '3', '4', '5', '6', '7']) :
    buildDecisionClosure sha256
        (finalizing sha256 source component lineageId receipt).toClosureInputs =
      .ok ⟨_, finalizing_valid sha256 usable component lineageId digit⟩ := by
  refine (buildDecisionClosure_eq_ok sha256).mpr
    ⟨?_, finalizing_valid sha256 usable component lineageId digit, rfl⟩
  constructor
  · rfl
  · rfl
  · rfl
  · exact usable.admitted
  · exact usable.digest
  · exact usable.task
  · exact usable.generation
  · exact List.cons_ne_nil _ _
  · exact List.forall_mem_singleton.mpr rfl
  · exact List.forall_mem_singleton.mpr ⟨rfl, rfl⟩
  · exact List.cons_ne_nil _ _
  · exact List.nodup_singleton _
  · exact List.nodup_singleton _

/-- The fact of the sample is built, as the first revision of its lineage. -/
theorem finalizing_builds (source : EvaluatorSourceReceipt) {component lineageId : String}
    (known : isStableId component = true)
    (stable : isStableId lineageId = true) (closure : DecisionClosure) {receipt : Char}
    (core : closure.core =
      closureCore sha256 (finalizing sha256 source component lineageId receipt).toClosureInputs) :
    ∃ built, buildFacts sha256 (finalizing sha256 source component lineageId receipt) closure =
        .ok [built] ∧
      built.fact.revision = 1 ∧ built.key = ⟨"tenant-a", "project-a", lineageId⟩ := by
  have evidence : (finalizing sha256 source component lineageId receipt).evidence.mergeSort
      EvidenceBinding.precedes = [⟨"evidence-001", repeated '5'⟩] := List.mergeSort_singleton _
  have inputs : (finalizing sha256 source component lineageId receipt).inputs =
      [⟨"revision-001", lineageId, 1, verifiedCore component, none⟩] := List.mergeSort_singleton _
  have digests : sortedTexts [(verifiedCore component).digest sha256] =
      [(verifiedCore component).digest sha256] := List.mergeSort_singleton _
  have ids : closure.core.evidenceIds = ["evidence-001"] := by
    rw [core]
    unfold closureCore
    rw [evidence]
    rfl
  have placed : ∃ scope, memoryScope closure.core.tenantId closure.core.projectId component "v1" =
      .ok scope ∧ scope.tenantId = "tenant-a" ∧ scope.projectId = "project-a" := by
    rw [core]
    have valid : isStableId "tenant-a" = true ∧ isStableId "project-a" = true ∧
        Bounded 120 "v1" := by
      decide +kernel
    exact ⟨_, dif_pos ⟨valid.1, valid.2.1, known, valid.2.2⟩, rfl, rfl⟩
  obtain ⟨scope, formed, tenant, project⟩ := placed
  have proven : ∃ provenance, factProvenance sha256 closure scope = .ok provenance := by
    have valid : isStableId closure.core.taskId = true ∧
        isStableId closure.core.decisionId = true ∧ isStableId closure.core.evaluatorId = true ∧
        ∀ evidenceId ∈ closure.core.evidenceIds, isStableId evidenceId = true := by
      have literal : isStableId "task-001" = true ∧ isStableId "decision-001" = true ∧
          isStableId "sealed-evaluator" = true ∧ isStableId "evidence-001" = true := by
        decide +kernel
      rw [ids, List.forall_mem_singleton, core]
      exact literal
    exact ⟨_, dif_pos valid⟩
  obtain ⟨provenance, proven⟩ := proven
  have made : ∃ built, trustedFact sha256
      ⟨"revision-001", lineageId, 1, verifiedCore component, none⟩ scope provenance = .ok built ∧
      built.fact.revision = 1 ∧ built.key = ⟨scope.tenantId, scope.projectId, lineageId⟩ := by
    have revisionId : isStableId "revision-001" = true := by decide +kernel
    exact ⟨_, dif_pos ⟨le_refl 1, stable, revisionId⟩, rfl, rfl⟩
  obtain ⟨built, made, revision, key⟩ := made
  refine ⟨built, ?_, revision, by rw [key, tenant, project]⟩
  have named : closure.core.verifiedFactDigests = [(verifiedCore component).digest sha256] := by
    rw [core]
    rfl
  have outcome : closure.core.decisionOutcome = .keep := by
    rw [core]
    rfl
  have within : closure.core.tenantId = "tenant-a" ∧ closure.core.projectId = "project-a" := by
    rw [core]
    exact ⟨rfl, rfl⟩
  have one : buildFact sha256 closure
      (finalizing sha256 source component lineageId receipt).evidence
      ⟨"revision-001", lineageId, 1, verifiedCore component, none⟩ = .ok built := by
    unfold buildFact
    rw [within.1, within.2] at formed ⊢
    refine (raiseIf_bind_eq_ok _ _ _ _).mpr ⟨not_or.mpr ⟨not_not.mpr rfl, not_not.mpr rfl⟩, ?_⟩
    refine (bind_eq_ok _ _ _).mpr ⟨"v1", rfl, ?_⟩
    rw [outcome]
    refine (raiseIf_bind_eq_ok _ _ _ _).mpr ⟨not_not.mpr rfl, ?_⟩
    refine (raiseIf_bind_eq_ok _ _ _ _).mpr ⟨?_, (raiseIf_bind_eq_ok _ _ _ _).mpr ⟨?_, ?_⟩⟩
    · rintro ⟨source, member, absent⟩
      rw [List.mem_singleton.mp member] at absent
      exact absent (List.mem_singleton.mpr rfl)
    · rintro ⟨digest, member, absent⟩
      rw [List.mem_singleton.mp member] at absent
      exact absent (List.mem_singleton.mpr rfl)
    · refine (bind_eq_ok _ _ _).mpr ⟨scope, formed, ?_⟩
      exact (bind_eq_ok _ _ _).mpr ⟨provenance, proven, made⟩
  unfold buildFacts
  rw [inputs, List.map_singleton, digests, named]
  refine (raiseIf_bind_of_not (not_not.mpr rfl) _ _).trans ?_
  refine (raiseIf_bind_of_not (not_not.mpr (List.nodup_singleton _)) _ _).trans ?_
  rw [List.mapM_cons, one]
  rfl

end Request

/-- A digest that reads one byte: the lineage of a row, or the receipts of a closure. -/
def marked (bytes : Bytes) : Digest := BitVec.ofNat 256 (bytes.getD 86 0).toNat

theorem marked_of_front {front : List Char} (long : 86 < (utf8Encode front).length)
    (rest : List Char) : marked (utf8Encode (front ++ rest)) = marked (utf8Encode front) := by
  unfold marked
  rw [Gateway.utf8Encode_append, List.getD_eq_getElem?_getD, List.getElem?_append_left long,
    ← List.getD_eq_getElem?_getD]

private theorem event_append (front first content second value later : List Char) :
    front ++ ('{' :: (first ++ ':' :: (content ++ ',' :: (second ++ ':' :: (value ++ later))))) =
      (front ++ ('{' :: (first ++ ':' :: (content ++ ',' :: (second ++ ':' :: value))))) ++
        later := by
  simp

private theorem list_append (front key value more later : List Char) :
    front ++ ('{' :: (key ++ ':' :: ('[' :: ('"' :: ((value ++ more) ++ ['"']) ++ [']']) ++
        later))) =
      (front ++ ('{' :: (key ++ ':' :: '[' :: '"' :: value))) ++
        (more ++ '"' :: ']' :: later) := by
  simp

/-- The text of an event up to its lineage. -/
def eventFront (lineage : String) : List Char :=
  ("egoagentos:" ++ "trusted-memory-history-event" ++ ":v1\x00").toList ++
    ('{' :: (quoted "event_type" ++ ':' :: (quoted "trusted_fact" ++
      ',' :: (quoted "lineage_id" ++ ':' :: quoted lineage))))

theorem eventHash_marked {lineage : String} (long : 86 < (utf8Encode (eventFront lineage)).length)
    (recordSha256 : String) :
    trustedMemoryEventHash marked ⟨"tenant-a", "project-a", lineage⟩ 1 "trusted_fact"
        recordSha256 zeroHash =
      (marked (utf8Encode (eventFront lineage))).labelled "" := by
  have typeAbove : ∀ key ∈ ["tenant_id", "project_id", "lineage_id", "sequence"],
      ¬ key ≤ "event_type" := by
    decide +kernel
  have typeBelow : ∀ key ∈ ["record_sha256", "previous_hash"], "event_type" ≤ key := by
    decide +kernel
  have lineageAbove : ∀ key ∈ ["tenant_id", "project_id"], ¬ key ≤ "lineage_id" := by
    decide +kernel
  have lineageBelow : ∀ key ∈ ["sequence", "record_sha256", "previous_hash"],
      "lineage_id" ≤ key := by
    decide +kernel
  have typeFirst := @sortMembers_least (Json Empty) ("event_type", .str "trusted_fact")
    [("tenant_id", .str "tenant-a"), ("project_id", .str "project-a"),
      ("lineage_id", .str lineage), ("sequence", .int 1)]
    [("record_sha256", .str recordSha256), ("previous_hash", .str zeroHash)]
    (fun entry member => typeAbove entry.1 (List.mem_map_of_mem (f := Prod.fst) member))
    (fun entry member => typeBelow entry.1 (List.mem_map_of_mem (f := Prod.fst) member))
  have lineageFirst := @sortMembers_least (Json Empty) ("lineage_id", .str lineage)
    [("tenant_id", .str "tenant-a"), ("project_id", .str "project-a")]
    [("sequence", .int 1), ("record_sha256", .str recordSha256), ("previous_hash", .str zeroHash)]
    (fun entry member => lineageAbove entry.1 (List.mem_map_of_mem (f := Prod.fst) member))
    (fun entry member => lineageBelow entry.1 (List.mem_map_of_mem (f := Prod.fst) member))
  have sorted := typeFirst.trans (congrArg (List.cons _) lineageFirst)
  have split : ∃ rest, ("egoagentos:" ++ "trusted-memory-history-event" ++ ":v1\x00").toList ++
      (Json.dict (φ := Empty) (sortMembers ([("tenant_id", .str "tenant-a"),
        ("project_id", .str "project-a"), ("lineage_id", .str lineage), ("sequence", .int 1)] ++
          ("event_type", .str "trusted_fact") ::
            [("record_sha256", .str recordSha256), ("previous_hash", .str zeroHash)]))).text =
      eventFront lineage ++ rest := by
    rw [sorted]
    generalize sortMembers _ = later
    refine ⟨jsonTextMembers later, ?_⟩
    rw [Json.text, Json.text, jsonTextMembers, Json.text]
    exact event_append _ _ _ _ _ _
  obtain ⟨rest, split⟩ := split
  have read := marked_of_front long rest
  rw [← split] at read
  exact congrArg (Digest.labelled "") read

/-- The four lineages of the sample, with four event digests. -/
theorem eventFronts_long : ∀ lineage ∈ ["1", "2", "3", "4"],
    86 < (utf8Encode (eventFront lineage)).length := by
  decide +kernel

theorem eventFronts_distinct : ∀ left ∈ ["1", "2", "3", "4"], ∀ right ∈ ["1", "2", "3", "4"],
    left ≠ right →
      marked (utf8Encode (eventFront left)) ≠ marked (utf8Encode (eventFront right)) := by
  decide +kernel

/-- The text of a closure up to the first digits of its receipts. -/
def closureFront (receipt : Char) : List Char :=
  ("egoagentos:" ++ "trusted-memory-decision-closure" ++ ":v1\x00").toList ++
    ('{' :: (quoted "admission_receipt_digests" ++ ':' :: '[' :: '"' ::
      List.replicate 12 receipt))

theorem closureFronts_long : 86 < (utf8Encode (closureFront '2')).length ∧
    86 < (utf8Encode (closureFront '7')).length := by
  decide +kernel

theorem closureFronts_distinct :
    marked (utf8Encode (closureFront '2')) ≠ marked (utf8Encode (closureFront '7')) := by
  decide +kernel

def keyOf (lineage : String) : Key := ⟨"tenant-a", "project-a", lineage⟩

/-- The closure of the sample. -/
def closed {source : EvaluatorSourceReceipt} (usable : Usable source) (component : String)
    {receipt : Char} (digit : receipt ∈ ['1', '2', '3', '4', '5', '6', '7']) : DecisionClosure :=
  ⟨_, finalizing_valid marked usable component "1" digit⟩

theorem closed_digest {source : EvaluatorSourceReceipt} (usable : Usable source)
    (component : String) {receipt : Char}
    (digit : receipt ∈ ['1', '2', '3', '4', '5', '6', '7'])
    (long : 86 < (utf8Encode (closureFront receipt)).length) :
    (closed usable component digit).digest marked =
      (marked (utf8Encode (closureFront receipt))).labelled "" := by
  have above : ∀ key ∈ ["schema_version", "closure_id", "tenant_id", "project_id", "task_id",
      "generation", "task_version", "decision_id", "decision_digest", "decision_outcome",
      "evaluator_id", "evaluator_source_receipt_digest", "evaluator_result_digest",
      "verified_fact_digests", "evidence_ids", "evidence_digests", "evidence_bindings_digest"],
      ¬ key ≤ "admission_receipt_digests" := by
    decide +kernel
  have below : ∀ key ∈ ["policy_version", "rule_version", "memory_watermark"],
      "admission_receipt_digests" ≤ key := by
    decide +kernel
  have receipts : (closed usable component digit).core.admissionReceiptDigests =
      [repeated receipt] :=
    List.mergeSort_singleton _
  have split : ∃ rest, ("egoagentos:" ++ "trusted-memory-decision-closure" ++ ":v1\x00").toList ++
      (closed usable component digit).core.json.sorted.text = closureFront receipt ++ rest := by
    generalize (closed usable component digit).core = core at receipts
    have first := @sortMembers_least (Json Empty)
      ("admission_receipt_digests", (texts core.admissionReceiptDigests).sorted)
      (sortedMembers (core.members.take 17)) (sortedMembers (core.members.drop 18))
      (fun entry member => above entry.1 (List.mem_map_of_mem (f := Prod.fst) member))
      (fun entry member => below entry.1 (List.mem_map_of_mem (f := Prod.fst) member))
    have sorted : core.json.sorted = _ := congrArg Json.dict first
    rw [sorted, receipts]
    generalize sortMembers _ = later
    refine ⟨List.replicate 52 receipt ++ '"' :: ']' :: jsonTextMembers later, ?_⟩
    have listed : (texts [repeated receipt]).sorted.text =
        '[' :: (quoted (repeated receipt) ++ [']']) := rfl
    have digits : List.replicate 64 receipt =
        List.replicate 12 receipt ++ List.replicate 52 receipt :=
      (List.replicate_append_replicate (n := 12) (m := 52)).symm
    rw [Json.text, listed, quoted_repeated digit, digits]
    exact list_append _ _ _ _ _
  obtain ⟨rest, split⟩ := split
  have read := marked_of_front long rest
  rw [← split] at read
  exact congrArg (Digest.labelled "") read

/-- The history is that of some lineages, each with its event digest. -/
structure Only (lineages : List String) (tables : Tables) : Prop where
  events : ∀ row ∈ tables.history, ∃ lineage ∈ lineages, row.key = keyOf lineage ∧
    row.eventHash = (marked (utf8Encode (eventFront lineage))).labelled ""
  others : ∀ lineage ∉ lineages, tables.current.get? (keyOf lineage) = none ∧
    tables.streams.get? (keyOf lineage) = none

theorem Only.finalizes {lineages : List String} {memory middle : Memory}
    (only : Only lineages middle.tables) (lineage : String) (new : lineage ∉ lineages)
    (among : ∀ name ∈ lineage :: lineages, name ∈ ["1", "2", "3", "4"])
    (idempotencyKey : String) (keyed : idempotencyKey ≠ "") {source : EvaluatorSourceReceipt}
    (usable : Usable source) {component : String} (known : isStableId component = true)
    {receipt : Char} (digit : receipt ∈ ['1', '2', '3', '4', '5', '6', '7']) {row : ClosureRow}
    (filed : appendDecisionClosure marked
      (closureCall marked (closed usable component digit) idempotencyKey) memory =
        (.ok row, middle)) :
    ∃ result later, finalize marked (finalizing marked source component lineage receipt)
        idempotencyKey memory = (.ok result, later) ∧
      result.closure = closed usable component digit ∧ Only (lineage :: lineages) later.tables ∧
      later.decisionClosures = middle.decisionClosures ∧
      later.tables.history.length = middle.tables.history.length + 1 := by
  have stable : isStableId lineage = true := by
    have all : ∀ name ∈ ["1", "2", "3", "4"], isStableId name = true := by decide +kernel
    exact all lineage (among lineage List.mem_cons_self)
  have four := among lineage List.mem_cons_self
  obtain ⟨built, facts, revision, key⟩ :=
    finalizing_builds marked source known stable (closed usable component digit) rfl
  obtain ⟨current, stream⟩ := only.others lineage new
  have hash : ((factCall idempotencyKey none built).row marked
      (middle.tables.streams.get? built.key)).eventHash =
        (marked (utf8Encode (eventFront lineage))).labelled "" := by
    rw [key]
    rw [show middle.tables.streams.get? ⟨"tenant-a", "project-a", lineage⟩ = none from stream]
    have hashed := eventHash_marked (eventFronts_long lineage four)
      ((marked built.record.bytes).labelled "")
    unfold Append.row
    simp only [factCall, key]
    exact hashed
  have apart : ∀ name ∈ lineages, keyOf name ≠ built.key ∧
      (marked (utf8Encode (eventFront name))).labelled "" ≠
        (marked (utf8Encode (eventFront lineage))).labelled "" := by
    intro name member
    have different : name ≠ lineage := fun same => new (same ▸ member)
    rw [key]
    refine ⟨fun same => different (congrArg Key.lineageId same), fun same => ?_⟩
    exact eventFronts_distinct name (among name (List.mem_cons_of_mem _ member)) lineage four
      different (Digest.labelled_injective "" same)
  obtain ⟨event, later, finalized, closures, inserted⟩ := finalize_first marked keyed
    (finalizing_closes marked usable component lineage digit) rfl facts filed
    (List.find?_eq_none.mpr fun other member holds => by
      obtain ⟨name, inNames, otherKey, _⟩ := only.events other member
      exact (apart name inNames).1 (otherKey.symm.trans (of_decide_eq_true holds).1))
    (by rw [key]; exact current) rfl revision
    (fun member => by
      obtain ⟨other, inHistory, otherHash⟩ := List.mem_map.mp member
      obtain ⟨name, inNames, _, itsHash⟩ := only.events other inHistory
      exact (apart name inNames).2 (itsHash.symm.trans (otherHash.trans hash)))
  refine ⟨_, later, finalized, rfl, ⟨?_, ?_⟩, closures, ?_⟩
  · intro other member
    rw [inserted.history, List.mem_append, List.mem_singleton] at member
    rcases member with old | rfl
    · obtain ⟨name, inNames, holds⟩ := only.events other old
      exact ⟨name, List.mem_cons_of_mem _ inNames, holds⟩
    · refine ⟨lineage, List.mem_cons_self, inserted.key.trans key, ?_⟩
      rw [inserted.recorded]
      exact hash
  · intro name absent
    obtain ⟨different, absentBefore⟩ := not_or.mp (fun either => absent (List.mem_cons.mpr either))
    have otherKey : keyOf name ≠ (factCall idempotencyKey none built).key := by
      intro same
      exact different (congrArg Key.lineageId (same.trans key))
    obtain ⟨noCurrent, noStream⟩ := only.others name absentBefore
    rw [inserted.currentOther _ otherKey, inserted.streams, Dict.get?_set_ne _ _ otherKey]
    exact ⟨noCurrent, noStream⟩
  · rw [inserted.history, List.length_append, List.length_singleton]

theorem only_empty : Only [] Tables.empty :=
  ⟨fun _ member => absurd member List.not_mem_nil, fun _ _ => ⟨rfl, rfl⟩⟩

abbrev sampleClosure {receipt : Char}
    (digit : receipt ∈ ['1', '2', '3', '4', '5', '6', '7']) : DecisionClosure :=
  closed evaluatorReceipt_usable "apps.api" digit

abbrev sampleRequest (lineageId : String) (receipt : Char) : FinalizationRequest :=
  finalizing marked evaluatorReceipt "apps.api" lineageId receipt

/-- The row of the closure with receipts of a digit, under a key. -/
def closureRow {receipt : Char} (digit : receipt ∈ ['1', '2', '3', '4', '5', '6', '7'])
    (idempotencyKey : String) : ClosureRow :=
  (closureCall marked (sampleClosure digit) idempotencyKey).row marked

theorem closed_distinct {left right : EvaluatorSourceReceipt} (usable : Usable left)
    (other : Usable right) (component otherComponent : String)
    (two : '2' ∈ ['1', '2', '3', '4', '5', '6', '7'])
    (seven : '7' ∈ ['1', '2', '3', '4', '5', '6', '7']) :
    (closed usable component two).digest marked ≠
      (closed other otherComponent seven).digest marked := by
  rw [closed_digest usable component two closureFronts_long.1,
    closed_digest other otherComponent seven closureFronts_long.2]
  exact fun same => closureFronts_distinct (Digest.labelled_injective "" same)

/-- One closure, finalized into four lineages.  The key "k" is used with two requests
and both write.  The key "q" finds the closure under "k", is then taken by another
closure, and the first request under "q" raises when it is repeated. -/
theorem keys_stand_for_no_request :
    ∃ first second third fourth error m1 m2 m3 m4,
      finalize marked (sampleRequest "1" '2') "k" Memory.empty =
        (.ok first, m1) ∧
      finalize marked (sampleRequest "2" '2') "k" m1 = (.ok second, m2) ∧
      m2.tables.history.length = m1.tables.history.length + 1 ∧
      finalize marked (sampleRequest "3" '2') "q" m2 = (.ok third, m3) ∧
      finalize marked (sampleRequest "4" '7') "q" m3 = (.ok fourth, m4) ∧
      m4.tables.history.length = m3.tables.history.length + 1 ∧
      finalize marked (sampleRequest "3" '2') "q" m4 = (.error error, m4) := by
  have two : '2' ∈ ['1', '2', '3', '4', '5', '6', '7'] := by decide
  have seven : '7' ∈ ['1', '2', '3', '4', '5', '6', '7'] := by decide
  have admissible := closureCall_admissible marked
  have known : isStableId "apps.api" = true := by decide +kernel
  have filed1 : appendDecisionClosure marked (closureCall marked (sampleClosure two) "k")
      Memory.empty = _ :=
    appendDecisionClosure_new marked (admissible (sampleClosure two) "k") rfl rfl
  obtain ⟨first, m1, ran1, _, only1, closures1, _⟩ := Only.finalizes only_empty "1"
    (by decide) (by decide) "k" (by decide) evaluatorReceipt_usable known two filed1
  have rows1 : m1.decisionClosures = [closureRow two "k"] := closures1
  have keyed1 : m1.closureByKey "tenant-a" "project-a" ("k" ++ ":closure") =
      some (closureRow two "k") := by
    unfold Memory.closureByKey
    rw [rows1]
    exact List.find?_cons_of_pos (decide_eq_true ⟨⟨rfl, rfl⟩, rfl⟩)
  obtain ⟨second, m2, ran2, _, only2, closures2, grown2⟩ := only1.finalizes "2"
    (by decide) (by decide) "k" (by decide) evaluatorReceipt_usable known two
    (appendDecisionClosure_again marked (admissible (sampleClosure two) "k") keyed1 rfl rfl)
  have rows2 : m2.decisionClosures = [closureRow two "k"] := closures2.trans rows1
  have unkeyed2 : m2.closureByKey "tenant-a" "project-a" ("q" ++ ":closure") = none := by
    unfold Memory.closureByKey
    rw [rows2]
    apply List.find?_eq_none.mpr
    intro row member holds
    rw [List.mem_singleton.mp member] at holds
    have same : "k" ++ ":closure" = "q" ++ ":closure" := (of_decide_eq_true holds).2
    exact absurd same (by decide)
  have found2 : m2.closureByDigest "tenant-a" "project-a" ((sampleClosure two).digest marked) =
      some (closureRow two "k") := by
    unfold Memory.closureByDigest
    rw [rows2]
    exact List.find?_cons_of_pos (decide_eq_true ⟨⟨rfl, rfl⟩, rfl⟩)
  obtain ⟨third, m3, ran3, _, only3, closures3, _⟩ := only2.finalizes "3"
    (by decide) (by decide) "q" (by decide) evaluatorReceipt_usable known two
    (appendDecisionClosure_found marked (admissible (sampleClosure two) "q") unkeyed2 found2 rfl)
  have rows3 : m3.decisionClosures = [closureRow two "k"] := closures3.trans rows2
  have unkeyed3 : m3.closureByKey "tenant-a" "project-a" ("q" ++ ":closure") = none := by
    unfold Memory.closureByKey at unkeyed2 ⊢
    rw [closures3]
    exact unkeyed2
  have missing3 : m3.closureByDigest "tenant-a" "project-a" ((sampleClosure seven).digest marked) =
      none := by
    unfold Memory.closureByDigest
    rw [rows3]
    apply List.find?_eq_none.mpr
    intro row member holds
    rw [List.mem_singleton.mp member] at holds
    exact closed_distinct _ _ _ _ two seven (of_decide_eq_true holds).2
  have placed3 : Only ["3", "2", "1"] ({ m3 with
      decisionClosures := m3.decisionClosures ++ [closureRow seven "q"] } : Memory).tables :=
    only3
  obtain ⟨fourth, m4, ran4, _, only4, closures4, grown4⟩ := placed3.finalizes "4"
    (by decide) (by decide) "q" (by decide) evaluatorReceipt_usable known seven
    (appendDecisionClosure_new marked (admissible (sampleClosure seven) "q") unkeyed3 missing3)
  have rows4 : m4.decisionClosures = [closureRow two "k", closureRow seven "q"] := by
    rw [closures4]
    exact congrArg (· ++ [closureRow seven "q"]) rows3
  have keyed4 : m4.closureByKey "tenant-a" "project-a" ("q" ++ ":closure") =
      some (closureRow seven "q") := by
    unfold Memory.closureByKey
    rw [rows4, List.find?_cons_of_neg]
    · exact List.find?_cons_of_pos (decide_eq_true ⟨⟨rfl, rfl⟩, rfl⟩)
    · intro holds
      have same : "k" ++ ":closure" = "q" ++ ":closure" := (of_decide_eq_true holds).2
      exact absurd same (by decide)
  have refused : ∃ error, finalize marked (sampleRequest "3" '2') "q" m4 =
      (.error error, m4) := by
    rcases outcome : finalize marked (sampleRequest "3" '2') "q" m4 with
      ⟨error | result, later⟩
    · have same : later = m4 := finalize_atomic marked _ "q" m4 error later outcome
      rw [same]
      exact ⟨error, rfl⟩
    · obtain ⟨row, middle, finalizes⟩ := finalize_eq_ok marked outcome
      have closure : result.closure = sampleClosure two := by
        have again := finalizes.closure.symm.trans
          (finalizing_closes marked evaluatorReceipt_usable "apps.api" "3" two)
        exact Except.ok.inj again
      have filed := finalizes.filed
      rw [closure] at filed
      rcases filed.cases with ⟨found, _⟩ | ⟨missing, _⟩ | ⟨missing, _⟩
      · have digest := filed.digest
        rw [Option.some.inj (found.symm.trans keyed4)] at digest
        exact absurd digest.symm (closed_distinct _ _ _ _ two seven)
      · cases missing.symm.trans keyed4
      · cases missing.symm.trans keyed4
  obtain ⟨error, ran5⟩ := refused
  exact ⟨first, second, third, fourth, error, m1, m2, m3, m4, ran1, ran2, grown2, ran3, ran4,
    grown4, ran5⟩

end Sample

end EgoAgent.TrustedMemory
